import LatencyCurve.Journal.Session

/-!
# Fields by name

Of a map only what is found under its keys counts: two maps with their keys in order are the same if
the same is found in them (`Json.Ascending.ext`). This module says what is found after a value has
been set, in the map of some members, and in a complete entry: its own values come first, then those
of the session; only the id of the session is found whatever the entry says
(`Session.completeFields`).
-/

namespace LatencyCurve

namespace Json

theorem lookup_cons (key k : String) (v : Json) (rest : Fields) :
    ((k, v) :: rest).lookup key = if key = k then some v else rest.lookup key := by
  rw [List.lookup_cons]
  by_cases h : key = k
  · rw [if_pos h, beq_iff_eq.2 h]
  · rw [if_neg h, beq_eq_false_iff_ne.2 h]

variable (key key' : String) (value : Json)

/-- A value that has been set is found under its key, and nothing else changes. -/
theorem lookup_insertField (fields : Fields) :
    (insertField key value fields).lookup key' =
      if key' = key then some value else fields.lookup key' := by
  induction fields with
  | nil => exact lookup_cons key' key value []
  | cons member rest ih =>
    obtain ⟨k, v⟩ := member
    rw [insertField, lookup_cons]
    by_cases hk : key = k
    · subst hk
      rw [if_pos rfl, lookup_cons]
      split <;> rfl
    · rw [if_neg hk]
      split
      · rw [lookup_cons, lookup_cons]
      · rw [lookup_cons, ih]
        by_cases hk' : key' = k
        · rw [if_pos hk', if_pos hk', if_neg (hk' ▸ Ne.symm hk)]
        · rw [if_neg hk', if_neg hk']

/-- A value that is set if there is none is found if there was none. -/
theorem lookup_insertMissing (fields : Fields) :
    (insertMissing key value fields).lookup key' =
      (fields.lookup key' <|> if key' = key then some value else none) := by
  rw [insertMissing]
  by_cases h : key' = key
  · subst h
    cases hfound : fields.lookup key' <;> simp [lookup_insertField, hfound]
  · cases fields.lookup key <;> simp [lookup_insertField, h]

/-- Members that are set if there are none. -/
theorem lookup_foldl_insertMissing (members fields : Fields) :
    (members.foldl (fun acc m ↦ insertMissing m.1 m.2 acc) fields).lookup key =
      (fields.lookup key <|> members.lookup key) := by
  induction members generalizing fields with
  | nil => simp
  | cons member rest ih =>
    obtain ⟨k, v⟩ := member
    rw [List.foldl_cons, ih, lookup_insertMissing, lookup_cons]
    by_cases h : key = k <;> cases fields.lookup key <;> simp [h]

/-! ### The value that is given last -/

/-- Of some members with values for keys, the value that a key is given last. -/
def lastGiven (members : List (String × Json)) : Option Json :=
  (members.filterMap fun m ↦ if m.1 = key then some m.2 else none).getLast?

theorem lastGiven_append (members later : List (String × Json)) :
    lastGiven key (members ++ later) = (lastGiven key later <|> lastGiven key members) := by
  rw [lastGiven, List.filterMap_append, List.getLast?_append, Option.orElse_eq_orElse,
    Option.orElse_eq_or, ← lastGiven, ← lastGiven]

theorem lastGiven_singleton (member : String × Json) :
    lastGiven key [member] = if key = member.1 then some member.2 else none := by
  by_cases h : member.1 = key
  · simp [lastGiven, h]
  · simp [lastGiven, h, Ne.symm h]

/-- Members that are set one after the other: what was given last is found, and what was there
before if nothing was given. -/
theorem lookup_foldl_insertField (members fields : Fields) :
    (members.foldl (fun acc m ↦ insertField m.1 m.2 acc) fields).lookup key =
      (lastGiven key members <|> fields.lookup key) := by
  induction members generalizing fields with
  | nil => simp [lastGiven]
  | cons member rest ih =>
    rw [List.foldl_cons, ih, lookup_insertField, ← List.singleton_append, lastGiven_append,
      lastGiven_singleton]
    cases lastGiven key rest <;> by_cases h : key = member.1 <;> simp [h]

/-- In the map of some members the value is found that its key was given last. -/
theorem lookup_fieldsOf (members : List (String × Json)) :
    (fieldsOf members).lookup key = lastGiven key members := by
  rw [fieldsOf, lookup_foldl_insertField]
  cases lastGiven key members <;> rfl

/-- A key that is not there is given nothing. -/
theorem lookup_eq_none_of_notMem {members : List (String × Json)} {key : String}
    (h : key ∉ members.map (·.1)) : members.lookup key = none := by
  induction members with
  | nil => rfl
  | cons member rest ih =>
    obtain ⟨k, v⟩ := member
    rw [List.map_cons, List.mem_cons, not_or] at h
    rw [lookup_cons, if_neg h.1, ih h.2]

/-- If no key is given twice, what is found first has been given last. -/
theorem lastGiven_of_nodup {members : List (String × Json)} (h : (members.map (·.1)).Nodup) :
    lastGiven key members = members.lookup key := by
  induction members with
  | nil => rfl
  | cons member rest ih =>
    obtain ⟨k, v⟩ := member
    obtain ⟨hfirst, hrest⟩ := List.nodup_cons.1 h
    rw [← List.singleton_append, lastGiven_append, lastGiven_singleton, List.singleton_append,
      lookup_cons, ih hrest]
    by_cases hkey : key = k
    · subst hkey
      rw [if_pos rfl, if_pos rfl, lookup_eq_none_of_notMem hfirst]
      rfl
    · rw [if_neg hkey, if_neg hkey]
      simp

/-- Looking into the map of members whose keys differ is looking into the members. -/
theorem lookup_fieldsOf_of_nodup {members : List (String × Json)}
    (h : (members.map (·.1)).Nodup) : (fieldsOf members).lookup key = members.lookup key :=
  (lookup_fieldsOf key members).trans (lastGiven_of_nodup key h)

/-! ### Keys in order -/

/-- The keys are in strictly ascending order, as they are in every map. -/
def Ascending (fields : Fields) : Prop :=
  fields.Pairwise fun f f' ↦ f.1 < f'.1

variable {key key' value}

theorem mem_insertField {fields : Fields} {member : String × Json}
    (h : member ∈ insertField key value fields) : member = (key, value) ∨ member ∈ fields := by
  induction fields with
  | nil => exact .inl (List.mem_singleton.1 h)
  | cons first rest ih =>
    rw [insertField] at h
    split at h
    · exact (List.mem_cons.1 h).imp_right (List.mem_cons_of_mem _)
    split at h
    · exact List.mem_cons.1 h
    · rcases List.mem_cons.1 h with rfl | h
      · exact .inr List.mem_cons_self
      · exact (ih h).imp_right (List.mem_cons_of_mem _)

/-- **Setting a value keeps the keys in order.** -/
theorem Ascending.insertField {fields : Fields} (h : Ascending fields) (key : String)
    (value : Json) : Ascending (insertField key value fields) := by
  induction fields with
  | nil => exact List.pairwise_singleton _ _
  | cons first rest ih =>
    obtain ⟨k, v⟩ := first
    obtain ⟨hfirst, hrest⟩ := List.pairwise_cons.1 h
    rw [Json.insertField]
    split
    next heq =>
      subst heq
      exact List.pairwise_cons.2 ⟨hfirst, hrest⟩
    next hne =>
      split
      next hlt =>
        refine List.pairwise_cons.2 ⟨List.forall_mem_cons.2 ⟨hlt, fun m hm ↦ ?_⟩, h⟩
        exact String.lt_trans hlt (hfirst m hm)
      next hnlt =>
        have hlt : k < key := Std.lt_of_le_of_ne (String.not_lt.1 hnlt) (Ne.symm hne)
        refine List.pairwise_cons.2 ⟨fun m hm ↦ ?_, ih hrest⟩
        rcases mem_insertField hm with rfl | hm
        · exact hlt
        · exact hfirst m hm

theorem Ascending.insertMissing {fields : Fields} (h : Ascending fields) (key : String)
    (value : Json) : Ascending (insertMissing key value fields) := by
  rw [Json.insertMissing]
  split
  · exact h
  · exact h.insertField key value

/-- What one member keeps, any members keep. -/
theorem Ascending.foldl {set : String → Json → Fields → Fields}
    (hset : ∀ key value fields, Ascending fields → Ascending (set key value fields))
    {fields : Fields} (h : Ascending fields) (members : List (String × Json)) :
    Ascending (members.foldl (fun acc m ↦ set m.1 m.2 acc) fields) := by
  induction members generalizing fields with
  | nil => exact h
  | cons member rest ih => exact ih (hset member.1 member.2 fields h)

theorem ascending_fieldsOf (members : List (String × Json)) : Ascending (fieldsOf members) :=
  .foldl (fun key value _ h ↦ h.insertField key value) .nil members

/-- The least key of a map is not found behind it. -/
theorem lookup_eq_none_of_lt {fields : Fields} (h : ∀ m ∈ fields, key < m.1) :
    fields.lookup key = none := by
  induction fields with
  | nil => rfl
  | cons first rest ih =>
    obtain ⟨k, v⟩ := first
    obtain ⟨hfirst, hrest⟩ := List.forall_mem_cons.1 h
    have hne : key ≠ k := by
      rintro rfl
      exact String.lt_irrefl _ hfirst
    rw [lookup_cons, if_neg hne, ih hrest]

/-- **A map is what is found in it.** -/
theorem Ascending.ext {fields fields' : Fields} (h : Ascending fields) (h' : Ascending fields')
    (hlookup : ∀ key, fields.lookup key = fields'.lookup key) : fields = fields' := by
  induction fields generalizing fields' with
  | nil =>
    cases fields' with
    | nil => rfl
    | cons first rest =>
      obtain ⟨k, v⟩ := first
      simpa [lookup_cons] using hlookup k
  | cons first rest ih =>
    obtain ⟨k, v⟩ := first
    obtain ⟨hfirst, hrest⟩ := List.pairwise_cons.1 h
    cases fields' with
    | nil => simpa [lookup_cons] using hlookup k
    | cons first' rest' =>
      obtain ⟨k', v'⟩ := first'
      obtain ⟨hfirst', hrest'⟩ := List.pairwise_cons.1 h'
      have hleast {k k' : String} {v v' : Json} {rest rest' : Fields}
          (hfirst : ∀ m ∈ rest', k' < m.1)
          (hlookup : ((k, v) :: rest).lookup k = ((k', v') :: rest').lookup k) : ¬ k < k' := by
        intro hlt
        have hnone : ((k', v') :: rest').lookup k = none :=
          lookup_eq_none_of_lt (List.forall_mem_cons.2
            ⟨hlt, fun m hm ↦ String.lt_trans hlt (hfirst m hm)⟩)
        rw [hnone, lookup_cons, if_pos rfl] at hlookup
        cases hlookup
      obtain rfl : k = k' := String.le_antisymm (String.not_lt.1 (hleast hfirst (hlookup k').symm))
        (String.not_lt.1 (hleast hfirst' (hlookup k)))
      obtain rfl : v = v' := by simpa [lookup_cons] using hlookup k
      rw [ih hrest hrest' fun key ↦ ?_]
      by_cases hkey : key = k
      · rw [hkey, lookup_eq_none_of_lt hfirst, lookup_eq_none_of_lt hfirst']
      · simpa [lookup_cons, hkey] using hlookup key

theorem Ascending.nodup {fields : Fields} (h : Ascending fields) : (fields.map (·.1)).Nodup :=
  List.pairwise_map.2 (List.Pairwise.imp (fun hlt ↦ Std.ne_of_lt hlt) h)

/-- A map is the map of its members. -/
theorem Ascending.fieldsOf_eq {fields : Fields} (h : Ascending fields) : fieldsOf fields = fields :=
  (ascending_fieldsOf fields).ext h fun key ↦ lookup_fieldsOf_of_nodup key h.nodup

end Json

namespace Session

variable {s : Session} (own : Json.Fields)

/-- **What is found in a complete entry**: the id of the session under its name, else the value of
the entry, else that of the session. -/
theorem lookup_completeFields (key : String) :
    (s.completeFields own).lookup key =
      ((if key = idField then s.id.map .str else none) <|> own.lookup key <|>
        s.fields.lookup key) := by
  rw [completeFields]
  cases s.id with
  | none =>
    dsimp only
    rw [Json.lookup_foldl_insertMissing]
    simp
  | some id =>
    dsimp only
    rw [Json.lookup_insertField, Json.lookup_foldl_insertMissing]
    by_cases h : key = idField <;> simp [h]

/-- The id of the session is found in every complete entry. -/
theorem lookup_idField_completeFields {id : String} (h : s.id = some id) :
    (s.completeFields own).lookup idField = some (.str id) := by
  simp [lookup_completeFields, h]

/-- Otherwise the values of the entry come before those of the session. -/
theorem lookup_completeFields_of_ne {key : String} (h : key ≠ idField) :
    (s.completeFields own).lookup key = (own.lookup key <|> s.fields.lookup key) := by
  simp [lookup_completeFields, h]

/-- The keys of a complete entry are in order if those of the entry are. -/
theorem ascending_completeFields {own : Json.Fields} (h : Json.Ascending own) :
    Json.Ascending (s.completeFields own) := by
  have hmerged : Json.Ascending (s.fields.foldl (fun acc f ↦ Json.insertMissing f.1 f.2 acc) own) :=
    .foldl (fun key value _ h ↦ h.insertMissing key value) h s.fields
  rw [completeFields]
  cases s.id with
  | none => exact hmerged
  | some id => exact hmerged.insertField idField (.str id)

end Session

end LatencyCurve
