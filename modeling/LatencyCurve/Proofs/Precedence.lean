import LatencyCurve.Proofs.Fields
import LatencyCurve.Proofs.RunningOperation

/-!
# What comes first in an entry

An entry is made of what is added to it, of what the session has been told, of the operation that
runs, and of the id of the session. All of them are said about by whoever wrote last, but they do not
all come first: the id of the session comes before everything, what was added to the entry before
what the session has been told, and an operation named by the entry before the one that runs.

So the fields of an entry are the map of three lists of members, one behind the other: what loggers
have told the session, what the entry was given, and the id (`Session.precedence_in_entries`). This
rests on two facts, one for each of the two that collect values:

* a session has the values it was told last, by whatever logger (`Session.fields_after`);
* an entry has the values it was given last, by whatever addition (`Entry.parts_built`).
-/

namespace LatencyCurve

/-! ### What a session has been told -/

/-- The field that an act tells the session. -/
def Act.told? : Act → Option (String × Json)
  | addContext key value => some (key, value)
  | _ => none

/-- The fields that a session has been told, from the first to the last. -/
def History.told (history : History) : List (String × Json) :=
  history.filterMap (·.2.told?)

namespace Session

variable (s : Session)

/-- No act changes the id of a session. -/
theorem id_perform (l : Logger) (act : Act) : (s.perform l act).1.id = s.id := by
  cases act with
  | finish id operation success =>
    show (s.clear id).id = s.id
    rw [clear]
    split <;> rfl
  | start | addContext | record => rfl

/-- An act changes the fields of a session by the one that it tells. -/
theorem fields_perform (l : Logger) (act : Act) :
    (s.perform l act).1.fields =
      act.told?.toList.foldl (fun acc m ↦ Json.insertField m.1 m.2 acc) s.fields := by
  cases act with
  | finish id operation success =>
    show (s.clear id).fields = s.fields
    rw [clear]
    split <;> rfl
  | start | addContext | record => rfl

theorem id_after (history : History) : (s.after history).id = s.id := by
  induction history using List.reverseRecOn with
  | nil => rfl
  | append_singleton history a ih => rw [after_concat, id_perform, ih]

/-- **A session has the fields it has been told.** -/
theorem fields_after (history : History) :
    (s.after history).fields =
      history.told.foldl (fun acc m ↦ Json.insertField m.1 m.2 acc) s.fields := by
  induction history using List.reverseRecOn with
  | nil => rfl
  | append_singleton history a ih =>
    rw [after_concat, fields_perform, ih, History.told, History.told, List.filterMap_append,
      List.foldl_append]
    cases h : a.2.told? <;> simp [h]

end Session

/-! ### What an entry has been given -/

namespace Entry

/-- What can be added to an entry. -/
inductive Addition where
  /-- The value of a field; nothing is added for a value that cannot be written as JSON -/
  | field (key : String) (value : Option Json)
  /-- The operation it belongs to -/
  | correlation (id : String)
  /-- The place it was written at -/
  | site (site : CallSite)
  /-- The counts of an extraction -/
  | extraction (x : Extraction Float)
  /-- The kind of a fault -/
  | fault (f : Fault)

namespace Addition

/-- The members that an addition gives an entry. -/
def members : Addition → List (String × Json)
  | field key value => (value.map fun v ↦ (key, v)).toList
  | extraction x =>
    [("lines_read", .nat x.linesRead), ("measurements", .nat x.series.length),
      ("skipped_lines", .nat x.skippedLines), ("took_matches", .nat (x.series.countFor .took)),
      ("suffix_matches", .nat (x.series.countFor .semicolonSuffix))]
  | fault f => [("error_category", .str f.kind.category), ("exit_code", .nat f.kind.exitCode)]
  | correlation _ | site _ => []

/-- The operation that an addition names. -/
def named? : Addition → Option String
  | correlation id => some id
  | _ => none

/-- The place that an addition records. -/
def recorded? : Addition → Option CallSite
  | site place => some place
  | _ => none

end Addition

/-- An entry with an addition. -/
def add (e : Entry) : Addition → Entry
  | .field key (some value) => e.withField key value
  | .field _ none => e
  | .correlation id => e.withCorrelation id
  | .site site => e.withSite site
  | .extraction x => e.withExtraction x
  | .fault f => e.withFault f

/-- An entry with some additions, made one after the other. -/
def built (e : Entry) (additions : List Addition) : Entry :=
  additions.foldl add e

theorem built_concat (e : Entry) (additions : List Addition) (a : Addition) :
    e.built (additions ++ [a]) = (e.built additions).add a :=
  List.foldl_append

/-- What one addition leaves as it is. -/
theorem head_add (e : Entry) (a : Addition) :
    (e.add a).level = e.level ∧ (e.add a).component = e.component ∧
      (e.add a).message = e.message := by
  rcases a with ⟨key, - | value⟩ | id | site | x | f <;> exact ⟨rfl, rfl, rfl⟩

/-- **What one addition changes**: the fields by its members, the operation and the place if it has
one. -/
theorem parts_add (e : Entry) (a : Addition) :
    (e.add a).fields = a.members.foldl (fun acc m ↦ Json.insertField m.1 m.2 acc) e.fields ∧
      (e.add a).correlation = (a.named? <|> e.correlation) ∧
      (e.add a).site = (a.recorded? <|> e.site) := by
  rcases a with ⟨key, - | value⟩ | id | site | x | f <;> exact ⟨rfl, rfl, rfl⟩

variable (e : Entry) (additions : List Addition)

theorem head_built :
    (e.built additions).level = e.level ∧ (e.built additions).component = e.component ∧
      (e.built additions).message = e.message := by
  induction additions using List.reverseRecOn with
  | nil => exact ⟨rfl, rfl, rfl⟩
  | append_singleton additions a ih =>
    obtain ⟨hlevel, hcomponent, hmessage⟩ := (e.built additions).head_add a
    rw [built_concat]
    exact ⟨hlevel.trans ih.1, hcomponent.trans ih.2.1, hmessage.trans ih.2.2⟩

/-- **What any additions change**: an entry has the fields it has been given, in whatever way; it
belongs to the operation named last, and was written at the place recorded last. -/
theorem parts_built :
    (e.built additions).fields =
        (additions.flatMap (·.members)).foldl (fun acc m ↦ Json.insertField m.1 m.2 acc) e.fields ∧
      (e.built additions).correlation =
        ((additions.filterMap (·.named?)).getLast? <|> e.correlation) ∧
      (e.built additions).site = ((additions.filterMap (·.recorded?)).getLast? <|> e.site) := by
  induction additions using List.reverseRecOn with
  | nil => exact ⟨rfl, rfl, rfl⟩
  | append_singleton additions a ih =>
    obtain ⟨hfields, hcorrelation, hsite⟩ := ih
    rw [built_concat, (parts_add _ a).1, (parts_add _ a).2.1, (parts_add _ a).2.2, hfields,
      hcorrelation, hsite, List.flatMap_append, List.foldl_append, List.filterMap_append,
      List.filterMap_append]
    refine ⟨by simp, ?_, ?_⟩
    · cases h : a.named? <;> simp [h]
    · cases h : a.recorded? <;> simp [h]

end Entry

/-! ### What is written -/

namespace Session

/-- The fields of an entry that is written in a session: those that the session has been told, then
those that the entry has been given, then the id of the session. -/
def membersOf (id : Option String) (history : History) (additions : List Entry.Addition) :
    List (String × Json) :=
  history.told ++ additions.flatMap (·.members) ++ (id.map fun i ↦ (idField, .str i)).toList

/-- A field of an entry that is written in a session. -/
theorem lastGiven_membersOf (id : Option String) (history : History)
    (additions : List Entry.Addition) (key : String) :
    Json.lastGiven key (membersOf id history additions) =
      ((if key = idField then id.map .str else none) <|>
        Json.lastGiven key (additions.flatMap (·.members)) <|> Json.lastGiven key history.told) := by
  rw [membersOf, Json.lastGiven_append, Json.lastGiven_append]
  cases id with
  | none => simp [Json.lastGiven]
  | some i =>
    rw [Option.map_some, Option.toList_some, Json.lastGiven_singleton]
    by_cases h : key = idField <;> simp [h]

/-- **What comes first in an entry.** Whatever loggers have done in a session, and whatever is added
to an entry in whatever order, an entry is written exactly if its level reaches the threshold of its
logger, and writing it leaves the session as it is. Its fields are then the map of what the session
has been told, what the entry has been given and the id of the session: the id is found under its
name; under any other key, the value that the entry was given last, else the value that the session
was told last, else nothing. It carries the operation named last, else the running one; and the place
recorded last, if its logger keeps places. -/
theorem precedence_in_entries (id : Option String) (history : History) (l : Logger) (level : Level)
    (message : String) (additions : List Entry.Addition) (stamp : Stamp) :
    let s := (Session.mk id none []).after history
    ∃ e, s.perform l (.record ((l.entry level message).built additions)) = (s, some e) ∧
      l.line? stamp e =
        (if l.threshold.rank ≤ level.rank then some (l.line stamp e) else none) ∧
      (e.level = level ∧ e.component = l.component ∧ e.message = message) ∧
      (e.fields = Json.fieldsOf (membersOf id history additions) ∧ Json.Ascending e.fields) ∧
      (∀ i, id = some i → e.fields.lookup idField = some (.str i)) ∧
      (∀ key, key ≠ idField ∨ id = none → e.fields.lookup key =
        (Json.lastGiven key (additions.flatMap (·.members)) <|>
          Json.lastGiven key history.told)) ∧
      e.correlation = ((additions.filterMap (·.named?)).getLast? <|> s.operation) ∧
      e.site = if l.keepsSite then (additions.filterMap (·.recorded?)).getLast? else none := by
  intro s
  let own := (l.entry level message).built additions
  let e := s.complete l own
  have hid : s.id = id := id_after _ history
  have htold : s.fields = Json.fieldsOf history.told := fields_after _ history
  obtain ⟨hlevel, hcomponent, hmessage⟩ := (l.entry level message).head_built additions
  obtain ⟨hgiven, hcorrelation, hsite⟩ := (l.entry level message).parts_built additions
  have hgiven : own.fields = Json.fieldsOf (additions.flatMap (·.members)) := hgiven
  have hlookup (key : String) : e.fields.lookup key =
      ((if key = idField then id.map .str else none) <|>
        Json.lastGiven key (additions.flatMap (·.members)) <|> Json.lastGiven key history.told) := by
    show (s.completeFields own.fields).lookup key = _
    rw [lookup_completeFields, hid, htold, hgiven, Json.lookup_fieldsOf, Json.lookup_fieldsOf]
  have hascending : Json.Ascending e.fields :=
    ascending_completeFields (hgiven ▸ Json.ascending_fieldsOf _)
  have hfields : e.fields = Json.fieldsOf (membersOf id history additions) := by
    refine hascending.ext (Json.ascending_fieldsOf _) fun key ↦ ?_
    rw [hlookup, Json.lookup_fieldsOf, lastGiven_membersOf]
  refine ⟨e, rfl, ?_, ⟨hlevel, hcomponent, hmessage⟩, ⟨hfields, hascending⟩, ?_, ?_, ?_, ?_⟩
  · have hwrites : l.writes e.level = decide (l.threshold.rank ≤ level.rank) := by
      show l.writes own.level = _
      rw [hlevel]
      rfl
    simp [Logger.line?, hwrites]
  · rintro i rfl
    simp [hlookup]
  · rintro key (hkey | rfl)
    · simp [hlookup, hkey]
    · simp [hlookup]
  · show (own.correlation <|> s.operation) = _
    rw [hcorrelation]
    cases (additions.filterMap (·.named?)).getLast? <;> rfl
  · show (if l.keepsSite then own.site else none) = _
    rw [hsite]
    cases (additions.filterMap (·.recorded?)).getLast? <;> rfl

/-- An entry with a field of its own for every source of fields: the one it was given last counts,
unless it bears the name of the id. -/
theorem precedence_in_debugging_entry :
    let l : Logger := ⟨"APP", .debug, .json, false, true⟩
    let l' : Logger := .standard "PERF"
    let history : History := [(l, .addContext "input" (.str "a")), (l', .addContext "size" (.nat 1)),
      (l', .addContext "input" (.str "b")), (l', .addContext idField .null), (l, .start "op" "plot")]
    let additions : List Entry.Addition := [.field "size" (some (.nat 2)), .field "size" none,
      .fault ⟨.io, "gone"⟩, .field idField (some (.nat 3)), .field "exit_code" (some (.nat 4)),
      .site ⟨"a", 1, none⟩, .site ⟨"b", 2, none⟩]
    let s := (withId "session").after history
    ∃ e, s.perform l (.record ((l.entry .info "done").built additions)) = (s, some e) ∧
      (l.line? ⟨"12:00:00.000", "2024-01-01T12:00:00Z"⟩ e).isSome ∧
      e.fields.lookup idField = some (.str "session") ∧
      e.fields.lookup "size" = some (.nat 2) ∧ e.fields.lookup "input" = some (.str "b") ∧
      e.fields.lookup "exit_code" = some (.nat 4) ∧ e.correlation = some "op" ∧
      e.site = some ⟨"b", 2, none⟩ := by
  intro l l' history additions s
  obtain ⟨e, hperform, hline, -, -, hid, hfields, hcorrelation, hsite⟩ :=
    precedence_in_entries (some "session") history l .info "done" additions
      ⟨"12:00:00.000", "2024-01-01T12:00:00Z"⟩
  refine ⟨e, hperform, ?_, hid "session" rfl, ?_, ?_, ?_, hcorrelation, hsite⟩
  · rw [hline]
    rfl
  · exact hfields "size" (.inl (by decide))
  · exact hfields "input" (.inl (by decide))
  · exact hfields "exit_code" (.inl (by decide))

end Session

end LatencyCurve
