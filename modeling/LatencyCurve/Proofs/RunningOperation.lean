import LatencyCurve.Journal.Session
import Mathlib.Data.List.Induction
import Mathlib.Data.Option.Basic

/-!
# The running operation

A session has room for one running operation. What is in it after any acts of any loggers is read
off the acts: the operation started last, unless it has been ended (`Session.operation_after`). From
this follow a fact and a defect.

* Entries are never attributed to an operation that has been ended
  (`Session.no_entry_of_ended_operation`). This rests on the operation that runs being the one
  started last, with no end of it since.
* Entries are not always attributed to an operation that has not been ended
  (`Session.attributed_to_latest_open_iff`). As soon as the operation started last is ended, entries
  name no operation, although others may still be open; nesting is enough for that. And the entry
  about the end of an operation names another one if another was started in between.

Which loggers act, and what they write, plays no part: thresholds, forms and names are the loggers'
own, and a session does not look at them.
-/

namespace LatencyCurve

namespace Act

/-- The operation that an act starts. -/
def started? : Act → Option String
  | start id _ => some id
  | _ => none

/-- The operation that an act ends. -/
def ended? : Act → Option String
  | finish id _ _ => some id
  | _ => none

/-- The operation that an act itself names for its entry. -/
def named? : Act → Option String
  | record e => e.correlation
  | _ => none

end Act

/-- What the loggers of a session have done, from the first act to the last. -/
abbrev History := List (Logger × Act)

namespace History

/-- The operations that have been started. -/
def starts (history : History) : List String :=
  history.filterMap (·.2.started?)

/-- The operation that has been started last. -/
def latest? (history : History) : Option String :=
  (starts history).getLast?

/-- The open operations once an act has followed. -/
def openAfter (ids : List String) (a : Logger × Act) : List String :=
  ids.filter (a.2.ended? ≠ some ·) ++ a.2.started?.toList

/-- The operations that have been started and not been ended since, from the first to the last. -/
def openOperations (history : History) : List String :=
  history.foldl openAfter []

variable {history : History} {a : Logger × Act} {id : String}

theorem starts_append (history later : History) :
    starts (history ++ later) = starts history ++ starts later :=
  List.filterMap_append

theorem mem_starts : id ∈ starts history ↔ ∃ a ∈ history, a.2.started? = some id :=
  List.mem_filterMap

theorem latest?_concat (history : History) (a : Logger × Act) :
    latest? (history ++ [a]) = (a.2.started? <|> latest? history) := by
  rw [latest?, starts_append]
  cases h : a.2.started? with
  | none => simp [starts, latest?, h]
  | some id => simp [starts, h]

theorem openOperations_concat (history : History) (a : Logger × Act) :
    openOperations (history ++ [a]) = openAfter (openOperations history) a :=
  List.foldl_append ..

theorem mem_openAfter {ids : List String} :
    id ∈ openAfter ids a ↔ (id ∈ ids ∧ a.2.ended? ≠ some id) ∨ a.2.started? = some id := by
  simp [openAfter]

/-- Only its start opens an operation. -/
theorem notMem_openOperations_append (hopen : id ∉ openOperations history) {later : History}
    (hstarts : id ∉ starts later) : id ∉ openOperations (history ++ later) := by
  induction later using List.reverseRecOn with
  | nil => rwa [List.append_nil]
  | append_singleton later a ih =>
    rw [starts_append, List.mem_append, not_or] at hstarts
    obtain ⟨hlater, ha⟩ := hstarts
    rw [← List.append_assoc, openOperations_concat, mem_openAfter]
    rintro (⟨h, -⟩ | h)
    · exact ih hlater h
    · exact ha (mem_starts.2 ⟨a, List.mem_singleton_self a, h⟩)

/-- If the operation started last is open, no other open one was started after it. -/
theorem getLast?_openOperations (hlatest : latest? history = some id)
    (hopen : id ∈ openOperations history) : (openOperations history).getLast? = some id := by
  induction history using List.reverseRecOn with
  | nil => cases hopen
  | append_singleton history a ih =>
    rw [latest?_concat] at hlatest
    rw [openOperations_concat] at hopen ⊢
    cases hstarted : a.2.started? with
    | some id' =>
      obtain rfl : id' = id := by simpa [hstarted] using hlatest
      simp [openAfter, hstarted]
    | none =>
      have hlatest : latest? history = some id := by simpa [hstarted] using hlatest
      obtain ⟨hmem, hended⟩ : id ∈ openOperations history ∧ a.2.ended? ≠ some id := by
        simpa [mem_openAfter, hstarted] using hopen
      obtain ⟨front, hfront⟩ := List.getLast?_eq_some_iff.1 (ih hlatest hmem)
      simp [openAfter, hstarted, hfront, hended]

/-- When the latest open operation is the one started last. -/
theorem filter_latest?_eq_getLast?_iff (history : History) :
    (latest? history).filter (· ∈ openOperations history) = (openOperations history).getLast? ↔
      openOperations history = [] ∨ ∃ id ∈ openOperations history, latest? history = some id := by
  by_cases h : ∃ id ∈ openOperations history, latest? history = some id
  · obtain ⟨id, hopen, hlatest⟩ := h
    rw [getLast?_openOperations hlatest hopen, hlatest]
    simp [Option.filter, hopen]
  · have hfilter : (latest? history).filter (· ∈ openOperations history) = none := by
      rw [Option.filter_eq_none_iff]
      intro id hlatest hopen
      exact h ⟨id, by simpa using hopen, hlatest⟩
    rw [hfilter, eq_comm, List.getLast?_eq_none_iff, or_iff_left h]

end History

namespace Session

/-- A session after some acts. -/
def after (s : Session) (history : History) : Session :=
  history.foldl (fun s a ↦ (s.perform a.1 a.2).1) s

theorem after_concat (s : Session) (history : History) (a : Logger × Act) :
    s.after (history ++ [a]) = ((s.after history).perform a.1 a.2).1 :=
  List.foldl_append ..

/-! ### One act -/

/-- What an act does to the running operation. -/
theorem operation_perform (s : Session) (l : Logger) (act : Act) :
    (s.perform l act).1.operation =
      (act.started? <|> s.operation.filter (act.ended? ≠ some ·)) := by
  cases act with
  | start id operation => rfl
  | finish id operation success =>
    show (s.clear id).operation = s.operation.filter (some id ≠ some ·)
    rcases s with ⟨sid, - | running, fields⟩
    · rfl
    · by_cases h : running = id
      · simp [clear, Option.filter, h]
      · simp [clear, Option.filter, h, Ne.symm h]
  | addContext key value | record e =>
    cases h : s.operation <;> simp [perform, Act.started?, Act.ended?, Option.filter, h]

/-- The operation that the entry of an act belongs to. -/
theorem correlation_of_perform {s : Session} {l : Logger} {act : Act} {e : Entry}
    (h : (s.perform l act).2 = some e) :
    e.correlation = (act.named? <|> act.started? <|> s.operation) := by
  cases act with
  | start id operation | finish id operation success | record e' =>
    obtain rfl := Option.some.inj h
    rfl
  | addContext key value => cases h

/-! ### Any acts -/

variable {s : Session}

/-- **The operation that runs is the one started last, unless it has been ended.** -/
theorem operation_after (hs : s.operation = none) (history : History) :
    (s.after history).operation = history.latest?.filter (· ∈ history.openOperations) := by
  induction history using List.reverseRecOn with
  | nil => exact hs
  | append_singleton history a ih =>
    rw [after_concat, operation_perform, ih, History.latest?_concat]
    cases hstarted : a.2.started? with
    | some id =>
      simp [History.openOperations_concat, History.mem_openAfter, hstarted, Option.filter]
    | none => simp [History.openOperations_concat, History.mem_openAfter, hstarted, Bool.and_comm]

/-- The same, told by what has been done since the start of the operation. -/
theorem operation_after_eq_some_iff (hs : s.operation = none) {history : History} {id : String} :
    (s.after history).operation = some id ↔
      ∃ before a later, history = before ++ a :: later ∧ a.2.started? = some id ∧
        ∀ b ∈ later, b.2.started? = none ∧ b.2.ended? ≠ some id := by
  induction history using List.reverseRecOn with
  | nil => simp [after, hs]
  | append_singleton history a ih =>
    rw [after_concat, operation_perform]
    -- The last act has started the operation, or the operation ran before and was left alone.
    constructor
    · intro hoperation
      cases hstarted : a.2.started? with
      | some id' =>
        obtain rfl : id' = id := by simpa [hstarted] using hoperation
        exact ⟨history, a, [], rfl, hstarted, List.forall_mem_nil _⟩
      | none =>
        obtain ⟨hbefore, hended⟩ :
            (s.after history).operation = some id ∧ a.2.ended? ≠ some id := by
          simpa [hstarted, Option.filter_eq_some_iff] using hoperation
        obtain ⟨before, b, later, rfl, hb, hlater⟩ := ih.1 hbefore
        refine ⟨before, b, later ++ [a], by simp, hb, ?_⟩
        rw [List.forall_mem_append, List.forall_mem_singleton]
        exact ⟨hlater, hstarted, hended⟩
    · rintro ⟨before, b, later, hhistory, hb, hlater⟩
      rcases List.eq_nil_or_concat later with rfl | ⟨later, a', rfl⟩
      · obtain ⟨rfl, rfl⟩ : history = before ∧ a = b := by simpa using hhistory
        simp [hb]
      · rw [List.concat_eq_append] at hhistory hlater
        rw [← List.cons_append, ← List.append_assoc] at hhistory
        obtain ⟨rfl, hlast⟩ := List.append_inj' hhistory rfl
        obtain rfl := List.singleton_inj.1 hlast
        rw [List.forall_mem_append, List.forall_mem_singleton] at hlater
        obtain ⟨hlater, hstarted, hended⟩ := hlater
        have hbefore := ih.2 ⟨before, b, later, rfl, hb, hlater⟩
        simp [hbefore, hstarted, hended, Option.filter]

/-! ### Attribution -/

/-- **When entries name an open operation.** An entry that names no operation itself carries the
latest of the open operations exactly if none is open or the one started last is. The entry about
the end of an open operation carries that operation exactly if no other was started after it. The
entry about the start of an operation always carries that operation. -/
theorem attributed_to_latest_open_iff (hs : s.operation = none) (history : History) (l : Logger) :
    (∀ e, e.correlation = none →
      ∃ e', ((s.after history).perform l (.record e)).2 = some e' ∧
        (e'.correlation = history.openOperations.getLast? ↔
          history.openOperations = [] ∨
            ∃ id ∈ history.openOperations, history.latest? = some id)) ∧
    (∀ id operation success, id ∈ history.openOperations →
      ∃ e', ((s.after history).perform l (.finish id operation success)).2 = some e' ∧
        (e'.correlation = some id ↔ history.latest? = some id)) ∧
    ∀ id operation, ∃ e', ((s.after history).perform l (.start id operation)).2 = some e' ∧
      e'.correlation = some id := by
  refine ⟨fun e he ↦ ⟨_, rfl, ?_⟩, fun id operation success hid ↦ ⟨_, rfl, ?_⟩,
    fun id operation ↦ ⟨_, rfl, rfl⟩⟩
  · show (e.correlation <|> (s.after history).operation) = _ ↔ _
    rw [he, operation_after hs]
    exact history.filter_latest?_eq_getLast?_iff
  · show (s.after history).operation = some id ↔ _
    rw [operation_after hs, Option.filter_eq_some_iff]
    exact and_iff_left (decide_eq_true hid)

/-- While two operations are open, entries carry the later one. -/
theorem attributed_to_inner_operation :
    let l : Logger := .standard "APP"
    let history : History := [(l, .start "outer" "load"), (l, .start "inner" "parse")]
    let e := l.entry .info "half done"
    (withId "session").operation = none ∧ e.correlation = none ∧
      history.openOperations = ["outer", "inner"] ∧
      ∃ e', (((withId "session").after history).perform l (.record e)).2 = some e' ∧
        e'.correlation = some "inner" := by
  intro l history e
  have hs : (withId "session").operation = none := rfl
  have he : e.correlation = none := rfl
  have hopen : history.openOperations = ["outer", "inner"] := by decide
  obtain ⟨e', hrecord, hiff⟩ := (attributed_to_latest_open_iff hs history l).1 e he
  refine ⟨hs, he, hopen, e', hrecord, ?_⟩
  rw [hiff.2 (.inr ⟨"inner", by decide, by decide⟩), hopen]
  rfl

/-- Once the inner operation has been ended, entries carry no operation although the outer one is
open. If the outer one is ended first, the entry about that carries the inner one. -/
theorem outer_operation_without_entries :
    let l : Logger := .standard "APP"
    let crossed : History := [(l, .start "outer" "load"), (l, .start "inner" "parse")]
    let nested : History := crossed ++ [(l, .finish "inner" "parse" true)]
    let entryAfter (history : History) (act : Act) : Option Entry :=
      (((withId "session").after history).perform l act).2
    nested.openOperations = ["outer"] ∧
      (entryAfter nested (.record (l.entry .info "half done"))).map (·.correlation) = some none ∧
      "outer" ∈ crossed.openOperations ∧
      (entryAfter crossed (.finish "outer" "load" true)).map (·.correlation) =
        some (some "inner") := by
  decide

/-- **No entry is attributed to an operation that has been ended.** Whatever loggers have done, an
operation runs exactly if it is the one started last and has not been ended since. So, if every
operation has an id of its own, no entry that is written after the end of an operation carries it,
unless it asks for that. -/
theorem no_entry_of_ended_operation (hs : s.operation = none) :
    (∀ (history : History) (id : String), (s.after history).operation = some id ↔
      ∃ before a later, history = before ++ a :: later ∧ a.2.started? = some id ∧
        ∀ b ∈ later, b.2.started? = none ∧ b.2.ended? ≠ some id) ∧
    ∀ (before later : History) (l l' : Logger) (id operation : String) (success : Bool) (act : Act)
      (e : Entry),
      let history : History := before ++ (l, .finish id operation success) :: later
      (History.starts (history ++ [(l', act)])).Nodup → id ∈ before.starts → act.named? = none →
      ((s.after history).perform l' act).2 = some e → e.correlation ≠ some id := by
  refine ⟨fun history id ↦ operation_after_eq_some_iff hs, ?_⟩
  intro before later l l' id operation success act e history hnodup hid hnamed he
  let finish : Logger × Act := (l, .finish id operation success)
  have hhistory : history = before ++ [finish] ++ later := (List.append_cons ..)
  -- The id was used up by the start before, so neither what follows nor the act starts it.
  obtain ⟨hlater, hact⟩ : id ∉ History.starts later ∧ act.started? ≠ some id := by
    rw [hhistory, List.append_assoc, List.append_assoc, History.starts_append] at hnodup
    have hrest := fun h ↦ (List.nodup_append.1 hnodup).2.2 id hid id h rfl
    rw [History.mem_starts] at hrest
    refine ⟨fun h ↦ ?_, fun h ↦ hrest ⟨(l', act), by simp, h⟩⟩
    obtain ⟨a, ha, hstarted⟩ := History.mem_starts.1 h
    exact hrest ⟨a, by simp [ha], hstarted⟩
  have hclosed : id ∉ History.openOperations history := by
    rw [hhistory]
    refine History.notMem_openOperations_append ?_ hlater
    rw [History.openOperations_concat, History.mem_openAfter]
    rintro (⟨-, h⟩ | h)
    · exact h rfl
    · cases h
  rw [correlation_of_perform he, hnamed]
  show (act.started? <|> (s.after history).operation) ≠ some id
  rw [ne_eq, Option.orElse_eq_some]
  rintro (h | ⟨-, h⟩)
  · exact hact h
  · rw [operation_after hs, Option.filter_eq_some_iff] at h
    exact hclosed (of_decide_eq_true h.2)

/-- Two loggers take turns: neither operation is named once both have been ended. -/
theorem no_entry_of_crossed_operations :
    let l : Logger := .standard "APP"
    let l' : Logger := .standard "PERF"
    let before : History := [(l, .start "first" "load"), (l', .start "second" "parse")]
    let later : History := [(l', .finish "second" "parse" true)]
    let history : History := before ++ (l, .finish "first" "load" false) :: later
    let act : Act := .record (l.entry .warn "nothing left")
    (withId "session").operation = none ∧ (History.starts (history ++ [(l', act)])).Nodup ∧
      "first" ∈ before.starts ∧ act.named? = none ∧
      ∃ e, (((withId "session").after history).perform l' act).2 = some e ∧
        e.correlation ≠ some "first" := by
  intro l l' before later history act
  have hs : (withId "session").operation = none := rfl
  have hnodup : (History.starts (history ++ [(l', act)])).Nodup := by decide
  have hstart : "first" ∈ before.starts := by decide
  exact ⟨hs, hnodup, hstart, rfl, _, rfl,
    (no_entry_of_ended_operation hs).2 before later l l' "first" "load" false act _ hnodup hstart
      rfl rfl⟩

end Session

end LatencyCurve
