import LatencyCurve.Proofs.Bracket
import Mathlib.Data.List.Dedup

/-!
# Running timers

Timers are kept twice: as the phases whose timer is running, each of them once, and as a list of the
phases that have been started and not been ended, in the order of their starts. Whatever is asked of
the timers, the two name the same phases (`Timers.Consistent`): a phase is listed exactly if its end
would be timed.

They do not always count alike. A start lists its phase without looking whether it is listed, while a
timer that is running is only set back. So what is listed are the starts that no end of their phase
has followed (`Timers.active_after`), and a phase that is started again before its end is listed
twice (`Timers.nodup_openStarts_iff`). Runs do that: a run that fails leaves the timer of its phase
running, and the next run of the same application starts it again.
-/

namespace LatencyCurve

namespace Timers

/-- What is asked of timers. -/
inductive Call where
  /-- Start a phase -/
  | start (phase : String)
  /-- End a phase -/
  | finish (phase : String)
deriving DecidableEq, Repr

/-- Timers after a call. -/
def perform (t : Timers) : Call → Timers
  | .start phase => t.start phase
  | .finish phase => t.finish phase

/-- Timers after some calls. -/
def after (t : Timers) (calls : List Call) : Timers :=
  calls.foldl perform t

theorem after_append (t : Timers) (calls later : List Call) :
    t.after (calls ++ later) = (t.after calls).after later :=
  List.foldl_append

/-! ### Starts without an end -/

/-- The phases of the starts that no end of the same phase follows, in the order of the starts. -/
def openStarts : List Call → List String
  | [] => []
  | .start phase :: later =>
    if .finish phase ∈ later then openStarts later else phase :: openStarts later
  | .finish _ :: later => openStarts later

/-- A phase is started again, and not ended from its first start on. -/
def Restarts (calls : List Call) : Prop :=
  ∃ before phase later, calls = before ++ .start phase :: later ∧ .start phase ∈ later ∧
    .finish phase ∉ later

theorem restarts_cons_iff {call : Call} {later : List Call} :
    Restarts (call :: later) ↔
      (∃ phase, call = .start phase ∧ .start phase ∈ later ∧ .finish phase ∉ later) ∨
        Restarts later := by
  constructor
  · rintro ⟨before, phase, rest, heq, hstart, hfinish⟩
    rcases before with - | ⟨first, before⟩
    · obtain ⟨rfl, rfl⟩ := List.cons_eq_cons.1 heq
      exact .inl ⟨phase, rfl, hstart, hfinish⟩
    · obtain ⟨-, rfl⟩ := List.cons_eq_cons.1 heq
      exact .inr ⟨before, phase, rest, rfl, hstart, hfinish⟩
  · rintro (⟨phase, rfl, hstart, hfinish⟩ | ⟨before, phase, rest, rfl, hstart, hfinish⟩)
    · exact ⟨[], phase, later, rfl, hstart, hfinish⟩
    · exact ⟨call :: before, phase, rest, rfl, hstart, hfinish⟩

/-- A phase that is not ended is open if it is started at all. -/
theorem mem_openStarts_iff {phase : String} {calls : List Call} (h : .finish phase ∉ calls) :
    phase ∈ openStarts calls ↔ .start phase ∈ calls := by
  induction calls with
  | nil => simp [openStarts]
  | cons call later ih =>
    rw [List.mem_cons, not_or] at h
    have hlater := ih h.2
    cases call with
    | finish other => simpa [openStarts] using hlater
    | start other =>
      rw [openStarts]
      split
      next hended =>
        have hne : phase ≠ other := by
          rintro rfl
          exact h.2 hended
        simpa [hne] using hlater
      next => simp [hlater]

/-- **The open starts name every phase once** exactly if no phase is started again before its
end. -/
theorem nodup_openStarts_iff (calls : List Call) : (openStarts calls).Nodup ↔ ¬ Restarts calls := by
  induction calls with
  | nil => simp [openStarts, Restarts]
  | cons call later ih =>
    rw [restarts_cons_iff]
    cases call with
    | finish phase => simpa [openStarts] using ih
    | start phase =>
      rw [openStarts]
      split
      next hended => simpa [hended] using ih
      next hopen =>
        rw [List.nodup_cons, ih, mem_openStarts_iff hopen, ← not_or]
        simp [hopen]

/-! ### What the two views have in common -/

/-- The phases that are listed are those whose timer is running. -/
structure Consistent (t : Timers) : Prop where
  /-- A phase is listed exactly if its timer is running. -/
  mem_active_iff : ∀ phase, phase ∈ t.active ↔ phase ∈ t.running
  /-- A phase has one timer. -/
  nodup_running : t.running.Nodup

theorem consistent_none : none.Consistent :=
  ⟨fun _ ↦ Iff.rfl, List.nodup_nil⟩

theorem isSome_finish? (t : Timers) (phase : String) :
    (t.finish? phase).isSome ↔ phase ∈ t.running := by
  rw [finish?]
  split <;> simp_all

/-- The end of a phase whose timer is not running changes nothing. -/
theorem finish_of_notMem {t : Timers} {phase : String} (h : phase ∉ t.running) :
    t.finish? phase = Option.none ∧ t.finish phase = t := by
  have hnone : t.finish? phase = Option.none := if_neg h
  exact ⟨hnone, by rw [finish, hnone, Option.getD_none]⟩

theorem finish_of_mem {t : Timers} {phase : String} (h : phase ∈ t.running) :
    t.finish phase = ⟨t.running.filter (· ≠ phase), t.active.filter (· ≠ phase)⟩ := by
  rw [finish, finish?, if_pos h, Option.getD_some]

namespace Consistent

variable {t : Timers}

/-- An end takes its phase off the list, whether its timer was running or not. -/
theorem active_finish (h : t.Consistent) (phase : String) :
    (t.finish phase).active = t.active.filter (· ≠ phase) := by
  by_cases hrunning : phase ∈ t.running
  · rw [finish_of_mem hrunning]
  · rw [(finish_of_notMem hrunning).2, eq_comm, List.filter_eq_self]
    intro other hother
    have hne : other ≠ phase := by
      rintro rfl
      exact hrunning ((h.mem_active_iff other).1 hother)
    simpa using hne

/-- **What one call keeps.** -/
theorem perform (h : t.Consistent) (call : Call) : (t.perform call).Consistent := by
  cases call with
  | start phase =>
    show (t.start phase).Consistent
    rw [start]
    split
    next hrunning =>
      refine ⟨fun other ↦ ?_, h.nodup_running⟩
      rw [List.mem_append, List.mem_singleton, h.mem_active_iff]
      exact or_iff_left_of_imp fun heq ↦ heq ▸ hrunning
    next hrunning =>
      refine ⟨fun other ↦ ?_, List.nodup_append.2 ⟨h.nodup_running, List.nodup_singleton phase, ?_⟩⟩
      · rw [List.mem_append, List.mem_append, h.mem_active_iff]
      · rintro other hother _ hphase rfl
        exact hrunning (List.mem_singleton.1 hphase ▸ hother)
  | finish phase =>
    show (t.finish phase).Consistent
    by_cases hrunning : phase ∈ t.running
    · rw [finish_of_mem hrunning]
      refine ⟨fun other ↦ ?_, h.nodup_running.filter _⟩
      rw [List.mem_filter, List.mem_filter, h.mem_active_iff]
    · rwa [(finish_of_notMem hrunning).2]

/-- **What any calls keep.** -/
theorem after (h : t.Consistent) (calls : List Call) : (t.after calls).Consistent := by
  induction calls generalizing t with
  | nil => exact h
  | cons call later ih => exact ih (h.perform call)

/-- **What is listed** after some calls: what was listed before and has not been ended, and the
starts without an end. -/
theorem active_after (h : t.Consistent) (calls : List Call) :
    (t.after calls).active = t.active.filter (.finish · ∉ calls) ++ openStarts calls := by
  induction calls generalizing t with
  | nil => simp [Timers.after, openStarts]
  | cons call later ih =>
    have hlater : (t.after (call :: later)).active =
        (t.perform call).active.filter (.finish · ∉ later) ++ openStarts later := ih (h.perform call)
    rw [hlater]
    cases call with
    | start phase =>
      show (t.active ++ [phase]).filter _ ++ _ = _
      rw [List.filter_append, List.append_assoc, openStarts]
      by_cases hended : .finish phase ∈ later <;> simp [hended]
    | finish phase =>
      show (t.finish phase).active.filter _ ++ _ = _
      rw [h.active_finish, List.filter_filter, openStarts]
      simp [Bool.and_comm]

/-- There are at least as many phases listed as timers running, and as many only if no phase is
listed twice. -/
theorem length_active_eq_iff (h : t.Consistent) :
    t.active.length = t.running.length ↔ t.active.Nodup := by
  have hperm : t.active.dedup.Perm t.running := by
    rw [List.perm_ext_iff_of_nodup (List.nodup_dedup _) h.nodup_running]
    intro phase
    rw [List.mem_dedup, h.mem_active_iff]
  rw [← hperm.length_eq, ← List.dedup_eq_self, eq_comm]
  exact ⟨t.active.dedup_sublist.eq_of_length, congrArg List.length⟩

end Consistent

end Timers

/-! ### The timers of runs -/

namespace Run

open Timers (Call)

/-- A run asks nothing of its timers but to start and end phases. -/
theorem exists_calls (k : Circumstances) (w : World) (t : Timers) (c : Config) :
    ∃ calls, (execute k w t c).timers = t.after calls := by
  let toAnalyse : List Call := [.start extractPhase, .finish extractPhase]
  let toDraw : List Call := toAnalyse ++ [.start curvePhase, .finish curvePhase, .start drawPhase]
  have hcourse := course_execute k w t c
  generalize execute k w t c = x at hcourse ⊢
  cases hcourse with
  | refused => exact ⟨[], rfl⟩
  | unreadable => exact ⟨[.start extractPhase], rfl⟩
  | empty => exact ⟨toAnalyse, rfl⟩
  | noDirectory | notDrawn => exact ⟨toDraw, rfl⟩
  | drawn => exact ⟨toDraw ++ [.finish drawPhase], rfl⟩

end Run

/-- However an application has been used, its timers have seen some calls. -/
theorem App.exists_calls (a : App) (uses : List Use) :
    ∃ calls, (a.after uses).timers = a.timers.after calls := by
  induction uses generalizing a with
  | nil => exact ⟨[], rfl⟩
  | cons use uses ih =>
    obtain ⟨first, hfirst⟩ : ∃ calls, (a.afterUse use).timers = a.timers.after calls := by
      cases use with
      | run k w | execute k w => exact Run.exists_calls k w a.timers a.config
    obtain ⟨later, hlater⟩ := ih (a.afterUse use)
    refine ⟨first ++ later, ?_⟩
    rw [Timers.after_append, ← hfirst]
    exact hlater

/-! ### What is listed -/

/-- **When the two views count alike.** Whatever has been asked of timers, the list has the phases
whose end would be timed, in the order of their starts, and the end of another phase changes nothing.
It names every phase once, and is as long as there are timers running, exactly if no phase has been
started again before its end. The timers of an application are such timers, however it is used. -/
theorem Timers.lists_phases_once_iff (calls : List Timers.Call) :
    let t := Timers.none.after calls
    t.active = openStarts calls ∧
      (∀ phase, phase ∈ t.active ↔ (t.finish? phase).isSome) ∧
      (∀ phase, t.finish? phase = Option.none → t.finish phase = t) ∧
      (t.running.Nodup ∧ ∀ phase, phase ∈ t.running ↔ (t.finish? phase).isSome) ∧
      (t.active.Nodup ↔ ¬ Restarts calls) ∧
      (t.active.length = t.running.length ↔ ¬ Restarts calls) ∧
      ∀ (c : Config) (session : String) (uses : List Use),
        ∃ calls, ((App.ofConfig c session).after uses).timers = Timers.none.after calls := by
  intro t
  have ht : t.Consistent := Timers.consistent_none.after calls
  have hactive : t.active = openStarts calls := Timers.consistent_none.active_after calls
  have hnodup : t.active.Nodup ↔ ¬ Restarts calls := by rw [hactive, nodup_openStarts_iff]
  refine ⟨hactive, fun phase ↦ ?_, fun phase hnone ↦ ?_, ⟨ht.nodup_running, fun phase ↦ ?_⟩, hnodup,
    ht.length_active_eq_iff.trans hnodup, fun c session uses ↦ App.exists_calls _ uses⟩
  · rw [isSome_finish?, ht.mem_active_iff]
  · rw [finish, hnone, Option.getD_none]
  · rw [isSome_finish?]

/-- A phase that is started again after its end is listed once, in the place of its second start, and
nothing comes of ending a phase that has not been started. -/
theorem Timers.lists_phases_once_after_end :
    let calls : List Timers.Call :=
      [.start "extract", .start "cdf", .finish "extract", .start "extract"]
    let t := Timers.none.after calls
    t.active = ["cdf", "extract"] ∧ ¬ Restarts calls ∧ t.active.length = t.running.length ∧
      t.finish? "render" = Option.none ∧ t.finish "render" = t := by
  intro calls t
  have hactive : t.active = ["cdf", "extract"] := by decide
  have hnone : t.finish? "render" = Option.none := by decide
  obtain ⟨-, -, hfinish, -, hnodup, hlength, -⟩ := Timers.lists_phases_once_iff calls
  have honce : ¬ Restarts calls := hnodup.1 (by rw [hactive]; decide)
  exact ⟨hactive, honce, hlength.2 honce, hnone, hfinish "render" hnone⟩

/-- A phase that is started twice is listed twice, although only one timer is running. So the list
of an application names a phase twice after two runs whose log cannot be read. -/
theorem Timers.lists_restarted_phase_twice :
    let t := Timers.none.after [.start "render", .start "render"]
    let k : Circumstances := ⟨"operation", fun _ ↦ .ofNanos 0, "build"⟩
    let w : World := ⟨⟨[], []⟩, Option.none⟩
    let a := (App.ofConfig (.forInput ⟨"a.log"⟩) "session").after [.run k w, .run k w]
    t.active = ["render", "render"] ∧ ¬ t.active.Nodup ∧ t.running = ["render"] ∧
      t.active.length ≠ t.running.length ∧
      a.timers.active = [Run.extractPhase, Run.extractPhase] ∧
      a.timers.running = [Run.extractPhase] := by
  decide

end LatencyCurve
