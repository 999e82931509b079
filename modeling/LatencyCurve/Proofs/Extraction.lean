import LatencyCurve.Proofs.Series
import LatencyCurve.Report.Basic
import Mathlib.Algebra.Order.Field.Basic
import Mathlib.Algebra.Order.Field.Rat
import Mathlib.Data.List.Induction
import Mathlib.Tactic.Linarith
import Mathlib.Tactic.Positivity

/-!
# What an extraction yields

An extraction numbers the lines of a log and keeps what their first recognizer makes of them. Here
it is read as a loop instead: `Extraction.readLine` takes one more line, and `ofLines_concat` says
that this is how an extraction grows. What the loop keeps is the invariant `Extraction.Exact`, and
every count that is reported later follows from it:

* a measurement stands for exactly one line, so there are at most as many as lines, and skipped
  lines are counted by a subtraction that loses nothing;
* a measurement is counted under exactly one of the two forms, so the counts by form, which a
  report takes independently of each other, add up to the count of the summary.

Nothing depends on which recognizers there are: any type of them will do, in any order and with any
repetitions.
-/

namespace LatencyCurve

variable {ρ α : Type} [LineRecognizer ρ] [Quantity α]

/-! ### The first recognizer that accepts a line -/

/-- Of a list of recognizers, `r` is the earliest that accepts a line, and `micros` is what it makes
of it. -/
def FirstToAccept (recognizers : List ρ) (line : List Char) (r : ρ) (micros : Nat) : Prop :=
  ∃ before after, recognizers = before ++ r :: after ∧
    (∀ q ∈ before, LineRecognizer.recognize q line = none) ∧
    LineRecognizer.recognize r line = some micros

/-- A measurement is what recognizers make of a line: the earliest that accepts it gives the value
and the form. -/
def Measures (recognizers : List ρ) (line : List Char) (number : Nat) (m : Measurement α) : Prop :=
  ∃ r micros, FirstToAccept recognizers line r micros ∧
    m = .ofMicros micros number (LineRecognizer.kind r)

/-- Whether any of a list of recognizers accepts a line. -/
def isAccepted (recognizers : List ρ) (line : List Char) : Bool :=
  recognizers.any fun r ↦ (LineRecognizer.recognize r line).isSome

/-- A line is measured by the first recognizer that accepts it, and by no other. -/
theorem measureLine_eq_some_iff {recognizers : List ρ} {line : List Char} {number : Nat}
    {m : Measurement α} :
    measureLine recognizers line number = some m ↔ Measures recognizers line number m := by
  rw [measureLine, List.findSome?_eq_some_iff]
  constructor
  · rintro ⟨before, r, after, rfl, hr, hbefore⟩
    obtain ⟨micros, hmicros, rfl⟩ := Option.map_eq_some_iff.1 hr
    refine ⟨r, micros, ⟨before, after, rfl, fun q hq ↦ ?_, hmicros⟩, rfl⟩
    exact Option.map_eq_none_iff.1 (hbefore q hq)
  · rintro ⟨r, micros, ⟨before, after, rfl, hbefore, hmicros⟩, rfl⟩
    exact ⟨before, r, after, rfl, by simp [hmicros], fun q hq ↦ by simp [hbefore q hq]⟩

/-- There is a measurement exactly of the lines that are accepted. -/
theorem isSome_measureLine (recognizers : List ρ) (line : List Char) (number : Nat) :
    (measureLine recognizers line number : Option (Measurement α)).isSome =
      isAccepted recognizers line := by
  rw [Bool.eq_iff_iff, measureLine, List.findSome?_isSome_iff, isAccepted, List.any_eq_true]
  simp

namespace Extraction

/-! ### One line more -/

/-- Reads one more line: it counts as read, and its measurement, if there is one, comes last. -/
def readLine (recognizers : List ρ) (e : Extraction α) (line : List Char) : Extraction α where
  series :=
    match measureLine recognizers line (e.linesRead + 1) with
    | none => e.series
    | some m => e.series.push m
  linesRead := e.linesRead + 1

/-- **An extraction is a loop**: a line more in the log is a line more that is read. -/
theorem ofLines_concat (recognizers : List ρ) (lines : List (List Char)) (line : List Char) :
    (ofLines recognizers (lines ++ [line]) : Extraction α) =
      (ofLines recognizers lines).readLine recognizers line := by
  have hnumber : 1 + lines.length = lines.length + 1 := Nat.add_comm ..
  simp only [ofLines, readLine, List.zipIdx_append, List.filterMap_append, hnumber,
    List.zipIdx_singleton, List.length_append, List.length_singleton, mk.injEq, and_true]
  cases h : measureLine (α := α) recognizers line (lines.length + 1) with
  | none => simp [h]
  | some m => simp [h, Series.push]

/-! ### What the loop keeps -/

omit [LineRecognizer ρ] [Quantity α] in
/-- The lines of a longer log: those of the shorter one, and the last. -/
theorem exists_getElem?_concat {lines : List (List Char)} {line : List Char}
    {p : Nat → List Char → Prop} :
    (∃ i l, (lines ++ [line])[i]? = some l ∧ p i l) ↔
      (∃ i l, lines[i]? = some l ∧ p i l) ∨ p lines.length line := by
  constructor
  · rintro ⟨i, l, hl, hp⟩
    rcases Nat.lt_trichotomy i lines.length with hi | rfl | hi
    · exact .inl ⟨i, l, by rwa [List.getElem?_append_left hi] at hl, hp⟩
    · rw [List.getElem?_concat_length, Option.some.injEq] at hl
      exact .inr (hl ▸ hp)
    · rw [List.getElem?_eq_none (by simpa using Nat.succ_le_of_lt hi)] at hl
      exact absurd hl (by simp)
  · rintro (⟨i, l, hl, hp⟩ | hp)
    · have hi : i < lines.length := (List.getElem?_eq_some_iff.1 hl).1
      exact ⟨i, l, by rwa [List.getElem?_append_left hi], hp⟩
    · exact ⟨lines.length, line, List.getElem?_concat_length, hp⟩

/-- An extraction holds exactly what recognizers make of some lines. -/
structure Exact (recognizers : List ρ) (lines : List (List Char)) (e : Extraction α) : Prop where
  /-- Every line counts as read. -/
  linesRead_eq : e.linesRead = lines.length
  /-- The measurements are those of the earliest recognizer that accepts a line, under its form and
  with the number of the line, counted from one. -/
  mem_iff : ∀ m, m ∈ e.series.measurements ↔
    ∃ i line, lines[i]? = some line ∧ Measures recognizers line (i + 1) m
  /-- They are in file order, and no line has two of them. -/
  ascending : e.series.measurements.Pairwise fun m m' ↦ m.line < m'.line
  /-- There are as many as accepted lines. -/
  length_eq : e.series.length = lines.countP (isAccepted recognizers)

namespace Exact

variable {recognizers : List ρ} {lines : List (List Char)} {e : Extraction α}

/-- Line numbers lie between one and the number of lines. -/
theorem line_mem (h : e.Exact recognizers lines) {m : Measurement α}
    (hm : m ∈ e.series.measurements) : 1 ≤ m.line ∧ m.line ≤ e.linesRead := by
  obtain ⟨i, line, hline, r, micros, -, rfl⟩ := (h.mem_iff m).1 hm
  have hi : i < lines.length := (List.getElem?_eq_some_iff.1 hline).1
  rw [h.linesRead_eq]
  exact ⟨Nat.le_add_left 1 i, hi⟩

/-- At most as many measurements as lines. -/
theorem length_le (h : e.Exact recognizers lines) : e.series.length ≤ e.linesRead := by
  rw [h.length_eq, h.linesRead_eq]
  exact List.countP_le_length

/-- The measurements after one more line, as a list. -/
theorem measurements_readLine (h : e.Exact recognizers lines) (line : List Char) :
    (e.readLine recognizers line).series.measurements =
      e.series.measurements ++ (measureLine recognizers line (lines.length + 1)).toList := by
  rw [readLine, h.linesRead_eq]
  cases measureLine (α := α) recognizers line (lines.length + 1) with
  | none => simp
  | some m => simp [Series.push]

/-- **What one step keeps**: reading a line makes an exact extraction of one line more. -/
theorem readLine (h : e.Exact recognizers lines) (line : List Char) :
    (e.readLine recognizers line).Exact recognizers (lines ++ [line]) where
  linesRead_eq := by simp [Extraction.readLine, h.linesRead_eq]
  mem_iff m := by
    rw [h.measurements_readLine, List.mem_append, h.mem_iff, Option.mem_toList,
      measureLine_eq_some_iff, exists_getElem?_concat]
  ascending := by
    rw [h.measurements_readLine, List.pairwise_append]
    refine ⟨h.ascending, ?_, fun m hm m' hm' ↦ ?_⟩
    · cases measureLine (α := α) recognizers line (lines.length + 1) <;> simp
    -- The new measurement has the number of the new line, which no line before it reaches.
    · obtain ⟨r, micros, -, rfl⟩ := measureLine_eq_some_iff.1 (Option.mem_toList.1 hm')
      have hle := (h.line_mem hm).2
      rw [h.linesRead_eq] at hle
      exact Nat.lt_succ_of_le hle
  length_eq := by
    rw [Series.length, h.measurements_readLine, List.length_append, List.countP_append,
      ← h.length_eq, Series.length, List.countP_singleton, ← isSome_measureLine (α := α)]
    cases measureLine (α := α) recognizers line (lines.length + 1) <;> simp

end Exact

/-- **What a whole run keeps**: an extraction is exact, whatever the recognizers and the lines. -/
theorem exact_ofLines (recognizers : List ρ) (lines : List (List Char)) :
    (ofLines recognizers lines : Extraction α).Exact recognizers lines := by
  -- The loop appends at the end, so that is where the induction takes a line off.
  induction lines using List.reverseRecOn with
  | nil => exact ⟨rfl, fun m ↦ by simp [ofLines], by simp [ofLines], rfl⟩
  | append_singleton lines line ih =>
    rw [ofLines_concat]
    exact ih.readLine line

end Extraction

/-! ### Counting -/

namespace Extraction

omit [LineRecognizer ρ] [Quantity α] in
/-- A rate is a share of a hundred as long as there are no more measurements than lines. -/
theorem matchRate_mem {e : Extraction α} (h : e.series.length ≤ e.linesRead) :
    (0 : ℚ) ≤ e.matchRate ∧ (e.matchRate : ℚ) ≤ 100 := by
  rw [matchRate]
  split
  · simp [Quantity.ofNat]
  · next hne =>
    have hpos : (0 : ℚ) < e.linesRead := by exact_mod_cast Nat.pos_of_ne_zero hne
    have hle : (e.series.length : ℚ) / e.linesRead ≤ 1 := (div_le_one hpos).2 (by exact_mod_cast h)
    have hnonneg : (0 : ℚ) ≤ (e.series.length : ℚ) / e.linesRead := by positivity
    simp only [Quantity.ofNat]
    constructor
    · linarith
    · linarith

/-- The rate is that of accepted lines among all lines. -/
theorem Exact.matchRate_eq {recognizers : List ρ} {lines : List (List Char)} {e : Extraction α}
    (h : e.Exact recognizers lines) :
    (e.matchRate : ℚ) =
      if lines = [] then 0
      else (lines.countP (isAccepted recognizers) : ℚ) / lines.length * 100 := by
  simp only [matchRate, Quantity.ofNat, h.linesRead_eq, h.length_eq, List.length_eq_zero_iff]
  norm_num

/-- **An extraction accounts for every line.** Whatever the recognizers and the lines, each accepted
line has its one measurement (`Exact`); counted by form, the measurements and the skipped lines add
up to the lines, and a report counts as the summary does. -/
theorem accounts_for_every_line (recognizers : List ρ) (lines : List (List Char)) :
    let e : Extraction Float := ofLines recognizers lines
    e.Exact recognizers lines ∧
      (∀ m ∈ e.series.measurements, 1 ≤ m.line ∧ m.line ≤ e.linesRead) ∧
      e.series.length ≤ e.linesRead ∧
      e.series.countFor .took + e.series.countFor .semicolonSuffix + e.skippedLines =
        e.linesRead ∧
      (e.series.measurements ≠ [] →
        ∃ summary, Summary.ofSeries e.series = .ok summary ∧
          ∀ input output,
            let r := Report.ofExtraction input output e summary
            r.linesRead = e.linesRead ∧ r.skippedLines = e.skippedLines ∧
              r.tookMatches = e.series.countFor .took ∧
              r.suffixMatches = e.series.countFor .semicolonSuffix ∧
              r.summary = summary ∧ r.tookMatches + r.suffixMatches = r.summary.count) ∧
      (e.matchRate : ℚ) =
        (if lines = [] then 0
        else (lines.countP (isAccepted recognizers) : ℚ) / lines.length * 100) ∧
      (0 : ℚ) ≤ e.matchRate ∧ (e.matchRate : ℚ) ≤ 100 := by
  intro e
  have hexact : e.Exact recognizers lines := exact_ofLines recognizers lines
  have hforms := e.series.countFor_add_countFor
  refine ⟨hexact, fun m hm ↦ hexact.line_mem hm, hexact.length_le, ?_, fun hne ↦ ?_,
    hexact.matchRate_eq, matchRate_mem hexact.length_le⟩
  · rw [hforms, skippedLines]
    exact Nat.add_sub_cancel' hexact.length_le
  · obtain ⟨summary, hsummary, hcount⟩ := Summary.exists_ofSeries hne
    exact ⟨summary, hsummary, fun _ _ ↦ ⟨rfl, rfl, rfl, rfl, rfl, hforms.trans hcount.symm⟩⟩

/-- A log of three lines, with a form asked for twice: the first line has both forms, and the one
that is asked for first decides; the second has none. -/
theorem accounts_for_mixed_log :
    let e : Extraction Float := ofLines [Pattern.semicolonSuffix, .took, .semicolonSuffix]
      ["a took 7 us;5".toList, "noise".toList, "took 20 us".toList]
    e.series.measurements ≠ [] ∧ e.series.measurements.map (·.pattern) = [.semicolonSuffix, .took] ∧
      ∃ summary, Summary.ofSeries e.series = .ok summary ∧
        (Report.ofExtraction "log" "image" e summary).tookMatches +
          (Report.ofExtraction "log" "image" e summary).suffixMatches = summary.count := by
  intro e
  have hne : e.series.measurements ≠ [] := by decide
  obtain ⟨-, -, -, -, hreport, -⟩ := accounts_for_every_line
    [Pattern.semicolonSuffix, .took, .semicolonSuffix]
    ["a took 7 us;5".toList, "noise".toList, "took 20 us".toList]
  obtain ⟨summary, hsummary, hcounts⟩ := hreport hne
  obtain ⟨-, -, -, -, -, hsum⟩ := hcounts "log" "image"
  exact ⟨hne, by decide, summary, hsummary, hsum⟩

end Extraction

end LatencyCurve
