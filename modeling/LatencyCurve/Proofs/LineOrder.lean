import LatencyCurve.Proofs.Series
import LatencyCurve.Log.Extraction

/-!
# The order of the lines does not matter

An analysis reads two things of a measurement, its latency and its form; the number of the line it
reads nowhere. These two are the *reading* of a measurement, and what follows is a fact about lists
of readings: series with the same readings in any order have the same analysis, number for number
(`SameAnalysis.of_readings`).

Two kinds of series have the same readings. Moving lines about moves readings about, since what a
line yields does not depend on where it stands (`readings_ofLines`); and so does moving measurements
about.

The mean and the deviation are sums, and sums of binary64 numbers do depend on the order. They agree
because they are taken over the sorted values, and there is one ascending arrangement only
(`Series.eq_sorted_iff`): numbers that compare as equal without being so, like the two zeros, are
told apart by the order that sorts.
-/

namespace LatencyCurve

variable {ρ α : Type} [LineRecognizer ρ]

/-! ### Readings -/

/-- What an analysis reads of a measurement. -/
def Measurement.reading (m : Measurement α) : α × Pattern :=
  (m.latency, m.pattern)

/-- What an analysis reads of a series. -/
def Series.readings (s : Series α) : List (α × Pattern) :=
  s.measurements.map Measurement.reading

theorem Series.values_eq_map_readings (s : Series α) : s.values = s.readings.map Prod.fst := by
  rw [values, readings, List.map_map]
  rfl

theorem Series.countFor_eq_countP_readings (s : Series α) (p : Pattern) :
    s.countFor p = s.readings.countP fun r ↦ r.2 = p := by
  rw [countFor, readings, List.countP_map]
  rfl

variable [Quantity α]

/-- What the first recognizer that accepts a line makes of it, wherever the line stands. -/
def readLine? (recognizers : List ρ) (line : List Char) : Option (α × Pattern) :=
  recognizers.findSome? fun r ↦
    (LineRecognizer.recognize r line).map fun n ↦ (millisOf n, LineRecognizer.kind r)

theorem map_reading_measureLine (recognizers : List ρ) (line : List Char) (number : Nat) :
    (measureLine recognizers line number).map Measurement.reading =
      (readLine? recognizers line : Option (α × Pattern)) := by
  rw [measureLine, readLine?, List.map_findSome?]
  congr 1
  funext r
  exact Option.map_map ..

/-- The readings of an extraction are those of its lines, one by one. -/
theorem Extraction.readings_ofLines (recognizers : List ρ) (lines : List (List Char)) :
    (ofLines recognizers lines : Extraction α).series.readings =
      lines.filterMap (readLine? recognizers) := by
  rw [Series.readings, ofLines, List.map_filterMap]
  simp only [map_reading_measureLine]
  rw [← Function.comp_def (readLine? recognizers) Prod.fst, ← List.filterMap_map,
    List.zipIdx_map_fst]

/-! ### One analysis -/

/-- Two series have the same analysis, value for value: their sorted values, curve, summary and axis
are the same, or the same fault stands in place of them. -/
structure SameAnalysis (s t : Series α) : Prop where
  /-- As many measurements -/
  length_eq : s.length = t.length
  /-- As many measurements of each form -/
  countFor_eq : ∀ p, s.countFor p = t.countFor p
  /-- The same sorted values -/
  sorted_eq : s.sorted = t.sorted
  /-- The same curve, whatever fractions are computed in -/
  curve_eq : ∀ {β : Type} [Quantity β],
    (s.curve : Except Fault (List (CurvePoint α β))) = t.curve
  /-- The same summary, however the deviation is taken from the variance -/
  summary_eq : ∀ root, Summary.ofSeriesWith root s = Summary.ofSeriesWith root t
  /-- The same range of the latency axis -/
  axis_eq : ∀ {β : Type} [Quantity β],
    (s.curve.map fun points : List (CurvePoint α β) ↦ axisRange points) =
      t.curve.map fun points : List (CurvePoint α β) ↦ axisRange points

/-- **The analysis is a function of the readings**, taken in any order. -/
theorem SameAnalysis.of_readings {s t : Series α} (h : s.readings.Perm t.readings) :
    SameAnalysis s t := by
  have hvalues : s.values.Perm t.values := by
    rw [s.values_eq_map_readings, t.values_eq_map_readings]
    exact h.map Prod.fst
  have hsorted : s.sorted = t.sorted := Series.sorted_congr hvalues
  have hcurve {β : Type} [Quantity β] :
      (s.curve : Except Fault (List (CurvePoint α β))) = t.curve := by
    rw [Series.curve, Series.curve, hsorted]
  refine ⟨?_, fun p ↦ ?_, hsorted, hcurve, fun root ↦ ?_, congrArg _ hcurve⟩
  · rw [← s.length_values, ← t.length_values, hvalues.length_eq]
  · rw [s.countFor_eq_countP_readings, t.countFor_eq_countP_readings]
    exact h.countP_eq _
  · rw [Summary.ofSeriesWith, Summary.ofSeriesWith, hsorted]

/-- **The order of the lines does not matter.** Any arrangement of the lines of a log, and any
arrangement of the measurements of a series, has the same analysis. Behind it stands that the sorted
values are the only ascending arrangement of the values; for binary64 numbers, that no two bit
patterns have one place in the order. -/
theorem analysis_forgets_order :
    (∀ (recognizers : List ρ) (lines lines' : List (List Char)), lines.Perm lines' →
      let e : Extraction α := .ofLines recognizers lines
      let e' : Extraction α := .ofLines recognizers lines'
      e.linesRead = e'.linesRead ∧ e.skippedLines = e'.skippedLines ∧
        SameAnalysis e.series e'.series) ∧
      (∀ s t : Series α, s.measurements.Perm t.measurements → SameAnalysis s t) ∧
      (∀ (s : Series α) (l : List α),
        l = s.sorted ↔ l.Perm s.values ∧ l.Pairwise fun x y ↦ Quantity.atMost x y = true) ∧
      ∀ p q : UInt64, Binary64.patternKey p = Binary64.patternKey q ↔ p = q := by
  refine ⟨fun recognizers lines lines' h ↦ ?_, fun s t h ↦ .of_readings (h.map _),
    fun s l ↦ Series.eq_sorted_iff, fun p q ↦ Binary64.patternKey_inj⟩
  intro e e'
  have hsame : SameAnalysis e.series e'.series := .of_readings <| by
    rw [Extraction.readings_ofLines, Extraction.readings_ofLines]
    exact h.filterMap _
  have hlines : e.linesRead = e'.linesRead := h.length_eq
  refine ⟨hlines, ?_, hsame⟩
  rw [Extraction.skippedLines, Extraction.skippedLines, hlines, hsame.length_eq]

/-- Both ways of moving things about: two lines that change places, and a series in which NaN, an
infinity and the two zeros do. -/
theorem analysis_forgets_order_of_specials :
    let lines := ["took 7 us".toList, "noise".toList, "a;5".toList]
    let x : Extraction Float := .ofLines Pattern.standardOrder lines
    let y : Extraction Float := .ofLines Pattern.standardOrder lines.reverse
    let s : Series Float :=
      ⟨[⟨0.0 / 0.0, 1, .took⟩, ⟨0.0, 2, .took⟩, ⟨-1.0 / 0.0, 3, .took⟩,
        ⟨-0.0, 4, .semicolonSuffix⟩]⟩
    let t : Series Float := ⟨s.measurements.reverse⟩
    (lines.Perm lines.reverse ∧ x.series ≠ y.series ∧
        Summary.ofSeries x.series = Summary.ofSeries y.series) ∧
      s.measurements.Perm t.measurements ∧ s ≠ t ∧ s.sorted = t.sorted ∧
        Summary.ofSeries s = Summary.ofSeries t := by
  intro lines x y s t
  obtain ⟨hlines, hseries, -⟩ := analysis_forgets_order (ρ := Pattern) (α := Float)
  have hxy : lines.Perm lines.reverse := (List.reverse_perm lines).symm
  have hst : s.measurements.Perm t.measurements := (List.reverse_perm s.measurements).symm
  obtain ⟨-, -, hsame⟩ := hlines Pattern.standardOrder lines lines.reverse hxy
  have hsame' : SameAnalysis s t := hseries s t hst
  exact ⟨⟨hxy, by decide, hsame.summary_eq Float.sqrt⟩, hst, by decide, hsame'.sorted_eq,
    hsame'.summary_eq Float.sqrt⟩

end LatencyCurve
