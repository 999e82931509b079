import LatencyCurve.Proofs.Extraction

/-!
# Recognizers in another order

Which lines of a log are measured depends only on which recognizers there are: a line counts if any
of them accepts it (`isAccepted`), and lists with the same members accept the same lines
(`isAccepted_congr`). Order and repetitions decide no more than what a measurement says, and that
only where there is a choice. A line that a single recognizer accepts has one measurement whatever
the list; on a line that several accept, each list goes by the one that comes first in it.

The two extractions are compared line by line. `measurementAt?` looks a measurement up by the number
of its line, and `measurementAt?_ofLines` says that this is what the recognizers make of that line
alone.
-/

namespace LatencyCurve

variable {ρ α : Type} [LineRecognizer ρ]

/-! ### Which lines are accepted -/

/-- Lists with the same recognizers accept the same lines. -/
theorem isAccepted_congr {recognizers recognizers' : List ρ}
    (hsame : ∀ r, r ∈ recognizers ↔ r ∈ recognizers') (line : List Char) :
    isAccepted recognizers line = isAccepted recognizers' line := by
  rw [Bool.eq_iff_iff, isAccepted, isAccepted, List.any_eq_true, List.any_eq_true]
  simp only [hsame]

namespace FirstToAccept

variable {recognizers : List ρ} {line : List Char} {r : ρ} {micros : Nat}

theorem mem (h : FirstToAccept recognizers line r micros) : r ∈ recognizers := by
  obtain ⟨before, after, rfl, -, -⟩ := h
  exact List.mem_append_right before List.mem_cons_self

theorem recognize_eq (h : FirstToAccept recognizers line r micros) :
    LineRecognizer.recognize r line = some micros := by
  obtain ⟨-, -, -, -, hmicros⟩ := h
  exact hmicros

/-- Where every recognizer accepts a line, the earliest is the first of the list. -/
theorem head?_eq (h : FirstToAccept recognizers line r micros)
    (hall : ∀ q ∈ recognizers, (LineRecognizer.recognize q line).isSome = true) :
    recognizers.head? = some r := by
  obtain ⟨before, after, rfl, hbefore, -⟩ := h
  rcases before with _ | ⟨q, before⟩
  · rfl
  · have hq := hall q List.mem_cons_self
    rw [hbefore q List.mem_cons_self] at hq
    cases hq

end FirstToAccept

variable [Quantity α]

theorem Measures.line_eq {recognizers : List ρ} {line : List Char} {number : Nat}
    {m : Measurement α} (h : Measures recognizers line number m) : m.line = number := by
  obtain ⟨-, -, -, rfl⟩ := h
  rfl

/-- There is an earliest recognizer for each line that is accepted, and the measurement is its. -/
theorem exists_firstToAccept {recognizers : List ρ} {line : List Char} (number : Nat)
    (h : isAccepted recognizers line = true) :
    ∃ r micros, FirstToAccept recognizers line r micros ∧
      measureLine recognizers line number =
        some (Measurement.ofMicros micros number (LineRecognizer.kind r) : Measurement α) := by
  rw [← isSome_measureLine (α := α) recognizers line number] at h
  obtain ⟨m, hm⟩ := Option.isSome_iff_exists.1 h
  obtain ⟨r, micros, hfirst, rfl⟩ := measureLine_eq_some_iff.1 hm
  exact ⟨r, micros, hfirst, hm⟩

/-- The number of a line is kept if the line is accepted; nothing else decides whether it is. -/
theorem map_line_measureLine (recognizers : List ρ) (line : List Char) (number : Nat) :
    (measureLine recognizers line number : Option (Measurement α)).map (·.line) =
      if isAccepted recognizers line then some number else none := by
  rw [← isSome_measureLine (α := α) recognizers line number]
  rcases hm : (measureLine recognizers line number : Option (Measurement α)) with _ | m
  · rfl
  · exact congrArg some (measureLine_eq_some_iff.1 hm).line_eq

/-- A line that only one recognizer accepts is measured alike by all lists that hold it. -/
theorem measureLine_of_existsUnique {recognizers recognizers' : List ρ}
    (hsame : ∀ r, r ∈ recognizers ↔ r ∈ recognizers') {line : List Char} (number : Nat)
    (hone : ∃! r, r ∈ recognizers ∧ (LineRecognizer.recognize r line).isSome = true) :
    (measureLine recognizers line number : Option (Measurement α)) =
      measureLine recognizers' line number := by
  obtain ⟨r, ⟨hr, haccepts⟩, hunique⟩ := hone
  have hline : isAccepted recognizers line = true := List.any_eq_true.2 ⟨r, hr, haccepts⟩
  obtain ⟨q, n, hq, hmeasure⟩ := exists_firstToAccept (α := α) number hline
  obtain ⟨q', n', hq', hmeasure'⟩ :=
    exists_firstToAccept (α := α) number (isAccepted_congr hsame line ▸ hline)
  -- Both lists have found the one recognizer, and so the one value that it gives.
  obtain rfl : q = r := hunique q ⟨hq.mem, by rw [hq.recognize_eq]; rfl⟩
  obtain rfl : q' = q := hunique q' ⟨(hsame q').2 hq'.mem, by rw [hq'.recognize_eq]; rfl⟩
  obtain rfl : n = n' := Option.some.inj (hq.recognize_eq.symm.trans hq'.recognize_eq)
  rw [hmeasure, hmeasure']

namespace Extraction

/-! ### Measurements by their lines -/

omit [Quantity α] in
/-- The measurement of a line, by the number of the line. -/
def measurementAt? (e : Extraction α) (number : Nat) : Option (Measurement α) :=
  e.series.measurements.find? (·.line = number)

/-- **What is found under the number of a line** is what the recognizers make of that line. -/
theorem measurementAt?_ofLines (recognizers : List ρ) {lines : List (List Char)} {i : Nat}
    {line : List Char} (hline : lines[i]? = some line) :
    (ofLines recognizers lines : Extraction α).measurementAt? (i + 1) =
      measureLine recognizers line (i + 1) := by
  have hexact : (ofLines recognizers lines : Extraction α).Exact recognizers lines :=
    exact_ofLines recognizers lines
  -- What is found is a measurement of that line, for no other has its number.
  have hfound {m : Measurement α}
      (hm : (ofLines recognizers lines).measurementAt? (i + 1) = some m) :
      measureLine recognizers line (i + 1) = some m := by
    have hnumber : m.line = i + 1 := by simpa using List.find?_some hm
    obtain ⟨j, line', hline', hmeasures⟩ := (hexact.mem_iff m).1 (List.mem_of_find?_eq_some hm)
    obtain rfl : j = i := Nat.succ.inj (hmeasures.line_eq.symm.trans hnumber)
    obtain rfl : line' = line := Option.some.inj (hline'.symm.trans hline)
    exact measureLine_eq_some_iff.2 hmeasures
  rcases hm : (measureLine recognizers line (i + 1) : Option (Measurement α)) with _ | m
  · rw [Option.eq_none_iff_forall_ne_some]
    exact fun m hm' ↦ nomatch hm.symm.trans (hfound hm')
  · have hmeasures := measureLine_eq_some_iff.1 hm
    have hmem := (hexact.mem_iff m).2 ⟨i, line, hline, hmeasures⟩
    obtain ⟨m', hm'⟩ : ∃ m', (ofLines recognizers lines).measurementAt? (i + 1) = some m' :=
      Option.isSome_iff_exists.1 (List.find?_isSome.2 ⟨m, hmem, decide_eq_true hmeasures.line_eq⟩)
    rw [hm', ← hfound hm', hm]

/-- The numbers of the measured lines are those of the accepted lines. -/
theorem map_line_ofLines (recognizers : List ρ) (lines : List (List Char)) :
    (ofLines recognizers lines : Extraction α).series.measurements.map (·.line) =
      (lines.zipIdx 1).filterMap fun l ↦
        if isAccepted recognizers l.1 then some l.2 else none := by
  rw [ofLines, List.map_filterMap]
  simp only [map_line_measureLine]

/-! ### Two lists of recognizers -/

/-- **The order of the recognizers decides no line.** Lists with the same recognizers, in any order
and with any repetitions, measure the same lines of a log and skip the others. A line that only one
of the recognizers accepts has the same measurement under both. Any other accepted line has under
each list the measurement of the recognizer that is the earliest there to accept it: the first of
the list, if all of them do. -/
theorem order_of_recognizers {recognizers recognizers' : List ρ}
    (hsame : ∀ r, r ∈ recognizers ↔ r ∈ recognizers') (lines : List (List Char)) :
    let e : Extraction α := ofLines recognizers lines
    let e' : Extraction α := ofLines recognizers' lines
    e.linesRead = e'.linesRead ∧
      e.series.measurements.map (·.line) = e'.series.measurements.map (·.line) ∧
      e.skippedLines = e'.skippedLines ∧
      ∀ i line, lines[i]? = some line →
        ((∃! r, r ∈ recognizers ∧ (LineRecognizer.recognize r line).isSome = true) →
          e.measurementAt? (i + 1) = e'.measurementAt? (i + 1)) ∧
        (isAccepted recognizers line = true →
          ∃ r n r' n', FirstToAccept recognizers line r n ∧ FirstToAccept recognizers' line r' n' ∧
            e.measurementAt? (i + 1) = some (.ofMicros n (i + 1) (LineRecognizer.kind r)) ∧
            e'.measurementAt? (i + 1) = some (.ofMicros n' (i + 1) (LineRecognizer.kind r')) ∧
            ((∀ q ∈ recognizers, (LineRecognizer.recognize q line).isSome = true) →
              recognizers.head? = some r ∧ recognizers'.head? = some r')) := by
  intro e e'
  have hnumbers : e.series.measurements.map (·.line) = e'.series.measurements.map (·.line) := by
    rw [map_line_ofLines, map_line_ofLines]
    simp only [isAccepted_congr hsame]
  have hlength : e.series.length = e'.series.length := by
    simpa [Series.length] using congrArg List.length hnumbers
  refine ⟨rfl, hnumbers, ?_, fun i line hline ↦ ⟨fun hone ↦ ?_, fun haccepted ↦ ?_⟩⟩
  · show lines.length - e.series.length = lines.length - e'.series.length
    rw [hlength]
  · rw [measurementAt?_ofLines recognizers hline, measurementAt?_ofLines recognizers' hline]
    exact measureLine_of_existsUnique hsame (i + 1) hone
  · obtain ⟨r, n, hr, hmeasure⟩ := exists_firstToAccept (α := α) (i + 1) haccepted
    obtain ⟨r', n', hr', hmeasure'⟩ :=
      exists_firstToAccept (α := α) (i + 1) (isAccepted_congr hsame line ▸ haccepted)
    refine ⟨r, n, r', n', hr, hr', ?_, ?_, fun hall ↦ ⟨hr.head?_eq hall, ?_⟩⟩
    · rw [measurementAt?_ofLines recognizers hline, hmeasure]
    · rw [measurementAt?_ofLines recognizers' hline, hmeasure']
    · exact hr'.head?_eq fun q hq ↦ hall q ((hsame q).2 hq)

/-- The two forms in one order, and in the other with a repetition: the first line has both forms
and is measured by the form that comes first, the second has one form, and the third has none. -/
theorem order_of_two_forms :
    let recognizers : List Pattern := [.took, .semicolonSuffix]
    let recognizers' : List Pattern := [.semicolonSuffix, .took, .semicolonSuffix]
    let lines := ["took 7 us;5".toList, "x;9".toList, "noise".toList]
    let e : Extraction Float := ofLines recognizers lines
    let e' : Extraction Float := ofLines recognizers' lines
    (∀ r, r ∈ recognizers ↔ r ∈ recognizers') ∧
      e.series.measurements.map (·.line) = e'.series.measurements.map (·.line) ∧
      e.skippedLines = e'.skippedLines ∧ e.skippedLines = 1 ∧
      e.measurementAt? 1 = some (.ofMicros 7 1 .took) ∧
      e'.measurementAt? 1 = some (.ofMicros 5 1 .semicolonSuffix) ∧
      e.measurementAt? 2 = e'.measurementAt? 2 := by
  intro recognizers recognizers' lines e e'
  have hsame : ∀ r, r ∈ recognizers ↔ r ∈ recognizers' := by
    intro r
    cases r <;> decide
  obtain ⟨-, hnumbers, hskipped, hlines⟩ := order_of_recognizers (α := Float) hsame lines
  obtain ⟨-, hboth⟩ := hlines 0 _ rfl
  obtain ⟨r, n, r', n', hr, hr', hat, hat', hheads⟩ := hboth (by decide)
  obtain ⟨hhead, hhead'⟩ := hheads (by decide)
  obtain rfl : Pattern.took = r := Option.some.inj hhead
  obtain rfl : Pattern.semicolonSuffix = r' := Option.some.inj hhead'
  obtain rfl : 7 = n := Option.some.inj (Eq.trans (by decide) hr.recognize_eq)
  obtain rfl : 5 = n' := Option.some.inj (Eq.trans (by decide) hr'.recognize_eq)
  obtain ⟨hone, -⟩ := hlines 1 _ rfl
  refine ⟨hsame, hnumbers, hskipped, by decide, hat, hat', hone ?_⟩
  refine ⟨.semicolonSuffix, by decide, fun r hr ↦ ?_⟩
  cases r
  · exact absurd hr (by decide)
  · rfl

end Extraction

end LatencyCurve
