import LatencyCurve.Proofs.Concatenation
import LatencyCurve.Proofs.Forms
import LatencyCurve.Proofs.RecognizerOrder
import LatencyCurve.Proofs.WellFormed

/-!
# Damaged lines

A log may hold bytes that are no text. They are read as replacement characters, and the recognizers
look at a part of the line only: the number, and what it is told by. So it is not damage in the line
that decides, but whether this part of the bytes is well formed (`Pattern.StatedIn`).

Damage elsewhere in the line does not keep it from being measured, so a damaged line need not be
skipped (`Extraction.damaged_lines_are_measured`). A damaged line is counted like any other: as
read, and as skipped if it has no measurement (`Extraction.measured_iff_stated`).
-/

namespace LatencyCurve

open Utf8 (encode decode Firm)

/-! ### The forms in bytes -/

/-- The bytes of a line state a number in one of the forms. What is written in the form is well
formed; what stands around it may be anything. -/
def Pattern.StatedIn (bytes : List UInt8) (n : Nat) : Pattern → Prop
  | took => ∃ before gap digits gap' behind,
      bytes = before ++ encode (['t', 'o', 'o', 'k'] ++ gap ++ digits ++ gap' ++ ['u', 's']) ++
        behind ∧
      ¬ encode ['t', 'o', 'o', 'k'] <:+: before ++ encode ['t', 'o', 'o'] ∧
      IsRun isBlank gap ∧ Micros digits n ∧ IsRun isBlank gap'
  | semicolonSuffix => ∃ before digits, bytes = before ++ encode (';' :: digits) ∧ Micros digits n

section Firm

variable {gap digits gap' : List Char} {n : Nat}

theorem replacement_notMem_of_isRun {p : Char → Bool} {run : List Char} (h : IsRun p run)
    (hp : p Utf8.replacement = false) : Utf8.replacement ∉ run := by
  intro hmem
  rw [h.all _ hmem] at hp
  cases hp

/-- What is written in prose begins and ends with letters. -/
theorem firm_prose (hgap : IsRun isBlank gap) (hmicros : Micros digits n)
    (hgap' : IsRun isBlank gap') :
    Firm (['t', 'o', 'o', 'k'] ++ gap ++ digits ++ gap' ++ ['u', 's']) := by
  refine ⟨'t', ['o', 'o', 'k'] ++ gap ++ digits ++ gap' ++ ['u'], 's', by simp, rfl, rfl, ?_⟩
  simp only [List.mem_append, not_or]
  exact ⟨⟨⟨⟨by decide, replacement_notMem_of_isRun hgap rfl⟩,
    replacement_notMem_of_isRun hmicros.run rfl⟩, replacement_notMem_of_isRun hgap' rfl⟩, by decide⟩

/-- A semicolon and digits are firm. -/
theorem firm_suffix (hmicros : Micros digits n) : Firm (';' :: digits) := by
  obtain ⟨init, d, rfl⟩ := (List.eq_nil_or_concat' digits).resolve_left hmicros.run.ne_nil
  have hd : d.utf8Size = 1 := utf8Size_of_isNumeral
    (isNumeral_of_isDigit (hmicros.run.all d (List.mem_append_right _ List.mem_cons_self)))
  refine ⟨';', init, d, rfl, rfl, hd, fun hmem ↦ ?_⟩
  exact replacement_notMem_of_isRun hmicros.run rfl (List.mem_append_left _ hmem)

end Firm

/-- The first `took` of a line is also the first in the bytes. -/
theorem took_infix_iff {before : List UInt8} :
    ['t', 'o', 'o', 'k'] <:+: decode before ++ ['t', 'o', 'o'] ↔
      encode ['t', 'o', 'o', 'k'] <:+: before ++ encode ['t', 'o', 'o'] := by
  have htook : Firm ['t', 'o', 'o', 'k'] := ⟨'t', ['o', 'o'], 'k', rfl, rfl, rfl, by decide⟩
  have htoo : Firm ['t', 'o', 'o'] := ⟨'t', ['o'], 'o', rfl, rfl, rfl, by decide⟩
  rw [← (Utf8.decode_eq_append_firm_iff htoo).2 ⟨before, rfl, rfl⟩, Utf8.infix_decode_iff htook]

/-- **A line is recognized exactly if its bytes state a number** in the form. -/
theorem Pattern.recognize_decode_eq_some_iff {p : Pattern} {bytes : List UInt8} {n : Nat} :
    p.recognize (decode bytes) = some n ↔ p.StatedIn bytes n := by
  cases p with
  | took =>
    have hmarker : ['t', 'o', 'o', 'k'] = ['t', 'o', 'o'] ++ ['k'] := rfl
    rw [recognize, recognizeTook_eq_some_iff, Prose, StatedIn]
    constructor
    · rintro ⟨pre, gap, digits, gap', post, hfirst, hgap, hmicros, hgap'⟩
      rw [hmarker, FirstAt.iff_not_infix, ← hmarker] at hfirst
      obtain ⟨heq, hnot⟩ := hfirst
      have hline : decode bytes =
          pre ++ (['t', 'o', 'o', 'k'] ++ gap ++ digits ++ gap' ++ ['u', 's']) ++ post := by
        simpa using heq
      obtain ⟨before, behind, rfl, rfl, -⟩ :=
        (Utf8.decode_eq_append_iff (firm_prose hgap hmicros hgap')).1 hline
      exact ⟨before, gap, digits, gap', behind, rfl, mt took_infix_iff.2 hnot, hgap, hmicros, hgap'⟩
    · rintro ⟨before, gap, digits, gap', behind, rfl, hnot, hgap, hmicros, hgap'⟩
      refine ⟨decode before, gap, digits, gap', decode behind, ?_, hgap, hmicros, hgap'⟩
      rw [hmarker, FirstAt.iff_not_infix, ← hmarker,
        (Utf8.decode_eq_append_iff (firm_prose hgap hmicros hgap')).2 ⟨before, behind, rfl, rfl, rfl⟩]
      exact ⟨by simp, mt took_infix_iff.1 hnot⟩
  | semicolonSuffix =>
    rw [recognize, recognizeSuffix_eq_some_iff, Suffix, StatedIn]
    constructor
    · rintro ⟨pre, digits, hline, hmicros⟩
      obtain ⟨before, rfl, -⟩ := (Utf8.decode_eq_append_firm_iff (firm_suffix hmicros)).1 hline
      exact ⟨before, digits, rfl, hmicros⟩
    · rintro ⟨before, digits, rfl, hmicros⟩
      exact ⟨decode before, digits,
        (Utf8.decode_eq_append_firm_iff (firm_suffix hmicros)).2 ⟨before, rfl, rfl⟩, hmicros⟩

namespace Extraction

/-! ### What a damaged line counts as -/

/-- The lines of a log with some line in it. -/
theorem linesOf_decode_append {a line b : List UInt8} (ha : Utf8.AtLineStart a) (hline : IsLine line)
    (hb : b = [] ∨ Utf8.AtLineStart line) :
    linesOf (decode (a ++ line ++ b)) =
      linesOf (decode a) ++ decode (lineContent line) :: linesOf (decode b) := by
  have hrest : linesOf (decode (line ++ b)) = decode (lineContent line) :: linesOf (decode b) := by
    rcases hb with rfl | hend
    · rw [List.append_nil, linesOf_decode hline]
      rfl
    · rw [Utf8.decode_append hend, linesOf_append hend.decode, linesOf_decode hline]
      rfl
  rw [List.append_assoc, Utf8.decode_append ha, linesOf_append ha.decode, hrest]

variable {ρ α : Type} [LineRecognizer ρ] [Quantity α]

/-- Lines are skipped if no recognizer accepts them. -/
theorem Exact.skippedLines_eq {recognizers : List ρ} {lines : List (List Char)} {e : Extraction α}
    (h : e.Exact recognizers lines) :
    e.skippedLines = lines.countP (!isAccepted recognizers ·) := by
  have hsplit := List.length_eq_countP_add_countP (isAccepted recognizers) (l := lines)
  simp only [decide_not, Bool.decide_eq_true] at hsplit
  rw [skippedLines, h.linesRead_eq, h.length_eq]
  omega

/-- A line has a measurement if a recognizer accepts it. -/
theorem isSome_measurementAt? (recognizers : List ρ) {lines : List (List Char)} {i : Nat}
    {line : List Char} (hline : lines[i]? = some line) :
    ((ofLines recognizers lines : Extraction α).measurementAt? (i + 1)).isSome =
      isAccepted recognizers line := by
  rw [measurementAt?_ofLines recognizers hline, isSome_measureLine]

/-- A line is accepted if a number is stated in its bytes. -/
theorem isAccepted_decode_iff {recognizers : List Pattern} {bytes : List UInt8} :
    isAccepted recognizers (decode bytes) = true ↔ ∃ p ∈ recognizers, ∃ n, p.StatedIn bytes n := by
  rw [isAccepted, List.any_eq_true]
  refine exists_congr fun p ↦ and_congr_right fun _ ↦ ?_
  rw [Option.isSome_iff_exists]
  exact exists_congr fun n ↦ Pattern.recognize_decode_eq_some_iff

/-- **Damage counts only where a number is stated.** Whatever the bytes of a line, damaged or not,
and whatever the lines around it: the line is counted as read; it is measured exactly if one of the
recognizers finds its form stated in the bytes; and if not it is counted as skipped. -/
theorem measured_iff_stated (recognizers : List Pattern) {a line b : List UInt8}
    (ha : Utf8.AtLineStart a) (hline : IsLine line) (hb : b = [] ∨ Utf8.AtLineStart line) :
    let e : Extraction α := ofBytes recognizers (a ++ line ++ b)
    let before : Extraction α := ofBytes recognizers a
    let behind : Extraction α := ofBytes recognizers b
    let measurement := e.measurementAt? (before.linesRead + 1)
    e.linesRead = before.linesRead + 1 + behind.linesRead ∧
      (measurement.isSome = true ↔ ∃ p ∈ recognizers, ∃ n, p.StatedIn (lineContent line) n) ∧
      e.skippedLines =
        before.skippedLines + (if measurement.isSome then 0 else 1) + behind.skippedLines := by
  intro e before behind measurement
  have hlines := linesOf_decode_append ha hline hb
  have hexact : e.Exact recognizers _ := exact_ofLines recognizers (linesOf (decode (a ++ line ++ b)))
  have hbefore : before.Exact recognizers _ := exact_ofLines recognizers (linesOf (decode a))
  have hbehind : behind.Exact recognizers _ := exact_ofLines recognizers (linesOf (decode b))
  have hnumber : (linesOf (decode (a ++ line ++ b)))[before.linesRead]? =
      some (decode (lineContent line)) := by
    rw [hlines, hbefore.linesRead_eq, List.getElem?_append_right (Nat.le_refl _), Nat.sub_self]
    rfl
  have hmeasurement : measurement.isSome = isAccepted recognizers (decode (lineContent line)) :=
    isSome_measurementAt? recognizers hnumber
  rw [hlines] at hexact
  refine ⟨?_, ?_, ?_⟩
  · rw [hexact.linesRead_eq, hbefore.linesRead_eq, hbehind.linesRead_eq, List.length_append,
      List.length_cons]
    omega
  · rw [hmeasurement, isAccepted_decode_iff]
  · rw [hexact.skippedLines_eq, hbefore.skippedLines_eq, hbehind.skippedLines_eq, hmeasurement,
      List.countP_append, List.countP_cons]
    cases isAccepted recognizers (decode (lineContent line)) with
    | true => rfl
    | false => exact (Nat.add_assoc _ _ 1).symm.trans (Nat.add_right_comm _ _ 1)

/-- A log whose second line, `took 5 us`, has a byte that is no text in front of its number: the line
is skipped. The third line, `;7`, is measured, with such a byte in front of its form. -/
theorem skipped_for_damaged_number :
    let a : List UInt8 := [0x3B, 0x35, 0x0A]
    let line : List UInt8 := [0x74, 0x6F, 0x6F, 0x6B, 0x20, 0xFF, 0x35, 0x20, 0x75, 0x73, 0x0A]
    let e : Extraction Float := ofBytes Pattern.standardOrder (a ++ line ++ [0xFF, 0x3B, 0x37])
    Utf8.AtLineStart a ∧ IsLine line ∧ Utf8.AtLineStart line ∧ e.linesRead = 3 ∧
      e.skippedLines = 1 ∧ (e.measurementAt? 2).isSome = false ∧
      ∀ p ∈ Pattern.standardOrder, ∀ n, ¬ p.StatedIn (lineContent line) n := by
  intro a line e
  have ha : Utf8.AtLineStart a := by decide
  have hline : IsLine line := by decide
  have hend : Utf8.AtLineStart line := by decide
  obtain ⟨hread, hmeasured, hskipped⟩ := measured_iff_stated (α := Float) Pattern.standardOrder
    (b := [0xFF, 0x3B, 0x37]) ha hline (.inr hend)
  have hnone : (e.measurementAt? 2).isSome = false := by decide
  refine ⟨ha, hline, hend, hread, hskipped, hnone, fun p hp n hstated ↦ ?_⟩
  have hsome : (e.measurementAt? 2).isSome = true := hmeasured.2 ⟨p, hp, n, hstated⟩
  rw [hnone] at hsome
  cases hsome

/-- **A damaged line need not be skipped**: `took 5 us` and `;5`, each behind a byte that is no text,
are measured. -/
theorem damaged_lines_are_measured :
    let took : List UInt8 := [0xFF, 0x74, 0x6F, 0x6F, 0x6B, 0x20, 0x35, 0x20, 0x75, 0x73, 0x0A]
    let suffix : List UInt8 := [0xFF, 0x3B, 0x35, 0x0A]
    let e (bytes : List UInt8) : Extraction Float := ofBytes Pattern.standardOrder bytes
    ¬ Utf8.IsWellFormed took ∧ (e took).linesRead = 1 ∧ (e took).skippedLines = 0 ∧
      ¬ Utf8.IsWellFormed suffix ∧ (e suffix).linesRead = 1 ∧ (e suffix).skippedLines = 0 := by
  decide

end Extraction

end LatencyCurve
