import LatencyCurve.Number.Layout
import LatencyCurve.Text.Blank
import Mathlib.Data.List.Basic

/-!
# The characters of numbers

Whatever number is written in whatever layout, its text is made of digits, signs, points, the mark of
an exponent, and the letters of `NaN` and `inf` (`isNumeral`). So numbers can stand between blanks,
frames and line feeds, and be told apart from them.
-/

namespace LatencyCurve

/-! ### Digits and blanks -/

theorem isDigit_of_isBlank {c : Char} (h : isBlank c = true) : c.isDigit = false := by
  simp only [isBlank, Bool.or_eq_true, Bool.and_eq_true, decide_eq_true_eq, beq_iff_eq] at h
  rw [Char.isDigit, Bool.and_eq_false_iff, decide_eq_false_iff_not, decide_eq_false_iff_not,
    UInt32.not_le, UInt32.not_le, UInt32.lt_iff_toNat_lt, UInt32.lt_iff_toNat_lt]
  change c.toNat < 48 ∨ 57 < c.toNat
  omega

theorem isBlank_of_isDigit {c : Char} (h : c.isDigit = true) : isBlank c = false := by
  by_contra hblank
  rw [isDigit_of_isBlank (by simpa using hblank)] at h
  cases h

/-! ### Runs of a class -/

section Runs

variable {p : Char → Bool} {rest : List Char} (h : ∀ c ∈ rest.head?, p c = false)
include h

/-- A run of a class does not go on into what begins with another character. -/
theorem takeWhile_append_rest (s : List Char) : (s ++ rest).takeWhile p = s.takeWhile p := by
  induction s with
  | nil =>
    cases rest with
    | nil => rfl
    | cons c rest => exact List.takeWhile_cons_of_neg (by simp [h c rfl])
  | cons c s ih => rw [List.cons_append, List.takeWhile_cons, List.takeWhile_cons, ih]

/-- And so what follows the run is left with it. -/
theorem dropWhile_append_rest (s : List Char) :
    (s ++ rest).dropWhile p = s.dropWhile p ++ rest := by
  induction s with
  | nil =>
    cases rest with
    | nil => rfl
    | cons c rest => exact List.dropWhile_cons_of_neg (by simp [h c rfl])
  | cons c s ih =>
    rw [List.cons_append, List.dropWhile_cons, List.dropWhile_cons, ih]
    split <;> rfl

end Runs

/-! ### A class of characters -/

/-- The characters that numbers are written with. -/
def isNumeral (c : Char) : Bool :=
  c.isDigit || ['.', '-', '+', 'e', 'N', 'a', 'i', 'n', 'f'].contains c

theorem isNumeral_of_isDigit {c : Char} (h : c.isDigit = true) : isNumeral c = true := by
  rw [isNumeral, h, Bool.true_or]

/-- What holds of the digits and of the other characters holds of all. -/
theorem isNumeral_cases (p : Char → Bool) {c : Char} (h : isNumeral c = true)
    (digit : c.isDigit = true → p c = true)
    (other : ['.', '-', '+', 'e', 'N', 'a', 'i', 'n', 'f'].all p = true) : p c = true := by
  rw [isNumeral, Bool.or_eq_true, List.contains_iff_mem] at h
  exact h.elim digit (List.all_eq_true.1 other c)

/-- Numbers have no blanks in them. -/
theorem isBlank_of_isNumeral {c : Char} (h : isNumeral c = true) : isBlank c = false := by
  rw [← Bool.not_eq_true']
  exact isNumeral_cases (!isBlank ·) h (fun hdigit ↦ by rw [isBlank_of_isDigit hdigit]; rfl) rfl

/-- Each of their characters is one byte. -/
theorem utf8Size_of_isNumeral {c : Char} (h : isNumeral c = true) : c.utf8Size = 1 := by
  rw [← beq_iff_eq]
  refine isNumeral_cases (·.utf8Size == 1) h (fun hdigit ↦ ?_) rfl
  rw [beq_iff_eq, Char.utf8Size_eq_one_iff]
  simp only [Char.isDigit, Bool.and_eq_true, decide_eq_true_eq] at hdigit
  exact UInt32.le_trans hdigit.2 (by decide)

/-- A text of such characters. -/
def Numeral (s : List Char) : Prop :=
  ∀ c ∈ s, isNumeral c = true

namespace Numeral

theorem nil : Numeral [] :=
  List.forall_mem_nil _

theorem append {s t : List Char} (hs : Numeral s) (ht : Numeral t) : Numeral (s ++ t) :=
  List.forall_mem_append.2 ⟨hs, ht⟩

theorem cons {c : Char} {s : List Char} (hc : isNumeral c = true) (hs : Numeral s) :
    Numeral (c :: s) :=
  List.forall_mem_cons.2 ⟨hc, hs⟩

theorem of_subset {s t : List Char} (hs : Numeral s) (h : t ⊆ s) : Numeral t :=
  fun c hc ↦ hs c (h hc)

/-- A character that no number is written with. -/
theorem notMem {s : List Char} (hs : Numeral s) {c : Char} (hc : isNumeral c = false) : c ∉ s := by
  intro hmem
  rw [hs c hmem] at hc
  cases hc

end Numeral

/-! ### The parts of numbers -/

theorem numeral_signText (negative : Bool) : Numeral (signText negative) := by
  cases negative with
  | true => exact .cons rfl .nil
  | false => exact .nil

theorem numeral_toDigits (n : Nat) : Numeral (Nat.toDigits 10 n) :=
  fun _ hc ↦ isNumeral_of_isDigit (Nat.isDigit_of_mem_toDigits (by decide) (by decide) hc)

theorem numeral_zeros (n : Nat) : Numeral (List.replicate n '0') := by
  intro c hc
  rw [List.eq_of_mem_replicate hc]
  rfl

theorem numeral_significant (d : Digits) : Numeral d.significant := by
  have htext : Numeral d.text := (numeral_zeros _).append (numeral_toDigits _)
  refine htext.of_subset fun c hc ↦ ?_
  exact List.mem_reverse.1 ((List.dropWhile_suffix _).subset (List.mem_reverse.1 hc))

/-- Digits around a decimal point. -/
theorem numeral_positional {digits : List Char} (h : Numeral digits) (point : Int) :
    Numeral (positional digits point).1 ∧ Numeral (positional digits point).2 := by
  rw [positional]
  split
  · exact ⟨.cons rfl .nil, (numeral_zeros _).append h⟩
  · exact ⟨(h.of_subset (List.take_subset _ _)).append (numeral_zeros _),
      h.of_subset (List.drop_subset _ _)⟩

/-! ### The layouts -/

theorem numeral_nan : Numeral ['N', 'a', 'N'] := by
  simp [Numeral, isNumeral]

theorem numeral_infinite (negative : Bool) : Numeral (signText negative ++ ['i', 'n', 'f']) :=
  (numeral_signText negative).append (by simp [Numeral, isNumeral])

theorem numeral_fixedText (places : Nat) (x : Float) : Numeral (fixedText places x).toList := by
  rw [fixedText, String.toList_ofList]
  rcases Reading.ofFloat x with - | negative | ⟨negative, significand, exponent⟩
  · exact numeral_nan
  · exact numeral_infinite negative
  · have hdigits (zeros n : Nat) : Numeral (List.replicate zeros '0' ++ Nat.toDigits 10 n) :=
      (numeral_zeros zeros).append (numeral_toDigits n)
    refine ((numeral_signText negative).append ((hdigits _ _).of_subset
      (List.take_subset _ _))).append ?_
    split
    · exact .nil
    · exact .cons rfl ((hdigits _ _).of_subset (List.drop_subset _ _))

/-- A number with a fixed number of places is not without a text: there is at least one digit in
front of the point. -/
theorem fixedText_ne_nil (places : Nat) (x : Float) : (fixedText places x).toList ≠ [] := by
  rw [fixedText, String.toList_ofList]
  rcases Reading.ofFloat x with - | negative | ⟨negative, significand, exponent⟩
  · exact List.cons_ne_nil _ _
  · simp
  · intro hnil
    have hwhole := (List.append_eq_nil_iff.1 (List.append_eq_nil_iff.1 hnil).1).2
    rw [List.take_eq_nil_iff, ← List.length_eq_zero_iff, List.length_append,
      List.length_replicate] at hwhole
    omega

theorem numeral_plainText (x : Float) : Numeral (plainText x).toList := by
  rw [plainText, String.toList_ofList]
  split
  · exact numeral_nan
  · exact numeral_infinite _
  · exact (numeral_signText _).append (.cons rfl .nil)
  · rename_i negative significand exponent _ _
    have hpositional := numeral_positional
      (numeral_significant (shortest .up significand exponent))
      (shortest .up significand exponent).point
    refine ((numeral_signText negative).append hpositional.1).append ?_
    dsimp only
    split
    · exact .nil
    · exact .cons rfl hpositional.2

/-- A finite number as data. -/
theorem numeral_finiteDataText (negative : Bool) (significand : Nat) (exponent : Int) :
    Numeral (finiteDataText negative significand exponent) := by
  have hdigits := numeral_significant (shortest .toEven significand exponent)
  have hpositional := numeral_positional hdigits (shortest .toEven significand exponent).point
  have hsign := numeral_signText negative
  rw [finiteDataText]
  split
  · exact hsign.append (.cons rfl (.cons rfl (.cons rfl .nil)))
  dsimp only
  split
  · refine (hsign.append hpositional.1).append (.cons rfl ?_)
    split
    · exact .cons rfl .nil
    · exact hpositional.2
  · refine (hsign.append ((hdigits.of_subset (List.take_subset _ _)).append ?_)).append
      (.cons rfl (.cons ?_ (numeral_toDigits _)))
    · split
      · exact .nil
      · exact .cons rfl (hdigits.of_subset (List.drop_subset _ _))
    · split <;> rfl

end LatencyCurve
