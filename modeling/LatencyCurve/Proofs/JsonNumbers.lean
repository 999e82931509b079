import LatencyCurve.Json.Reader
import LatencyCurve.Json.Writer
import LatencyCurve.Proofs.Forms

/-!
# Numbers in JSON

A number ends where it cannot go on: what a reader makes of it does not depend on what follows, as
long as that does not go on with a number (`readNumber_append`). So a number is read back inside any
value if it is read back from its own text. Integers of 64 bits are (`readNumber_int`); of the other
numbers this is asked for where it is needed (`ReadsBack`).
-/

namespace LatencyCurve.Json

/-! ### What follows a value -/

/-- What can follow a value inside another one: nothing, a comma or a closing bracket. None of these
goes on with a number. -/
def Closes (rest : List Char) : Prop :=
  rest = [] ∨ ∃ c rest', rest = c :: rest' ∧ (c = ',' ∨ c = ']' ∨ c = '\x7d')

theorem Closes.head? {p : Char → Bool} {rest : List Char} (h : Closes rest)
    (hp : [',', ']', '\x7d'].all (!p ·) = true) : ∀ c ∈ rest.head?, p c = false := by
  rcases h with rfl | ⟨c, rest, rfl, hc⟩
  · intro c hc
    cases hc
  · intro c' hc'
    obtain rfl := Option.some.inj hc'
    simp only [List.all_cons, List.all_nil, Bool.and_true, Bool.and_eq_true,
      Bool.not_eq_true'] at hp
    rcases hc with rfl | rfl | rfl
    · exact hp.1
    · exact hp.2.1
    · exact hp.2.2

/-! ### Numbers -/

/-- Something that has been read, with more text behind what is left. -/
def followed {α : Type} (rest : List Char) (r : α × List Char) : α × List Char :=
  (r.1, r.2 ++ rest)

section Append

variable {rest : List Char} (h : Closes rest)
include h

theorem readWhole_append (s : List Char) :
    readWhole (s ++ rest) = (readWhole s).map (followed rest) := by
  have hdigit : ∀ c ∈ rest.head?, c.isDigit = false := h.head? (by decide)
  rw [readWhole, readWhole, takeWhile_append_rest hdigit, dropWhile_append_rest hdigit]
  generalize s.takeWhile Char.isDigit = ds, s.dropWhile Char.isDigit = left
  split <;> simp_all [followed]

theorem readFraction_append (s : List Char) :
    readFraction (s ++ rest) = (readFraction s).map (followed rest) := by
  cases s with
  | nil =>
    have hpoint : ∀ s, rest ≠ '.' :: s := by
      rintro s rfl
      exact absurd (h.head? (p := (· == '.')) (by decide) '.' rfl) (by decide)
    rw [List.nil_append, readFraction.eq_def]
    split
    · exact absurd rfl (hpoint _)
    · rfl
  | cons c s =>
    have hdigit : ∀ c ∈ rest.head?, c.isDigit = false := h.head? (by decide)
    by_cases hc : c = '.'
    · subst hc
      rw [List.cons_append, readFraction, readFraction, takeWhile_append_rest hdigit,
        dropWhile_append_rest hdigit]
      generalize s.takeWhile Char.isDigit = ds, s.dropWhile Char.isDigit = left
      split <;> simp_all [followed]
    · rw [List.cons_append, readFraction.eq_def, readFraction.eq_def]
      simp [hc, followed]

theorem readSign_append (s : List Char) :
    readSign (s ++ rest) = followed rest (readSign s) := by
  cases s with
  | nil =>
    have hsign : ∀ c ∈ rest.head?, (c == '-' || c == '+') = false := h.head? (by decide)
    rw [List.nil_append, readSign.eq_def]
    split
    · exact absurd (hsign _ rfl) (by decide)
    · exact absurd (hsign _ rfl) (by decide)
    · rfl
  | cons c s =>
    rw [List.cons_append, readSign.eq_def, readSign.eq_def]
    split <;> simp_all [followed]

theorem readExponent_append (s : List Char) :
    readExponent (s ++ rest) = (readExponent s).map (followed rest) := by
  cases s with
  | nil =>
    have hmark : ∀ c ∈ rest.head?, (c = 'e' || c = 'E') = false := h.head? (by decide)
    cases rest with
    | nil => rfl
    | cons c rest => simp [readExponent, hmark c rfl, followed]
  | cons c s =>
    rw [List.cons_append, readExponent, readExponent]
    split
    · have hdigit : ∀ c ∈ rest.head?, c.isDigit = false := h.head? (by decide)
      rw [readSign_append h s]
      simp only [followed, takeWhile_append_rest hdigit, dropWhile_append_rest hdigit]
      split <;> rfl
    · rfl

end Append

/-- A number behind its sign. -/
def readUnsigned (negative : Bool) (s : List Char) : Option (Json × List Char) :=
  (readWhole s).bind fun whole ↦ (readFraction whole.2).bind fun fraction ↦
    (readExponent fraction.2).bind fun exponent ↦
      some (numberOf negative whole.1 fraction.1 exponent.1, exponent.2)

theorem readNumber_minus (s : List Char) : readNumber ('-' :: s) = readUnsigned true s := rfl

theorem readNumber_of_head? {s : List Char} (h : ∀ c ∈ s.head?, c ≠ '-') :
    readNumber s = readUnsigned false s := by
  rw [readNumber]
  · rfl
  · rintro s rfl
    exact h '-' rfl rfl

theorem readUnsigned_append {rest : List Char} (h : Closes rest) (negative : Bool) (s : List Char) :
    readUnsigned negative (s ++ rest) = (readUnsigned negative s).map (followed rest) := by
  rw [readUnsigned, readUnsigned, readWhole_append h]
  cases readWhole s with
  | none => rfl
  | some whole =>
    simp only [Option.map_some, Option.bind_some, followed, readFraction_append h]
    cases readFraction whole.2 with
    | none => rfl
    | some fraction =>
      simp only [Option.map_some, Option.bind_some, followed, readExponent_append h]
      cases readExponent fraction.2 <;> rfl

/-- **A number ends where it cannot go on.** -/
theorem readNumber_append {s rest : List Char} (h : Closes rest) :
    readNumber (s ++ rest) = (readNumber s).map (followed rest) := by
  have hminus : ∀ c ∈ rest.head?, (c == '-') = false := h.head? (by decide)
  cases s with
  | nil =>
    rw [List.nil_append, readNumber_of_head? (fun c hc ↦ by simpa using hminus c hc),
      readNumber_of_head? (fun c hc ↦ by cases hc)]
    exact readUnsigned_append h false []
  | cons c s =>
    by_cases hc : c = '-'
    · subst hc
      exact readUnsigned_append h true s
    · have hhead (t : List Char) : ∀ c' ∈ (c :: t).head?, c' ≠ '-' := by
        intro c' hc'
        obtain rfl := Option.some.inj hc'
        exact hc
      rw [List.cons_append, readNumber_of_head? (hhead _), readNumber_of_head? (hhead s)]
      exact readUnsigned_append h false (c :: s)

/-! ### Integers -/

theorem digitsValue_toDigits (n : Nat) : digitsValue (Nat.toDigits 10 n) = n :=
  Nat.ofDigitChars_eq_foldl.symm.trans Nat.ofDigitChars_ten_toDigits

/-- The digits of a positive number do not start with a zero. -/
theorem head?_toDigits {n : Nat} (h : 0 < n) : ∀ c ∈ (Nat.toDigits 10 n).head?, c ≠ '0' := by
  induction n using Nat.strong_induction_on with
  | _ n ih =>
    by_cases hn : n < 10
    · rw [Nat.toDigits_of_lt_base hn]
      intro c hc
      obtain rfl := Option.some.inj hc
      exact mt Nat.digitChar_eq_zero.1 h.ne'
    · rw [Nat.toDigits_of_base_le (by decide) (Nat.not_lt.1 hn),
        List.head?_append_of_ne_nil _ Nat.toDigits_ne_nil]
      exact ih (n / 10) (by omega) (by omega)

theorem readWhole_toDigits (n : Nat) :
    readWhole (Nat.toDigits 10 n) = some (Nat.toDigits 10 n, []) := by
  rcases n.eq_zero_or_pos with rfl | hpos
  · rfl
  have hdigits := (isRun_toDigits n).2
  rw [readWhole, List.takeWhile_eq_self_iff.2 hdigits, List.dropWhile_eq_nil_iff.2 hdigits]
  have hhead := head?_toDigits hpos
  split
  next hnil => exact absurd hnil Nat.toDigits_ne_nil
  next hzero => exact absurd rfl (hhead '0' (by rw [hzero]; rfl))
  next hzero => exact absurd rfl (hhead '0' (by rw [hzero]; rfl))
  next => rfl

theorem readUnsigned_toDigits (negative : Bool) (n : Nat) :
    readUnsigned negative (Nat.toDigits 10 n) =
      some (numberOf negative (Nat.toDigits 10 n) [] none, []) := by
  rw [readUnsigned, readWhole_toDigits]
  rfl

/-- An integer of 64 bits, with a sign or without. -/
def Wide (n : Int) : Prop :=
  -0x8000000000000000 ≤ n ∧ n < UInt64.size

theorem readNumber_int {n : Int} (h : Wide n) :
    readNumber (toString n).toList = some (.int n, []) := by
  obtain ⟨hlow, hhigh⟩ := h
  rcases n with n | n
  · have htext : (toString (Int.ofNat n)).toList = Nat.toDigits 10 n := Nat.toList_repr
    have hhead : ∀ c ∈ (Nat.toDigits 10 n).head?, c ≠ '-' := by
      rintro c hc rfl
      exact absurd ((isRun_toDigits n).2 '-' (List.mem_of_mem_head? hc)) (by decide)
    have hsmall : ¬ UInt64.size ≤ n := by
      rw [Nat.not_le]
      exact Int.ofNat_lt.1 hhigh
    rw [htext, readNumber_of_head? hhead, readUnsigned_toDigits, numberOf, digitsValue_toDigits]
    simp [hsmall]
  · have htext : (toString (Int.negSucc n)).toList = '-' :: Nat.toDigits 10 (n + 1) := by
      show ("-" ++ toString (n + 1)).toList = _
      rw [String.toList_append]
      exact congrArg ('-' :: ·) Nat.toList_repr
    have hsmall : ¬ 0x8000000000000000 < n + 1 := by omega
    rw [htext, readNumber_minus, readUnsigned_toDigits, numberOf, digitsValue_toDigits]
    simp [hsmall, Int.negSucc_eq]

/-! ### The first character of a number -/

/-- The characters that a number can start with. -/
def startsNumber (c : Char) : Bool :=
  c.isDigit || c == '-'

/-- A number starts with a digit or a minus sign. -/
theorem exists_cons_of_readNumber {s : List Char} {r : Json × List Char}
    (h : readNumber s = some r) : ∃ c s', s = c :: s' ∧ startsNumber c = true := by
  rcases s with - | ⟨c, s⟩
  · cases h
  refine ⟨c, s, rfl, ?_⟩
  by_contra hstart
  simp only [startsNumber, Bool.or_eq_true, beq_iff_eq, not_or] at hstart
  have hhead : ∀ c' ∈ (c :: s).head?, c' ≠ '-' := by
    intro c' hc'
    obtain rfl := Option.some.inj hc'
    exact hstart.2
  have hwhole : readWhole (c :: s) = none := by
    rw [readWhole, List.takeWhile_cons_of_neg hstart.1]
  rw [readNumber_of_head? hhead, readUnsigned, hwhole] at h
  cases h

/-! ### Numbers that are read back -/

/-- A number that is read back from its text. Which numbers these are is a matter of the digits that
are written (`dataText?`) and of the reading of decimals (`Float.ofScientific`). -/
def ReadsBack (x : Float) : Prop :=
  readNumber (floatText x).toList = some (.float x, [])

example : ReadsBack 0.1 := rfl

end LatencyCurve.Json
