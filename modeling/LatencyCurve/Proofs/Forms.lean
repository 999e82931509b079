import LatencyCurve.Log.Extraction
import LatencyCurve.Proofs.Numerals
import Mathlib.Data.List.Basic
import Mathlib.Data.List.Induction
import Mathlib.Data.List.TakeWhile
import Mathlib.Data.Nat.Digits.Defs

/-!
# The two forms as grammars

A recognizer is a search: for the first marker, for runs of characters, for the last separator. Here
is what it finds, as a grammar of lines. Each form comes down to one equivalence, between what the
search returns and how a line can be written:

* `… took <N> us …` (`Prose`): behind the *first* marker there are blanks, digits, blanks and the
  unit;
* `…;<N>` (`Suffix`): behind some semicolon there are digits up to the end.

## What the equivalences rest on

* **Where a marker first occurs is unique** (`FirstAt.unique`), so what stands behind it is a
  function of the line, and a search that goes from left to right finds it
  (`afterFirst_eq_some_iff`).
* **A run is as long as it can be.** The classes of characters that follow each other have nothing
  in common, so the parts of a line are determined by it (`leadingRun_eq_some_iff`).
* **A number is read with a limit at every digit.** Since a number is never smaller than what its
  first digits say, that is as good as a limit on its value (`readDecimal_eq_some_iff`).

For the prose form it follows that only the text between the first `took` and the next `us` counts
(`Between.prose_iff`).
-/

namespace LatencyCurve

/-! ### Runs -/

/-- A run: at least one character, and all of a class. -/
structure IsRun (p : Char → Bool) (s : List Char) : Prop where
  /-- There is a character. -/
  ne_nil : s ≠ []
  /-- Each is of the class. -/
  all : ∀ c ∈ s, p c = true

/-- What a run is followed by does not go on with it: the class of its first character has nothing
in common with that of the run. -/
theorem IsRun.head?_append {p q : Char → Bool} (hpq : ∀ c, q c = true → p c = false)
    {s : List Char} (h : IsRun q s) (t : List Char) : ∀ c ∈ (s ++ t).head?, p c = false := by
  intro c hc
  rw [List.head?_append_of_ne_nil _ h.ne_nil] at hc
  exact hpq c (h.all c (List.mem_of_mem_head? hc))

/-- A run is found in front of what does not go on with it. -/
theorem leadingRun_append {p : Char → Bool} {run : List Char} (hrun : IsRun p run)
    {rest : List Char} (hrest : ∀ c ∈ rest.head?, p c = false) :
    leadingRun p (run ++ rest) = some (run, rest) := by
  rw [leadingRun, takeWhile_append_rest hrest, dropWhile_append_rest hrest,
    List.takeWhile_eq_self_iff.2 hrun.all, List.dropWhile_eq_nil_iff.2 hrun.all, List.nil_append]
  cases run with
  | nil => exact absurd rfl hrun.ne_nil
  | cons c run => rfl

/-- **A text starts with the longest run** of a class, and goes on with another character. -/
theorem leadingRun_eq_some_iff {p : Char → Bool} {s run rest : List Char} :
    leadingRun p s = some (run, rest) ↔
      s = run ++ rest ∧ IsRun p run ∧ ∀ c ∈ rest.head?, p c = false := by
  constructor
  · intro h
    rw [leadingRun] at h
    split at h
    · cases h
    next hne =>
      cases h
      refine ⟨List.takeWhile_append_dropWhile.symm, ⟨hne, fun c hc ↦ List.mem_takeWhile_imp hc⟩, ?_⟩
      intro c hc
      have hstop := List.head?_dropWhile_not p s
      rw [Option.mem_def.1 hc] at hstop
      exact hstop
  · rintro ⟨rfl, hrun, hrest⟩
    exact leadingRun_append hrun hrest

/-! ### Decimal numbers -/

/-- The value of decimal digits, the first of them counting most. -/
def decimalValue (digits : List Char) : Nat :=
  Nat.ofDigits 10 (digits.map digitValue).reverse

theorem decimalValue_concat (digits : List Char) (c : Char) :
    decimalValue (digits ++ [c]) = 10 * decimalValue digits + digitValue c := by
  rw [decimalValue, List.map_append, List.reverse_append, List.map_singleton,
    List.reverse_singleton, List.singleton_append, Nat.ofDigits_cons, Nat.add_comm, decimalValue]

/-- It is what reading the digits one after the other comes to. -/
theorem decimalValue_eq_ofDigitChars (digits : List Char) :
    decimalValue digits = Nat.ofDigitChars 10 digits 0 := by
  induction digits using List.reverseRecOn with
  | nil => rfl
  | append_singleton digits c ih =>
    rw [decimalValue_concat, ih, Nat.ofDigitChars_append, Nat.ofDigitChars_cons,
      Nat.ofDigitChars_nil, digitValue]

/-- The digits of a number are a run, and state the number. -/
theorem isRun_toDigits (n : Nat) : IsRun Char.isDigit (Nat.toDigits 10 n) :=
  ⟨Nat.toDigits_ne_nil, fun _ hc ↦ Nat.isDigit_of_mem_toDigits (by decide) (by decide) hc⟩

theorem decimalValue_toDigits (n : Nat) : decimalValue (Nat.toDigits 10 n) = n := by
  rw [decimalValue_eq_ofDigitChars, Nat.ofDigitChars_ten_toDigits]

/-- Digits state a number below a limit. -/
structure Decimal (limit : Nat) (digits : List Char) (n : Nat) : Prop where
  /-- There are digits, and nothing else. -/
  run : IsRun Char.isDigit digits
  /-- They have this value. -/
  value_eq : decimalValue digits = n
  /-- It is below the limit. -/
  lt : n < limit

/-- Reading one digit more. -/
theorem readDigit_eq_some_iff {limit n : Nat} {acc : Option Nat} {c : Char} :
    readDigit limit acc c = some n ↔
      ∃ m, acc = some m ∧ c.isDigit = true ∧ 10 * m + digitValue c = n ∧ n < limit := by
  rw [readDigit]
  cases acc with
  | none => simp
  | some m =>
    simp only [Option.bind_some, Option.some.injEq, exists_eq_left']
    constructor
    · intro h
      split at h
      next hc =>
        simp only [Bool.and_eq_true, decide_eq_true_eq] at hc
        cases h
        exact ⟨hc.1, rfl, hc.2⟩
      next => cases h
    · rintro ⟨hc, rfl, hlt⟩
      simp [hc, hlt]

/-- What has been read after some digits: their value, if it is below the limit. -/
theorem foldl_readDigit_eq_some_iff {limit n : Nat} {s : List Char} (hs : s ≠ []) :
    s.foldl (readDigit limit) (some 0) = some n ↔
      (∀ c ∈ s, c.isDigit = true) ∧ decimalValue s = n ∧ n < limit := by
  -- The last digit is read last, so that is where the induction takes one off.
  induction s using List.reverseRecOn generalizing n with
  | nil => exact absurd rfl hs
  | append_singleton s c ih =>
    rw [List.foldl_append, List.foldl_cons, List.foldl_nil, readDigit_eq_some_iff,
      decimalValue_concat, List.forall_mem_append, List.forall_mem_singleton]
    by_cases hnil : s = []
    · subst hnil
      simp [decimalValue]
    · simp only [ih hnil]
      constructor
      · rintro ⟨m, ⟨hdigits, rfl, -⟩, hc, hn, hlt⟩
        exact ⟨⟨hdigits, hc⟩, hn, hlt⟩
      · rintro ⟨⟨hdigits, hc⟩, hn, hlt⟩
        exact ⟨_, ⟨hdigits, rfl, by omega⟩, hc, hn, hlt⟩

/-- **A number is read exactly if digits state it**, however many zeros they begin with. -/
theorem readDecimal_eq_some_iff {limit n : Nat} {s : List Char} :
    readDecimal limit s = some n ↔ Decimal limit s n := by
  rw [readDecimal]
  split
  next hnil =>
    constructor
    · nofun
    · intro h
      exact absurd hnil h.run.ne_nil
  next hne =>
    rw [foldl_readDigit_eq_some_iff hne]
    constructor
    · rintro ⟨hdigits, hvalue, hlt⟩
      exact ⟨⟨hne, hdigits⟩, hvalue, hlt⟩
    · rintro ⟨hrun, hvalue, hlt⟩
      exact ⟨hrun.all, hvalue, hlt⟩

/-- Digits state a number of microseconds. -/
abbrev Micros (digits : List Char) (n : Nat) : Prop :=
  Decimal UInt64.size digits n

theorem readMicros_eq_some_iff {s : List Char} {n : Nat} : readMicros s = some n ↔ Micros s n :=
  readDecimal_eq_some_iff

/-! ### First and last occurrences -/

/-- A marker first occurs in a text behind `pre`, and `rest` is what follows it. -/
structure FirstAt (marker s pre rest : List Char) : Prop where
  /-- The marker occurs there. -/
  eq : s = pre ++ marker ++ rest
  /-- It occurs nowhere before. -/
  first : ∀ pre' rest', s = pre' ++ marker ++ rest' → pre.length ≤ pre'.length

namespace FirstAt

variable {marker s pre rest : List Char}

/-- A text has only one place where a marker first occurs. -/
theorem unique (h : FirstAt marker s pre rest) {pre' rest' : List Char}
    (h' : FirstAt marker s pre' rest') : pre = pre' ∧ rest = rest' := by
  have hlength : pre.length = pre'.length :=
    Nat.le_antisymm (h.first _ _ h'.eq) (h'.first _ _ h.eq)
  have heq : pre ++ (marker ++ rest) = pre' ++ (marker ++ rest') := by
    rw [← List.append_assoc, ← List.append_assoc, ← h.eq, h'.eq]
  obtain ⟨hpre, hrest⟩ := List.append_inj heq hlength
  exact ⟨hpre, List.append_cancel_left hrest⟩

/-- A marker first occurs behind a text without its first character. -/
theorem of_notMem {c : Char} {cs : List Char} (h : c ∉ pre) (rest : List Char) :
    FirstAt (c :: cs) (pre ++ (c :: cs) ++ rest) pre rest where
  eq := rfl
  first pre' rest' heq := by
    rw [List.append_assoc, List.append_assoc] at heq
    rcases List.append_eq_append_iff.1 heq with ⟨between, rfl, -⟩ | ⟨between, rfl, hbetween⟩
    · simp
    · cases between with
      | nil => simp
      | cons c' between =>
        -- The marker would begin inside of `pre`.
        obtain ⟨rfl, -⟩ := List.cons_eq_cons.1 hbetween
        exact absurd (List.mem_append_right _ List.mem_cons_self) h

/-- In front of another character, unless the marker begins there. -/
theorem cons_iff {c : Char} (hc : ¬ marker <+: c :: s) :
    FirstAt marker (c :: s) pre rest ↔ ∃ pre', pre = c :: pre' ∧ FirstAt marker s pre' rest := by
  -- So the marker occurs behind the character whenever it occurs.
  have hshift {pre rest : List Char} (heq : c :: s = pre ++ marker ++ rest) :
      ∃ pre', pre = c :: pre' ∧ s = pre' ++ marker ++ rest := by
    cases pre with
    | nil => exact absurd ⟨rest, heq.symm⟩ hc
    | cons c' pre =>
      obtain ⟨rfl, hs⟩ := List.cons_eq_cons.1 heq
      exact ⟨pre, rfl, hs⟩
  constructor
  · rintro ⟨heq, hfirst⟩
    obtain ⟨pre', rfl, hs⟩ := hshift heq
    refine ⟨pre', rfl, hs, fun pre'' rest'' hs' ↦ ?_⟩
    have hle := hfirst (c :: pre'') rest'' (by rw [hs']; rfl)
    simpa using hle
  · rintro ⟨pre', rfl, hs, hfirst⟩
    refine ⟨by rw [hs]; rfl, fun pre'' rest'' heq ↦ ?_⟩
    obtain ⟨pre₃, rfl, hs'⟩ := hshift heq
    simpa using hfirst pre₃ rest'' hs'

/-- A marker first occurs where it occurs if it does not end any earlier. -/
theorem iff_not_infix {init : List Char} {last : Char} :
    FirstAt (init ++ [last]) s pre rest ↔
      s = pre ++ (init ++ [last]) ++ rest ∧ ¬ init ++ [last] <:+: pre ++ init := by
  constructor
  · rintro ⟨heq, hfirst⟩
    refine ⟨heq, ?_⟩
    rintro ⟨pre', between, hearlier⟩
    have hmoved : s = pre' ++ (init ++ [last]) ++ (between ++ last :: rest) := by
      rw [← List.append_assoc, hearlier, heq]
      simp
    have hle := hfirst _ _ hmoved
    have hlength := congrArg List.length hearlier
    simp only [List.length_append, List.length_singleton] at hlength
    omega
  · rintro ⟨heq, hnot⟩
    refine ⟨heq, fun pre' rest' heq' ↦ ?_⟩
    by_contra hlt
    have hearlier : pre' ++ (init ++ [last]) <+: s := ⟨rest', heq'.symm⟩
    have hhere : pre ++ init <+: s := ⟨last :: rest, by simp [heq]⟩
    have hprefix := List.prefix_of_prefix_length_le hearlier hhere (by simp; omega)
    exact hnot ((List.suffix_append _ _).isInfix.trans hprefix.isInfix)

end FirstAt

/-- **The search finds the first occurrence** of a marker. -/
theorem afterFirst_eq_some_iff {marker s rest : List Char} :
    afterFirst marker s = some rest ↔ ∃ pre, FirstAt marker s pre rest := by
  induction s with
  | nil =>
    rw [afterFirst]
    constructor
    · intro h
      split at h
      next hmarker =>
        cases h
        exact ⟨[], by rw [hmarker]; rfl, fun _ _ _ ↦ Nat.zero_le _⟩
      next => cases h
    · rintro ⟨pre, heq, -⟩
      obtain ⟨hmarker, rfl⟩ := List.append_eq_nil_iff.1 heq.symm
      rw [if_pos (List.append_eq_nil_iff.1 hmarker).2]
  | cons c s ih =>
    rw [afterFirst]
    split
    next hprefix =>
      obtain ⟨t, ht⟩ := List.isPrefixOf_iff_prefix.1 hprefix
      have hfirst : FirstAt marker (c :: s) [] t := ⟨ht.symm, fun _ _ _ ↦ Nat.zero_le _⟩
      rw [← ht, List.drop_left, Option.some.injEq, ht]
      constructor
      · rintro rfl
        exact ⟨[], hfirst⟩
      · rintro ⟨pre, h⟩
        exact (hfirst.unique h).2
    next hprefix =>
      have hprefix : ¬ marker <+: c :: s := mt List.isPrefixOf_iff_prefix.2 hprefix
      rw [ih]
      constructor
      · rintro ⟨pre, h⟩
        exact ⟨c :: pre, (FirstAt.cons_iff hprefix).2 ⟨pre, rfl, h⟩⟩
      · rintro ⟨pre, h⟩
        obtain ⟨pre', -, h'⟩ := (FirstAt.cons_iff hprefix).1 h
        exact ⟨pre', h'⟩

/-- What follows an occurrence of a character is found by going back to the character. -/
theorem takeWhile_reverse_append_cons {c : Char} {rest : List Char} (h : c ∉ rest)
    (pre : List Char) : ((pre ++ c :: rest).reverse.takeWhile (· != c)).reverse = rest := by
  have hrest : ∀ x ∈ rest.reverse, (x != c) = true := by
    intro x hx
    have hne : x ≠ c := by
      rintro rfl
      exact h (List.mem_reverse.1 hx)
    simpa using hne
  rw [List.reverse_append, List.reverse_cons, List.append_assoc,
    List.takeWhile_append_of_pos hrest]
  simp

/-- **The search backwards finds the last occurrence** of a character: what follows it does not hold
the character. -/
theorem afterLast_eq_some_iff {c : Char} {s rest : List Char} :
    afterLast c s = some rest ↔ ∃ pre, s = pre ++ c :: rest ∧ c ∉ rest := by
  rw [afterLast]
  constructor
  · intro h
    split at h
    next hmem =>
      obtain ⟨post, pre, hs, hpost⟩ := List.eq_append_cons_of_mem (List.mem_reverse.2 hmem)
      obtain rfl : s = pre.reverse ++ c :: post.reverse := by
        rw [← List.reverse_reverse s, hs]
        simp
      have hpost : c ∉ post.reverse := mt List.mem_reverse.1 hpost
      rw [takeWhile_reverse_append_cons hpost, Option.some.injEq] at h
      exact ⟨pre.reverse, by rw [h], h ▸ hpost⟩
    next => cases h
  · rintro ⟨pre, rfl, hrest⟩
    rw [if_pos (List.mem_append_right _ List.mem_cons_self), takeWhile_reverse_append_cons hrest]

/-! ### The prose form -/

/-- A line states a number by `… took <N> us …`: behind the first `took` there are blanks, digits
that state the number, blanks and `us`. -/
def Prose (line : List Char) (n : Nat) : Prop :=
  ∃ pre gap digits gap' post,
    FirstAt ['t', 'o', 'o', 'k'] line pre (gap ++ digits ++ gap' ++ ['u', 's'] ++ post) ∧
      IsRun isBlank gap ∧ Micros digits n ∧ IsRun isBlank gap'

/-- **The prose form is recognized exactly** in the lines that the grammar allows. -/
theorem recognizeTook_eq_some_iff {line : List Char} {n : Nat} :
    recognizeTook line = some n ↔ Prose line n := by
  constructor
  · intro h
    obtain ⟨afterTook, htook, h₁⟩ := Option.bind_eq_some_iff.1 h
    obtain ⟨⟨gap, fromDigits⟩, hgap, h₂⟩ := Option.bind_eq_some_iff.1 h₁
    obtain ⟨⟨digits, afterDigits⟩, hdigits, h₃⟩ := Option.bind_eq_some_iff.1 h₂
    obtain ⟨⟨gap', unit⟩, hgap', h₄⟩ := Option.bind_eq_some_iff.1 h₃
    obtain ⟨pre, hpre⟩ := afterFirst_eq_some_iff.1 htook
    obtain ⟨rfl, hrun, -⟩ := leadingRun_eq_some_iff.1 hgap
    obtain ⟨rfl, -, -⟩ := leadingRun_eq_some_iff.1 hdigits
    obtain ⟨rfl, hrun', -⟩ := leadingRun_eq_some_iff.1 hgap'
    dsimp only at h₄
    split at h₄
    next hprefix =>
      obtain ⟨post, rfl⟩ := List.isPrefixOf_iff_prefix.1 hprefix
      refine ⟨pre, gap, digits, gap', post, ?_, hrun, readMicros_eq_some_iff.1 h₄, hrun'⟩
      simpa only [List.append_assoc] using hpre
    next => cases h₄
  · rintro ⟨pre, gap, digits, gap', post, hpre, hrun, hmicros, hrun'⟩
    simp only [List.append_assoc] at hpre
    -- Each run ends where the next begins: no digit is blank, no blank is a digit, no letter is
    -- blank.
    have hunit : ∀ c ∈ (['u', 's'] ++ post).head?, isBlank c = false := by
      rintro c ⟨⟩
      decide
    have htook := afterFirst_eq_some_iff.2 ⟨pre, hpre⟩
    have hgap := leadingRun_append hrun
      (hmicros.run.head?_append (fun _ ↦ isBlank_of_isDigit) (gap' ++ (['u', 's'] ++ post)))
    have hdigits := leadingRun_append hmicros.run
      (hrun'.head?_append (fun _ ↦ isDigit_of_isBlank) (['u', 's'] ++ post))
    have hgap' := leadingRun_append hrun' hunit
    simp only [recognizeTook, htook, Option.bind_eq_bind, Option.bind_some, hgap, hdigits, hgap']
    exact readMicros_eq_some_iff.2 hmicros

/-- The text between the first `took` of a line and the next `us`. -/
structure Between (line pre segment post : List Char) : Prop where
  /-- It begins behind the first `took`. -/
  took : FirstAt ['t', 'o', 'o', 'k'] line pre (segment ++ ['u', 's'] ++ post)
  /-- It ends in front of the next `us`. -/
  unit : FirstAt ['u', 's'] (segment ++ ['u', 's'] ++ post) segment post

/-- **Only the text between the markers counts**: it has to be blanks, digits and blanks. -/
theorem Between.prose_iff {line pre segment post : List Char} (h : Between line pre segment post)
    {n : Nat} :
    Prose line n ↔ ∃ gap digits gap', segment = gap ++ digits ++ gap' ∧
      IsRun isBlank gap ∧ Micros digits n ∧ IsRun isBlank gap' := by
  constructor
  · rintro ⟨pre', gap, digits, gap', post', htook, hgap, hmicros, hgap'⟩
    refine ⟨gap, digits, gap', ?_, hgap, hmicros, hgap'⟩
    have hblank : ¬ isBlank 'u' := by decide
    have hdigit : ¬ Char.isDigit 'u' := by decide
    have hu : 'u' ∉ gap ++ digits ++ gap' := by
      simp only [List.mem_append, not_or]
      exact ⟨⟨mt (hgap.all _) hblank, mt (hmicros.run.all _) hdigit⟩, mt (hgap'.all _) hblank⟩
    -- So the next `us` is the one behind these runs.
    have hunit := h.unit
    rw [(h.took.unique htook).2] at hunit
    exact (hunit.unique (.of_notMem hu post')).1
  · rintro ⟨gap, digits, gap', rfl, hgap, hmicros, hgap'⟩
    exact ⟨pre, gap, digits, gap', post, h.took, hgap, hmicros, hgap'⟩

/-- **The prose form**, for every line. The number that is recognized is the one that the grammar
gives, so there is none where the line is not of the form. And lines with the same text between the
first `took` and the next `us` are recognized alike, whatever stands before and behind. -/
theorem prose_form_of_line (line : List Char) :
    (∀ n, recognizeTook line = some n ↔ Prose line n) ∧
      ∀ {pre segment post line' pre' post'}, Between line pre segment post →
        Between line' pre' segment post' → recognizeTook line = recognizeTook line' := by
  refine ⟨fun n ↦ recognizeTook_eq_some_iff, ?_⟩
  intro pre segment post line' pre' post' h h'
  refine Option.ext fun n ↦ ?_
  rw [recognizeTook_eq_some_iff, recognizeTook_eq_some_iff, h.prose_iff, h'.prose_iff]

/-- Two lines with the same text between the markers: the unit may be the beginning of a word, and a
second `took` does not matter. -/
theorem prose_form_of_cut_lines :
    let line := "took 012 user took 9 us".toList
    let line' := "GET took 012 us".toList
    Between line [] " 012 ".toList "er took 9 us".toList ∧
      Between line' "GET ".toList " 012 ".toList [] ∧
      recognizeTook line = recognizeTook line' ∧ recognizeTook line' = some 12 ∧ Prose line 12 := by
  intro line line'
  have hnumber : 'u' ∉ " 012 ".toList := by decide
  have hverb : 't' ∉ "GET ".toList := by decide
  have h : Between line [] " 012 ".toList "er took 9 us".toList :=
    ⟨.of_notMem List.not_mem_nil " 012 user took 9 us".toList, .of_notMem hnumber _⟩
  have h' : Between line' "GET ".toList " 012 ".toList [] :=
    ⟨.of_notMem hverb " 012 us".toList, .of_notMem hnumber _⟩
  have hvalue : recognizeTook line' = some 12 := by decide
  have halike : recognizeTook line = recognizeTook line' := (prose_form_of_line line).2 h h'
  exact ⟨h, h', halike, hvalue, ((prose_form_of_line line).1 12).1 (halike.trans hvalue)⟩

/-! ### The suffix form -/

/-- A line states a number by `…;<N>`: behind some semicolon there are digits that state the number,
up to the end. -/
def Suffix (line : List Char) (n : Nat) : Prop :=
  ∃ pre digits, line = pre ++ ';' :: digits ∧ Micros digits n

/-- **The suffix form is recognized exactly** in the lines that the grammar allows. -/
theorem recognizeSuffix_eq_some_iff {line : List Char} {n : Nat} :
    recognizeSuffix line = some n ↔ Suffix line n := by
  rw [recognizeSuffix, Option.bind_eq_some_iff]
  constructor
  · rintro ⟨digits, hlast, hmicros⟩
    obtain ⟨pre, hline, -⟩ := afterLast_eq_some_iff.1 hlast
    exact ⟨pre, digits, hline, readMicros_eq_some_iff.1 hmicros⟩
  · rintro ⟨pre, digits, hline, hmicros⟩
    have hdigit : ¬ Char.isDigit ';' := by decide
    refine ⟨digits, afterLast_eq_some_iff.2 ⟨pre, hline, mt (hmicros.run.all _) hdigit⟩, ?_⟩
    exact readMicros_eq_some_iff.2 hmicros

/-- In the standard order the prose form is tried first, and the suffix form where it fails. -/
theorem measureLine_standardOrder {α : Type} [Quantity α] (line : List Char) (number : Nat) :
    (measureLine Pattern.standardOrder line number : Option (Measurement α)) =
      match recognizeTook line with
      | some n => some (.ofMicros n number .took)
      | none => (recognizeSuffix line).map (.ofMicros · number .semicolonSuffix) := by
  have htook : LineRecognizer.recognize Pattern.took line = recognizeTook line := rfl
  have hsuffix : LineRecognizer.recognize Pattern.semicolonSuffix line = recognizeSuffix line := rfl
  rw [measureLine, Pattern.standardOrder, List.findSome?_cons, List.findSome?_singleton, htook,
    hsuffix]
  cases recognizeTook line with
  | some n => rfl
  | none => rfl

/-- **The suffix form**, for every line: the number that is recognized is the one that the grammar
gives. In the standard order the form decides exactly the lines that the prose form rejects, and a
line of neither form has no measurement. -/
theorem suffix_form_of_line {α : Type} [Quantity α] (line : List Char) (number : Nat) :
    (∀ n, recognizeSuffix line = some n ↔ Suffix line n) ∧
      (measureLine Pattern.standardOrder line number : Option (Measurement α)) =
        (match recognizeTook line with
        | some n => some (.ofMicros n number .took)
        | none => (recognizeSuffix line).map (.ofMicros · number .semicolonSuffix)) ∧
      ∀ m : Measurement α, measureLine Pattern.standardOrder line number = some m ↔
        (∃ n, Prose line n ∧ m = .ofMicros n number .took) ∨
          (∀ n, ¬ Prose line n) ∧ ∃ n, Suffix line n ∧ m = .ofMicros n number .semicolonSuffix := by
  refine ⟨fun n ↦ recognizeSuffix_eq_some_iff, measureLine_standardOrder line number, ?_⟩
  intro m
  rw [measureLine_standardOrder]
  cases htook : recognizeTook line with
  | some n =>
    have hprose : Prose line n := recognizeTook_eq_some_iff.1 htook
    constructor
    · rintro ⟨⟩
      exact .inl ⟨n, hprose, rfl⟩
    · rintro (⟨n', hprose', rfl⟩ | ⟨hnot, -⟩)
      · rw [Option.some.inj (htook.symm.trans (recognizeTook_eq_some_iff.2 hprose'))]
      · exact absurd hprose (hnot n)
  | none =>
    have hnot : ∀ n, ¬ Prose line n := by
      intro n hprose
      rw [recognizeTook_eq_some_iff.2 hprose] at htook
      cases htook
    show (recognizeSuffix line).map (Measurement.ofMicros · number .semicolonSuffix) = some m ↔ _
    rw [Option.map_eq_some_iff]
    constructor
    · rintro ⟨n, hsuffix, rfl⟩
      exact .inr ⟨hnot, n, recognizeSuffix_eq_some_iff.1 hsuffix, rfl⟩
    · rintro (⟨n, hprose, -⟩ | ⟨-, n, hsuffix, rfl⟩)
      · exact absurd hprose (hnot n)
      · exact ⟨n, recognizeSuffix_eq_some_iff.2 hsuffix, rfl⟩

/-- The largest number with a leading zero, and the first that is none any more. -/
example : recognizeSuffix "x;9;018446744073709551615".toList = some 18446744073709551615 ∧
    recognizeSuffix "x;9;18446744073709551616".toList = none := by
  decide

end LatencyCurve
