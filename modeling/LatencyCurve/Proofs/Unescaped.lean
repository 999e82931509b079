import LatencyCurve.Journal.Clock
import LatencyCurve.Proofs.Numerals
import LatencyCurve.Stats.Summary
import Mathlib.Data.List.Basic

/-!
# Texts without the escape character

An escape sequence begins with the escape character, so a text without that character holds none.
This module says which texts are such: those put together from such texts, numbers in every layout
(`unescaped_fixedText`, `unescaped_percentileLabel`), the time of day (`unescaped_clock`) and the
compact form of every JSON value (`Json.unescaped_compact`), whose texts may hold the escape
character themselves: it is written as `\u001b`, as every control character is escaped
(`Json.printable_compact`).
-/

namespace LatencyCurve

/-- The escape character is not in a text. -/
def Unescaped (s : String) : Prop :=
  '\x1b' ∉ s.toList

instance (s : String) : Decidable (Unescaped s) :=
  inferInstanceAs (Decidable ('\x1b' ∉ s.toList))

/-! ### Texts put together -/

@[simp] theorem unescaped_ofList {s : List Char} : Unescaped (String.ofList s) ↔ '\x1b' ∉ s := by
  rw [Unescaped, String.toList_ofList]

@[simp] theorem unescaped_append {s t : String} :
    Unescaped (s ++ t) ↔ Unescaped s ∧ Unescaped t := by
  simp [Unescaped, String.toList_append]

theorem unescaped_join {texts : List String} (h : ∀ s ∈ texts, Unescaped s) :
    Unescaped (String.join texts) := by
  rw [Unescaped, String.toList_join]
  intro hmem
  obtain ⟨s, hs, hescape⟩ := List.mem_flatMap.1 hmem
  exact h s hs hescape

/-- What holds of the characters of a separator and of some texts holds of those of all together. -/
theorem forall_mem_intercalate {p : Char → Prop} {sep : String} {texts : List String}
    (hsep : ∀ c ∈ sep.toList, p c) (h : ∀ s ∈ texts, ∀ c ∈ s.toList, p c) :
    ∀ c ∈ (sep.intercalate texts).toList, p c := by
  induction texts with
  | nil => simp
  | cons s texts ih =>
    have hs : ∀ c ∈ s.toList, p c := h s List.mem_cons_self
    have hrest := ih fun t ht ↦ h t (List.mem_cons_of_mem s ht)
    rcases texts with - | ⟨t, texts⟩
    · rwa [String.intercalate_singleton]
    · rw [String.intercalate_cons_cons, String.toList_append, String.toList_append]
      simp only [List.forall_mem_append]
      exact ⟨⟨hs, hsep⟩, hrest⟩

theorem unescaped_intercalate {sep : String} {texts : List String} (hsep : Unescaped sep)
    (h : ∀ s ∈ texts, Unescaped s) : Unescaped (sep.intercalate texts) :=
  List.forall_mem_ne'.1 <| forall_mem_intercalate (List.forall_mem_ne'.2 hsep) fun s hs ↦
    List.forall_mem_ne'.2 (h s hs)

theorem unescaped_blanks (n : Nat) : Unescaped (blanks n) := by
  simp [blanks]

theorem unescaped_pad {align : Align} {width : Nat} {s : String} (h : Unescaped s) :
    Unescaped (pad align width s) := by
  cases align <;> simp [pad, h, unescaped_blanks]

/-! ### Numbers -/

theorem Numeral.unescaped {s : List Char} (h : Numeral s) : '\x1b' ∉ s :=
  h.notMem (by decide)

theorem unescaped_toString (n : Nat) : Unescaped (toString n) := by
  rw [Nat.toString_eq_ofList_toDigits, unescaped_ofList]
  exact (numeral_toDigits n).unescaped

theorem unescaped_fixedText (places : Nat) (x : Float) : Unescaped (fixedText places x) :=
  (numeral_fixedText places x).unescaped

theorem unescaped_percentileLabel (percent : Float) : Unescaped (percentileLabel percent) := by
  rw [percentileLabel, unescaped_append]
  refine ⟨by decide, ?_⟩
  split
  · exact unescaped_fixedText 0 percent
  · exact (numeral_plainText percent).unescaped

/-! ### JSON -/

namespace Json

/-- A text without control characters: no escape character, and no line end. -/
def Printable (s : String) : Prop :=
  s.toList.all (fun c ↦ 0x20 ≤ c.toNat) = true

instance (s : String) : Decidable (Printable s) :=
  inferInstanceAs (Decidable (_ = true))

theorem Printable.notMem {s : String} (h : Printable s) {c : Char} (hc : c.toNat < 0x20) :
    c ∉ s.toList := by
  intro hmem
  have hle : 0x20 ≤ c.toNat := of_decide_eq_true (List.all_eq_true.1 h c hmem)
  omega

@[simp] theorem printable_append {s t : String} :
    Printable (s ++ t) ↔ Printable s ∧ Printable t := by
  simp only [Printable, String.toList_append, List.all_append, Bool.and_eq_true]

theorem printable_intercalate {sep : String} {texts : List String} (hsep : Printable sep)
    (h : ∀ s ∈ texts, Printable s) : Printable (sep.intercalate texts) :=
  List.all_eq_true.2 <| forall_mem_intercalate (List.all_eq_true.1 hsep) fun s hs ↦
    List.all_eq_true.1 (h s hs)

theorem printable_of_numeral {s : String} (h : Numeral s.toList) : Printable s := by
  refine List.all_eq_true.2 fun c hc ↦
    isNumeral_cases (fun c ↦ 0x20 ≤ c.toNat) (h c hc) (fun hdigit ↦ ?_) (by decide)
  simp only [Char.isDigit, Bool.and_eq_true, decide_eq_true_eq, UInt32.le_iff_toNat_le] at hdigit
  exact decide_eq_true (Nat.le_trans (by decide) hdigit.1)

theorem numeral_floatText (x : Float) : Numeral (floatText x).toList ∨ floatText x = "null" := by
  rw [floatText, dataText?]
  split
  · exact .inl (by simpa using numeral_finiteDataText _ _ _)
  · exact .inr rfl

theorem numeral_toString_int (n : Int) : Numeral (toString n).toList := by
  have hnat (n : Nat) : Numeral (toString n).toList := by
    rw [Nat.toString_eq_ofList_toDigits, String.toList_ofList]
    exact numeral_toDigits n
  rcases n with n | n
  · exact hnat n
  · show Numeral ("-" ++ toString (n + 1)).toList
    rw [String.toList_append]
    exact .append (.cons rfl .nil) (hnat (n + 1))

theorem printable_hexDigit : ∀ n < 16, 0x20 ≤ (hexDigit n).toNat := by decide

/-- Between quotes every control character is escaped. -/
theorem printable_escapeChar (c : Char) : (escapeChar c).all (fun c ↦ 0x20 ≤ c.toNat) = true := by
  rw [escapeChar.eq_def]
  split
  case h_8 =>
    by_cases hcontrol : c.toNat < 0x20
    · have hfirst := printable_hexDigit (c.toNat / 16) (by omega)
      have hsecond := printable_hexDigit (c.toNat % 16) (by omega)
      simp [hcontrol, hfirst, hsecond]
    · simp [hcontrol, Nat.not_lt.1 hcontrol]
  all_goals decide

theorem printable_quote (s : String) : Printable (quote s) := by
  have hchars : Printable (String.ofList (s.toList.flatMap escapeChar)) := by
    rw [Printable, String.toList_ofList, List.all_flatMap]
    exact List.all_eq_true.2 fun c _ ↦ printable_escapeChar c
  exact printable_append.2 ⟨printable_append.2 ⟨by decide, hchars⟩, by decide⟩

mutual

/-- A value without blanks has no control character in it, whatever its texts hold. -/
theorem printable_compact (value : Json) : Printable value.compact := by
  cases value with
  | null => decide
  | bool b => cases b <;> decide
  | int n => exact printable_of_numeral (numeral_toString_int n)
  | float x =>
    rcases numeral_floatText x with h | h
    · exact printable_of_numeral h
    · rw [compact, h]
      decide
  | str s => exact printable_quote s
  | arr items =>
    rw [compact, printable_append, printable_append]
    exact ⟨⟨by decide, printable_intercalate (by decide) (printable_compactItems items)⟩,
      by decide⟩
  | obj members =>
    rw [compact, printable_append, printable_append]
    exact ⟨⟨by decide, printable_intercalate (by decide) (printable_compactMembers members)⟩,
      by decide⟩

/-- The items of a list without blanks. -/
theorem printable_compactItems (items : List Json) : ∀ s ∈ compactItems items, Printable s := by
  intro s hs
  rcases items with - | ⟨item, rest⟩
  · cases hs
  · rw [compactItems] at hs
    rcases List.mem_cons.1 hs with rfl | hs
    · exact printable_compact item
    · exact printable_compactItems rest s hs

/-- The members of an object without blanks. -/
theorem printable_compactMembers (members : List (String × Json)) :
    ∀ s ∈ compactMembers members, Printable s := by
  intro s hs
  rcases members with - | ⟨⟨key, value⟩, rest⟩
  · cases hs
  · rw [compactMembers] at hs
    rcases List.mem_cons.1 hs with rfl | hs
    · rw [printable_append, printable_append]
      exact ⟨⟨printable_quote key, by decide⟩, printable_compact value⟩
    · exact printable_compactMembers rest s hs

end

/-- The escape character is a control character. -/
theorem unescaped_compact (value : Json) : Unescaped value.compact :=
  (printable_compact value).notMem (by decide)

end Json

/-! ### Times -/

theorem unescaped_zeroPadded (width n : Nat) : Unescaped (Stamp.zeroPadded width n) := by
  rw [Stamp.zeroPadded, unescaped_ofList]
  exact ((numeral_zeros _).append (numeral_toDigits n)).unescaped

/-- The time of day in a stamp. -/
theorem unescaped_clock (nanos : Nat) : Unescaped (Stamp.ofNanos nanos).clock := by
  have hcolon : Unescaped ":" := by decide
  have hpoint : Unescaped "." := by decide
  simp [Stamp.ofNanos, Stamp.clockText, unescaped_zeroPadded, hcolon, hpoint]

end LatencyCurve
