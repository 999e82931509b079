import LatencyCurve.Proofs.Fields
import LatencyCurve.Proofs.JsonNumbers
import LatencyCurve.Proofs.Unescaped

/-!
# JSON is read back as it was written

The compact form of a value says the value (`Legible.reads`): integers have 64 bits, other numbers
are read back from their digits, and the members of objects stand in the order of their keys. The
members of an object in any other order come back as a map (`read?_compact_obj`), which is the same
to whoever looks them up (`bind_read?_compact_obj`).

A value is read back if and only if there is room for it: what is nested deeper than the reader goes
(`depth`) is refused as a whole, however deep the part of it lies that is too much.

* **Texts** are read back character by character: what a character is escaped as stands for it
  (`readText_escapeChar`).
* **Values** inside others are followed by a comma or a bracket and begin with no blank, so the
  reader finds the end of each where it was written (`Reads`). The induction is on the value; the
  items of a list and the members of an object are a list induction each (`readItems_itemsText`,
  `readMembers_membersText`).
-/

namespace LatencyCurve.Json

/-! ### Texts -/

theorem hexUnit?_hexDigit :
    ∀ n < 0x20, hexUnit? '0' '0' (hexDigit (n / 16)) (hexDigit (n % 16)) = some n := by
  decide

/-- What a character is written as stands for it. -/
theorem readText_escapeChar (acc : List Char) (c : Char) (s : List Char) :
    readText acc (escapeChar c ++ s) = readText (c :: acc) s := by
  rw [escapeChar.eq_def]
  split
  case h_8 hquote hbackslash _ _ _ _ _ =>
    by_cases hcontrol : c.toNat < 0x20
    · have hunit : unitChar? c.toNat = some c := by
        have hlow : c.toNat < 0xD800 := by omega
        simp [unitChar?, Nat.not_le.2 hlow, Char.ofNat_toNat]
      simp only [if_pos hcontrol, List.cons_append, List.nil_append, readText,
        hexUnit?_hexDigit _ hcontrol, hunit]
    · have hne : c ≠ '\\' := hbackslash
      rw [if_neg hcontrol, List.singleton_append, readText]
      · simp [hcontrol, hne]
      · exact hquote
      · intro a b c d s heq
        exact absurd heq hne
      · intro e s heq
        exact absurd heq hne
  all_goals rfl

/-- **A text is read back from its written form.** -/
theorem readText_flatMap_escapeChar (acc s rest : List Char) :
    readText acc (s.flatMap escapeChar ++ '"' :: rest) =
      some (String.ofList (acc.reverse ++ s), rest) := by
  induction s generalizing acc with
  | nil => simp [readText]
  | cons c s ih =>
    rw [List.flatMap_cons, List.append_assoc, readText_escapeChar, ih, List.reverse_cons,
      List.append_assoc, List.singleton_append]

theorem readText_quote (s : String) :
    ∃ written, (quote s).toList = '"' :: written ∧
      ∀ rest, readText [] (written ++ rest) = some (s, rest) := by
  refine ⟨s.toList.flatMap escapeChar ++ ['"'], ?_, fun rest ↦ ?_⟩
  · simp [quote, String.toList_append]
  · rw [List.append_assoc, List.singleton_append, readText_flatMap_escapeChar]
    simp

/-! ### The first character of a value -/

/-- The characters that a value can start with: no blanks, and no brackets that close. -/
def isStart (c : Char) : Bool :=
  startsNumber c || ['n', 't', 'f', '"', '[', '\x7b'].contains c

theorem isStart_of_startsNumber {c : Char} (h : startsNumber c = true) : isStart c = true := by
  rw [isStart, h, Bool.true_or]

theorem skipBlanks_of_isStart {c : Char} (h : isStart c = true) (s : List Char) :
    skipBlanks (c :: s) = c :: s := by
  rw [skipBlanks, if_neg]
  intro hblank
  simp only [Bool.or_eq_true, decide_eq_true_eq] at hblank
  rcases hblank with ((rfl | rfl) | rfl) | rfl <;> exact absurd h (by decide)

theorem readValue_of_readNumber {s : List Char} {r : Json × List Char} (h : readNumber s = some r)
    (fuel room : Nat) : readValue (fuel + 1) room s = some r := by
  obtain ⟨c, s, rfl, hc⟩ := exists_cons_of_readNumber h
  rw [readValue, skipBlanks_of_isStart (isStart_of_startsNumber hc)]
  split
  case h_7 => exact h
  all_goals
    rename_i heq
    obtain ⟨rfl, -⟩ := List.cons.inj heq
    exact absurd hc (by decide)

/-! ### Depth -/

mutual

/-- How deep lists and objects stand inside each other in a value. -/
def depth : Json → Nat
  | .arr items => depthOfItems items + 1
  | .obj members => depthOfMembers members + 1
  | _ => 0

/-- The depth of the deepest item. -/
def depthOfItems : List Json → Nat
  | [] => 0
  | item :: rest => max (depth item) (depthOfItems rest)

/-- The depth of the deepest member. -/
def depthOfMembers : List (String × Json) → Nat
  | [] => 0
  | (_, value) :: rest => max (depth value) (depthOfMembers rest)

end

theorem depthOfMembers_le_iff {members : List (String × Json)} {n : Nat} :
    depthOfMembers members ≤ n ↔ ∀ m ∈ members, m.2.depth ≤ n := by
  induction members with
  | nil => simp [depthOfMembers]
  | cons member members ih => rw [depthOfMembers, Nat.max_le, ih, List.forall_mem_cons]

theorem depth_obj_le_iff {members : List (String × Json)} {n : Nat} :
    (Json.obj members).depth ≤ n + 1 ↔ ∀ m ∈ members, m.2.depth ≤ n := by
  rw [depth, Nat.succ_le_succ_iff, depthOfMembers_le_iff]

/-! ### Values -/

/-- The text of a value stands for the value, whatever follows it that does not go on with it. -/
structure Reads (v : Json) : Prop where
  /-- The text starts as values do. -/
  start : ∃ c s, v.compact.toList = c :: s ∧ isStart c = true
  /-- The value is what is read, if there is room for it. -/
  read : ∀ fuel room rest, v.compact.toList.length ≤ fuel → Closes rest →
    readValue fuel room (v.compact.toList ++ rest) =
      if v.depth ≤ room then some (v, rest) else none

/-- A text is never empty, so there is fuel for its first character. -/
theorem Reads.of_cons {v : Json} {c : Char} {s : List Char} (htext : v.compact.toList = c :: s)
    (hc : isStart c = true)
    (hread : ∀ fuel room rest, s.length ≤ fuel → Closes rest →
      readValue (fuel + 1) room (c :: (s ++ rest)) =
        if v.depth ≤ room then some (v, rest) else none) : Reads v := by
  refine ⟨⟨c, s, htext, hc⟩, fun fuel room rest hfuel hrest ↦ ?_⟩
  rw [htext, List.length_cons] at hfuel
  obtain ⟨fuel, rfl⟩ := Nat.exists_eq_add_one_of_ne_zero (n := fuel) (by omega)
  rw [htext]
  exact hread fuel room rest (Nat.le_of_succ_le_succ hfuel) hrest

/-- There is always room for a value that is neither a list nor an object. -/
theorem Reads.of_depth_eq_zero {v : Json} (hdepth : v.depth = 0) {c : Char} {s : List Char}
    (htext : v.compact.toList = c :: s) (hc : isStart c = true)
    (hread : ∀ fuel room rest, Closes rest →
      readValue (fuel + 1) room (c :: (s ++ rest)) = some (v, rest)) : Reads v := by
  refine .of_cons htext hc fun fuel room rest _ hrest ↦ ?_
  rw [hread fuel room rest hrest, if_pos (hdepth.trans_le room.zero_le)]

theorem closes_comma (rest : List Char) : Closes (',' :: rest) :=
  .inr ⟨',', rest, rfl, .inl rfl⟩

theorem closes_bracket (rest : List Char) : Closes (']' :: rest) :=
  .inr ⟨']', rest, rfl, .inr (.inl rfl)⟩

theorem closes_brace (rest : List Char) : Closes ('\x7d' :: rest) :=
  .inr ⟨'\x7d', rest, rfl, .inr (.inr rfl)⟩

/-- A number that is read from its own text. -/
theorem reads_of_readNumber {v : Json} (hdepth : v.depth = 0)
    (h : readNumber v.compact.toList = some (v, [])) : Reads v := by
  obtain ⟨c, s, hs, hc⟩ := exists_cons_of_readNumber h
  refine .of_depth_eq_zero hdepth hs (isStart_of_startsNumber hc) fun fuel room rest hrest ↦ ?_
  apply readValue_of_readNumber
  rw [← List.cons_append, ← hs, readNumber_append hrest, h]
  rfl

theorem reads_str (s : String) : Reads (.str s) := by
  obtain ⟨written, hwritten, hread⟩ := readText_quote s
  refine .of_depth_eq_zero rfl hwritten rfl fun fuel room rest _ ↦ ?_
  rw [readValue, skipBlanks_of_isStart rfl]
  simp only [hread rest, Option.map_some]

/-! ### Lists and objects -/

section Steps

variable {fuel room : Nat} {s t rest : List Char} {key : String} {value : Json}

theorem readValue_items {c : Char} (hc : isStart c = true) (s : List Char) :
    readValue (fuel + 1) (room + 1) ('[' :: c :: s) = readItems fuel room [] (c :: s) := by
  rw [readValue, skipBlanks_of_isStart rfl]
  simp only [skipBlanks_of_isStart hc]
  split
  next hroom => cases hroom
  next hempty =>
    obtain ⟨rfl, -⟩ := List.cons.inj hempty
    exact absurd hc (by decide)
  next hroom _ => rw [Nat.succ.inj hroom]

theorem readValue_members (s : List Char) :
    readValue (fuel + 1) (room + 1) ('\x7b' :: '"' :: s) = readMembers fuel room [] ('"' :: s) := by
  rw [readValue, skipBlanks_of_isStart rfl]
  rfl

/-- Where there is no room, nothing is entered. -/
theorem readValue_bracket_zero (s : List Char) : readValue (fuel + 1) 0 ('[' :: s) = none := by
  rw [readValue, skipBlanks_of_isStart rfl]
  rfl

theorem readValue_brace_zero (s : List Char) : readValue (fuel + 1) 0 ('\x7b' :: s) = none := by
  rw [readValue, skipBlanks_of_isStart rfl]
  rfl

theorem readItems_comma (h : readValue fuel room s = some (value, ',' :: rest))
    (acc : List Json) :
    readItems (fuel + 1) room acc s = readItems fuel room (value :: acc) rest := by
  rw [readItems, h]
  rfl

theorem readItems_bracket (h : readValue fuel room s = some (value, ']' :: rest))
    (acc : List Json) :
    readItems (fuel + 1) room acc s = some (.arr (value :: acc).reverse, rest) := by
  rw [readItems, h]
  rfl

theorem readItems_eq_none (h : readValue fuel room s = none) (acc : List Json) :
    readItems (fuel + 1) room acc s = none := by
  rw [readItems, h]

section Members

variable (hkey : readText [] s = some (key, ':' :: t))
include hkey

theorem readMembers_comma (h : readValue fuel room t = some (value, ',' :: rest))
    (acc : List (String × Json)) :
    readMembers (fuel + 1) room acc ('"' :: s) =
      readMembers fuel room ((key, value) :: acc) rest := by
  have hcolon : skipBlanks (':' :: t) = ':' :: t := rfl
  rw [readMembers, skipBlanks_of_isStart rfl]
  simp only [hkey, hcolon, h]
  rfl

theorem readMembers_brace (h : readValue fuel room t = some (value, '\x7d' :: rest))
    (acc : List (String × Json)) :
    readMembers (fuel + 1) room acc ('"' :: s) =
      some (.obj (fieldsOf ((key, value) :: acc).reverse), rest) := by
  have hcolon : skipBlanks (':' :: t) = ':' :: t := rfl
  rw [readMembers, skipBlanks_of_isStart rfl]
  simp only [hkey, hcolon, h]
  rfl

theorem readMembers_eq_none (h : readValue fuel room t = none) (acc : List (String × Json)) :
    readMembers (fuel + 1) room acc ('"' :: s) = none := by
  have hcolon : skipBlanks (':' :: t) = ':' :: t := rfl
  rw [readMembers, skipBlanks_of_isStart rfl]
  simp only [hkey, hcolon, h]

end Members

end Steps

/-- The items of a list as they stand between its brackets. -/
def itemsText (items : List Json) : List Char :=
  (String.intercalate "," (compactItems items)).toList

/-- The members of an object as they stand between its braces. -/
def membersText (members : List (String × Json)) : List Char :=
  (String.intercalate "," (compactMembers members)).toList

theorem toList_compact_arr (items : List Json) :
    (Json.arr items).compact.toList = '[' :: (itemsText items ++ [']']) := by
  rw [compact, String.toList_append, String.toList_append]
  rfl

theorem toList_compact_obj (members : List (String × Json)) :
    (Json.obj members).compact.toList = '\x7b' :: (membersText members ++ ['\x7d']) := by
  rw [compact, String.toList_append, String.toList_append]
  rfl

theorem toList_commas (s t : String) (texts : List String) :
    (String.intercalate "," (s :: t :: texts)).toList =
      s.toList ++ ',' :: (String.intercalate "," (t :: texts)).toList := by
  rw [String.intercalate_cons_cons, String.toList_append, String.toList_append, List.append_assoc]
  rfl

theorem itemsText_singleton (item : Json) : itemsText [item] = item.compact.toList := by
  rw [itemsText, compactItems, compactItems, String.intercalate_singleton]

theorem itemsText_cons_cons (item item' : Json) (items : List Json) :
    itemsText (item :: item' :: items) =
      item.compact.toList ++ ',' :: itemsText (item' :: items) := by
  rw [itemsText, itemsText, compactItems, compactItems, toList_commas]

/-- A member is a key in quotes, a colon and a value. -/
theorem exists_membersText_cons (key : String) :
    ∃ written, (∀ rest, readText [] (written ++ rest) = some (key, rest)) ∧
      (∀ value, membersText [(key, value)] = '"' :: (written ++ ':' :: value.compact.toList)) ∧
      ∀ value member members, membersText ((key, value) :: member :: members) =
        '"' :: (written ++ ':' :: (value.compact.toList ++ ',' :: membersText (member :: members))) := by
  obtain ⟨written, hwritten, hread⟩ := readText_quote key
  have htext (value : Json) : (quote key ++ ":" ++ value.compact).toList =
      '"' :: (written ++ ':' :: value.compact.toList) := by
    rw [String.toList_append, String.toList_append, hwritten, List.append_assoc]
    rfl
  refine ⟨written, hread, fun value ↦ ?_, fun value member members ↦ ?_⟩
  · rw [membersText, compactMembers, compactMembers, String.intercalate_singleton, htext]
  · obtain ⟨key', value'⟩ := member
    rw [membersText, membersText, compactMembers, compactMembers, toList_commas, htext,
      List.cons_append, List.append_assoc, List.cons_append]

/-- The items of a list, up to its bracket. Each takes one step to read, and at least one character
more than its own text. -/
theorem readItems_itemsText {items : List Json} (hne : items ≠ []) (h : ∀ item ∈ items, Reads item)
    (acc : List Json) (rest : List Char) (room fuel : Nat)
    (hfuel : (itemsText items).length < fuel) :
    readItems fuel room acc (itemsText items ++ ']' :: rest) =
      if depthOfItems items ≤ room then some (.arr (acc.reverse ++ items), rest) else none := by
  induction items generalizing acc fuel with
  | nil => exact absurd rfl hne
  | cons item items ih =>
    obtain ⟨fuel, rfl⟩ := Nat.exists_eq_add_one_of_ne_zero (n := fuel) (by omega)
    obtain ⟨hitem, hitems⟩ := List.forall_mem_cons.1 h
    rw [depthOfItems]
    rcases items with - | ⟨item', items⟩
    · rw [itemsText_singleton] at hfuel ⊢
      have hread := hitem.read fuel room _ (by omega) (closes_bracket rest)
      rw [depthOfItems, Nat.max_zero]
      by_cases hroom : item.depth ≤ room
      · rw [if_pos hroom] at hread ⊢
        rw [readItems_bracket hread, List.reverse_cons]
      · rw [if_neg hroom] at hread ⊢
        exact readItems_eq_none hread acc
    · rw [itemsText_cons_cons, List.length_append, List.length_cons] at hfuel
      have hread := hitem.read fuel room _ (by omega)
        (closes_comma (itemsText (item' :: items) ++ ']' :: rest))
      rw [itemsText_cons_cons, List.append_assoc, List.cons_append]
      by_cases hroom : item.depth ≤ room
      · rw [if_pos hroom] at hread
        rw [readItems_comma hread, ih (List.cons_ne_nil _ _) hitems (item :: acc) fuel (by omega),
          List.reverse_cons, List.append_assoc]
        simp only [Nat.max_le, hroom, true_and]
        rfl
      · rw [if_neg hroom] at hread
        rw [readItems_eq_none hread, if_neg (mt (Nat.le_trans (Nat.le_max_left _ _)) hroom)]

/-- The members of an object, up to its brace. -/
theorem readMembers_membersText {members : List (String × Json)} (hne : members ≠ [])
    (h : ∀ m ∈ members, Reads m.2) (acc : List (String × Json)) (rest : List Char)
    (room fuel : Nat) (hfuel : (membersText members).length < fuel) :
    readMembers fuel room acc (membersText members ++ '\x7d' :: rest) =
      if depthOfMembers members ≤ room then some (.obj (fieldsOf (acc.reverse ++ members)), rest)
      else none := by
  induction members generalizing acc fuel with
  | nil => exact absurd rfl hne
  | cons member members ih =>
    obtain ⟨key, value⟩ := member
    obtain ⟨fuel, rfl⟩ := Nat.exists_eq_add_one_of_ne_zero (n := fuel) (by omega)
    obtain ⟨hvalue, hmembers⟩ := List.forall_mem_cons.1 h
    change value.Reads at hvalue
    obtain ⟨written, hkey, hsingle, hmore⟩ := exists_membersText_cons key
    rw [depthOfMembers]
    rcases members with - | ⟨member', members⟩
    · rw [hsingle, List.length_cons, List.length_append, List.length_cons] at hfuel
      have hread := hvalue.read fuel room _ (by omega) (closes_brace rest)
      rw [hsingle, List.cons_append, List.append_assoc, List.cons_append, depthOfMembers,
        Nat.max_zero]
      by_cases hroom : value.depth ≤ room
      · rw [if_pos hroom] at hread ⊢
        rw [readMembers_brace (hkey _) hread, List.reverse_cons]
      · rw [if_neg hroom] at hread ⊢
        exact readMembers_eq_none (hkey _) hread acc
    · rw [hmore, List.length_cons, List.length_append, List.length_cons, List.length_append,
        List.length_cons] at hfuel
      have hread := hvalue.read fuel room _ (by omega)
        (closes_comma (membersText (member' :: members) ++ '\x7d' :: rest))
      rw [hmore, List.cons_append, List.append_assoc, List.cons_append, List.append_assoc,
        List.cons_append]
      by_cases hroom : value.depth ≤ room
      · rw [if_pos hroom] at hread
        rw [readMembers_comma (hkey _) hread,
          ih (List.cons_ne_nil _ _) hmembers ((key, value) :: acc) fuel (by omega),
          List.reverse_cons, List.append_assoc]
        simp only [Nat.max_le, hroom, true_and]
        rfl
      · rw [if_neg hroom] at hread
        rw [readMembers_eq_none (hkey _) hread,
          if_neg (mt (Nat.le_trans (Nat.le_max_left _ _)) hroom)]

theorem reads_arr {items : List Json} (h : ∀ item ∈ items, Reads item) : Reads (.arr items) := by
  refine .of_cons (toList_compact_arr items) rfl fun fuel room rest hfuel _ ↦ ?_
  rw [List.length_append] at hfuel
  rw [List.append_assoc, List.singleton_append, depth]
  rcases room with - | room
  · rw [readValue_bracket_zero, if_neg (Nat.not_succ_le_zero _)]
  rcases items with - | ⟨item, items⟩
  · rw [depthOfItems, if_pos (Nat.succ_le_succ room.zero_le), readValue,
      skipBlanks_of_isStart rfl]
    rfl
  · -- The list is told from an empty one by the first character of its first item.
    obtain ⟨c, s, hs, hc⟩ : ∃ c s, itemsText (item :: items) = c :: s ∧ isStart c = true := by
      obtain ⟨c, s, hs, hc⟩ := (h item List.mem_cons_self).start
      rcases items with - | ⟨item', items⟩
      · exact ⟨c, s, (itemsText_singleton item).trans hs, hc⟩
      · exact ⟨c, _, by rw [itemsText_cons_cons, hs, List.cons_append], hc⟩
    have hitems := readItems_itemsText (List.cons_ne_nil _ _) h [] rest room fuel hfuel
    rw [hs, List.cons_append] at hitems ⊢
    rw [readValue_items hc, hitems]
    simp only [Nat.succ_le_succ_iff]
    rfl

/-- An object comes back as a map. -/
theorem readValue_membersText {members : List (String × Json)} (h : ∀ m ∈ members, Reads m.2)
    (rest : List Char) (room fuel : Nat) (hfuel : (membersText members).length < fuel) :
    readValue (fuel + 1) room ('\x7b' :: (membersText members ++ '\x7d' :: rest)) =
      if (Json.obj members).depth ≤ room then some (.obj (fieldsOf members), rest) else none := by
  rw [depth]
  rcases room with - | room
  · rw [readValue_brace_zero, if_neg (Nat.not_succ_le_zero _)]
  rcases members with - | ⟨⟨key, value⟩, members⟩
  · rw [depthOfMembers, if_pos (Nat.succ_le_succ room.zero_le), readValue,
      skipBlanks_of_isStart rfl]
    rfl
  · have hquote : ∃ s, membersText ((key, value) :: members) = '"' :: s := by
      obtain ⟨written, -, hsingle, hmore⟩ := exists_membersText_cons key
      rcases members with - | ⟨member, members⟩
      · exact ⟨_, hsingle value⟩
      · exact ⟨_, hmore value member members⟩
    obtain ⟨s, hs⟩ := hquote
    have hmembers := readMembers_membersText (List.cons_ne_nil _ _) h [] rest room fuel hfuel
    rw [hs, List.cons_append] at hmembers ⊢
    rw [readValue_members, hmembers]
    simp only [Nat.succ_le_succ_iff]
    rfl

/-! ### Every value -/

/-- The values whose text says them: integers have 64 bits, other numbers are read back, and the
members of objects are in order, as they are in maps. -/
inductive Legible : Json → Prop
  | null : Legible .null
  | bool (b : Bool) : Legible (.bool b)
  | int {n : Int} (h : Wide n) : Legible (.int n)
  | float {x : Float} (h : ReadsBack x) : Legible (.float x)
  | str (s : String) : Legible (.str s)
  | arr {items : List Json} (h : ∀ item ∈ items, Legible item) : Legible (.arr items)
  | obj {members : List (String × Json)} (keys : Ascending members)
      (values : ∀ m ∈ members, Legible m.2) : Legible (.obj members)

theorem legible_obj_iff {members : List (String × Json)} :
    Legible (.obj members) ↔ Ascending members ∧ ∀ m ∈ members, Legible m.2 := by
  constructor
  · rintro (_ | _ | _ | _ | _ | _ | ⟨keys, values⟩)
    exact ⟨keys, values⟩
  · rintro ⟨keys, values⟩
    exact .obj keys values

theorem legible_optStr (s : Option String) : Legible (optStr s) := by
  cases s with
  | none => exact .null
  | some s => exact .str s

theorem legible_nat {n : Nat} (h : n < UInt32.size) : Legible (nat n) := by
  refine .int ⟨by omega, ?_⟩
  rw [UInt64.size]
  rw [UInt32.size] at h
  omega

/-- **Every such value is read back from its text**, if there is room for it. -/
theorem Legible.reads {v : Json} (h : Legible v) : Reads v := by
  induction h with
  | null => exact .of_depth_eq_zero rfl rfl rfl fun fuel room rest _ ↦ by rw [readValue]; rfl
  | bool b =>
    cases b <;>
      exact .of_depth_eq_zero rfl rfl rfl fun fuel room rest _ ↦ by rw [readValue]; rfl
  | int h => exact reads_of_readNumber rfl (readNumber_int h)
  | float h => exact reads_of_readNumber rfl h
  | str s => exact reads_str s
  | arr _ ih => exact reads_arr ih
  | @obj members keys _ ih =>
    refine .of_cons (toList_compact_obj members) rfl fun fuel room rest hfuel _ ↦ ?_
    rw [List.length_append] at hfuel
    rw [List.append_assoc, List.singleton_append, readValue_membersText ih rest room fuel hfuel,
      keys.fieldsOf_eq]

/-! ### Forms of structures -/

theorem read?_eq_of_readValue {s : String} {r : Option Json}
    (h : readValue (2 * s.toList.length + 2) depthLimit s.toList = r.map (·, [])) :
    read? s = r := by
  simp only [read?, h]
  cases r <;> rfl

/-- The members of an object need not be in order: they come back as a map. -/
theorem read?_compact_obj {members : List (String × Json)} (h : ∀ m ∈ members, Legible m.2) :
    read? (Json.obj members).compact =
      if (Json.obj members).depth ≤ depthLimit then some (.obj (fieldsOf members)) else none := by
  apply read?_eq_of_readValue
  rw [toList_compact_obj, readValue_membersText (fun m hm ↦ (h m hm).reads) [] depthLimit _ ?_]
  · split <;> rfl
  · simp only [List.length_cons, List.length_append]
    omega

/-- The members of an object; other values have none. -/
def members : Json → List (String × Json)
  | obj members => members
  | _ => []

/-- **Whoever looks at members only is not misled by a text**: what is read from the text of an
object whose keys differ is what is read from the object, unless the object is too deep. -/
theorem bind_read?_compact_obj {α : Type} {ofJson? : Json → Option α}
    (hcongr : ∀ {j j' : Json}, (∀ key, j.member? key = j'.member? key) → ofJson? j = ofJson? j')
    {members : List (String × Json)} (hkeys : (members.map (·.1)).Nodup)
    (h : ∀ m ∈ members, Legible m.2) :
    (read? (Json.obj members).compact).bind ofJson? =
      if (Json.obj members).depth ≤ depthLimit then ofJson? (.obj members) else none := by
  rw [read?_compact_obj h]
  split
  · exact hcongr fun key ↦ lookup_fieldsOf_of_nodup key hkeys
  · rfl

end LatencyCurve.Json
