import LatencyCurve.Proofs.Numerals
import LatencyCurve.Proofs.Segments
import LatencyCurve.Text.Blank
import LatencyCurve.Text.Styled
import Mathlib.Data.List.Forall2
import Mathlib.Data.List.TakeWhile

/-!
# Tables as text

A table of labels and values is printed in rows of one frame: what stands at the left of the labels,
between the two columns and at the right of the values is the same in every row (`Frame`). There may
be rules between the rows, made of characters that no label begins with. A text is read without
knowing the frame or the widths of the columns:

* its table is what stands behind its last empty line (`tableOf`);
* the rows are the lines that are no rules (`rowsOf`);
* the value of a row is its last word, and its label is what stands in front of that (`readRow`).

Whatever the frame, a text that has been laid out in rows and rules of one width
(`Frame.LaidOut`) is read back cell by cell, its lines are equally long, and its values end in one
column (`Frame.LaidOut.showsTable`).
-/

namespace LatencyCurve

/-! ### Reading a table -/

/-- The characters between cells and around them. -/
def isFrame (c : Char) : Bool :=
  c = ' ' || c = '|'

/-- The characters that rules are made of. -/
def isRuleChar (c : Char) : Bool :=
  c = ' ' || c = '+' || c = '-' || c = '─'

/-- A line between rows, or over or under them. -/
def isRule (line : List Char) : Bool :=
  line.all isRuleChar

/-- The lines of the table at the end of a text: those behind the last empty line. -/
def tableOf (text : String) : List (List Char) :=
  ((piecesAt '\n' text.toList).reverse.takeWhile (· ≠ [])).reverse

/-- The lines of the table at the end of a text that are no rules. -/
def rowsOf (text : String) : List (List Char) :=
  (tableOf text).filter (!isRule ·)

/-- The label and the value that a row shows. -/
def readRow (line : List Char) : List Char × List Char :=
  let backwards := line.reverse.dropWhile isFrame
  let label := ((backwards.dropWhile (!isFrame ·)).dropWhile isFrame).reverse
  (label.dropWhile isFrame, (backwards.takeWhile (!isFrame ·)).reverse)

/-- A line shows a label and a value in full, with nothing but its frame around them: the label
begins behind `first` characters, and the value ends with character number `last`. -/
def ShowsCells (first last : Nat) (line : List Char) (cells : String × String) : Prop :=
  ∃ lead between behind : List Char,
    line = lead ++ cells.1.toList ++ between ++ cells.2.toList ++ behind ∧
      (∀ c ∈ lead ++ between ++ behind, isFrame c = true) ∧ lead.length = first ∧
      (lead ++ cells.1.toList ++ between ++ cells.2.toList).length = last

/-! ### Runs at the ends of a text -/

section Runs

variable {p : Char → Bool} {s t : List Char}

/-- What follows a run of a class is left of it. -/
theorem dropWhile_append_of_head? (hs : ∀ c ∈ s, p c = true) (ht : ∀ c ∈ t.head?, p c = false) :
    (s ++ t).dropWhile p = t := by
  rw [dropWhile_append_rest ht, List.dropWhile_eq_nil_iff.2 hs, List.nil_append]

/-- A run of a class is all that is taken. -/
theorem takeWhile_append_of_head? (hs : ∀ c ∈ s, p c = true) (ht : ∀ c ∈ t.head?, p c = false) :
    (s ++ t).takeWhile p = s := by
  rw [takeWhile_append_rest ht, List.takeWhile_eq_self_iff.2 hs]

end Runs

/-- A text ends with a character that can be seen. -/
def EndsVisibly (s : List Char) : Prop :=
  ∃ c ∈ s.getLast?, isBlank c = false

namespace EndsVisibly

variable {s : List Char}

theorem ne_nil (h : EndsVisibly s) : s ≠ [] := by
  rintro rfl
  obtain ⟨c, hc, -⟩ := h
  cases hc

/-- Such a text is not trimmed. -/
theorem trimEnd_eq (h : EndsVisibly s) : trimEnd s = s := by
  obtain ⟨c, hc, hblank⟩ := h
  obtain ⟨init, rfl⟩ := List.getLast?_eq_some_iff.1 hc
  exact trimEnd_concat hblank

theorem append_left (h : EndsVisibly s) (t : List Char) : EndsVisibly (t ++ s) := by
  rw [EndsVisibly, List.getLast?_append_of_ne_nil _ h.ne_nil]
  exact h

theorem intercalate {sep : List Char} {texts : List (List Char)} (hne : texts ≠ [])
    (h : ∀ s ∈ texts, EndsVisibly s) : EndsVisibly (sep.intercalate texts) := by
  induction texts with
  | nil => exact absurd rfl hne
  | cons s texts ih =>
    obtain ⟨hs, htexts⟩ := List.forall_mem_cons.1 h
    cases texts with
    | nil => rwa [List.intercalate_singleton]
    | cons t texts =>
      rw [List.intercalate_cons_of_ne_nil (List.cons_ne_nil _ _)]
      exact (ih (List.cons_ne_nil _ _) htexts).append_left _

end EndsVisibly

/-! ### Cells -/

/-- A text that can be told from the frame around it: it begins with a letter, ends with a character
that belongs to no frame, and has no line feed in it. -/
structure IsLabel (s : List Char) : Prop where
  /-- It begins with a letter. -/
  head : ∃ c ∈ s.head?, c.isAlpha = true
  /-- It does not end with the frame. -/
  last : ∀ c ∈ s.getLast?, isFrame c = false
  /-- It is on one line. -/
  notMem : '\n' ∉ s

/-- A text of which no character belongs to the frame. -/
structure IsWord (s : List Char) : Prop where
  /-- There is a character. -/
  ne_nil : s ≠ []
  /-- None belongs to the frame. -/
  all : ∀ c ∈ s, isFrame c = false ∧ isBlank c = false
  /-- It is on one line. -/
  notMem : '\n' ∉ s

/-- Letters belong neither to frames nor to rules. -/
theorem not_frame_of_isAlpha {c : Char} (h : c.isAlpha = true) :
    isFrame c = false ∧ isRuleChar c = false := by
  have hne {c' : Char} (h' : c'.isAlpha = false) : c ≠ c' := by
    rintro rfl
    rw [h] at h'
    cases h'
  have hfresh : c ≠ ' ' ∧ c ≠ '|' ∧ c ≠ '+' ∧ c ≠ '-' ∧ c ≠ '─' :=
    ⟨hne rfl, hne rfl, hne rfl, hne rfl, hne rfl⟩
  simp [isFrame, isRuleChar, hfresh]

/-- **A row is read back**, however its frame is made up. -/
theorem readRow_append {lead label between value behind : List Char}
    (hframe : ∀ c ∈ lead ++ between ++ behind, isFrame c = true) (hbetween : between ≠ [])
    (hlabel : IsLabel label) (hvalue : IsWord value) :
    readRow (lead ++ label ++ between ++ value ++ behind) = (label, value) := by
  simp only [List.forall_mem_append] at hframe
  obtain ⟨⟨hlead, hgap⟩, hbehind⟩ := hframe
  obtain ⟨c, hc, halpha⟩ := hlabel.head
  have hreverse : (lead ++ label ++ between ++ value ++ behind).reverse =
      behind.reverse ++ (value.reverse ++ (between.reverse ++ (lead ++ label).reverse)) := by
    simp
  -- Going backwards, each part ends where the next begins.
  have hvalue_head : ∀ c ∈ (value.reverse ++ (between.reverse ++ (lead ++ label).reverse)).head?,
      isFrame c = false := by
    intro c hc
    rw [List.head?_append_of_ne_nil _ (by simpa using hvalue.ne_nil), List.head?_reverse] at hc
    exact (hvalue.all c (List.mem_of_mem_getLast? hc)).1
  have hbetween_head : ∀ c ∈ (between.reverse ++ (lead ++ label).reverse).head?,
      (!isFrame c) = false := by
    intro c hc
    rw [List.head?_append_of_ne_nil _ (by simpa using hbetween), List.head?_reverse] at hc
    simp [hgap c (List.mem_of_mem_getLast? hc)]
  have hlabel_head : ∀ c ∈ (lead ++ label).reverse.head?, isFrame c = false := by
    intro c' hc'
    have hne : label ≠ [] := by
      rintro rfl
      cases hc
    rw [List.head?_reverse, List.getLast?_append_of_ne_nil _ hne] at hc'
    exact hlabel.last c' hc'
  have hword : ∀ c ∈ value.reverse, (!isFrame c) = true := by
    intro c hc
    simp [(hvalue.all c (List.mem_reverse.1 hc)).1]
  have hbackwards : (lead ++ label ++ between ++ value ++ behind).reverse.dropWhile isFrame =
      value.reverse ++ (between.reverse ++ (lead ++ label).reverse) := by
    rw [hreverse]
    exact dropWhile_append_of_head? (fun c hc ↦ hbehind c (List.mem_reverse.1 hc)) hvalue_head
  have hstart : ∀ c ∈ label.head?, isFrame c = false := by
    intro c' hc'
    obtain rfl : c = c' := Option.some.inj (hc.symm.trans hc')
    exact (not_frame_of_isAlpha halpha).1
  simp only [readRow, hbackwards]
  rw [takeWhile_append_of_head? hword hbetween_head, dropWhile_append_of_head? hword hbetween_head,
    dropWhile_append_of_head? (fun c hc ↦ hgap c (List.mem_reverse.1 hc)) hlabel_head,
    List.reverse_reverse, List.reverse_reverse, dropWhile_append_of_head? hlead hstart]

example : readRow "| std dev    |        0.021 |".toList = ("std dev".toList, "0.021".toList) := by
  decide

/-! ### Frames -/

/-- What stands around the cells of a row. -/
structure Frame where
  /-- At the left of the label -/
  left : String
  /-- Between the label and the value -/
  middle : String
  /-- At the right of the value -/
  right : String

namespace Frame

/-- The row of a label and a value, given the widths of the two columns. -/
def row (f : Frame) (names values : Nat) (cells : String × String) : String :=
  f.left ++ pad .left names cells.1 ++ f.middle ++ pad .right values cells.2 ++ f.right

/-- How long a row is. -/
def width (f : Frame) (names values : Nat) : Nat :=
  f.left.length + names + f.middle.length + values + f.right.length

/-- A frame is made of its own characters, and it keeps the columns apart. -/
structure Sound (f : Frame) : Prop where
  /-- The characters of frames. -/
  all : ∀ c ∈ f.left.toList ++ f.middle.toList ++ f.right.toList, isFrame c = true
  /-- There is something between the columns. -/
  middle_ne : f.middle.toList ≠ []
  /-- Rows do not end with a blank of the frame. -/
  right : f.right.toList = [] ∨ EndsVisibly f.right.toList

variable {f : Frame} {names values : Nat} {cells : String × String}

/-- A label and a value that a row of some widths has room for. -/
structure Fits (names values : Nat) (cells : String × String) : Prop where
  /-- There is room for the label. -/
  label_le : cells.1.length ≤ names
  /-- There is room for the value. -/
  value_le : cells.2.length ≤ values
  /-- The label can be told from the frame. -/
  isLabel : IsLabel cells.1.toList
  /-- The value ends with a character that can be seen. -/
  endsVisibly : EndsVisibly cells.2.toList
  /-- The value is on one line. -/
  notMem : '\n' ∉ cells.2.toList

/-- **All rows of a frame are equally long.** -/
theorem length_row (h : Fits names values cells) : (f.row names values cells).length =
    f.width names values := by
  simp only [row, width, String.length_append, length_pad, Nat.max_eq_left h.label_le,
    Nat.max_eq_left h.value_le]

/-- A row, part by part. -/
theorem toList_row (f : Frame) (names values : Nat) (cells : String × String) :
    (f.row names values cells).toList =
      f.left.toList ++ cells.1.toList ++
        ((blanks (names - cells.1.length)).toList ++ f.middle.toList ++
          (blanks (values - cells.2.length)).toList) ++
        cells.2.toList ++ f.right.toList := by
  simp [row, pad]

/-- What stands between the cells of a row. -/
theorem Sound.isFrame_of_mem (hf : f.Sound) (m n : Nat) :
    ∀ c ∈ f.left.toList ++ ((blanks m).toList ++ f.middle.toList ++ (blanks n).toList) ++
      f.right.toList, isFrame c = true := by
  have hblanks (n : Nat) : ∀ c ∈ (blanks n).toList, isFrame c = true := by
    intro c hc
    rw [blanks, String.toList_ofList] at hc
    rw [List.eq_of_mem_replicate hc]
    rfl
  have hall := hf.all
  simp only [List.forall_mem_append] at hall ⊢
  exact ⟨⟨hall.1.1, ⟨hblanks m, hall.1.2⟩, hblanks n⟩, hall.2⟩

/-- **In a row of a frame both cells are shown**, the label at the left of its column and the value
at the right of its own. -/
theorem Sound.showsCells_row (hf : f.Sound) (h : Fits names values cells) :
    ShowsCells f.left.length (f.left.length + names + f.middle.length + values)
      (f.row names values cells).toList cells := by
  refine ⟨_, _, _, toList_row .., hf.isFrame_of_mem _ _, String.length_toList, ?_⟩
  have hlabel := h.label_le
  have hvalue := h.value_le
  simp only [List.length_append, String.length_toList, length_blanks]
  omega

theorem Sound.readRow_row (hf : f.Sound) (h : Fits names values cells)
    (hword : IsWord cells.2.toList) :
    readRow (f.row names values cells).toList = (cells.1.toList, cells.2.toList) := by
  rw [toList_row]
  exact readRow_append (hf.isFrame_of_mem _ _) (by simp [hf.middle_ne]) h.isLabel hword

/-- A row is no rule. -/
theorem isRule_row (h : Fits names values cells) :
    isRule (f.row names values cells).toList = false := by
  obtain ⟨c, hc, halpha⟩ := h.isLabel.head
  have hmem : c ∈ (f.row names values cells).toList := by
    rw [toList_row]
    simp [List.mem_of_mem_head? hc]
  rw [isRule, List.all_eq_false]
  exact ⟨c, hmem, by rw [(not_frame_of_isAlpha halpha).2]; exact Bool.false_ne_true⟩

theorem Sound.endsVisibly_row (hf : f.Sound) (h : Fits names values cells) :
    EndsVisibly (f.row names values cells).toList := by
  rw [toList_row]
  rcases hf.right with hright | hright
  · rw [hright, List.append_nil]
    exact h.endsVisibly.append_left _
  · exact hright.append_left _

theorem Sound.notMem_row (hf : f.Sound) (h : Fits names values cells) :
    '\n' ∉ (f.row names values cells).toList := by
  have hframe := hf.isFrame_of_mem (names - cells.1.length) (values - cells.2.length)
  have hfeed : '\n' ∉ f.left.toList ++ ((blanks (names - cells.1.length)).toList ++
      f.middle.toList ++ (blanks (values - cells.2.length)).toList) ++ f.right.toList := by
    intro hmem
    exact absurd (hframe _ hmem) (by decide)
  rw [toList_row]
  simp only [List.mem_append, not_or] at hfeed ⊢
  exact ⟨⟨⟨⟨hfeed.1.1, h.isLabel.notMem⟩, hfeed.1.2⟩, h.notMem⟩, hfeed.2⟩

/-! ### Tables in a frame -/

/-- Lines are the rows of some labels and values in a frame, and rules as long as these rows. -/
structure LaidOut (f : Frame) (names values : Nat) (cells : List (String × String))
    (lines : List String) : Prop where
  /-- The lines that are no rules are the rows. -/
  rows_eq : lines.filter (fun l ↦ !isRule l.toList) = cells.map (f.row names values)
  /-- There is room for all cells. -/
  fits : ∀ c ∈ cells, Fits names values c
  /-- Rules are as long as rows. -/
  length_rule : ∀ l ∈ lines, isRule l.toList = true → l.length = f.width names values
  /-- Rules end with a character that can be seen, and are lines. -/
  rule : ∀ l ∈ lines, isRule l.toList = true → EndsVisibly l.toList ∧ '\n' ∉ l.toList

end Frame

/-- What there is to be read in a text with a table at its end: the lines of the table are equally
long, its labels begin in one column and its values end in one, the names of the columns included, no
cell is cut off, and the rows are read back. To trim the lines or the text takes nothing away. -/
structure ShowsTable (text : String) (names : String × String) (cells : List (String × String)) :
    Prop where
  /-- All lines are equally long. -/
  rectangular : ∃ width, ∀ line ∈ tableOf text, line.length = width
  /-- All rows show their cells in full, in common columns. -/
  aligned : ∃ first last, List.Forall₂ (ShowsCells first last) (rowsOf text) (names :: cells)
  /-- The rows under the names of the columns are read back. -/
  readBack : (rowsOf text).tail.map readRow = cells.map fun c ↦ (c.1.toList, c.2.toList)
  /-- Nothing is there to be trimmed. -/
  trimmed : trimEnd text.toList = text.toList ∧ ∀ line ∈ tableOf text, trimEnd line = line

/-- The table behind an empty line, if there is none among its own lines. -/
theorem tableOf_append (front : String) {lines : List String} (hne : lines ≠ [])
    (h : ∀ l ∈ lines, l.toList ≠ [] ∧ '\n' ∉ l.toList) :
    tableOf (front ++ "\n\n" ++ "\n".intercalate lines) = lines.map (·.toList) := by
  have htext : (front ++ "\n\n" ++ "\n".intercalate lines).toList =
      front.toList ++ '\n' :: ([] ++ '\n' :: ['\n'].intercalate (lines.map (·.toList))) := by
    simp [String.toList_append, String.toList_intercalate]
  have hpieces : piecesAt '\n' (['\n'].intercalate (lines.map (·.toList))) =
      lines.map (·.toList) :=
    piecesAt_intercalate (by simpa using hne) (by simpa using fun l hl ↦ (h l hl).2)
  have hlines : ∀ l ∈ (lines.map (·.toList)).reverse, decide (l ≠ []) = true := by
    intro l hl
    obtain ⟨l', hl', rfl⟩ := List.mem_map.1 (List.mem_reverse.1 hl)
    simpa using (h l' hl').1
  rw [tableOf, htext, piecesAt_append_sep, piecesAt_append_sep, hpieces, List.reverse_append,
    List.reverse_append, List.append_assoc, List.takeWhile_append_of_pos hlines]
  simp

namespace Frame.LaidOut

variable {f : Frame} {names values : Nat} {header : String × String}
  {cells cells' : List (String × String)} {lines lines' : List String}

/-- Rows are laid out. -/
theorem rows (f : Frame) (h : ∀ c ∈ cells, Fits names values c) :
    f.LaidOut names values cells (cells.map (f.row names values)) where
  rows_eq := by
    rw [List.filter_eq_self, List.forall_mem_map]
    intro c hc
    rw [isRule_row (h c hc)]
    rfl
  fits := h
  length_rule := by
    rw [List.forall_mem_map]
    intro c hc hrule
    rw [isRule_row (h c hc)] at hrule
    cases hrule
  rule := by
    rw [List.forall_mem_map]
    intro c hc hrule
    rw [isRule_row (h c hc)] at hrule
    cases hrule

/-- A rule is laid out. -/
theorem singleton {l : String} (hrule : isRule l.toList = true)
    (hlength : l.length = f.width names values) (hl : EndsVisibly l.toList ∧ '\n' ∉ l.toList) :
    f.LaidOut names values [] [l] where
  rows_eq := by simp [hrule]
  fits := List.forall_mem_nil _
  length_rule := List.forall_mem_singleton.2 fun _ ↦ hlength
  rule := List.forall_mem_singleton.2 fun _ ↦ hl

/-- What is laid out can be put together. -/
theorem append (h : f.LaidOut names values cells lines)
    (h' : f.LaidOut names values cells' lines') :
    f.LaidOut names values (cells ++ cells') (lines ++ lines') where
  rows_eq := by rw [List.filter_append, h.rows_eq, h'.rows_eq, List.map_append]
  fits := List.forall_mem_append.2 ⟨h.fits, h'.fits⟩
  length_rule := List.forall_mem_append.2 ⟨h.length_rule, h'.length_rule⟩
  rule := List.forall_mem_append.2 ⟨h.rule, h'.rule⟩

/-- A line is a rule or a row. -/
theorem isRule_or (h : f.LaidOut names values cells lines) {l : String} (hl : l ∈ lines) :
    isRule l.toList = true ∨ ∃ c ∈ cells, f.row names values c = l := by
  cases hrule : isRule l.toList with
  | true => exact .inl rfl
  | false =>
    have hrow : l ∈ lines.filter (fun l ↦ !isRule l.toList) :=
      List.mem_filter.2 ⟨hl, by simp [hrule]⟩
    rw [h.rows_eq] at hrow
    exact .inr (List.mem_map.1 hrow)

/-- All lines are equally long. -/
theorem length_eq (h : f.LaidOut names values cells lines) {l : String} (hl : l ∈ lines) :
    l.length = f.width names values := by
  rcases h.isRule_or hl with hrule | ⟨c, hc, rfl⟩
  · exact h.length_rule l hl hrule
  · exact length_row (h.fits c hc)

/-- All lines end with a character that can be seen, and are lines. -/
theorem endsVisibly (h : f.LaidOut names values cells lines) (hf : f.Sound) {l : String}
    (hl : l ∈ lines) : EndsVisibly l.toList ∧ '\n' ∉ l.toList := by
  rcases h.isRule_or hl with hrule | ⟨c, hc, rfl⟩
  · exact h.rule l hl hrule
  · exact ⟨hf.endsVisibly_row (h.fits c hc), hf.notMem_row (h.fits c hc)⟩

/-- **What has been laid out is read back**, whatever stands over it. -/
theorem showsTable (h : f.LaidOut names values (header :: cells) lines) (hf : f.Sound)
    (hwords : ∀ c ∈ cells, IsWord c.2.toList) (front : String) :
    ShowsTable (front ++ "\n\n" ++ "\n".intercalate lines) header cells := by
  have hne : lines ≠ [] := by
    rintro rfl
    exact List.cons_ne_nil _ _ h.rows_eq.symm
  have htable := tableOf_append front hne fun l hl ↦
    ⟨(h.endsVisibly hf hl).1.ne_nil, (h.endsVisibly hf hl).2⟩
  have hrows : rowsOf (front ++ "\n\n" ++ "\n".intercalate lines) =
      (header :: cells).map fun c ↦ (f.row names values c).toList := by
    have hrows := congrArg (List.map String.toList) h.rows_eq
    rw [List.map_map] at hrows
    rwa [rowsOf, htable, List.filter_map]
  constructor
  · refine ⟨f.width names values, ?_⟩
    rw [htable, List.forall_mem_map]
    exact fun l hl ↦ String.length_toList.trans (h.length_eq hl)
  · refine ⟨f.left.length, f.left.length + names + f.middle.length + values, ?_⟩
    rw [hrows, List.forall₂_map_left_iff, List.forall₂_same]
    exact fun c hc ↦ hf.showsCells_row (h.fits c hc)
  · rw [hrows, List.map_cons, List.tail_cons, List.map_map]
    exact List.map_congr_left fun c hc ↦
      hf.readRow_row (h.fits c (List.mem_cons_of_mem _ hc)) (hwords c hc)
  · refine ⟨EndsVisibly.trimEnd_eq ?_, ?_⟩
    · rw [String.toList_append, String.toList_intercalate]
      refine .append_left (.intercalate (by simpa using hne) ?_) _
      rw [List.forall_mem_map]
      exact fun l hl ↦ (h.endsVisibly hf hl).1
    · rw [htable, List.forall_mem_map]
      exact fun l hl ↦ (h.endsVisibly hf hl).1.trimEnd_eq

end Frame.LaidOut

end LatencyCurve
