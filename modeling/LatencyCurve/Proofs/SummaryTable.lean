import LatencyCurve.Proofs.Numerals
import LatencyCurve.Proofs.SummaryLines
import LatencyCurve.Proofs.TableText

/-!
# The table of a summary

All layouts for readers show the same statistics in the rows of some frame: between borders, between
blanks, or indented under a rule (`Plain.bordered`, `Plain.borderless`, `Colored.indented`). The
columns are as wide as their widest cells, so the table can be read back from each of them, and what
is read does not depend on the layout (`layouts_show_same_table`).

The widths are numbers of characters. Every cell of the table has as many bytes as it has characters
(`utf8ByteSize_cells`), so it makes no difference whether characters or bytes are counted.
-/

namespace LatencyCurve

/-! ### The cells -/

/-- The statistics that are shown, with their values as text. -/
def Report.cells (o : Formatting) (r : Report) : List (String × String) :=
  (r.rows o.verbose).map fun x ↦ (x.1, o.millis x.2)

/-- A text of characters of one byte has as many bytes as characters. -/
theorem utf8ByteSize_eq_length {s : String} (h : ∀ c ∈ s.toList, c.utf8Size = 1) :
    s.utf8ByteSize = s.length := by
  rw [← String.length_toList, ← s.ofList_toList, String.toList_ofList]
  revert h
  induction s.toList with
  | nil => exact fun _ ↦ rfl
  | cons c cs ih =>
    intro h
    obtain ⟨hc, hcs⟩ := List.forall_mem_cons.1 h
    rw [String.ofList_cons, String.utf8ByteSize_append, String.utf8ByteSize_singleton, hc, ih hcs,
      List.length_cons, Nat.add_comm]

/-- Whether a text is a label can be told by looking at it. -/
theorem isLabel_of_check {s : List Char}
    (h : (s.head?.any Char.isAlpha && s.getLast?.all (!isFrame ·) && s.all (· ≠ '\n')) = true) :
    IsLabel s := by
  simp only [Bool.and_eq_true, Option.any_eq_true, Option.all_eq_true, List.all_eq_true] at h
  exact ⟨h.1.1, fun c hc ↦ by simpa using h.1.2 c hc, fun hmem ↦ by simpa using h.2 _ hmem⟩

theorem isFrame_of_isNumeral {c : Char} (h : isNumeral c = true) : isFrame c = false := by
  cases hc : isFrame c with
  | false => rfl
  | true =>
    rw [isFrame, Bool.or_eq_true, decide_eq_true_eq, decide_eq_true_eq] at hc
    rcases hc with rfl | rfl <;> cases h

/-- Numbers can be told from the frame around them. -/
theorem Numeral.isWord {s : List Char} (h : Numeral s) (hne : s ≠ []) : IsWord s where
  ne_nil := hne
  all c hc := ⟨isFrame_of_isNumeral (h c hc), isBlank_of_isNumeral (h c hc)⟩
  notMem := h.notMem rfl

/-- A letter in front of a number is a label. -/
theorem Numeral.isLabel_cons {c : Char} {s : List Char} (hc : c.isAlpha = true) (h : Numeral s) :
    IsLabel (c :: s) where
  head := ⟨c, rfl, hc⟩
  last c' hc' := by
    rcases List.mem_cons.1 (List.mem_of_mem_getLast? hc') with rfl | hmem
    · exact (not_frame_of_isAlpha hc).1
    · exact isFrame_of_isNumeral (h c' hmem)
  notMem hmem := by
    rcases List.mem_cons.1 hmem with rfl | hmem
    · cases hc
    · exact h.notMem rfl hmem

/-- The number in the name of a percentile. -/
theorem exists_percentileLabel (percent : Float) :
    ∃ s, Numeral s ∧ (percentileLabel percent).toList = 'p' :: s := by
  rw [percentileLabel, String.toList_append]
  refine ⟨_, ?_, rfl⟩
  split
  · exact numeral_fixedText _ _
  · exact numeral_plainText _

/-- The names that a table of statistics has in its first column. -/
theorem rows_cases (p : String → Prop) (hclosed : ∀ s ∈ ["min", "mean", "max", "std dev"], p s)
    (hpercentile : ∀ percent, p (percentileLabel percent)) (verbose : Bool) (r : Report) :
    ∀ x ∈ r.rows verbose, p x.1 := by
  simp only [List.forall_mem_cons] at hclosed
  obtain ⟨hmin, hmean, hmax, hdeviation, -⟩ := hclosed
  simp only [Report.rows, List.forall_mem_append, List.forall_mem_cons, List.forall_mem_map]
  refine ⟨⟨⟨⟨hmin, hmean, List.forall_mem_nil _⟩, fun q _ ↦ hpercentile q.percent⟩, hmax,
    List.forall_mem_nil _⟩, ?_⟩
  split
  · exact List.forall_mem_singleton.2 hdeviation
  · exact List.forall_mem_nil _

theorem isLabel_of_mem_cells {o : Formatting} {r : Report} {c : String × String}
    (h : c ∈ r.cells o) : IsLabel c.1.toList := by
  obtain ⟨x, hx, rfl⟩ := List.mem_map.1 h
  refine rows_cases (fun s ↦ IsLabel s.toList) ?_ ?_ o.verbose r x hx
  · simp only [List.forall_mem_cons]
    exact ⟨isLabel_of_check rfl, isLabel_of_check rfl, isLabel_of_check rfl, isLabel_of_check rfl,
      List.forall_mem_nil _⟩
  · intro percent
    obtain ⟨s, hs, heq⟩ := exists_percentileLabel percent
    rw [heq]
    exact hs.isLabel_cons rfl

theorem isWord_of_mem_cells {o : Formatting} {r : Report} {c : String × String}
    (h : c ∈ r.cells o) : IsWord c.2.toList := by
  obtain ⟨x, -, rfl⟩ := List.mem_map.1 h
  exact (numeral_fixedText _ _).isWord (fixedText_ne_nil _ _)

/-- **No cell has a character of more than one byte in it.** -/
theorem utf8ByteSize_cells {o : Formatting} {r : Report} {c : String × String}
    (h : c ∈ r.cells o) : c.1.utf8ByteSize = c.1.length ∧ c.2.utf8ByteSize = c.2.length := by
  obtain ⟨x, hx, rfl⟩ := List.mem_map.1 h
  refine ⟨rows_cases (fun s ↦ s.utf8ByteSize = s.length) (by decide) ?_ o.verbose r x hx, ?_⟩
  · intro percent
    obtain ⟨s, hs, heq⟩ := exists_percentileLabel percent
    refine utf8ByteSize_eq_length ?_
    rw [heq]
    exact List.forall_mem_cons.2 ⟨rfl, fun c hc ↦ utf8Size_of_isNumeral (hs c hc)⟩
  · exact utf8ByteSize_eq_length fun c hc ↦ utf8Size_of_isNumeral (numeral_fixedText _ _ c hc)

/-- There is room for every cell, and for the names of the columns. -/
theorem Frame.fits_cells (o : Formatting) (r : Report) :
    ∀ c ∈ (statisticHeader, latencyHeader) :: r.cells o,
      Fits (Colored.nameWidth (r.rows o.verbose)) (Colored.valueWidth o (r.rows o.verbose)) c := by
  have hlatency : EndsVisibly latencyHeader.toList := ⟨')', rfl, rfl⟩
  refine List.forall_mem_cons.2 ⟨?_, fun c hc ↦ ?_⟩
  · exact ⟨Table.length_le_widest List.mem_cons_self, Table.length_le_widest List.mem_cons_self,
      isLabel_of_check rfl, hlatency, by decide⟩
  · have hword := isWord_of_mem_cells hc
    have hlabel := isLabel_of_mem_cells hc
    obtain ⟨x, hx, rfl⟩ := List.mem_map.1 hc
    refine ⟨Table.length_le_widest (List.mem_cons_of_mem _ (List.mem_map_of_mem hx)),
      Table.length_le_widest (List.mem_cons_of_mem _ (List.mem_map_of_mem hx)), hlabel, ?_,
      hword.notMem⟩
    have hlast := List.getLast?_eq_some_getLast hword.ne_nil
    exact ⟨_, hlast, (hword.all _ (List.getLast_mem hword.ne_nil)).2⟩

/-! ### The frames -/

/-- A text that is lines, with a table behind an empty one. -/
theorem eq_intercalate_of_append_lineFeed {text : String} {front lines : List String}
    (h : text ++ "\n" = unlines (front ++ "" :: lines)) (hfront : front ≠ []) (hlines : lines ≠ []) :
    text = "\n".intercalate front ++ "\n\n" ++ "\n".intercalate lines := by
  rw [unlines_append, unlines_cons, ← intercalate_append_lineFeed hfront,
    ← intercalate_append_lineFeed hlines] at h
  have hfeeds : "\n\n" = "\n" ++ "\n" := rfl
  refine String.append_left_inj _ |>.1 (h.trans ?_)
  simp [String.append_assoc, hfeeds, -String.reduceAppend]

namespace Plain

/-- The frame of tables with borders. -/
def bordered : Frame := ⟨"| ", " | ", " |"⟩

/-- The frame of tables without borders. -/
def borderless : Frame := ⟨"", "  ", ""⟩

theorem sound_bordered : bordered.Sound where
  all := List.all_eq_true.1 rfl
  middle_ne := List.cons_ne_nil _ _
  right := .inr ⟨'|', rfl, rfl⟩

theorem sound_borderless : borderless.Sound where
  all := List.all_eq_true.1 rfl
  middle_ne := List.cons_ne_nil _ _
  right := .inl rfl

theorem rowAt_eq (names values : Nat) (name value : String) :
    rowAt names values name value = bordered.row names values (name, value) := by
  rw [← String.toList_inj]
  simp [rowAt, Frame.row, bordered]

/-- The rules between borders are laid out. -/
theorem laidOut_ruleAt (names values : Nat) :
    bordered.LaidOut names values [] [ruleAt names values] := by
  have htext : (ruleAt names values).toList = '+' :: (List.replicate (names + 2) '-' ++ '+' ::
      List.replicate (values + 2) '-') ++ ['+'] := by
    simp [ruleAt, repeated]
  have hwidth : bordered.width names values = 2 + names + 3 + values + 2 := rfl
  refine .singleton ?_ ?_ ⟨⟨'+', ?_, rfl⟩, ?_⟩
  · rw [htext]
    simp [isRule, isRuleChar]
  · rw [← String.length_toList, htext, hwidth]
    simp only [List.length_append, List.length_cons, List.length_replicate, List.length_nil]
    omega
  · rw [htext, List.getLast?_concat]
    rfl
  · rw [htext]
    simp

/-- A table with borders is laid out. -/
theorem laidOut_bordered (o : Formatting) (r : Report) :
    bordered.LaidOut (Colored.nameWidth (r.rows o.verbose)) (Colored.valueWidth o (r.rows o.verbose))
      ((statisticHeader, latencyHeader) :: r.cells o) ((table o r).lines true) := by
  obtain ⟨hheader, hcells⟩ := List.forall_mem_cons.1 (Frame.fits_cells o r)
  have hrule := laidOut_ruleAt (Colored.nameWidth (r.rows o.verbose))
    (Colored.valueWidth o (r.rows o.verbose))
  have hrows := ((hrule.append (.rows bordered (List.forall_mem_singleton.2 hheader))).append
    hrule).append (.rows bordered hcells) |>.append hrule
  rw [lines_table (widths_table o r)]
  simpa [rowAt_eq, Report.cells, Function.comp_def] using hrows

/-- A table without borders is laid out. -/
theorem laidOut_borderless (o : Formatting) (r : Report) :
    borderless.LaidOut (Colored.nameWidth (r.rows o.verbose))
      (Colored.valueWidth o (r.rows o.verbose)) ((statisticHeader, latencyHeader) :: r.cells o)
      ((table o r).lines false) := by
  have hrow (name value : String) : (table o r).plainRow [name, value] =
      borderless.row (Colored.nameWidth (r.rows o.verbose))
        (Colored.valueWidth o (r.rows o.verbose)) (name, value) := by
    rw [Table.plainRow, Table.paddedCells, widths_table, ← String.toList_inj]
    simp [table, Frame.row, borderless]
  have hlines : (table o r).lines false = ((statisticHeader, latencyHeader) :: r.cells o).map
      (borderless.row (Colored.nameWidth (r.rows o.verbose))
        (Colored.valueWidth o (r.rows o.verbose))) := by
    rw [Table.lines, if_neg Bool.false_ne_true, List.map_cons, ← hrow]
    simp only [table, Report.cells, List.map_map, List.map_cons, List.map_nil]
    exact congrArg _ (List.map_congr_left fun x _ ↦ hrow _ _)
  rw [hlines]
  exact .rows borderless (Frame.fits_cells o r)

/-- **A plain summary shows its table**, with borders or without. -/
theorem showsTable_summary (o : Formatting) (r : Report) :
    ShowsTable (summary o r) (statisticHeader, latencyHeader) (r.cells o) := by
  have hne : (table o r).lines o.borders ≠ [] := by
    cases h : o.borders <;> simp [Table.lines]
  rw [eq_intercalate_of_append_lineFeed (summary_append_lineFeed o r) (List.cons_ne_nil _ _) hne]
  cases o.borders with
  | true =>
    exact (laidOut_bordered o r).showsTable sound_bordered (fun _ ↦ isWord_of_mem_cells) _
  | false =>
    exact (laidOut_borderless o r).showsTable sound_borderless (fun _ ↦ isWord_of_mem_cells) _

end Plain

namespace Colored

/-- The frame of tables under a rule. -/
def indented : Frame := ⟨"  ", "  ", ""⟩

theorem sound_indented : indented.Sound where
  all := List.all_eq_true.1 rfl
  middle_ne := List.cons_ne_nil _ _
  right := .inl rfl

/-- The rule under the names of the columns is laid out. -/
theorem laidOut_ruleRow (escapes : Bool) {o : Formatting} (h : o.useColor = false)
    (scheme : Scheme) (names values : Nat) :
    indented.LaidOut names values [] [(ruleRow o scheme names values).render escapes] := by
  have htext : ((ruleRow o scheme names values).render escapes).toList =
      ' ' :: ' ' :: List.replicate (names + values + 1) '─' ++ ['─'] := by
    simp [ruleRow, Styled.render, Span.styledIf, h, repeated, List.replicate_succ']
  have hwidth : indented.width names values = 2 + names + 2 + values + 0 := rfl
  refine .singleton ?_ ?_ ⟨⟨'─', ?_, rfl⟩, ?_⟩
  · rw [htext]
    simp [isRule, isRuleChar]
  · rw [← String.length_toList, htext, hwidth]
    simp only [List.length_append, List.length_cons, List.length_replicate, List.length_nil]
    omega
  · rw [htext, List.getLast?_concat]
    rfl
  · rw [htext]
    simp

/-- Without colors, the lines of the statistics are laid out. -/
theorem laidOut_tableLines (escapes : Bool) {o : Formatting} (h : o.useColor = false)
    (scheme : Scheme) (r : Report) :
    indented.LaidOut (nameWidth (r.rows o.verbose)) (valueWidth o (r.rows o.verbose))
      ((statisticHeader, latencyHeader) :: r.cells o)
      ((tableLines o scheme r).map (Styled.render escapes)) := by
  obtain ⟨hheader, hcells⟩ := List.forall_mem_cons.1 (Frame.fits_cells o r)
  have hheaderRow (names values : Nat) : (headerRow o names values).render escapes =
      indented.row names values (statisticHeader, latencyHeader) := by
    simp [headerRow, Styled.render, Span.styledIf, h, Frame.row, indented, String.append_assoc]
  have hvalueRow (names values : Nat) (x : String × Float) :
      (valueRow o names values x).render escapes =
        indented.row names values (x.1, o.millis x.2) := by
    simp [valueRow, Styled.render, Span.styledIf, h, Frame.row, indented, String.append_assoc]
  have hrows := ((Frame.LaidOut.rows indented (List.forall_mem_singleton.2 hheader)).append
    (laidOut_ruleRow escapes h scheme _ _)).append (.rows indented hcells)
  simpa [tableLines, hheaderRow, hvalueRow, Report.cells, Function.comp_def] using hrows

/-- **A summary for terminals shows its table.** -/
theorem showsTable_summary (escapes : Bool) {o : Formatting} (h : o.useColor = false)
    (scheme : Scheme) (r : Report) :
    ShowsTable ((summary o scheme r).render escapes) (statisticHeader, latencyHeader)
      (r.cells o) := by
  have hlines : (summary o scheme r).render escapes ++ "\n" =
      unlines ((layout escapes o scheme).title ::
        (r.sourceLines o.verbose).map (layout escapes o scheme).source ++
        "" :: (tableLines o scheme r).map (Styled.render escapes)) := by
    rw [render_summary_append_lineFeed]
    simp [Layout.lines, layout, tableLines, Function.comp_def]
  rw [eq_intercalate_of_append_lineFeed hlines (List.cons_ne_nil _ _) (by simp [tableLines])]
  exact (laidOut_tableLines escapes h scheme r).showsTable sound_indented
    (fun _ ↦ isWord_of_mem_cells) _

end Colored

/-- **All layouts for readers show the same table.** A plain summary with borders, one without, and
one for terminals without colors show the same cells in the same order, and these are the statistics
of the report with their values as text. In each of them the lines of the table are equally long, the
values end in one column, and no cell is cut off. No cell has more bytes than characters. -/
theorem layouts_show_same_table (escapes : Bool) (o : Formatting) (scheme : Scheme) (r : Report) :
    let cells := (r.rows o.verbose).map fun x ↦ (x.1, o.millis x.2)
    (∀ c ∈ cells, c.1.utf8ByteSize = c.1.length ∧ c.2.utf8ByteSize = c.2.length) ∧
      ∀ f ∈ [Formatter.plain { o with borders := true }, .plain { o with borders := false },
        .colored { o with useColor := false } scheme],
        ShowsTable ((f.summary r).render escapes) (statisticHeader, latencyHeader) cells := by
  refine ⟨fun c hc ↦ utf8ByteSize_cells hc, ?_⟩
  have hplain (o : Formatting) : ShowsTable (((Formatter.plain o).summary r).render escapes)
      (statisticHeader, latencyHeader) (r.cells o) := by
    rw [Formatter.summary, Styled.render_singleton, Span.render_ofString]
    exact Plain.showsTable_summary o r
  refine List.forall_mem_cons.2 ⟨hplain { o with borders := true }, List.forall_mem_cons.2
    ⟨hplain { o with borders := false }, List.forall_mem_singleton.2 ?_⟩⟩
  exact Colored.showsTable_summary escapes rfl scheme r

end LatencyCurve
