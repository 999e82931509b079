import LatencyCurve.Run
import Mathlib.Data.List.Induction

/-!
# The lines of a summary

A summary for readers is a list of lines, and both layouts put them together alike
(`Layout.lines`): a title, a line for each thing said about the source, a line for each statistic,
and rules between them. What a layout makes of a statistic depends on the widths of the two columns
and on nothing else in the report.

So a summary with details has all lines of the one without them, at the same widths
(`Layout.addsDetails_lines`). The details can make the column of values wider, by the standard
deviation. Then the other lines change in what fills columns up and in nothing else
(`Layout.Fills.unfilled_lines`). `Formatter.addsDetails_forReaders` is both together.
-/

namespace LatencyCurve

/-! ### Lines one under the other -/

/-- Lines one under the other, each of them ended. -/
def unlines (ls : List String) : String :=
  String.join (ls.map (· ++ "\n"))

@[simp] theorem unlines_nil : unlines [] = "" := rfl

@[simp] theorem unlines_cons (l : String) (ls : List String) :
    unlines (l :: ls) = l ++ "\n" ++ unlines ls := by
  rw [unlines, List.map_cons, String.join_cons, ← unlines]

@[simp] theorem unlines_append (ls ls' : List String) :
    unlines (ls ++ ls') = unlines ls ++ unlines ls' := by
  rw [unlines, List.map_append, String.join_append, ← unlines, ← unlines]

/-- Lines with line feeds in between are ended by one more. -/
theorem intercalate_append_lineFeed {ls : List String} (h : ls ≠ []) :
    "\n".intercalate ls ++ "\n" = unlines ls := by
  induction ls with
  | nil => exact absurd rfl h
  | cons l ls ih =>
    cases ls with
    | nil => simp
    | cons l' ls =>
      rw [String.intercalate_cons_cons, String.append_assoc, ih nofun, unlines_cons l]

/-- A text without a style is printed as it is. -/
@[simp] theorem Span.render_ofString (escapes : Bool) (s : String) :
    (Span.ofString s).render escapes = s := by
  cases escapes <;> simp [render, ofString, pad, blanks]

@[simp] theorem Styled.render_singleton (escapes : Bool) (span : Span) :
    Styled.render escapes [span] = span.render escapes := by
  simp [Styled.render]

/-- A text is printed span by span. -/
theorem Styled.render_append (escapes : Bool) (s s' : Styled) :
    Styled.render escapes (s ++ s') = Styled.render escapes s ++ Styled.render escapes s' := by
  rw [Styled.render, List.map_append, String.join_append, ← Styled.render, ← Styled.render]

/-- Styled lines are printed line by line. -/
theorem Styled.render_lines_append_lineFeed (escapes : Bool) {ls : List Styled} (h : ls ≠ []) :
    (Styled.lines ls).render escapes ++ "\n" = unlines (ls.map (Styled.render escapes)) := by
  induction ls with
  | nil => exact absurd rfl h
  | cons l ls ih =>
    cases ls with
    | nil => simp [Styled.lines]
    | cons l' ls =>
      rw [Styled.lines] at ih ⊢
      rw [List.intercalate_cons_cons, render_append, render_append, render_singleton,
        Span.render_ofString, String.append_assoc, ih nofun]
      simp only [List.map_cons, unlines_cons, String.append_assoc]

/-! ### Layouts -/

/-- How the parts of a summary are laid out, given the widths of the two columns. -/
structure Layout where
  /-- What stands over the summary -/
  title : String
  /-- What is said about the source -/
  source : String × String → String
  /-- What stands over the statistics -/
  above : Nat → Nat → List String
  /-- A statistic -/
  row : Nat → Nat → String × Float → String
  /-- What stands under the statistics -/
  below : Nat → Nat → List String

/-- The lines of a summary, given the widths of the two columns. -/
def Layout.lines (L : Layout) (verbose : Bool) (names values : Nat) (r : Report) : List String :=
  L.title :: (r.sourceLines verbose).map L.source ++ L.above names values ++
    (r.rows verbose).map (L.row names values) ++ L.below names values

namespace Plain

/-- A rule of a table of two columns. -/
def ruleAt (names values : Nat) : String :=
  "+" ++ (repeated '-' (names + 2) ++ "+" ++ (repeated '-' (values + 2) ++ "+"))

/-- A row of a table of two columns. -/
def rowAt (names values : Nat) (name value : String) : String :=
  "|" ++ (" " ++ pad .left names name ++ " |" ++ (" " ++ pad .right values value ++ " |"))

/-- The plain layout. -/
def layout (o : Formatting) : Layout where
  title := header summaryTitle
  source l := l.1 ++ ":" ++ l.2
  above names values :=
    ["", ruleAt names values, rowAt names values statisticHeader latencyHeader,
      ruleAt names values]
  row names values x := rowAt names values x.1 (o.millis x.2)
  below names values := [ruleAt names values]

/-- The columns of the table are as wide as the longest name and the longest value. -/
theorem widths_table (o : Formatting) (r : Report) :
    (table o r).widths =
      [Colored.nameWidth (r.rows o.verbose), Colored.valueWidth o (r.rows o.verbose)] := by
  have hname : (table o r).rows.filterMap (·[0]?) = (r.rows o.verbose).map (·.1) := by
    rw [table, List.filterMap_map]
    exact congrFun List.filterMap_eq_map _
  have hvalue : (table o r).rows.filterMap (·[1]?) =
      (r.rows o.verbose).map fun x ↦ o.millis x.2 := by
    rw [table, List.filterMap_map]
    exact congrFun List.filterMap_eq_map _
  have hwidths : (table o r).widths =
      [Table.widest (statisticHeader :: (table o r).rows.filterMap (·[0]?)),
        Table.widest (latencyHeader :: (table o r).rows.filterMap (·[1]?))] := rfl
  rw [hwidths, hname, hvalue]
  rfl

/-- The lines of the table, given its widths. -/
theorem lines_table {o : Formatting} {r : Report} {names values : Nat}
    (h : (table o r).widths = [names, values]) :
    (table o r).lines true =
      [ruleAt names values, rowAt names values statisticHeader latencyHeader,
        ruleAt names values] ++
      (r.rows o.verbose).map (fun x ↦ rowAt names values x.1 (o.millis x.2)) ++
      [ruleAt names values] := by
  have hrule : (table o r).rule = ruleAt names values := by
    simp [Table.rule, h, ruleAt, repeated]
  have hrow (name value : String) :
      (table o r).borderedRow [name, value] = rowAt names values name value := by
    simp only [Table.borderedRow, Table.paddedCells, h]
    simp [table, rowAt]
  have hrows : (table o r).rows.map (table o r).borderedRow =
      (r.rows o.verbose).map fun x ↦ rowAt names values x.1 (o.millis x.2) := by
    simp only [table, List.map_map]
    exact List.map_congr_left fun x _ ↦ hrow _ _
  rw [Table.lines, if_pos rfl, hrule, hrows]
  simp only [table, List.map_cons, List.map_nil]
  rw [← hrow]
  rfl

/-- A plain summary is lines, with the table behind an empty one. -/
theorem summary_append_lineFeed (o : Formatting) (r : Report) :
    summary o r ++ "\n" =
      unlines (header summaryTitle :: (r.sourceLines o.verbose).map (layout o).source ++
        "" :: (table o r).lines o.borders) := by
  have hsource : String.join ((r.sourceLines o.verbose).map fun l ↦ l.1 ++ ":" ++ l.2 ++ "\n") =
      unlines ((r.sourceLines o.verbose).map (layout o).source) := by
    rw [unlines, List.map_map]
    rfl
  have hne : (table o r).lines o.borders ≠ [] := by
    cases h : o.borders <;> simp [Table.lines]
  rw [summary, String.append_assoc, intercalate_append_lineFeed hne, hsource]
  simp [String.append_assoc]

/-- A plain summary with borders, line by line. -/
theorem summary_append_lineFeed_of_borders {o : Formatting} (h : o.borders = true) (r : Report) :
    summary o r ++ "\n" =
      unlines ((layout o).lines o.verbose (Colored.nameWidth (r.rows o.verbose))
        (Colored.valueWidth o (r.rows o.verbose)) r) := by
  rw [summary_append_lineFeed, h, lines_table (widths_table o r)]
  simp [Layout.lines, layout]

end Plain

namespace Colored

/-- The colored layout, as it is printed. -/
def layout (escapes : Bool) (o : Formatting) (scheme : Scheme) : Layout where
  title := (header o scheme summaryTitle).render escapes
  source l := Styled.render escapes
    [.styledIf o.useColor (.colored scheme.muted) l.1, .ofString (":" ++ l.2)]
  above names values :=
    ["", (headerRow o names values).render escapes,
      (ruleRow o scheme names values).render escapes]
  row names values x := (valueRow o names values x).render escapes
  below _ _ := []

/-- A colored summary, line by line. -/
theorem render_summary_append_lineFeed (escapes : Bool) (o : Formatting) (scheme : Scheme)
    (r : Report) :
    (summary o scheme r).render escapes ++ "\n" =
      unlines ((layout escapes o scheme).lines o.verbose (nameWidth (r.rows o.verbose))
        (valueWidth o (r.rows o.verbose)) r) := by
  have hsource : Styled.render escapes ((r.sourceLines o.verbose).flatMap (sourceLine o scheme)) =
      unlines ((r.sourceLines o.verbose).map (layout escapes o scheme).source) := by
    induction r.sourceLines o.verbose with
    | nil => rfl
    | cons l ls ih =>
      rw [List.flatMap_cons, Styled.render_append, ih, List.map_cons, unlines_cons]
      simp [layout, sourceLine, Styled.render, String.append_assoc]
  have htable : (tableLines o scheme r) ≠ [] := by simp [tableLines]
  simp only [summary, Styled.render_append, Styled.render_singleton, Span.render_ofString, hsource,
    String.append_assoc, Styled.render_lines_append_lineFeed escapes htable]
  simp [Layout.lines, layout, tableLines, String.append_assoc, Function.comp_def]

end Colored

/-- The layout for readers. -/
def Layout.forReaders (escapes useColor : Bool) : Layout :=
  let o := { Formatting.standard with useColor := useColor }
  if useColor then Colored.layout escapes o .standard else Plain.layout o

/-- **A summary for readers, line by line**, with columns as wide as their cells. -/
theorem Formatter.render_forReaders (escapes useColor verbose : Bool) (r : Report) :
    ((Formatter.forReaders useColor verbose).summary r).render escapes ++ "\n" =
      unlines ((Layout.forReaders escapes useColor).lines verbose (Colored.nameWidth (r.rows verbose))
        (Colored.valueWidth .standard (r.rows verbose)) r) := by
  cases useColor with
  | true => exact Colored.render_summary_append_lineFeed escapes _ _ r
  | false =>
    rw [Formatter.forReaders, if_neg Bool.false_ne_true, Formatter.summary, Styled.render_singleton,
      Span.render_ofString]
    exact Plain.summary_append_lineFeed_of_borders rfl r

/-! ### Widths -/

namespace Table

theorem widest_concat (texts : List String) (s : String) :
    widest (texts ++ [s]) = max (widest texts) s.length := by
  rw [widest, List.foldl_append]
  rfl

theorem length_le_widest {texts : List String} {s : String} (h : s ∈ texts) :
    s.length ≤ widest texts := by
  induction texts using List.reverseRecOn with
  | nil => cases h
  | append_singleton texts t ih =>
    rw [widest_concat]
    rcases List.mem_append.1 h with h | h
    · exact Nat.le_trans (ih h) (Nat.le_max_left _ _)
    · rw [List.mem_singleton.1 h]
      exact Nat.le_max_right _ _

end Table

namespace Report

/-- What is said about the source for its details. -/
def countLines (r : Report) : List (String × String) :=
  [("  took <N> us", " " ++ toString r.tookMatches),
    ("  ;<N> suffix", " " ++ toString r.suffixMatches),
    ("  skipped", "     " ++ toString r.skippedLines)]

/-- The statistic that is shown for the details. -/
def deviationRow (r : Report) : String × Float :=
  ("std dev", r.summary.deviation)

theorem sourceLines_true (r : Report) : r.sourceLines true = r.sourceLines false ++ r.countLines := by
  simp [sourceLines, countLines]

theorem rows_true (r : Report) : r.rows true = r.rows false ++ [r.deviationRow] := by
  simp [rows, deviationRow]

/-- The details leave the column of names as it is. -/
theorem nameWidth_rows_true (r : Report) :
    Colored.nameWidth (r.rows true) = Colored.nameWidth (r.rows false) := by
  have hheader : statisticHeader.length ≤ Colored.nameWidth (r.rows false) :=
    Table.length_le_widest List.mem_cons_self
  have hname : r.deviationRow.1.length ≤ statisticHeader.length := by
    change "std dev".length ≤ statisticHeader.length
    decide
  rw [rows_true, Colored.nameWidth, List.map_append, List.map_singleton, ← List.cons_append,
    Table.widest_concat, ← Colored.nameWidth]
  exact Nat.max_eq_left (Nat.le_trans hname hheader)

/-- They make the column of values as wide as the standard deviation, if it is not so already. -/
theorem valueWidth_rows_true (o : Formatting) (r : Report) :
    Colored.valueWidth o (r.rows true) =
      max (Colored.valueWidth o (r.rows false)) (o.millis r.summary.deviation).length := by
  rw [rows_true, Colored.valueWidth, List.map_append, List.map_singleton, ← List.cons_append,
    Table.widest_concat, ← Colored.valueWidth]
  rfl

end Report

/-! ### What fills columns up -/

/-- The characters that fill columns up: blanks, and those of rules. -/
def isFilling (c : Char) : Bool :=
  c = ' ' || c = '-' || c = '─'

/-- A text without what fills columns up. -/
def unfilled (s : String) : List Char :=
  s.toList.filter fun c ↦ !isFilling c

@[simp] theorem unfilled_append (s t : String) : unfilled (s ++ t) = unfilled s ++ unfilled t := by
  rw [unfilled, String.toList_append, List.filter_append, ← unfilled, ← unfilled]

@[simp] theorem unfilled_repeated {c : Char} (h : isFilling c = true) (n : Nat) :
    unfilled (repeated c n) = [] := by
  simp [unfilled, repeated, h]

@[simp] theorem unfilled_pad (align : Align) (n : Nat) (s : String) :
    unfilled (pad align n s) = unfilled s := by
  have hblanks (n : Nat) : unfilled (blanks n) = [] := unfilled_repeated rfl n
  cases align <;> simp [pad, hblanks]

/-- Nothing is repeated behind characters that begin no escape sequence. -/
theorem afterResets_replicate_append (opening : List Char) {c : Char} (h : c ≠ '\x1b') (n : Nat)
    (s : List Char) :
    afterResets opening (List.replicate n c ++ s) = List.replicate n c ++ afterResets opening s := by
  induction n with
  | zero => rfl
  | succ n ih =>
    rw [List.replicate_succ, List.cons_append, List.cons_append, ← ih, afterResets]
    rintro _ rfl
    exact absurd rfl h

/-- What fills up the front of a span is not seen, in whatever style. -/
theorem unfilled_render_styledIf (escapes wanted : Bool) (style : Style) {c : Char}
    (h : isFilling c = true) (n : Nat) (s : String) :
    unfilled ((Span.styledIf wanted style (repeated c n ++ s)).render escapes) =
      unfilled ((Span.styledIf wanted style s).render escapes) := by
  have hescape : c ≠ '\x1b' := by
    rintro rfl
    cases h
  have hreset (opening : List Char) :
      unfilled (String.ofList (afterResets opening (repeated c n ++ s).toList)) =
        unfilled (String.ofList (afterResets opening s.toList)) := by
    rw [repeated, String.toList_append, String.toList_ofList,
      afterResets_replicate_append opening hescape, String.ofList_append, unfilled_append,
      ← repeated, unfilled_repeated h, List.nil_append]
  cases wanted with
  | true =>
    simp only [Span.styledIf, if_true, Span.styled, Span.render]
    split
    · simp only [unfilled_append, unfilled_pad, hreset]
    · simp only [unfilled_append, unfilled_pad, unfilled_repeated h, List.nil_append]
  | false => simp [Span.styledIf, Span.ofString, Span.render, h]

theorem pad_right (n : Nat) (s : String) : pad .right n s = repeated ' ' (n - s.length) ++ s := rfl

/-- A layout that does no more with the width of the column of values than fill it up. -/
structure Layout.Fills (L : Layout) : Prop where
  /-- Over the statistics. -/
  above : ∀ names values values',
    (L.above names values).map unfilled = (L.above names values').map unfilled
  /-- In a statistic. -/
  row : ∀ names values values' x,
    unfilled (L.row names values x) = unfilled (L.row names values' x)
  /-- Under the statistics. -/
  below : ∀ names values values',
    (L.below names values).map unfilled = (L.below names values').map unfilled

theorem Plain.fills_layout (o : Formatting) : (layout o).Fills where
  above _ _ _ := by
    simp [layout, rowAt, ruleAt, unfilled_repeated (c := '-') rfl]
  row _ _ _ _ := by simp [layout, rowAt]
  below _ _ _ := by simp [layout, ruleAt, unfilled_repeated (c := '-') rfl]

theorem Colored.fills_layout (escapes : Bool) (o : Formatting) (scheme : Scheme) :
    (layout escapes o scheme).Fills where
  above names values values' := by
    have hheader : unfilled ((headerRow o names values).render escapes) =
        unfilled ((headerRow o names values').render escapes) := by
      simp only [headerRow, Styled.render, List.map_cons, List.map_nil, String.join_cons,
        unfilled_append, pad_right, unfilled_render_styledIf escapes o.useColor _ (c := ' ') rfl]
    have hrule : unfilled ((ruleRow o scheme names values).render escapes) =
        unfilled ((ruleRow o scheme names values').render escapes) := by
      have hrepeated (n : Nat) : repeated '─' n = repeated '─' n ++ "" := String.append_empty.symm
      rw [ruleRow, ruleRow, hrepeated, hrepeated (names + values' + 2)]
      simp only [Styled.render, List.map_cons, List.map_nil, String.join_cons, unfilled_append,
        unfilled_render_styledIf escapes o.useColor _ (c := '─') rfl]
    simp only [layout, List.map_cons, List.map_nil, hheader, hrule]
  row names values values' x := by
    simp only [layout, valueRow, Styled.render, List.map_cons, List.map_nil, String.join_cons,
      unfilled_append, pad_right, unfilled_render_styledIf escapes o.useColor _ (c := ' ') rfl]
  below _ _ _ := rfl

theorem Layout.fills_forReaders (escapes useColor : Bool) : (forReaders escapes useColor).Fills := by
  cases useColor with
  | true => exact Colored.fills_layout escapes _ _
  | false => exact Plain.fills_layout _

/-! ### The lines of the details -/

/-- What the details add to a summary: `long` has three lines more behind what is said about the
source and one more behind the statistics, and without these it is `rest`. -/
def Layout.AddsDetails (L : Layout) (r : Report) (rest long : String) : Prop :=
  ∃ top middle bottom names values,
    rest = unlines (top ++ middle ++ bottom) ∧
      long = unlines (top ++ r.countLines.map L.source ++ middle ++
        L.row names values r.deviationRow :: bottom)

/-- A summary with details has all lines of the one without, at the same widths. -/
theorem Layout.addsDetails_lines (L : Layout) (names values : Nat) (r : Report) :
    L.AddsDetails r (unlines (L.lines false names values r)) (unlines (L.lines true names values r)) :=
  ⟨L.title :: (r.sourceLines false).map L.source,
    L.above names values ++ (r.rows false).map (L.row names values), L.below names values, names,
    values, by simp [lines], by simp [lines, Report.sourceLines_true, Report.rows_true]⟩

theorem unfilled_unlines (ls : List String) :
    unfilled (unlines ls) = (ls.map unfilled).flatMap (· ++ ['\n']) := by
  induction ls with
  | nil => rfl
  | cons l ls ih =>
    have hfeed : unfilled "\n" = ['\n'] := rfl
    rw [unlines_cons, unfilled_append, unfilled_append, ih, hfeed, List.map_cons, List.flatMap_cons]

/-- But for what fills columns up, lines do not depend on the width of the column of values. -/
theorem Layout.Fills.unfilled_lines {L : Layout} (h : L.Fills) (verbose : Bool)
    (names values values' : Nat) (r : Report) :
    unfilled (unlines (L.lines verbose names values r)) =
      unfilled (unlines (L.lines verbose names values' r)) := by
  have hrows : (r.rows verbose).map (unfilled ∘ L.row names values) =
      (r.rows verbose).map (unfilled ∘ L.row names values') :=
    List.map_congr_left fun x _ ↦ h.row _ _ _ x
  rw [unfilled_unlines, unfilled_unlines]
  simp only [lines, List.map_append, List.map_cons, List.map_map, hrows,
    h.above names values values', h.below names values values']

/-- The standard deviation has room in the column of values as it is without details. -/
def Report.DeviationFits (r : Report) : Prop :=
  (Formatting.standard.millis r.summary.deviation).length ≤
    Colored.valueWidth .standard (r.rows false)

/-- **What details change in a summary for readers**: they add their lines, and the others stay but
for what fills columns up. If the standard deviation has room in its column, the others stay as they
are. -/
theorem Formatter.addsDetails_forReaders (escapes useColor : Bool) (r : Report) :
    let text (verbose : Bool) := ((forReaders useColor verbose).summary r).render escapes ++ "\n"
    ∃ rest, (Layout.forReaders escapes useColor).AddsDetails r rest (text true) ∧
      unfilled (text false) = unfilled rest ∧ (r.DeviationFits → text false = rest) := by
  intro text
  let L := Layout.forReaders escapes useColor
  let names := Colored.nameWidth (r.rows false)
  let values (verbose : Bool) := Colored.valueWidth .standard (r.rows verbose)
  have hnames : Colored.nameWidth (r.rows true) = names := r.nameWidth_rows_true
  have hlong : text true = unlines (L.lines true names (values true) r) :=
    hnames ▸ render_forReaders escapes useColor true r
  have hshort : text false = unlines (L.lines false names (values false) r) :=
    render_forReaders escapes useColor false r
  refine ⟨unlines (L.lines false names (values true) r), ?_, ?_, fun hfits ↦ ?_⟩
  · rw [hlong]
    exact L.addsDetails_lines names (values true) r
  · rw [hshort]
    exact (Layout.fills_forReaders escapes useColor).unfilled_lines false names _ _ r
  · have hwidth : values true = values false :=
      (r.valueWidth_rows_true .standard).trans (Nat.max_eq_left hfits)
    rw [hshort, hwidth]

end LatencyCurve
