import LatencyCurve.Log.Extraction
import LatencyCurve.Proofs.Lines

/-!
# Line ends do not matter

A text is written line by line, each line with an end of its own choice, and the last line may go
without (`Writes`). Cutting the text into lines is compared with writing it, in both directions:

* `linesOf_of_writes`: a text that was written from some lines is cut into just these, whichever
  ends were chosen. Two kinds of lines cannot be told from others once they are written, and are left
  out: one with a line feed in it, and one with a carriage return as its last character, which a line
  feed behind it would take away.
* `writes_linesOf`: *every* text is written from the lines it is cut into. So nothing but a line end
  ever stands between two lines, and no other separator is taken for one.

An extraction looks at a text only through its lines (`Extraction.ofText`), and so it yields the same
whatever ends the text was written with.
-/

namespace LatencyCurve

/-! ### Writing lines -/

/-- How a line can end. -/
inductive LineEnd where
  /-- With a line feed -/
  | feed
  /-- With a carriage return and a line feed -/
  | returnFeed
deriving DecidableEq, Repr

namespace LineEnd

/-- The characters of a line end. -/
def text : LineEnd → List Char
  | feed => ['\n']
  | returnFeed => ['\r', '\n']

end LineEnd

/-- `Writes lines text`: the text is the lines, each with an end behind it. The last line needs none
if it is not empty. -/
inductive Writes : List (List Char) → List Char → Prop
  /-- No lines. -/
  | nil : Writes [] []
  /-- A last line without an end. -/
  | unended {line : List Char} (hne : line ≠ []) : Writes [line] line
  /-- A line with an end, in front of others. -/
  | ended {line : List Char} {lines : List (List Char)} {text : List Char} (e : LineEnd)
      (hlines : Writes lines text) : Writes (line :: lines) (line ++ e.text ++ text)

/-! ### Lines that were written are read -/

theorem dropReturn_of_getLast?_ne {line : List Char} (h : line.getLast? ≠ some '\r') :
    dropReturn line = line :=
  if_neg h

theorem dropReturn_concat (line : List Char) : dropReturn (line ++ ['\r']) = line := by
  rw [dropReturn, if_pos List.getLast?_concat, List.dropLast_concat]

/-- A line and its end in front of a text is one line more, whatever the end. -/
theorem linesOf_append_end {line : List Char} (hfeed : '\n' ∉ line)
    (hreturn : line.getLast? ≠ some '\r') (e : LineEnd) (text : List Char) :
    linesOf (line ++ e.text ++ text) = line :: linesOf text := by
  cases e with
  | feed =>
    rw [LineEnd.text, List.append_assoc, List.singleton_append, linesOf_append_lineFeed,
      piecesAt_of_notMem hfeed, List.map_singleton, dropReturn_of_getLast?_ne hreturn,
      List.singleton_append]
  | returnFeed =>
    have hfeed' : '\n' ∉ line ++ ['\r'] := by simpa using hfeed
    have hsplit : line ++ LineEnd.text .returnFeed ++ text = line ++ ['\r'] ++ '\n' :: text := by
      simp [LineEnd.text]
    rw [hsplit, linesOf_append_lineFeed, piecesAt_of_notMem hfeed', List.map_singleton,
      dropReturn_concat, List.singleton_append]

/-- **A text is cut into the lines it was written from**, whichever ends were chosen. -/
theorem linesOf_of_writes {lines : List (List Char)} {text : List Char} (h : Writes lines text)
    (hlines : ∀ line ∈ lines, '\n' ∉ line ∧ line.getLast? ≠ some '\r') : linesOf text = lines := by
  induction h with
  | nil => exact linesOf_nil
  | unended hne => exact linesOf_of_notMem (hlines _ List.mem_cons_self).1 hne
  | ended e _ ih =>
    obtain ⟨hfeed, hreturn⟩ := hlines _ List.mem_cons_self
    have hrest := ih fun line hline ↦ hlines line (List.mem_cons_of_mem _ hline)
    rw [linesOf_append_end hfeed hreturn, hrest]

/-! ### Lines that are read write the text -/

/-- A piece and the line feed behind it are a line and its end: a carriage return at the end of the
piece belongs to the end. -/
theorem exists_lineEnd (piece : List Char) :
    ∃ e : LineEnd, piece ++ ['\n'] = dropReturn piece ++ e.text := by
  by_cases hreturn : piece.getLast? = some '\r'
  · obtain ⟨line, rfl⟩ := List.getLast?_eq_some_iff.1 hreturn
    exact ⟨.returnFeed, by rw [dropReturn_concat, List.append_assoc]; rfl⟩
  · exact ⟨.feed, by rw [dropReturn_of_getLast?_ne hreturn]; rfl⟩

/-- Pieces with line feeds in between are written from the lines they make. -/
theorem writes_linesOfPieces {pieces : List (List Char)} (hne : pieces ≠ []) :
    Writes (linesOfPieces pieces) (['\n'].intercalate pieces) := by
  induction pieces with
  | nil => exact absurd rfl hne
  | cons piece rest ih =>
    cases rest with
    | nil =>
      rw [List.intercalate_singleton, linesOfPieces]
      by_cases hpiece : piece = []
      · simpa [hpiece] using Writes.nil
      · simpa [hpiece] using Writes.unended hpiece
    | cons next rest =>
      obtain ⟨e, hend⟩ := exists_lineEnd piece
      have hcut : linesOfPieces (piece :: next :: rest) =
          dropReturn piece :: linesOfPieces (next :: rest) :=
        linesOfPieces_append [piece] (List.cons_ne_nil next rest)
      rw [hcut, List.intercalate_cons_of_ne_nil (List.cons_ne_nil _ _), hend]
      exact .ended e (ih (List.cons_ne_nil _ _))

/-- **Every text is written from the lines it is cut into.** -/
theorem writes_linesOf (text : List Char) : Writes (linesOf text) text := by
  have h := writes_linesOfPieces (piecesAt_ne_nil '\n' text)
  rwa [intercalate_piecesAt] at h

/-! ### Extraction -/

variable {ρ α : Type} [LineRecognizer ρ] [Quantity α]

/-- **Line ends do not matter.** A text yields what the lines yield that it was written from,
whichever ends were chosen for them. Nothing else ends a line: without a line feed there is one
line, and every text is its lines with line ends behind them. -/
theorem Extraction.line_ends_do_not_matter (recognizers : List ρ) :
    (∀ (lines : List (List Char)) (text : List Char),
      (∀ line ∈ lines, '\n' ∉ line ∧ line.getLast? ≠ some '\r') → Writes lines text →
        (ofText recognizers text : Extraction α) = ofLines recognizers lines) ∧
      (∀ text : List Char, '\n' ∉ text → text ≠ [] → linesOf text = [text]) ∧
      ∀ text : List Char, Writes (linesOf text) text := by
  refine ⟨fun lines text hlines h ↦ ?_, fun text ↦ linesOf_of_notMem, writes_linesOf⟩
  rw [ofText, linesOf_of_writes h hlines]

/-- Four lines with ends of both kinds, an empty one among them, and the last without an end. The
second holds a carriage return, the three separators of Unicode and a form feed, and is one line. -/
theorem Extraction.line_ends_of_mixed_text :
    let second := "a\rb\u0085c\u2028d\u2029e\x0c;5".toList
    let lines := ["took 7 us".toList, second, [], "x;9".toList]
    let text := "took 7 us\r\n".toList ++ second ++ "\n\r\nx;9".toList
    let e : Extraction Float := ofText Pattern.standardOrder text
    (∀ line ∈ lines, '\n' ∉ line ∧ line.getLast? ≠ some '\r') ∧ Writes lines text ∧
      e = ofLines Pattern.standardOrder lines ∧ e.linesRead = 4 ∧
      e.series.measurements.map (·.line) = [1, 2, 4] ∧
      '\n' ∉ second ∧ second ≠ [] ∧ linesOf second = [second] := by
  intro second lines text e
  obtain ⟨hwritten, hone, -⟩ := line_ends_do_not_matter (α := Float) Pattern.standardOrder
  have hlines : ∀ line ∈ lines, '\n' ∉ line ∧ line.getLast? ≠ some '\r' := by decide
  have hwrites : Writes lines text :=
    .ended .returnFeed (.ended .feed (.ended .returnFeed (.unended (by decide))))
  have hsecond : '\n' ∉ second ∧ second ≠ [] := by decide
  have heq : e = ofLines Pattern.standardOrder lines := hwritten lines text hlines hwrites
  refine ⟨hlines, hwrites, heq, ?_, ?_, hsecond.1, hsecond.2, hone second hsecond.1 hsecond.2⟩
  · rw [heq]
    rfl
  · rw [heq]
    decide

end LatencyCurve
