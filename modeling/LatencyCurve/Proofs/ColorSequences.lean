import LatencyCurve.Proofs.Unescaped
import Mathlib.Data.List.Forall2

/-!
# Color sequences

A color sequence is the escape character, a bracket, some parameters and the letter `m`. This
module takes them out of a text again (`withoutColors`) and looks at what is left.

A styled text that is printed is its words between color sequences, so its words are left
(`Styled.withoutColors_renderIn`); they are what the same text without its styles is printed as.
What makes this true is that no text in it holds the escape character, and that padding goes inside
the sequences. `Tints` says both of two styled texts, part by part, and `Tints.decorates` draws the
conclusion.
-/

namespace LatencyCurve

/-! ### Color sequences -/

/-- Whether a character may stand among the parameters of a color sequence. -/
def isParameter (c : Char) : Bool :=
  c.isDigit || c = ';'

/-- The length of the color sequence that a text begins with, zero if it begins with none. -/
def colorLength : List Char → Nat
  | '\x1b' :: '[' :: s =>
    let parameters := s.takeWhile isParameter
    if s[parameters.length]? = some 'm' then parameters.length + 3 else 0
  | _ => 0

/-- The characters of a text that are in no color sequence, given how many characters of one are
still to come. -/
def uncoloredFrom : Nat → List Char → List Char
  | _, [] => []
  | pending + 1, _ :: s => uncoloredFrom pending s
  | 0, c :: s =>
    match colorLength (c :: s) with
    | 0 => c :: uncoloredFrom 0 s
    | pending + 1 => uncoloredFrom pending s

/-- A text without its color sequences. -/
def withoutColors (s : String) : String :=
  String.ofList (uncoloredFrom 0 s.toList)

/-- What is still to come of a color sequence is left out. -/
theorem uncoloredFrom_length_append (s t : List Char) :
    uncoloredFrom s.length (s ++ t) = uncoloredFrom 0 t := by
  induction s with
  | nil => rfl
  | cons c s ih => exact ih

/-- A text that does not begin with the escape character begins with no color sequence. -/
theorem colorLength_cons {c : Char} (h : '\x1b' ≠ c) (s : List Char) :
    colorLength (c :: s) = 0 := by
  rw [colorLength.eq_def]
  split
  · rename_i heq
    cases heq
    exact absurd rfl h
  · rfl

theorem colorLength_sequence {parameters : List Char} (h : parameters.all isParameter = true)
    (s : List Char) :
    colorLength ('\x1b' :: '[' :: (parameters ++ 'm' :: s)) = parameters.length + 3 := by
  have htake : (parameters ++ 'm' :: s).takeWhile isParameter = parameters := by
    rw [List.takeWhile_append_of_pos (List.all_eq_true.1 h), List.takeWhile_cons_of_neg (by decide),
      List.append_nil]
  simp [colorLength, htake]

theorem withoutColors_append {s : String} (h : Unescaped s) (t : String) :
    withoutColors (s ++ t) = s ++ withoutColors t := by
  have hchars (cs ds : List Char) (hcs : '\x1b' ∉ cs) :
      uncoloredFrom 0 (cs ++ ds) = cs ++ uncoloredFrom 0 ds := by
    induction cs with
    | nil => rfl
    | cons c cs ih =>
      obtain ⟨hc, hcs⟩ := not_or.1 (mt List.mem_cons.2 hcs)
      rw [List.cons_append, uncoloredFrom, colorLength_cons hc, ih hcs]
      rfl
  rw [withoutColors, String.toList_append, hchars _ _ h, String.ofList_append, String.ofList_toList,
    withoutColors]

/-- A text without the escape character holds no color sequence. -/
theorem withoutColors_of_unescaped {s : String} (h : Unescaped s) : withoutColors s = s := by
  have hnone : withoutColors "" = "" := rfl
  rw [← String.append_empty (s := s), withoutColors_append h, hnone]

/-- A color sequence is left out. -/
theorem withoutColors_escapeSequence_append {codes : List String}
    (h : ∀ code ∈ codes, code.toList.all isParameter = true) (t : String) :
    withoutColors (escapeSequence codes ++ t) = withoutColors t := by
  let parameters := (";".intercalate codes).toList
  have hparameters : parameters.all isParameter = true :=
    List.all_eq_true.2 <| forall_mem_intercalate (List.all_eq_true.1 (by decide)) fun code hcode ↦
      List.all_eq_true.1 (h code hcode)
  have hchars : (escapeSequence codes ++ t).toList =
      '\x1b' :: '[' :: (parameters ++ 'm' :: t.toList) := by
    simp [escapeSequence, parameters]
  have hrest : uncoloredFrom (parameters.length + 1) (parameters ++ 'm' :: t.toList) =
      uncoloredFrom 0 t.toList := by
    simpa using uncoloredFrom_length_append (parameters ++ ['m']) t.toList
  rw [withoutColors, hchars, uncoloredFrom, colorLength_sequence hparameters]
  show String.ofList (uncoloredFrom (parameters.length + 1) (parameters ++ 'm' :: t.toList)) = _
  rw [hrest, withoutColors]

theorem withoutColors_resetSequence_append (t : String) :
    withoutColors (resetSequence ++ t) = withoutColors t := by
  have hreset : resetSequence = escapeSequence ["0"] := by decide
  rw [hreset]
  exact withoutColors_escapeSequence_append (by decide) t

/-- Nothing is repeated in a text without the escape character. -/
theorem afterResets_of_notMem (opening : List Char) {s : List Char} (h : '\x1b' ∉ s) :
    afterResets opening s = s := by
  induction s with
  | nil => rfl
  | cons c s ih =>
    obtain ⟨hc, hs⟩ := not_or.1 (mt List.mem_cons.2 h)
    rw [afterResets, ih hs]
    intro _ heq
    exact absurd heq.symm hc

/-! ### Spans -/

/-- The parameters that select the colors. Terminals know more colors than those that have a name
here, such as every mixture of red, green and blue; a palette may put any of them in their place. -/
structure Palette where
  /-- The parameters that select a color -/
  code : Color → String
  /-- They are parameters. -/
  isParameter_code : ∀ color, (code color).toList.all isParameter = true

namespace Palette

/-- The usual colors. -/
def standard : Palette where
  code := Color.code
  isParameter_code color := by cases color <;> decide

/-- The parameters of a style. -/
def codesOf (p : Palette) (s : Style) : List String :=
  (if s.bold then ["1"] else []) ++ (if s.italic then ["3"] else []) ++ (s.color.map p.code).toList

theorem isParameter_codesOf (p : Palette) (s : Style) :
    ∀ code ∈ p.codesOf s, code.toList.all isParameter = true := by
  intro code hcode
  simp only [codesOf, List.mem_append] at hcode
  rcases hcode with (hbold | hitalic) | hcolor
  · split at hbold
    · obtain rfl := List.mem_singleton.1 hbold
      decide
    · cases hbold
  · split at hitalic
    · obtain rfl := List.mem_singleton.1 hitalic
      decide
    · cases hitalic
  · rw [Option.mem_toList, Option.map_eq_some_iff] at hcolor
    obtain ⟨color, -, rfl⟩ := hcolor
    exact p.isParameter_code color

theorem codesOf_standard (s : Style) : standard.codesOf s = s.codes := by
  rcases s with ⟨bold, italic, - | color⟩ <;> rfl

end Palette

namespace Span

/-- A span as it is printed with escape sequences, in the colors of a palette. -/
def renderIn (p : Palette) (span : Span) : String :=
  if span.style = .plain then pad span.align span.width span.text
  else
    let opening := escapeSequence (p.codesOf span.style)
    opening ++
      pad span.align span.width (String.ofList (afterResets opening.toList span.text.toList)) ++
      resetSequence

/-- What a span says: its text, padded to its width. -/
def words (span : Span) : String :=
  pad span.align span.width span.text

/-- A span without its style. -/
def unstyled (span : Span) : Span :=
  { span with style := .plain }

theorem render_true (span : Span) : span.render true = span.renderIn .standard := by
  by_cases h : span.style = .plain <;> simp [render, renderIn, h, Palette.codesOf_standard]

theorem render_unstyled (escapes : Bool) (span : Span) :
    span.unstyled.render escapes = span.words := by
  cases escapes <;> rfl

/-- A span in color has its words between color sequences. -/
theorem withoutColors_renderIn_append {span : Span} (h : Unescaped span.text) (p : Palette)
    (t : String) : withoutColors (span.renderIn p ++ t) = span.words ++ withoutColors t := by
  have hwords : Unescaped span.words := unescaped_pad h
  rw [renderIn]
  split
  · exact withoutColors_append hwords t
  · dsimp only
    rw [afterResets_of_notMem _ h, String.ofList_toList, String.append_assoc, String.append_assoc,
      withoutColors_escapeSequence_append (p.isParameter_codesOf span.style), ← words,
      withoutColors_append hwords, withoutColors_resetSequence_append]

end Span

namespace Styled

/-- A styled text as it is printed with escape sequences, in the colors of a palette. -/
def renderIn (p : Palette) (s : Styled) : String :=
  String.join (s.map (Span.renderIn p))

/-- What a styled text says. -/
def words (s : Styled) : String :=
  String.join (s.map Span.words)

/-- A styled text without its styles. -/
def unstyled (s : Styled) : Styled :=
  s.map Span.unstyled

theorem render_unstyled (escapes : Bool) (s : Styled) : s.unstyled.render escapes = s.words := by
  rw [render, unstyled, List.map_map, words]
  exact congrArg String.join (List.map_congr_left fun span _ ↦ span.render_unstyled escapes)

/-- **A styled text in color has its words between color sequences.** -/
theorem withoutColors_renderIn {s : Styled} (h : ∀ span ∈ s, Unescaped span.text) (p : Palette) :
    withoutColors (s.renderIn p) = s.words := by
  induction s with
  | nil => rfl
  | cons span s ih =>
    obtain ⟨hspan, hs⟩ := List.forall_mem_cons.1 h
    rw [renderIn, List.map_cons, String.join_cons, Span.withoutColors_renderIn_append hspan,
      ← renderIn, ih hs, words, words, List.map_cons, String.join_cons]

theorem render_true (s : Styled) : s.render true = s.renderIn .standard := by
  rw [render, renderIn, List.map_congr_left fun span _ ↦ span.render_true]

end Styled

/-! ### Decorations -/

/-- What is printed for one styled text is what is printed for another but for color sequences: with
escape sequences or without them, and in the colors of every palette. -/
structure Decorates (on off : Styled) : Prop where
  /-- In the usual colors. -/
  render_eq : ∀ escapes escapes', withoutColors (on.render escapes) = off.render escapes'
  /-- In any colors. -/
  renderIn_eq : ∀ palette escapes, withoutColors (on.renderIn palette) = off.render escapes

/-- A styled text is another with styles, and there is no escape character in what it says. -/
structure Tints (on off : Styled) : Prop where
  /-- Without the styles they are the same. -/
  unstyled_eq : on.unstyled = off
  /-- There is no escape character. -/
  unescaped : ∀ span ∈ on, Unescaped span.text

namespace Tints

variable {on off on' off' : Styled}

/-- **Styles decorate.** -/
theorem decorates (h : Tints on off) : Decorates on off := by
  obtain ⟨rfl, hunescaped⟩ := h
  have hrenderIn (palette : Palette) (escapes : Bool) :
      withoutColors (on.renderIn palette) = on.unstyled.render escapes := by
    rw [Styled.withoutColors_renderIn hunescaped, Styled.render_unstyled]
  refine ⟨fun escapes escapes' ↦ ?_, hrenderIn⟩
  cases escapes with
  | true => exact on.render_true ▸ hrenderIn .standard escapes'
  | false =>
    have hwords : Unescaped on.words := by
      refine unescaped_join fun s hs ↦ ?_
      obtain ⟨span, hspan, rfl⟩ := List.mem_map.1 hs
      exact unescaped_pad (hunescaped span hspan)
    show withoutColors on.words = _
    rw [withoutColors_of_unescaped hwords, Styled.render_unstyled]

theorem nil : Tints [] [] :=
  ⟨rfl, List.forall_mem_nil _⟩

theorem append (h : Tints on off) (h' : Tints on' off') : Tints (on ++ on') (off ++ off') := by
  refine ⟨?_, List.forall_mem_append.2 ⟨h.unescaped, h'.unescaped⟩⟩
  rw [← h.unstyled_eq, ← h'.unstyled_eq]
  exact List.map_append

theorem flatMap {α : Type} {xs : List α} {f g : α → Styled} (h : ∀ x ∈ xs, Tints (f x) (g x)) :
    Tints (xs.flatMap f) (xs.flatMap g) := by
  induction xs with
  | nil => exact nil
  | cons x xs ih =>
    rw [List.flatMap_cons, List.flatMap_cons]
    exact (h x List.mem_cons_self).append (ih fun y hy ↦ h y (List.mem_cons_of_mem x hy))

/-- A text as it is. -/
theorem ofString {s : String} (h : Unescaped s) : Tints [.ofString s] [.ofString s] :=
  ⟨rfl, List.forall_mem_singleton.2 h⟩

/-- Lines one under the other. -/
theorem lines {ls ls' : List Styled} (h : List.Forall₂ Tints ls ls') :
    Tints (.lines ls) (.lines ls') := by
  induction h with
  | nil => exact nil
  | @cons l l' ls ls' hl hls ih =>
    rcases hls with - | ⟨hm, hms⟩
    · simpa [Styled.lines] using hl
    · have hfeed : Tints [.ofString "\n"] [.ofString "\n"] := ofString (by decide)
      rw [Styled.lines, List.intercalate_cons_cons, Styled.lines, List.intercalate_cons_cons]
      exact (hl.append hfeed).append ih

end Tints

end LatencyCurve
