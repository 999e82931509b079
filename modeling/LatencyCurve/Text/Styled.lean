/-!
# Styled text

Text with a color and a weight, as terminals show it. A styled text is a list of spans, each with
one style; what is printed depends on whether escape sequences are wanted at all.

* Without them every span is its own text, padded to its width.
* With them a span that has a style is put between an opening sequence and a reset. The padding goes
  inside, so columns do not depend on styles. A reset inside the text would end the style early, so
  the opening sequence is repeated after it.

A span without a style is printed alike in both cases.
-/

namespace LatencyCurve

/-! ### Padding -/

/-- On which side of its column a text stands. -/
inductive Align where
  /-- At the left, with blanks after it -/
  | left
  /-- At the right, with blanks before it -/
  | right
deriving DecidableEq, Repr

/-- A text of some number of blanks. -/
def blanks (n : Nat) : String :=
  String.ofList (List.replicate n ' ')

/-- A text with as many blanks beside it as it lacks of a width. A longer text is left as it is. -/
def pad (align : Align) (width : Nat) (s : String) : String :=
  match align with
  | .left => s ++ blanks (width - s.length)
  | .right => blanks (width - s.length) ++ s

@[simp] theorem length_blanks (n : Nat) : (blanks n).length = n := by
  simp [blanks]

theorem length_pad (align : Align) (width : Nat) (s : String) :
    (pad align width s).length = max width s.length := by
  cases align <;> simp [pad, String.length_append] <;> omega

/-! ### Styles -/

/-- The sixteen colors of a terminal. -/
inductive Color where
  | black | red | green | yellow | blue | magenta | cyan | white
  | brightBlack | brightRed | brightGreen | brightYellow
  | brightBlue | brightMagenta | brightCyan | brightWhite
deriving DecidableEq, Repr

/-- The parameter that selects a color for text. -/
def Color.code : Color → String
  | black => "30"
  | red => "31"
  | green => "32"
  | yellow => "33"
  | blue => "34"
  | magenta => "35"
  | cyan => "36"
  | white => "37"
  | brightBlack => "90"
  | brightRed => "91"
  | brightGreen => "92"
  | brightYellow => "93"
  | brightBlue => "94"
  | brightMagenta => "95"
  | brightCyan => "96"
  | brightWhite => "97"

/-- How a span is shown. -/
structure Style where
  /-- In bold type -/
  bold : Bool
  /-- In italics -/
  italic : Bool
  /-- In a color -/
  color : Option Color
deriving DecidableEq, Repr

namespace Style

/-- Nothing special. -/
def plain : Style := ⟨false, false, none⟩

/-- In a color. -/
def colored (c : Color) : Style := ⟨false, false, some c⟩

/-- In bold type and a color. -/
def boldColored (c : Color) : Style := ⟨true, false, some c⟩

/-- In italics and a color. -/
def italicColored (c : Color) : Style := ⟨false, true, some c⟩

/-- In bold type. -/
def inBold : Style := ⟨true, false, none⟩

/-- The parameters of a style: weight and slant come before the color. -/
def codes (s : Style) : List String :=
  (if s.bold then ["1"] else []) ++ (if s.italic then ["3"] else []) ++
    (match s.color with
      | none => []
      | some c => [c.code])

end Style

/-- The escape sequence with the given parameters. -/
def escapeSequence (codes : List String) : String :=
  "\x1b[" ++ String.intercalate ";" codes ++ "m"

/-- The escape sequence that ends every style. -/
def resetSequence : String := "\x1b[0m"

/-- Repeats a text after every reset sequence, with the characters still to be written given. -/
def afterResets (opening : List Char) : List Char → List Char
  | [] => []
  | '\x1b' :: '[' :: '0' :: 'm' :: s =>
    '\x1b' :: '[' :: '0' :: 'm' :: (opening ++ afterResets opening s)
  | c :: s => c :: afterResets opening s

/-! ### Spans -/

/-- A piece of text with one style, padded to a width. -/
structure Span where
  /-- The text -/
  text : String
  /-- How it is shown -/
  style : Style
  /-- The side on which it stands -/
  align : Align
  /-- The width it is padded to -/
  width : Nat
deriving DecidableEq, Repr

namespace Span

/-- A piece of text as it is. -/
def ofString (s : String) : Span := ⟨s, .plain, .left, 0⟩

/-- A piece of text in a style. -/
def styled (style : Style) (s : String) : Span := ⟨s, style, .left, 0⟩

/-- A piece of text in a style if that is wanted. -/
def styledIf (wanted : Bool) (style : Style) (s : String) : Span :=
  if wanted then styled style s else ofString s

instance : Coe String Span := ⟨ofString⟩

/-- A span as it is printed, with escape sequences or without. -/
def render (escapes : Bool) (span : Span) : String :=
  if escapes && span.style ≠ .plain then
    let opening := escapeSequence span.style.codes
    let text := String.ofList (afterResets opening.toList span.text.toList)
    opening ++ pad span.align span.width text ++ resetSequence
  else pad span.align span.width span.text

end Span

/-- A text made of spans. -/
abbrev Styled := List Span

/-- Styled lines, one under the other. -/
def Styled.lines (ls : List Styled) : Styled :=
  List.intercalate [.ofString "\n"] ls

namespace Styled

/-- A styled text as it is printed, with escape sequences or without. -/
def render (escapes : Bool) (s : Styled) : String :=
  String.join (s.map (Span.render escapes))

@[simp] theorem render_nil (escapes : Bool) : render escapes [] = "" := rfl

end Styled

end LatencyCurve
