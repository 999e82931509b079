import LatencyCurve.Text.Unseen

/-!
# Quoted text

A text in quotes as messages for developers show it. Quotes and backslashes are escaped, and so is
every character that would not be seen as itself: marks that extend the character before them, and
characters without a shape of their own. An apostrophe is not, as it does not end the text.
-/

namespace LatencyCurve

/-- The digits of a number in base sixteen. -/
def hexText (n : Nat) : List Char :=
  Nat.toDigits 16 n

/-- Whether a character would not be seen as itself. -/
def isUnseen (c : Char) : Bool :=
  isExtending c || isShapeless c

/-- A character as it stands between quotes. -/
def quotedChar (c : Char) : List Char :=
  match c with
  | '\x00' => ['\\', '0']
  | '\t' => ['\\', 't']
  | '\r' => ['\\', 'r']
  | '\n' => ['\\', 'n']
  | '"' => ['\\', '"']
  | '\\' => ['\\', '\\']
  | _ => if isUnseen c then ['\\', 'u', '\x7b'] ++ hexText c.toNat ++ ['\x7d'] else [c]

/-- A text in quotes. -/
def quoted (s : String) : String :=
  "\"" ++ String.ofList (s.toList.flatMap quotedChar) ++ "\""

end LatencyCurve
