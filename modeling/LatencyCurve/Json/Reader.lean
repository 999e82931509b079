import LatencyCurve.Json.Basic

/-!
# Reading JSON

A reader for the grammar of RFC 8259 that refuses what is nested too deep (`depthLimit`). It runs on
fuel: every level of nesting takes two steps and at least two characters, so twice the length of the
text is enough, and what is refused is refused for want of room and not for want of fuel.

A number with a fraction or an exponent is the nearest binary64 number. Any other is an integer,
apart from `-0` and from numbers beyond 64 bits, which are binary64 numbers too. The members of an
object become a map: keys in order, and of two members with one key the later one.
-/

namespace LatencyCurve.Json

/-- What is left of a text after the blanks it starts with. -/
def skipBlanks : List Char → List Char
  | [] => []
  | c :: s => if c = ' ' || c = '\n' || c = '\r' || c = '\t' then skipBlanks s else c :: s

/-! ### Numbers -/

/-- Value of a run of digits. -/
def digitsValue (ds : List Char) : Nat :=
  ds.foldl (fun n d ↦ 10 * n + (d.toNat - '0'.toNat)) 0

/-- A run of digits, with no zero in front of others. -/
def readWhole (s : List Char) : Option (List Char × List Char) :=
  match s.takeWhile Char.isDigit, s.dropWhile Char.isDigit with
  | [], _ => none
  | ['0'], rest => some (['0'], rest)
  | '0' :: _, _ => none
  | ds, rest => some (ds, rest)

/-- The digits after a decimal point, none if there is no point. -/
def readFraction (s : List Char) : Option (List Char × List Char) :=
  match s with
  | '.' :: s =>
    match s.takeWhile Char.isDigit with
    | [] => none
    | ds => some (ds, s.dropWhile Char.isDigit)
  | _ => some ([], s)

/-- A sign and what follows it. -/
def readSign : List Char → Bool × List Char
  | '-' :: s => (true, s)
  | '+' :: s => (false, s)
  | s => (false, s)

/-- The exponent after an `e`, if there is one. -/
def readExponent (s : List Char) : Option (Option Int × List Char) :=
  match s with
  | [] => some (none, [])
  | c :: s' =>
    if c = 'e' || c = 'E' then
      let (negative, s'') := readSign s'
      match s''.takeWhile Char.isDigit with
      | [] => none
      | ds =>
        let n : Int := digitsValue ds
        some (some (if negative then -n else n), s''.dropWhile Char.isDigit)
    else some (none, s)

/-- The binary64 number nearest to `mantissa * 10 ^ exponent`. -/
def nearestFloat (negative : Bool) (mantissa : Nat) (exponent : Int) : Float :=
  let x := Float.ofScientific mantissa (exponent < 0) exponent.natAbs
  if negative then -x else x

/-- The number with the given parts. -/
def numberOf (negative : Bool) (whole fraction : List Char) (exponent : Option Int) : Json :=
  match fraction, exponent with
  | [], none =>
    let n := digitsValue whole
    if negative then
      if n = 0 || 0x8000000000000000 < n then .float (nearestFloat true n 0) else .int (-(n : Int))
    else if UInt64.size ≤ n then .float (nearestFloat false n 0)
    else .int n
  | _, _ =>
    .float (nearestFloat negative (digitsValue (whole ++ fraction))
      (exponent.getD 0 - fraction.length))

/-- Reads a number that starts with a digit or a minus sign. -/
def readNumber (s : List Char) : Option (Json × List Char) := do
  let (negative, s) :=
    match s with
    | '-' :: rest => (true, rest)
    | _ => (false, s)
  let (whole, s) ← readWhole s
  let (fraction, s) ← readFraction s
  let (exponent, s) ← readExponent s
  return (numberOf negative whole fraction exponent, s)

/-! ### Texts -/

/-- Value of a hexadecimal digit. -/
def hexValue? (c : Char) : Option Nat :=
  if '0' ≤ c && c ≤ '9' then some (c.toNat - '0'.toNat)
  else if 'a' ≤ c && c ≤ 'f' then some (c.toNat - 'a'.toNat + 10)
  else if 'A' ≤ c && c ≤ 'F' then some (c.toNat - 'A'.toNat + 10)
  else none

/-- Value of four hexadecimal digits. -/
def hexUnit? (a b c d : Char) : Option Nat := do
  return 4096 * (← hexValue? a) + 256 * (← hexValue? b) + 16 * (← hexValue? c) + (← hexValue? d)

/-- The character that a letter after a backslash stands for. -/
def simpleEscape? : Char → Option Char
  | '"' => some '"'
  | '\\' => some '\\'
  | '/' => some '/'
  | 'b' => some '\x08'
  | 'f' => some '\x0c'
  | 'n' => some '\n'
  | 'r' => some '\r'
  | 't' => some '\t'
  | _ => none

/-- The character that two halves of a surrogate pair make. -/
def joinSurrogates? (high low : Nat) : Option Char :=
  if 0xD800 ≤ high && high < 0xDC00 && 0xDC00 ≤ low && low < 0xE000 then
    some (Char.ofNat (0x10000 + 0x400 * (high - 0xD800) + (low - 0xDC00)))
  else none

/-- The character that a sixteen-bit unit is by itself. -/
def unitChar? (n : Nat) : Option Char :=
  if 0xD800 ≤ n && n < 0xE000 then none else some (Char.ofNat n)

/-- Reads a text after its opening quote. The characters read so far are kept in reverse. -/
def readText (acc : List Char) : List Char → Option (String × List Char)
  | [] => none
  | '"' :: s => some (String.ofList acc.reverse, s)
  | '\\' :: 'u' :: a :: b :: c :: d :: s =>
    match hexUnit? a b c d with
    | none => none
    | some high =>
      match unitChar? high with
      | some ch => readText (ch :: acc) s
      | none =>
        match s with
        | '\\' :: 'u' :: a' :: b' :: c' :: d' :: s' =>
          match (hexUnit? a' b' c' d').bind (joinSurrogates? high) with
          | some ch => readText (ch :: acc) s'
          | none => none
        | _ => none
  | '\\' :: e :: s =>
    match simpleEscape? e with
    | some ch => readText (ch :: acc) s
    | none => none
  | c :: s => if c.toNat < 0x20 || c = '\\' then none else readText (c :: acc) s

/-! ### Values -/

/-- What is left of a text that starts with the given characters. -/
def dropWord? (word s : List Char) : Option (List Char) :=
  if word.isPrefixOf s then some (s.drop word.length) else none

/-- How deep lists and objects may stand inside each other: the next opening bracket is refused,
whatever stands behind it. -/
def depthLimit : Nat := 127

mutual

/-- Reads a value, blanks in front of it included. `room` is how many lists and objects may still be
entered, one inside the other. -/
def readValue : Nat → Nat → List Char → Option (Json × List Char)
  | 0, _, _ => none
  | fuel + 1, room, s =>
    match skipBlanks s with
    | 'n' :: rest => (dropWord? ['u', 'l', 'l'] rest).map (.null, ·)
    | 't' :: rest => (dropWord? ['r', 'u', 'e'] rest).map (.bool true, ·)
    | 'f' :: rest => (dropWord? ['a', 'l', 's', 'e'] rest).map (.bool false, ·)
    | '"' :: rest => (readText [] rest).map fun r ↦ (.str r.1, r.2)
    | '[' :: rest =>
      match room, skipBlanks rest with
      | 0, _ => none
      | _ + 1, ']' :: rest => some (.arr [], rest)
      | room + 1, rest => readItems fuel room [] rest
    | '\x7b' :: rest =>
      match room, skipBlanks rest with
      | 0, _ => none
      | _ + 1, '\x7d' :: rest => some (.obj [], rest)
      | room + 1, rest => readMembers fuel room [] rest
    | rest => readNumber rest

/-- Reads the items of a list up to its closing bracket. The items read so far are in reverse. -/
def readItems : Nat → Nat → List Json → List Char → Option (Json × List Char)
  | 0, _, _, _ => none
  | fuel + 1, room, acc, s =>
    match readValue fuel room s with
    | none => none
    | some (item, rest) =>
      match skipBlanks rest with
      | ',' :: rest => readItems fuel room (item :: acc) rest
      | ']' :: rest => some (.arr (item :: acc).reverse, rest)
      | _ => none

/-- Reads the members of an object up to its closing brace. The members read so far are in
reverse. -/
def readMembers : Nat → Nat → List (String × Json) → List Char → Option (Json × List Char)
  | 0, _, _, _ => none
  | fuel + 1, room, acc, s =>
    match skipBlanks s with
    | '"' :: rest =>
      match readText [] rest with
      | none => none
      | some (key, rest) =>
        match skipBlanks rest with
        | ':' :: rest =>
          match readValue fuel room rest with
          | none => none
          | some (value, rest) =>
            match skipBlanks rest with
            | ',' :: rest => readMembers fuel room ((key, value) :: acc) rest
            | '\x7d' :: rest => some (.obj (fieldsOf ((key, value) :: acc).reverse), rest)
            | _ => none
        | _ => none
    | _ => none

end

/-- The JSON value that a text is, with nothing but blanks around it. A text that nests lists and
objects deeper than the limit is none. -/
def read? (s : String) : Option Json :=
  let cs := s.toList
  match readValue (2 * cs.length + 2) depthLimit cs with
  | some (value, rest) => if skipBlanks rest = [] then some value else none
  | none => none

end LatencyCurve.Json
