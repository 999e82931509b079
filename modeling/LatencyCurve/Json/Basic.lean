/-!
# JSON values

JSON as this library reads and writes it. Two decisions shape the type:

* **Whole numbers and fractions are different values.** A number written with a fraction or an
  exponent is a binary64 number; any other is an integer. So `1000` and `1000.0` are told apart, and
  each is written back as it was read.
* **An object is a list of members.** A structure lists its fields in the order it declares them; a
  map lists its keys in order (`Json.Fields`). Reading makes a map of every object.
-/

namespace LatencyCurve

/-- A JSON value. -/
inductive Json where
  /-- The value `null` -/
  | null
  /-- A truth value -/
  | bool (b : Bool)
  /-- A number without fraction and exponent -/
  | int (n : Int)
  /-- A number with a fraction or an exponent -/
  | float (x : Float)
  /-- A text -/
  | str (s : String)
  /-- A list of values -/
  | arr (items : List Json)
  /-- An object, as the list of its members -/
  | obj (members : List (String × Json))
deriving Inhabited

namespace Json

/-- A natural number as JSON. -/
def nat (n : Nat) : Json :=
  .int n

/-- A text that may be missing, as JSON. -/
def optStr : Option String → Json
  | none => .null
  | some s => .str s

/-! ### Maps -/

/-- The members of a map: keys in strictly ascending order of code points. -/
abbrev Fields := List (String × Json)

/-- Sets the value of a key, in its place. -/
def insertField (key : String) (value : Json) : Fields → Fields
  | [] => [(key, value)]
  | (k, v) :: rest =>
    if key = k then (key, value) :: rest
    else if key < k then (key, value) :: (k, v) :: rest
    else (k, v) :: insertField key value rest

/-- Sets the value of a key that has none. -/
def insertMissing (key : String) (value : Json) (fields : Fields) : Fields :=
  if (fields.lookup key).isSome then fields else insertField key value fields

/-- The map with the given members; of two members with one key, the later counts. -/
def fieldsOf (members : List (String × Json)) : Fields :=
  members.foldl (fun acc m ↦ insertField m.1 m.2 acc) []

/-! ### Looking into a value -/

/-- The member of an object with a given key. -/
def member? (key : String) : Json → Option Json
  | .obj members => members.lookup key
  | _ => none

/-- The text that a value is. -/
def str? : Json → Option String
  | .str s => some s
  | _ => none

/-- The truth value that a value is. -/
def bool? : Json → Option Bool
  | .bool b => some b
  | _ => none

/-- The natural number that a value is. -/
def nat? : Json → Option Nat
  | .int (.ofNat n) => some n
  | _ => none

/-- The natural number of 32 bits that a value is. -/
def nat32? (j : Json) : Option Nat :=
  j.nat?.bind fun n ↦ if n < UInt32.size then some n else none

end Json

end LatencyCurve
