import LatencyCurve.Text.Lines

/-!
# Paths

A path is a text. It is read in two ways, and the program uses both:

* its *segments*, the pieces between slashes, which is what a file system follows one by one;
* its *components*, in which repeated slashes, slashes at the end and dots in the middle do not
  count. A dot at the very beginning is a component, and so is the root. Nothing is resolved: `a/..`
  has two components.

Two paths are the same if they have the same components, whatever their texts.
-/

namespace LatencyCurve

/-- The name of a file or directory, as it is written. -/
structure Path where
  /-- The text of the path -/
  text : String
deriving DecidableEq, Repr

/-- A step of a path. -/
inductive Component where
  /-- The root directory -/
  | root
  /-- The dot a path begins with -/
  | here
  /-- The parent directory -/
  | up
  /-- An entry of the directory -/
  | name (s : String)
deriving DecidableEq, Repr

namespace Path

/-- The pieces of a path between its slashes. -/
def segments (p : Path) : List String :=
  (piecesAt '/' p.text.toList).map String.ofList

/-- Whether a segment does not lead anywhere. -/
def isIdle (segment : String) : Bool :=
  segment = "" || segment = "."

/-- The component that a segment is, if it leads anywhere. -/
def componentOf? (segment : String) : Option Component :=
  if isIdle segment then none
  else if segment = ".." then some .up
  else some (.name segment)

/-- The component that a path begins with. -/
def leading (first : String) (rest : List String) : List Component :=
  if first = "" then (if rest = [] then [] else [.root])
  else if first = "." then [.here]
  else (componentOf? first).toList

/-- The components of a path. -/
def components (p : Path) : List Component :=
  match p.segments with
  | [] => []
  | first :: rest => leading first rest ++ rest.filterMap componentOf?

/-- Whether two paths are the same, by their components. -/
def same (p q : Path) : Bool :=
  p.components = q.components

/-- Whether a path has no text at all. -/
def isEmpty (p : Path) : Bool :=
  p.text.isEmpty

/-- Whether a path starts at the root. -/
def isAbsolute (p : Path) : Bool :=
  p.text.toList.head? = some '/'

/-- Whether there is a zero byte in a path. -/
def holdsZero (p : Path) : Bool :=
  p.text.toList.contains '\x00'

/-- The last component, if it is a name. -/
def fileName? (p : Path) : Option String :=
  match p.components.getLast? with
  | some (.name s) => some s
  | _ => none

/-- Segments without those at the end that do not lead anywhere. -/
def dropIdle (segments : List String) : List String :=
  (segments.reverse.dropWhile isIdle).reverse

/-- The path with the given segments. -/
def ofSegments (segments : List String) : Path :=
  ⟨if segments = [""] then "/" else String.intercalate "/" segments⟩

/-- The path without its last component; neither the root nor the empty path has a parent. -/
def parent? (p : Path) : Option Path :=
  match p.segments with
  | [] => none
  | first :: rest =>
    match dropIdle rest with
    | [] => if first = "" then none else some ⟨""⟩
    | used => some (ofSegments (first :: dropIdle used.dropLast))

/-- What follows the last dot of a name, unless the name has no other dot and begins with it. -/
def extensionOf? (name : String) : Option String :=
  if name = ".." then none
  else
    let cs := name.toList
    let after := (cs.reverse.takeWhile (· != '.')).reverse
    let before := cs.length - after.length
    if before ≤ 1 then none else some (String.ofList after)

/-- The extension of the last component. -/
def extension? (p : Path) : Option String :=
  p.fileName?.bind extensionOf?

/-- A path with a text added at its end. -/
def append (p : Path) (s : String) : Path :=
  ⟨p.text ++ s⟩

end Path

end LatencyCurve
