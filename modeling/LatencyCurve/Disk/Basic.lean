import LatencyCurve.Disk.FileError
import LatencyCurve.Disk.Path

/-!
# File systems

A file system of directories, regular files and symbolic links, with a current directory. It is
finite data, so what a program does to its files is a function between such values.

## Shape decisions

* **A location is a list of names from the root**, without dots or links: each file has exactly one.
  A path, which is a text, is *resolved* to a location.
* **Resolution follows the segments of a path one by one.** A symbolic link is replaced by its
  target in front of what is left of the path. Only so many links may be followed; that budget is
  what makes resolution end.
* **Resolution says where a file would be made.** If everything but the last name exists, the result
  is a vacancy: a directory and the name missing in it.
* **Asking and making differ in one point.** A name with slashes behind it means a directory. Who
  asks gets to that directory; who wants to make a file there is refused, whether the name exists or
  not.
* **The system takes no path beyond a certain length.** That bound is on the text of a path that is
  handed to the system. Canonical forms are found by handing over one resolved prefix after the
  other, and of these it is *assumed* that none is too long: a canonical form is refused for a
  missing segment, a file in the place of a directory, a name that is too long or too many links,
  but never because what the links of the path come to is itself beyond the bound.
-/

namespace LatencyCurve

/-- Where a file is: names from the root. -/
abbrev Location := List String

/-- What can be at a location. -/
inductive Node where
  /-- A directory -/
  | directory
  /-- A regular file -/
  | file (content : ByteArray)
  /-- A symbolic link -/
  | link (target : Path)

/-- Files are compared by their bytes. -/
instance : DecidableEq Node
  | .directory, .directory => isTrue rfl
  | .file a, .file b =>
    decidable_of_iff (a.data = b.data) (by rw [Node.file.injEq, ByteArray.ext_iff])
  | .link p, .link q => decidable_of_iff (p = q) (by rw [Node.link.injEq])
  | .directory, .file _ | .directory, .link _ | .file _, .directory | .file _, .link _
  | .link _, .directory | .link _, .file _ => isFalse nofun

/-- A file system with a current directory. The root is a directory that is not listed. -/
structure Disk where
  /-- What is at which location -/
  nodes : List (Location × Node)
  /-- The current directory -/
  current : Location
deriving DecidableEq

/-- Where a path leads. -/
inductive Resolved where
  /-- To something that exists -/
  | existing (l : Location)
  /-- To a name that is missing in a directory that exists -/
  | vacant (directory : Location) (name : String)
deriving DecidableEq, Repr

/-- The location of something that has to exist. -/
def Resolved.location : Resolved → Except FileError Location
  | existing l => .ok l
  | vacant .. => .error .notFound

namespace Disk

/-- What is at a location. -/
def node? (d : Disk) (l : Location) : Option Node :=
  if l = [] then some .directory else d.nodes.lookup l

/-- Puts something at a location. -/
def put (d : Disk) (l : Location) (n : Node) : Disk :=
  { d with nodes := (l, n) :: d.nodes.filter (·.1 ≠ l) }

/-- Whether there is a directory at a location. -/
def isDirectoryAt (d : Disk) (l : Location) : Bool :=
  match d.node? l with
  | some .directory => true
  | _ => false

/-! ### Resolving paths -/

/-- How many symbolic links may be followed for one path. -/
def linkBudget : Nat := 40

/-- The longest name of a file, in bytes. -/
def longestName : Nat := 255

/-- The longest path, in bytes. -/
def longestPath : Nat := 4095

/-- Where a path starts. -/
def start (current : Location) (p : Path) : Location :=
  if p.isAbsolute then [] else current

/-- What a path is resolved for. -/
inductive Purpose where
  /-- To find something -/
  | find
  /-- To make or overwrite a file -/
  | make
deriving DecidableEq, Repr

/-- Whether a name means a directory, given the segments behind it: they are what slashes at the end
of a path leave. -/
def meansDirectory (rest : List String) : Bool :=
  !rest.isEmpty && rest.all (· = "")

/-- Follows segments from a location, given how to go on after a link has been replaced. -/
def walkWith (d : Disk) (purpose : Purpose)
    (follow : Location → List String → Except FileError Resolved) :
    Location → List String → Except FileError Resolved
  | here, [] => .ok (.existing here)
  | here, s :: rest =>
    if !d.isDirectoryAt here then .error .notDirectory
    else if Path.isIdle s then d.walkWith purpose follow here rest
    else if s = ".." then d.walkWith purpose follow here.dropLast rest
    else if purpose = .make && meansDirectory rest then .error .isDirectory
    else if longestName < s.utf8ByteSize then .error .nameTooLong
    else
      match d.node? (here ++ [s]) with
      | none => if rest.isEmpty then .ok (.vacant here s) else .error .notFound
      | some (.link target) => follow (start here target) (target.segments ++ rest)
      | some _ => d.walkWith purpose follow (here ++ [s]) rest

/-- Follows segments from a location, with a budget of links. -/
def walk (d : Disk) (purpose : Purpose) : Nat → Location → List String → Except FileError Resolved
  | 0 => d.walkWith purpose fun _ _ ↦ .error .tooManyLinks
  | budget + 1 => d.walkWith purpose (d.walk purpose budget)

/-- Where a path leads, segment by segment, whatever the length of its text. It is assumed that no
resolved prefix is too long for the system. -/
def follow (d : Disk) (purpose : Purpose) (p : Path) : Except FileError Resolved :=
  if p.isEmpty then .error .notFound
  else if p.holdsZero then .error .zeroByte
  else d.walk purpose linkBudget (start d.current p) p.segments

/-- Where a path leads that is given to the system. -/
def resolve (d : Disk) (purpose : Purpose) (p : Path) : Except FileError Resolved :=
  if longestPath < p.text.utf8ByteSize && !p.holdsZero then .error .nameTooLong
  else d.follow purpose p

/-- The location of something that exists, by a path that is given to the system. -/
def locate (d : Disk) (p : Path) : Except FileError Location :=
  (d.resolve .find p).bind Resolved.location

/-- The location of something that exists, whatever the length of the path's text: the canonical form
of the path. It is assumed that no resolved prefix is too long for the system. -/
def canonical (d : Disk) (p : Path) : Except FileError Location :=
  (d.follow .find p).bind Resolved.location

/-! ### Asking and reading -/

/-- What a path leads to. -/
def find? (d : Disk) (p : Path) : Option Node :=
  match d.locate p with
  | .ok l => d.node? l
  | .error _ => none

/-- Whether a path leads to anything. -/
def pathExists (d : Disk) (p : Path) : Bool :=
  (d.find? p).isSome

/-- Whether a path leads to a directory. -/
def isDirectory (d : Disk) (p : Path) : Bool :=
  match d.find? p with
  | some .directory => true
  | _ => false

/-- Whether a path leads to a regular file. -/
def isFile (d : Disk) (p : Path) : Bool :=
  match d.find? p with
  | some (.file _) => true
  | _ => false

/-- The content of the file that a path leads to. -/
def read (d : Disk) (p : Path) : Except FileError ByteArray :=
  match d.locate p with
  | .error e => .error e
  | .ok l =>
    match d.node? l with
    | some (.file content) => .ok content
    | _ => .error .isDirectory

/-! ### Writing -/

/-- The directory in which the last name of a path is looked up. -/
def directoryOf (p : Path) : Path :=
  match p.parent? with
  | some dir => if dir.isEmpty then ⟨"."⟩ else dir
  | none => ⟨"."⟩

/-- Where a path leads that is opened for writing. A directory cannot be. -/
def target (d : Disk) (p : Path) : Except FileError Location :=
  match d.resolve .make p with
  | .error e => .error e
  | .ok (.vacant dir name) => .ok (dir ++ [name])
  | .ok (.existing l) => if d.isDirectoryAt l then .error .isDirectory else .ok l

/-- The regular files that are not in a file system as it was before. -/
def filesSince (d before : Disk) : List (Location × ByteArray) :=
  d.nodes.filterMap fun entry ↦
    match entry.2 with
    | .file content => if before.node? entry.1 = some entry.2 then none else some (entry.1, content)
    | _ => none

/-! ### Laying out a file system -/

/-- The locations on the way to a location, itself included. -/
def ancestors (l : Location) : List Location :=
  (List.range l.length).map fun i ↦ l.take (i + 1)

/-- Makes the directories on the way to a location, as far as nothing is there. -/
def makeDirectories (d : Disk) (l : Location) : Disk :=
  (ancestors l).foldl (fun d l ↦ if (d.node? l).isSome then d else d.put l .directory) d

/-- Goes one segment further from a location, into a directory that is made if nothing is there. -/
def enter (place : Disk × Location) (segment : String) : Disk × Location :=
  match place with
  | (d, here) =>
    let there := here ++ [segment]
    if Path.isIdle segment then (d, here)
    else if segment = ".." then (d, here.dropLast)
    else if (d.node? there).isNone then (d.put there .directory, there)
    else
      match d.walk .find linkBudget here [segment] with
      | .ok (.existing l) => (d, l)
      | _ => (d, there)

/-- Makes the directories that a path leads through, as far as nothing is there, and says where the
path leads then. A directory that the path only passes, as `a` in `a/../b`, is made too. -/
def makePath (d : Disk) (p : Path) : Disk × Location :=
  p.segments.foldl enter (d, start d.current p)

/-- Puts something at a path, in a directory that is made if it is missing. -/
def putAt (d : Disk) (p : Path) (n : Node) : Disk :=
  match p.fileName?, d.makePath (directoryOf p) with
  | some name, (made, here) => made.put (here ++ [name]) n
  | none, (made, _) => made

/-- A file system with nothing but a current directory. -/
def empty (current : Location) : Disk :=
  makeDirectories ⟨[], current⟩ current

end Disk

end LatencyCurve
