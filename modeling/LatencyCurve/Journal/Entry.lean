import LatencyCurve.Journal.Level
import LatencyCurve.Json.Reader
import LatencyCurve.Json.Writer

/-!
# Entries of the journal

An entry has a level, the component that wrote it, a message and named fields; it may carry the id
of the operation it belongs to, and the place in the program it was written at. It is built up by
adding to it, and of two values for one field the later counts.

There are two written forms, each on one line. The console form is for readers. The JSON form can be
read back (`Entry.ofJson?`). When an entry is written is not part of it: its stamp is added then.
-/

namespace LatencyCurve

/-- A place in a program. -/
structure CallSite where
  /-- The file -/
  file : String
  /-- The line -/
  line : Nat
  /-- The module -/
  moduleName : Option String
deriving DecidableEq, Repr

/-- When an entry is written. -/
structure Stamp where
  /-- The time of day -/
  clock : String
  /-- Date and time -/
  full : String
deriving DecidableEq, Repr

/-- An entry of the journal. -/
structure Entry where
  /-- How severe it is -/
  level : Level
  /-- Who wrote it -/
  component : String
  /-- What it says -/
  message : String
  /-- The operation it belongs to -/
  correlation : Option String
  /-- Further values, by name -/
  fields : Json.Fields
  /-- Where it was written -/
  site : Option CallSite

namespace Entry

/-! ### Building entries -/

/-- An entry with nothing but a message. -/
def of (level : Level) (component message : String) : Entry :=
  ⟨level, component, message, none, [], none⟩

/-- An entry with the value of a field set. -/
def withField (e : Entry) (key : String) (value : Json) : Entry :=
  { e with fields := Json.insertField key value e.fields }

/-- An entry of an operation. -/
def withCorrelation (e : Entry) (id : String) : Entry :=
  { e with correlation := some id }

/-- An entry of an operation, if there is one. -/
def withCorrelation? (e : Entry) (id : Option String) : Entry :=
  { e with correlation := id <|> e.correlation }

/-- An entry written at a place. -/
def withSite (e : Entry) (site : CallSite) : Entry :=
  { e with site := some site }

/-- An entry with the counts of an extraction. -/
def withExtraction (e : Entry) (x : Extraction Float) : Entry :=
  e |>.withField "lines_read" (.nat x.linesRead)
    |>.withField "measurements" (.nat x.series.length)
    |>.withField "skipped_lines" (.nat x.skippedLines)
    |>.withField "took_matches" (.nat (x.series.countFor .took))
    |>.withField "suffix_matches" (.nat (x.series.countFor .semicolonSuffix))

/-- An entry with the kind of a fault. -/
def withFault (e : Entry) (f : Fault) : Entry :=
  e |>.withField "error_category" (.str f.kind.category)
    |>.withField "exit_code" (.nat f.kind.exitCode)

/-! ### The console form -/

/-- A level in its column. -/
def levelText (useColor : Bool) (l : Level) : String :=
  let padded := pad .right 5 l.name
  if useColor then l.escape ++ padded ++ resetSequence else padded

/-- The id of an operation, cut to eight characters. -/
def shortId (id : String) : String :=
  String.ofList (id.toList.take 8)

/-- An entry for readers. -/
def console (useColor : Bool) (stamp : Stamp) (e : Entry) : String :=
  stamp.clock ++ " " ++ levelText useColor e.level ++ " [" ++ e.component ++ "] " ++ e.message ++
    (match e.correlation with
      | some id => " [" ++ shortId id ++ "]"
      | none => "") ++
    String.join (e.fields.map fun f ↦ " " ++ f.1 ++ "=" ++ f.2.compact) ++
    (match e.site with
      | some site => " @ " ++ site.file ++ ":" ++ toString site.line
      | none => "")

/-! ### The JSON form -/

/-- A place in a program as JSON. -/
def siteJson (site : CallSite) : Json :=
  .obj [("file", .str site.file), ("line", .nat site.line), ("module", .optStr site.moduleName)]

/-- A member that is left out if there is no value for it. -/
def optMember (key : String) (value : Option Json) : List (String × Json) :=
  match value with
  | some v => [(key, v)]
  | none => []

/-- An entry as JSON. -/
def toJson (stamp : Stamp) (e : Entry) : Json :=
  .obj ([("timestamp", .str stamp.full), ("level", .str e.level.name),
      ("component", .str e.component), ("message", .str e.message)] ++
    optMember "correlation_id" (e.correlation.map .str) ++
    [("fields", .obj e.fields)] ++
    optMember "location" (e.site.map siteJson))

/-- Reads a text that may be missing. -/
def optStr? : Option Json → Option (Option String)
  | none | some .null => some none
  | some (.str s) => some (some s)
  | _ => none

/-- Reads a place in a program. -/
def site? (j : Json) : Option CallSite := do
  let file ← (← j.member? "file").str?
  let line ← (← j.member? "line").nat32?
  let moduleName ← optStr? (j.member? "module")
  return ⟨file, line, moduleName⟩

/-- Reads a place that may be missing. -/
def optSite? : Option Json → Option (Option CallSite)
  | none | some .null => some none
  | some j => (site? j).map some

/-- Reads fields that may be missing. -/
def fields? : Option Json → Option Json.Fields
  | none => some []
  | some (.obj members) => some (Json.fieldsOf members)
  | some _ => none

/-- Reads an entry, with the time it was written at. -/
def ofJson? (j : Json) : Option (String × Entry) := do
  let time ← (← j.member? "timestamp").str?
  let level ← Level.ofName? (← (← j.member? "level").str?)
  let component ← (← j.member? "component").str?
  let message ← (← j.member? "message").str?
  let correlation ← optStr? (j.member? "correlation_id")
  let fields ← fields? (j.member? "fields")
  let site ← optSite? (j.member? "location")
  return (time, ⟨level, component, message, correlation, fields, site⟩)

/-- Reads the written JSON form of an entry. -/
def read? (line : String) : Option (String × Entry) :=
  (Json.read? line).bind ofJson?

end Entry

end LatencyCurve
