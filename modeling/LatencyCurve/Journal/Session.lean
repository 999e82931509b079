import LatencyCurve.Journal.Entry

/-!
# Sessions and loggers

A session is what the loggers of one run share: an id, fields that go with every entry, and the
operation that is running. A logger writes for one component, from some level on, in one form.

## One running operation

A session holds at most one running operation. Starting another replaces it, and only its own end
clears it: the end of an operation that has been replaced changes nothing. An entry that names no
operation of its own belongs to the running one, and so does the entry that tells about the end,
since it is made before the operation is cleared.

## What an entry is when it is written

`Session.complete` adds to an entry what the session knows. The entry's own fields come before those
of the session, apart from the session's id, which nothing can replace. Whether the entry is written
at all is decided afterwards, by its level alone; so thresholds never change what a session knows.
-/

namespace LatencyCurve

/-- What the loggers of one run share. -/
structure Session where
  /-- The id of the session -/
  id : Option String
  /-- The operation that is running -/
  operation : Option String
  /-- Fields that go with every entry -/
  fields : Json.Fields

/-- The written forms of an entry. -/
inductive EntryFormat where
  /-- For readers -/
  | console
  /-- For programs -/
  | json
deriving DecidableEq, Repr

/-- Writes entries for one component. -/
structure Logger where
  /-- The component -/
  component : String
  /-- The least level that is written -/
  threshold : Level
  /-- The form that is written -/
  format : EntryFormat
  /-- Whether levels are colored -/
  useColor : Bool
  /-- Whether entries keep the place they were written at -/
  keepsSite : Bool
deriving DecidableEq, Repr

namespace Logger

/-- A logger for readers that tells about progress. -/
def standard (component : String) : Logger :=
  ⟨component, .info, .console, true, false⟩

/-- The logger that a configuration asks for: debugging means JSON, with places. -/
def ofConfig (component : String) (c : Config) : Logger :=
  ⟨component, .ofConfig c, if c.debug then .json else .console, c.useColor, c.debug⟩

/-- Whether entries of a level are written. -/
def writes (l : Logger) (level : Level) : Bool :=
  level.reaches l.threshold

/-- An entry of the logger's component. -/
def entry (l : Logger) (level : Level) (message : String) : Entry :=
  .of level l.component message

/-- The line of a complete entry. -/
def line (l : Logger) (stamp : Stamp) (e : Entry) : String :=
  match l.format with
  | .console => e.console l.useColor stamp
  | .json => (e.toJson stamp).compact

/-- The line of a complete entry, unless its level is below the threshold. -/
def line? (l : Logger) (stamp : Stamp) (e : Entry) : Option String :=
  if l.writes e.level then some (l.line stamp e) else none

end Logger

/-- What a logger is asked to do. -/
inductive Act where
  /-- Start an operation under an id -/
  | start (id operation : String)
  /-- End the operation with an id -/
  | finish (id operation : String) (success : Bool)
  /-- Add a field to every later entry -/
  | addContext (key : String) (value : Json)
  /-- Write an entry -/
  | record (e : Entry)

namespace Session

/-- The session without an id. -/
def anonymous : Session := ⟨none, none, []⟩

/-- The session with an id. -/
def withId (id : String) : Session := ⟨some id, none, []⟩

/-- The name of the field that holds the id of the session. -/
def idField : String := "session_id"

/-- The fields of a complete entry. -/
def completeFields (s : Session) (own : Json.Fields) : Json.Fields :=
  let merged := s.fields.foldl (fun acc f ↦ Json.insertMissing f.1 f.2 acc) own
  match s.id with
  | some id => Json.insertField idField (.str id) merged
  | none => merged

/-- An entry with everything that the session adds to it, as a logger would write it. -/
def complete (s : Session) (l : Logger) (e : Entry) : Entry :=
  { e with
    fields := s.completeFields e.fields
    correlation := e.correlation <|> s.operation
    site := if l.keepsSite then e.site else none }

/-- A session in which an operation has been started. -/
def begin (s : Session) (id : String) : Session :=
  { s with operation := some id }

/-- A session in which an operation has been ended. -/
def clear (s : Session) (id : String) : Session :=
  if s.operation = some id then { s with operation := none } else s

/-- The entry about the start of an operation. -/
def startEntry (l : Logger) (operation : String) : Entry :=
  (l.entry .info (operation ++ " started")).withField "operation" (.str operation)

/-- The entry about the end of an operation. -/
def finishEntry (l : Logger) (operation : String) (success : Bool) : Entry :=
  (l.entry (if success then .info else .warn)
      (operation ++ (if success then " finished" else " failed")))
    |>.withField "operation" (.str operation)
    |>.withField "success" (.bool success)

/-- Performs an act of a logger: the session afterwards, and the complete entry that comes of it. -/
def perform (s : Session) (l : Logger) : Act → Session × Option Entry
  | .start id operation =>
    let s' := s.begin id
    (s', some (s'.complete l (startEntry l operation)))
  | .finish id operation success =>
    (s.clear id, some (s.complete l (finishEntry l operation success)))
  | .addContext key value => ({ s with fields := Json.insertField key value s.fields }, none)
  | .record e => (s, some (s.complete l e))

end Session

end LatencyCurve
