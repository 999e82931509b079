import LatencyCurve.Config.Basic

/-!
# Levels of the journal

How severe an entry of the journal is. A configuration sets the least level that is written:
warnings by default, progress when it is verbose, everything worth a developer's time when it is
debugging.
-/

namespace LatencyCurve

/-- How severe an entry is, from the least. -/
inductive Level where
  | trace | debug | info | warn | error | fatal
deriving DecidableEq, Repr

namespace Level

/-- Place of a level in the order of severity. -/
def rank : Level → Nat
  | trace => 0
  | debug => 1
  | info => 2
  | warn => 3
  | error => 4
  | fatal => 5

/-- Whether a level reaches a threshold. -/
def reaches (l threshold : Level) : Bool :=
  threshold.rank ≤ l.rank

/-- The name of a level. -/
def name : Level → String
  | trace => "TRACE"
  | debug => "DEBUG"
  | info => "INFO"
  | warn => "WARN"
  | error => "ERROR"
  | fatal => "FATAL"

/-- The levels, from the least severe. -/
def all : List Level := [trace, debug, info, warn, error, fatal]

/-- The level with exactly this name. -/
def ofName? (s : String) : Option Level :=
  all.find? (·.name = s)

@[simp] theorem ofName?_name (l : Level) : ofName? l.name = some l := by
  cases l <;> decide

/-- The color of a level. -/
def color : Level → Color
  | trace => .white
  | debug => .cyan
  | info => .green
  | warn => .yellow
  | error => .red
  | fatal => .magenta

/-- The escape sequence that starts the color of a level. -/
def escape (l : Level) : String :=
  escapeSequence [l.color.code]

/-- The level that a text names, in letters of either case. -/
def parse (s : String) : Except Fault Level :=
  match s.toLower with
  | "trace" => .ok trace
  | "debug" => .ok debug
  | "info" => .ok info
  | "warn" | "warning" => .ok warn
  | "error" => .ok error
  | "fatal" => .ok fatal
  | _ => .error ⟨.parse, "Invalid log level: " ++ s⟩

/-- The threshold that a configuration sets. -/
def ofConfig (c : Config) : Level :=
  if c.debug then debug else if c.verbose then info else warn

end Level

end LatencyCurve
