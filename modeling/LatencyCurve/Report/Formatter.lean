import LatencyCurve.Report.Colored
import LatencyCurve.Report.Document
import LatencyCurve.Report.Plain

/-!
# Formatters

A formatter is a choice of layout. Whatever the layout, it can show a title, a report and the three
kinds of messages.
-/

namespace LatencyCurve

/-- The layouts that a summary can be asked for in. -/
inductive SummaryFormat where
  /-- For readers -/
  | text
  /-- For programs -/
  | json
deriving DecidableEq, Repr

namespace SummaryFormat

/-- The name of a format. -/
def name : SummaryFormat → String
  | text => "text"
  | json => "json"

/-- The format that has exactly this name. -/
def ofName? (s : String) : Option SummaryFormat :=
  if s = text.name then some text else if s = json.name then some json else none

@[simp] theorem ofName?_name (f : SummaryFormat) : ofName? f.name = some f := by
  cases f <;> decide

/-- No format has the given name. -/
def unknown (s : String) : Fault :=
  ⟨.parse, "Invalid summary format '" ++ s ++ "' (expected text or json)"⟩

/-- The format that a text names, in letters of either case. A table is a text. -/
def parse (s : String) : Except Fault SummaryFormat :=
  let lower := s.toLower
  if lower = "text" || lower = "table" then .ok text
  else if lower = "json" then .ok json
  else .error (unknown s)

end SummaryFormat

/-- A choice of layout. -/
inductive Formatter where
  /-- Plain text -/
  | plain (o : Formatting)
  /-- Text for terminals -/
  | colored (o : Formatting) (scheme : Scheme)
  /-- JSON -/
  | document (pretty : Bool)
deriving DecidableEq, Repr

namespace Formatter

/-- The formatter for readers: colored if colors are used at all. -/
def forReaders (useColor verbose : Bool) : Formatter :=
  let o := { Formatting.standard with useColor := useColor, verbose := verbose }
  if useColor then colored o .standard else plain o

/-- The formatter for a summary format. -/
def ofFormat (format : SummaryFormat) (useColor verbose : Bool) : Formatter :=
  match format with
  | .text => forReaders useColor verbose
  | .json => document true

/-- A title. -/
def header (f : Formatter) (title : String) : Styled :=
  match f with
  | plain _ => [.ofString (Plain.header title)]
  | colored o scheme => Colored.header o scheme title
  | document _ => []

/-- A report. -/
def summary (f : Formatter) (r : Report) : Styled :=
  match f with
  | plain o => [.ofString (Plain.summary o r)]
  | colored o scheme => Colored.summary o scheme r
  | document pretty => [.ofString (Document.summary pretty r)]

/-- An error message. -/
def error (f : Formatter) (message : String) : Styled :=
  match f with
  | plain _ => [.ofString (Plain.error message)]
  | colored o scheme => Colored.error o scheme message
  | document _ => [.ofString (Document.message "error" message)]

/-- A warning. -/
def warning (f : Formatter) (message : String) : Styled :=
  match f with
  | plain _ => [.ofString (Plain.warning message)]
  | colored o scheme => Colored.warning o scheme message
  | document _ => [.ofString (Document.message "warning" message)]

/-- A message of success. -/
def success (f : Formatter) (message : String) : Styled :=
  match f with
  | plain _ => [.ofString (Plain.success message)]
  | colored o scheme => Colored.success o scheme message
  | document _ => [.ofString (Document.message "info" message)]

end Formatter

end LatencyCurve
