import ClusterFramework.Binary64.Printed
import ClusterFramework.Log.Context
import ClusterFramework.Text.Blank
import ClusterFramework.Text.Quoted

/-! What a program logs: a level and named values. From these come the severity, the place
and the message of the records. -/
namespace ClusterFramework
namespace Log

/-- A text, a natural number, or the printed form of any other value. -/
inductive Value where
  | text (s : String)
  | natural (n : UInt64)
  | printed (s : String)
  deriving DecidableEq,Repr

def Value.show : Value → String
  | text s => s
  | natural n => Text.decimal n.toNat
  | printed s => s

def ofNat (n : Nat) : Value := .natural (UInt64.ofNat n)

def ofInt64 (n : Int64) : Value := .printed (toString n.toInt)

def ofBinary64 (x : Binary64) : Value := .printed x.diagnosticText

def ofBool (b : Bool) : Value := .printed (if b then "true" else "false")

def ofQuotedOption (s : Option String) : Value := .printed (Text.quotedOption s)

structure Entry where
  level : Level
  values : List (String × Value)
  deriving DecidableEq,Repr

/-- An entry as far as it was read. -/
structure Draft where
  message : String := ""
  severity : Option String := none
  file : Option String := none
  line : Option UInt64 := none
  rest : String := ""
  deriving DecidableEq,Repr

namespace Draft

/-- Some names are special for some kinds of values; any other value is shown after the
message. Of two values with a special name the later one counts. -/
def absorb (d : Draft) : String × Value → Draft
  | ("message",v@(.text _)) => { d with message := v.show }
  | ("message",v@(.printed _)) => { d with message := v.show }
  | ("severity",.text s) => { d with severity := some s }
  | ("caller.file",.text s) => { d with file := some s }
  | ("caller.line",.natural n) => { d with line := some n }
  | (name,v) => { d with rest := d.rest ++ " " ++ name ++ "=" ++ v.show }

def text (d : Draft) : String :=
  if d.rest = "" then d.message
  else if d.message = "" then String.ofList (Text.trimStart d.rest.toList)
  else d.message ++ d.rest

end Draft

/-- One line of output. -/
structure Record where
  severity : Severity
  location : Option String
  text : String
  deriving DecidableEq,Repr

namespace Entry

/-- A fixed text with values. A value named `message` takes the place of the text. -/
def saying (level : Level) (text : String) (values : List (String × Value) := []) : Entry :=
  ⟨level,("message",.printed text) :: values⟩

def draft (e : Entry) : Draft := e.values.foldl Draft.absorb {}

def severity (e : Entry) : Severity :=
  (e.draft.severity.bind Severity.ofName?).getD (.ofLevel e.level)

def location (e : Entry) : Option String :=
  match e.draft.file, e.draft.line with
  | some file, some line => some (file ++ ":" ++ Text.decimal line.toNat)
  | _, _ => none

def message (e : Entry) : String := e.draft.text

def records (e : Entry) : List Record :=
  if e.severity = .nop then []
  else (recordTexts e.message).map fun l => ⟨e.severity,e.location,String.ofList l⟩

def ofMessage? (severity : Severity) (file : String) (line : UInt64) (message : String) :
    Option Entry :=
  let place := [("caller.file",Value.text file),("caller.line",.natural line)]
  let text := ("message",Value.printed message)
  let named := ("severity",Value.text severity.name)
  match severity with
  | .nop => none
  | .alarm => some ⟨.warn,text :: place⟩
  | .error => some ⟨.error,text :: place⟩
  | .info => some ⟨.info,text :: place⟩
  | .debug => some ⟨.debug,text :: place⟩
  | .stat | .event | .unknown => some ⟨.info,text :: named :: place⟩

end Entry
end Log
end ClusterFramework
