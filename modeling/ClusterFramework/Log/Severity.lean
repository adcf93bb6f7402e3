/-! How grave a log record is. -/
namespace ClusterFramework
namespace Log

/-- Records of severity `nop` are not written. -/
inductive Severity where
  | nop
  | alarm
  | error
  | stat
  | info
  | event
  | debug
  | unknown
  deriving DecidableEq,Repr

inductive Level where
  | error
  | warn
  | info
  | debug
  | trace
  deriving DecidableEq,Repr

namespace Level

def all : List Level := [error,warn,info,debug,trace]

def name : Level → String
  | error => "ERROR"
  | warn => "WARN"
  | info => "INFO"
  | debug => "DEBUG"
  | trace => "TRACE"

def ofName? (s : String) : Option Level := all.find? fun l => l.name = s

end Level

namespace Severity

def all : List Severity := [nop,alarm,error,stat,info,event,debug,unknown]

theorem mem_all (s : Severity) : s ∈ all := by cases s <;> decide

def name : Severity → String
  | nop => "NOP"
  | alarm => "ALARM"
  | error => "ERROR"
  | stat => "STAT"
  | info => "INFO"
  | event => "EVENT"
  | debug => "DEBUG"
  | unknown => "UNKNOWN"

/-- In any mixture of cases; only ASCII letters have two. -/
def ofName? (s : String) : Option Severity :=
  all.find? fun t => t.name.toList = s.toList.map Char.toUpper

def ofLevel : Level → Severity
  | .error => error
  | .warn => alarm
  | .info => info
  | .debug => debug
  | .trace => debug

/-- Such records go to the error output. -/
def isAlert : Severity → Bool
  | error | alarm => true
  | _ => false

theorem ofName?_name (s : Severity) : ofName? s.name = some s := by cases s <;> decide

end Severity
end Log
end ClusterFramework
