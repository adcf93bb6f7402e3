import ClusterFramework.Log.Severity
import ClusterFramework.Settings.EnvironmentVariables

/-! Log records as text: a header and one line of a message each. -/
namespace ClusterFramework
namespace Log

/-- The lines of a message. A line feed ends a line, and so does a carriage return with a
line feed; after the last of them no further line begins. -/
def lines : List Char → List (List Char)
  | [] => []
  | '\n' :: cs => [] :: lines cs
  | '\r' :: '\n' :: cs => [] :: lines cs
  | c :: cs =>
    match lines cs with
    | [] => [[c]]
    | l :: ls => (c :: l) :: ls

def recordTexts (message : String) : List (List Char) :=
  match lines message.toList with
  | [] => [[]]
  | ls => ls

structure Context where
  taskId : String
  pid : UInt32
  processGroup : String
  application : String
  program : String
  correlationId : String
  deriving DecidableEq,Repr

namespace Context

def ofEnvironment (env : EnvironmentVariables) (pid : UInt32) (program : String) : Context :=
  { taskId := (env.text? "MESOS_TASK_ID").getD ""
    pid := pid
    processGroup := (env.text? "TETHER_PROCESS_GROUP").getD ""
    application := (env.text? "TETHER_APP_NAME").getD ""
    program := program
    correlationId := (env.text? "TETHER_CORRELATION_ID").getD "" }

def header (c : Context) (severity : Severity) (location timestamp : String) : List Char :=
  ["TLOG","1",severity.name,c.taskId,Text.decimal c.pid.toNat,c.processGroup,c.application,
    c.program,c.correlationId,location,timestamp].flatMap fun s => s.toList ++ ['|']

def format (c : Context) (severity : Severity) (location timestamp message : String) : String :=
  String.ofList ((recordTexts message).flatMap fun l =>
    c.header severity location timestamp ++ l ++ ['\n'])

end Context
end Log
end ClusterFramework
