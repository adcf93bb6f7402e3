import ClusterFramework.Network.SocketAddress
import ClusterFramework.Settings.EnvironmentVariables

/-! Where the executor server listens, and the files it needs. -/
namespace ClusterFramework

/-- The certificate chain and the private key are files too. -/
structure ExecutorSettings where
  address : Network.SocketAddress := .v4 ⟨0,0,0,0⟩ 8081
  executorPath : String
  certificatePath : Option String := none
  keyPath : Option String := none
  deriving DecidableEq,Repr

inductive SettingError where
  | missing (name : String)
  | invalid (name : String) (reason : String)
  deriving DecidableEq,Repr

def SettingError.message : SettingError → String
  | missing name => "missing required environment variable: " ++ name
  | invalid name reason => "invalid value for " ++ name ++ ": " ++ reason

namespace ExecutorSettings

/-- Connections are encrypted if both files are named. -/
def encryption (s : ExecutorSettings) : Option (String × String) := do
  pure (← s.certificatePath,← s.keyPath)

def isEncrypted (s : ExecutorSettings) : Bool := s.encryption.isSome

def withAddress (s : ExecutorSettings) (a : Network.SocketAddress) : ExecutorSettings :=
  { s with address := a }

def withEncryption (s : ExecutorSettings) (certificate key : String) : ExecutorSettings :=
  { s with certificatePath := some certificate, keyPath := some key }

def pathVariable : String := "TETHER_EXECUTOR_PATH"

def addressVariable : String := "TETHER_EXECUTOR_BIND"

def certificateVariable : String := "TETHER_EXECUTOR_CERT"

def keyVariable : String := "TETHER_EXECUTOR_KEY"

def addressOf (env : EnvironmentVariables) : Except SettingError Network.SocketAddress :=
  match env.text? addressVariable with
  | none => .ok (.v4 ⟨0,0,0,0⟩ 8081)
  | some s =>
    match Network.SocketAddress.read? s with
    | none => .error (.invalid addressVariable "must be a socket address")
    | some a => .ok a

/-- One of the two files without the other is refused. -/
def ofEnvironment (env : EnvironmentVariables) : Except SettingError ExecutorSettings := do
  let some path := env.text? pathVariable | throw (.missing pathVariable)
  let address ← addressOf env
  let s : ExecutorSettings :=
    { address := address
      executorPath := path
      certificatePath := env.text? certificateVariable
      keyPath := env.text? keyVariable }
  if s.certificatePath.isSome = s.keyPath.isSome then pure s
  else
    throw (.invalid certificateVariable
      (certificateVariable ++ " and " ++ keyVariable ++ " must be set together"))

end ExecutorSettings
end ClusterFramework
