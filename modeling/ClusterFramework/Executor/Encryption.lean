import ClusterFramework.Executor.Pem
import ClusterFramework.Settings.Executor

/-! How the executor server encrypts its connections. -/
namespace ClusterFramework

inductive ServerError where
  | settings (e : SettingError)
  | io (reason : String)
  | unreadable (path : String) (reason : String)
  | encryption (reason : String)
  deriving DecidableEq,Repr

def ServerError.message : ServerError → String
  | settings e => "configuration error: " ++ e.message
  | io reason => "I/O error: " ++ reason
  | unreadable path reason => "failed to read " ++ path ++ ": " ++ reason
  | encryption reason => "TLS error: " ++ reason

structure Encryption where
  certificates : List Octets
  key : Octets
  protocols : List String
  cipherSuites : List String
  keyExchanges : List String
  deriving DecidableEq,Repr

namespace Encryption

/-- Every suite authenticates what it encrypts, and takes a fresh key for each connection. -/
def allowedSuites : List String :=
  ["TLS13_AES_256_GCM_SHA384","TLS13_AES_128_GCM_SHA256","TLS13_CHACHA20_POLY1305_SHA256",
    "TLS_ECDHE_ECDSA_WITH_AES_256_GCM_SHA384","TLS_ECDHE_ECDSA_WITH_AES_128_GCM_SHA256",
    "TLS_ECDHE_ECDSA_WITH_CHACHA20_POLY1305_SHA256","TLS_ECDHE_RSA_WITH_AES_256_GCM_SHA384",
    "TLS_ECDHE_RSA_WITH_AES_128_GCM_SHA256","TLS_ECDHE_RSA_WITH_CHACHA20_POLY1305_SHA256"]

def allowedKeyExchanges : List String := ["X25519","secp256r1","secp384r1"]

def ofPem (certificateFile keyFile : Octets) : Except ServerError Encryption :=
  match Pem.certificates certificateFile with
  | .error e => .error (.encryption ("failed to parse certificates: " ++ e.message))
  | .ok [] => .error (.encryption "no certificate found")
  | .ok certificates =>
    match Pem.privateKey keyFile with
    | .error e => .error (.encryption ("failed to parse private key: " ++ e.message))
    | .ok none => .error (.encryption "no private key found")
    | .ok (some key) => .ok ⟨certificates,key,["http/1.1"],allowedSuites,allowedKeyExchanges⟩

/-- From two files, given what reading each path yields. Both are read before either is
understood. -/
def load (read : String → Except String Octets) (certificatePath keyPath : String) :
    Except ServerError Encryption := do
  let certificateFile ← (read certificatePath).mapError (.unreadable certificatePath)
  let keyFile ← (read keyPath).mapError (.unreadable keyPath)
  ofPem certificateFile keyFile

end Encryption
end ClusterFramework
