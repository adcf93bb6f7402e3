import ClusterFramework.Network.Header
import ClusterFramework.Text.Decimal

/-! What the executor server answers: the executor under one path, and nothing else. -/
namespace ClusterFramework
namespace ExecutorServer

structure Request where
  method : String
  uri : String
  deriving DecidableEq,Repr

structure Response where
  status : Nat
  headers : List (String × String)
  body : Octets
  deriving DecidableEq,Repr

inductive ExecutorFile where
  | missing
  | unreadable (reason : String)
  | found (name : String) (content : Octets)
  deriving DecidableEq,Repr

def route : String := "/executor"

def beforeQuery (cs : List Char) : List Char := cs.takeWhile fun c => c ≠ '?' && c ≠ '#'

/-- What stands after the first two slashes behind a colon. -/
def afterScheme? : List Char → Option (List Char)
  | [] => none
  | ':' :: '/' :: '/' :: cs => some cs
  | _ :: cs => afterScheme? cs

/-- The path of a request target, as it is written. -/
def pathOf (uri : String) : String :=
  match uri.toList with
  | '/' :: cs => String.ofList (beforeQuery ('/' :: cs))
  | cs =>
    match afterScheme? cs with
    | none => if cs = ['*'] then "*" else ""
    | some rest =>
      match beforeQuery (rest.dropWhile fun c => c ≠ '/' && c ≠ '?' && c ≠ '#') with
      | [] => "/"
      | path => String.ofList path

def empty (status : Nat) : Response := ⟨status,[("content-length","0")],[]⟩

def plain (status : Nat) (text : String) : Response :=
  let body := Utf8.encode text
  ⟨status,[("content-type","text/plain; charset=utf-8"),
    ("content-length",Text.decimal body.length)],body⟩

def serve : ExecutorFile → Response
  | .missing => plain 404 "executor binary not found"
  | .unreadable reason => plain 500 ("I/O error: " ++ reason)
  | .found name content =>
    if Network.isHeaderText name then
      ⟨200,[("content-type","application/octet-stream"),
        ("content-length",Text.decimal content.length),
        ("content-disposition","attachment; filename=\"" ++ name ++ "\"")],content⟩
    else plain 500 "failed to build response: failed to parse header value"

/-- A request for the head of an answer gets all of it but the body. -/
def withoutBody (r : Response) : Response := { r with body := [] }

def notAllowed : Response := ⟨405,[("allow","GET,HEAD"),("content-length","0")],[]⟩

def answer (file : ExecutorFile) (r : Request) : Response :=
  if pathOf r.uri ≠ route then empty 404
  else if r.method = "GET" then serve file
  else if r.method = "HEAD" then withoutBody (serve file)
  else notAllowed

def strictTransport : String × String :=
  ("strict-transport-security","max-age=63072000; includeSubDomains")

/-- Over an encrypted connection every answer asks for such connections from then on. -/
def respond (encrypted : Bool) (file : ExecutorFile) (r : Request) : Response :=
  let response := answer file r
  if encrypted then { response with headers := response.headers ++ [strictTransport] }
  else response

end ExecutorServer
end ClusterFramework
