import ClusterFramework.Binary64.Printed
import ClusterFramework.Binary64.Reading
import ClusterFramework.Dictionary
import ClusterFramework.Json.Value

/-! Reading a JSON value as one of an expected shape. A structure is an object with named
members, of which unknown ones are ignored, or an array of the members in order. -/
namespace ClusterFramework
namespace Json

/-- The members of a structure in the order of their names, the missing ones absent. A known
name may not be given twice. -/
def members? (names : List String) : Json → Option (List (Option Json))
  | object ms =>
    if (ms.all fun m => m.1.isSome) ∧ names.all fun n => ms.countP (fun m => m.1 = some n) ≤ 1 then
      some (names.map fun n => (ms.find? fun m => m.1 = some n).map Prod.snd)
    else none
  | array xs =>
    if xs.length ≤ names.length then
      some (xs.map some ++ List.replicate (names.length-xs.length) none)
    else none
  | _ => none

def required {α : Type} (read? : Json → Option α) (m : Option Json) : Option α := m.bind read?

def orElse {α : Type} (default : α) (read? : Json → Option α) : Option Json → Option α
  | none => some default
  | some v => read? v

def string? : Json → Option String
  | string s => s
  | _ => none

def bool? : Json → Option Bool
  | bool b => some b
  | _ => none

def natural? : Json → Option Nat
  | number n => n.natural?
  | _ => none

def word32? (v : Json) : Option UInt32 :=
  ((natural? v).filter (· < UInt32.size)).map UInt32.ofNat

def word64? (v : Json) : Option UInt64 :=
  ((natural? v).filter (· < UInt64.size)).map UInt64.ofNat

def double? : Json → Option Binary64
  | number n => Binary64.quick? n
  | _ => none

def list? {α : Type} (read? : Json → Option α) : Json → Option (List α)
  | array xs => xs.mapM read?
  | _ => none

/-- Of two members with one key, the later one stays. -/
def texts? : Json → Option (Dictionary String)
  | object ms =>
    (ms.mapM fun (m : Option String × Json) => m.1.bind fun k => (string? m.2).map (k,·)).map
      Dictionary.ofList
  | _ => none

def option? {α : Type} (read? : Json → Option α) : Json → Option (Option α)
  | null => some none
  | v => (read? v).map some

/-- A choice is named by a string, or by the key of an object whose only member is null. -/
def choice? {α : Type} (names : List (String × α)) : Json → Option α
  | string (some s) => names.lookup s
  | object [(some k,null)] => names.lookup k
  | _ => none

def ofText (s : String) : Json := string (some s)

def ofNat (n : Nat) : Json := number (.ofNat n)

/-- A number that is not finite has no numeral; null stands in for it. -/
def ofDouble (x : Binary64) : Json :=
  if x.isFinite then number (x.numeral .document) else null

def ofTexts (d : Dictionary String) : Json :=
  object (d.entries.map fun e => (some e.1,ofText e.2))

/-- A member that is written whatever its value. -/
def member {α : Type} (name : String) (f : α → Json) (a : α) : List (Option String × Json) :=
  [(some name,f a)]

def optionalMember {α : Type} (name : String) (f : α → Json) :
    Option α → List (Option String × Json)
  | none => []
  | some a => [(some name,f a)]

def listMember {α : Type} (name : String) (f : α → Json) : List α → List (Option String × Json)
  | [] => []
  | xs => [(some name,array (xs.map f))]

def textsMember (name : String) (d : Dictionary String) : List (Option String × Json) :=
  if d.isEmpty then [] else [(some name,ofTexts d)]

end Json
end ClusterFramework
