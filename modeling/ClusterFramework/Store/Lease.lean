import ClusterFramework.Dictionary
import ClusterFramework.Duration

/-! A key-value store in memory whose keys may hang on a lease. A lease that is not
refreshed in time runs out, and its key goes with it. Every operation is told the time, and
first drops what has run out by then. -/
namespace ClusterFramework

/-- Nanoseconds since the beginning of 1970. -/
abbrev Instant := Int

/-- The last nanosecond of the year 262142, the end of the calendar. -/
def Instant.latest : Instant := 8210266876799999999999

inductive StoreError where
  | notFound (key : String)
  | alreadyExists (key : String)
  | leaseNotFound (lease : Int)
  deriving DecidableEq,Repr

def StoreError.message : StoreError → String
  | notFound key => "key not found: " ++ key
  | alreadyExists key => "key already exists: " ++ key
  | leaseNotFound lease => "lease not found: " ++ toString lease

structure Lease where
  id : Int
  ttl : Duration
  expiresAt : Instant
  deriving DecidableEq,Repr

structure StoredValue where
  value : Octets
  lease : Option Int
  deriving DecidableEq,Repr

/-- Lease ids are counted from one, without an end. A counter of 64 bits gives the same ids as long
as fewer than `2^63` leases have been handed out. -/
structure LeaseStore where
  entries : Dictionary StoredValue
  leases : List Lease
  lastLease : Int
  deriving DecidableEq,Repr

namespace LeaseStore

def empty : LeaseStore := ⟨.empty,[],0⟩

def Lease.isOver (now : Instant) (l : Lease) : Bool := l.expiresAt ≤ now

/-- When a lease given or refreshed now runs out. -/
def expiry (now : Instant) (ttl : Duration) : Instant := min (now+ttl.nanos) Instant.latest

def expire (s : LeaseStore) (now : Instant) : LeaseStore :=
  let ended := (s.leases.filter (Lease.isOver now)).map Lease.id
  { s with
    leases := s.leases.filter fun l => !Lease.isOver now l
    entries := s.entries.filter fun _ e => !(e.lease.any ended.contains) }

def size (s : LeaseStore) (now : Instant) : Nat := (s.expire now).entries.size

variable {α : Type}

abbrev Answer (α : Type) := Except StoreError α × LeaseStore

/-- Carries out `f` on what is left at the time; a failure changes nothing else. -/
def act (s : LeaseStore) (now : Instant) (f : LeaseStore → Except StoreError (α × LeaseStore)) :
    Answer α :=
  match f (s.expire now) with
  | .ok (a,s) => (.ok a,s)
  | .error e => (.error e,s.expire now)

def create (s : LeaseStore) (now : Instant) (key : String) (value : Octets) : Answer Unit :=
  s.act now fun s =>
    if s.entries.contains key then .error (.alreadyExists key)
    else .ok ((),{ s with entries := s.entries.insert key ⟨value,none⟩ })

def createWithLease (s : LeaseStore) (now : Instant) (key : String) (value : Octets)
    (ttl : Duration) : Answer Int :=
  s.act now fun s =>
    if s.entries.contains key then .error (.alreadyExists key)
    else
      let id := s.lastLease+1
      .ok (id,
        { entries := s.entries.insert key ⟨value,some id⟩
          leases := s.leases ++ [⟨id,ttl,expiry now ttl⟩]
          lastLease := id })

def read (s : LeaseStore) (now : Instant) (key : String) : Answer Octets :=
  s.act now fun s =>
    match s.entries.get? key with
    | none => .error (.notFound key)
    | some e => .ok (e.value,s)

def startsWith (key start : String) : Bool := (Utf8.encode start).isPrefixOf (Utf8.encode key)

/-- The keys that begin with `start`: a walk from the first key not before it, which stops
at the first key that does not begin so. -/
def scan (d : Dictionary StoredValue) (start : String) : List (String × Octets) :=
  ((d.entries.dropWhile fun e => before e.1 start).takeWhile fun e => startsWith e.1 start).map
    fun e => (e.1,e.2.value)

def readAll (s : LeaseStore) (now : Instant) (start : String) :
    Answer (List (String × Octets)) :=
  s.act now fun s => .ok (scan s.entries start,s)

def update (s : LeaseStore) (now : Instant) (key : String) (value : Octets) : Answer Unit :=
  s.act now fun s =>
    if s.entries.contains key then
      .ok ((),{ s with entries := s.entries.modify key fun e => { e with value := value } })
    else .error (.notFound key)

def refresh (s : LeaseStore) (now : Instant) (lease : Int) : Answer Unit :=
  s.act now fun s =>
    if s.leases.any fun l => l.id = lease then
      .ok ((),{ s with leases := s.leases.map fun l =>
        if l.id = lease then { l with expiresAt := expiry now l.ttl } else l })
    else .error (.leaseNotFound lease)

def delete (s : LeaseStore) (now : Instant) (key : String) : Answer Unit :=
  s.act now fun s =>
    match s.entries.get? key with
    | none => .error (.notFound key)
    | some e =>
      .ok ((),{ s with
        entries := s.entries.erase key
        leases := s.leases.filter fun l => some l.id ≠ e.lease })

def put (s : LeaseStore) (now : Instant) (key : String) (value : Octets) : Answer Unit :=
  match s.update now key value with
  | (.error (.notFound _),s) => s.create now key value
  | answer => answer

end LeaseStore
end ClusterFramework
