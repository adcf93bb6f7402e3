import ClusterFramework.Url.Host
import ClusterFramework.Url.Path

/-! Web addresses from texts, perhaps in relation to another address. -/
namespace ClusterFramework
namespace Url

/-- Control characters and spaces around a text do not count, nor do tabs and line ends
anywhere in it. -/
def significant (s : String) : List Char :=
  let isOuter (c : Char) : Bool := c.toNat ≤ 32
  ((s.toList.dropWhile isOuter).reverse.dropWhile isOuter).reverse.filter fun c =>
    c ≠ '\t' && c ≠ '\n' && c ≠ '\r'

def isSchemeChar (c : Char) : Bool :=
  c.isAlphanum || c = '+' || c = '-' || c = '.'

def scheme? (cs : List Char) : Option (String × List Char) :=
  match cs.dropWhile isSchemeChar with
  | ':' :: rest =>
    if (cs.head?.map Char.isAlpha).getD false then
      some (String.ofList ((cs.takeWhile isSchemeChar).map Char.toLower),rest)
    else none
  | _ => none

def textOf (mustEscape : Char → Bool) (cs : List Char) : String :=
  String.ofList (escape mustEscape cs)

def withTail (u : Url) (cs : List Char) : Url :=
  let before := cs.takeWhile (· ≠ '#')
  let fragment := match cs.dropWhile (· ≠ '#') with
    | '#' :: f => some (textOf inFragment f)
    | _ => none
  let mustEscape := if isSpecial u.scheme then inSpecialQuery else inQuery
  let query := match before with
    | '?' :: q => some (textOf mustEscape q)
    | _ => none
  { u with query := query, fragment := fragment }

def splitPath (cs : List Char) : List Char × List Char :=
  let isEnd (c : Char) : Bool := c = '?' || c = '#'
  (cs.takeWhile fun c => !isEnd c,cs.dropWhile fun c => !isEnd c)

def extended (scheme : String) (path cs : List Char) : Path :=
  let file := isFile scheme
  .slashed (String.ofList (settled file (walk file path (partsOf (isSpecial scheme) cs))))

def rootPath (scheme : String) (cs : List Char) : Path :=
  match cs with
  | [] => if isSpecial scheme then .slashed "/" else .slashed ""
  | c :: rest => extended scheme ['/'] (if isSlash (isSpecial scheme) c then rest else c :: rest)

def splitCredentials (cs : List Char) : Option (List Char) × List Char :=
  match cs.reverse.dropWhile (· ≠ '@') with
  | [] => (none,cs)
  | _ :: before => (some before.reverse,cs.drop (before.length+1))

def splitPort (inBrackets : Bool) : List Char → List Char × Option (List Char)
  | [] => ([],none)
  | c :: cs =>
    if c = ':' ∧ !inBrackets then ([],some cs)
    else
      let (host,port) := splitPort (c = '[' || inBrackets && c ≠ ']') cs
      (c :: host,port)

def isPortEnd (c : Char) : Bool := c = '/' || c = '\\'

def portOf? (scheme : String) : Option (List Char) → Except UrlError (Option UInt16)
  | none => .ok none
  | some [] => .ok none
  | some ds =>
    match Text.natural? ds with
    | none => .error .invalidPort
    | some n =>
      if 65535 < n then .error .invalidPort
      else if usualPorts.lookup scheme = some (UInt16.ofNat n) then .ok none
      else .ok (some (UInt16.ofNat n))

def userOf (cs : List Char) : String × String :=
  (textOf inCredentials (cs.takeWhile (· ≠ ':')),
    textOf inCredentials ((cs.dropWhile (· ≠ ':')).drop 1))

/-- An address whose authority follows, up to the next slash. The host may be missing only
in a general address that names no user and no port, and after an at sign only at the end. -/
def withAuthority (scheme : String) (cs : List Char) : Except UrlError Url := do
  let special := isSpecial scheme
  let isEnd (c : Char) : Bool := isSlash special c || c = '?' || c = '#'
  let (credentials,place) := splitCredentials (cs.takeWhile fun c => !isEnd c)
  let rest := cs.dropWhile fun c => !isEnd c
  let (name,portText) := splitPort false place
  let (user,password) := userOf (credentials.getD [])
  if name = [] ∧ (special ∨ portText.isSome ∨ user ≠ "" ∨ password ≠ "" ∨
      credentials = some [] ∧ rest ≠ []) then throw .emptyHost
  let host ← hostOf? special name
  let port ← portOf? scheme (portText.map (·.takeWhile fun c => !isPortEnd c))
  let behind := (portText.getD []).dropWhile fun c => !isPortEnd c
  let (path,tail) := splitPath (behind ++ rest)
  let u : Url :=
    { scheme := scheme, username := user, password := password, host := some host, port := port
      path := rootPath scheme path }
  pure (u.withTail tail)

def replacingPath (base : Url) (path : Path) (tail : List Char) : Url :=
  { base with path := path }.withTail tail

def samePath (base : Url) (cs : List Char) : Url :=
  match cs with
  | '?' :: _ => base.withTail cs
  | _ => { base.withTail cs with query := base.query }

def isAnySlash (c : Char) : Bool := isSlash true c

/-- What a text without a scheme means in relation to an address with the given path. Two
slashes begin an authority, one begins a path, and either may lean back. -/
def relative (base : Url) (path cs : List Char) : Except UrlError Url :=
  let (steps,tail) := splitPath cs
  match cs with
  | [] => .ok (samePath base cs)
  | c :: _ =>
    if c = '?' ∨ c = '#' then .ok (samePath base cs)
    else if isAnySlash c then
      if 2 ≤ (cs.takeWhile isAnySlash).length then
        withAuthority base.scheme
          (if cs.take 2 = ['/','/'] then cs.drop 2 else cs.dropWhile isAnySlash)
      else .ok (replacingPath base (extended base.scheme ['/'] (steps.drop 1)) tail)
    else
      let here := directory path
      .ok (replacingPath base
        (extended base.scheme (if here = [] then ['/'] else here) steps) tail)

/-- A file on a host, if one is named and the path begins with no drive. The local host is
not named, and a drive in the place of a host begins the path. -/
def fileOnHost (cs : List Char) : Except UrlError Url := do
  let isEnd (c : Char) : Bool := isAnySlash c || c = '?' || c = '#'
  let place := cs.takeWhile fun c => !isEnd c
  let (name,rest) := if isDrive place then ([],cs) else (place,cs.dropWhile fun c => !isEnd c)
  let named ← if name = [] then pure none else some <$> hostOf? true name
  let host := named.filter (· ≠ .domain "localhost")
  let (steps,tail) := splitPath rest
  let path := walk true ['/'] (partsOf true (if host.isSome then steps.drop 1 else steps))
  let u : Url :=
    { scheme := "file"
      host := if (driveOf? path).isSome then none else host
      path := .slashed (String.ofList (settled true path)) }
  pure (u.withTail tail)

/-- A file by a path that begins with one slash. It is on the drive of the other file, if that
is on one, or else on its host, unless the path names a drive. -/
def fileBeside (base : Option (Url × List Char)) (cs : List Char) : Url :=
  let (steps,tail) := splitPath cs
  let drive := if beginsWithDrive (cs.drop 1) then some [] else base.bind fun b =>
    (driveOf? b.2).map ('/' :: ·)
  let u : Url :=
    { scheme := "file"
      host := if drive.isSome then none else base.bind fun b => b.1.host
      path := extended "file" (drive.getD []) steps }
  u.withTail tail

/-- What follows the scheme of a file, or stands without a scheme where the other address is
a file. -/
def inFiles (base : Option (Url × List Char)) (cs : List Char) : Except UrlError Url :=
  let (steps,tail) := splitPath cs
  let u : Url := { scheme := "file", path := extended "file" ['/'] steps }
  match (cs.takeWhile isAnySlash).length, base with
  | 0, none => .ok (u.withTail tail)
  | 0, some (b,path) =>
    if steps = [] then .ok (samePath b cs)
    else if beginsWithDrive cs then .ok (u.withTail tail)
    else .ok (replacingPath b (extended "file" (directoryIn true path) steps) tail)
  | 1, _ => .ok (fileBeside base cs)
  | _, _ => fileOnHost (cs.drop 2)

def generalUrl (scheme : String) (cs : List Char) : Except UrlError Url :=
  match cs with
  | '/' :: '/' :: rest => withAuthority scheme rest
  | _ =>
    let (path,tail) := splitPath cs
    let u : Url :=
      { scheme := scheme
        path := match path with
          | '/' :: rest => extended scheme ['/'] rest
          | _ => .whole (textOf isControl path) }
    .ok (u.withTail tail)

def withBase (base : Option Url) (cs : List Char) : Except UrlError Url :=
  match base with
  | none => .error .noBase
  | some b =>
    match b.path with
    | .whole _ => if cs.head? = some '#' then .ok (samePath b cs) else .error .cannotBeABase
    | .slashed path =>
      if isFile b.scheme then inFiles (some (b,path.toList)) cs else relative b path.toList cs

/-- A special address may leave out the slashes before its host, but is then relative to a
base of its own scheme. -/
def specialUrl (scheme : String) (base : Option Url) (cs : List Char) : Except UrlError Url :=
  let slashes := (cs.takeWhile isAnySlash).length
  let same := (base.map Url.scheme) = some scheme
  if same ∧ slashes < 2 then withBase base cs
  else withAuthority scheme (cs.drop slashes)

def parse (base : Option Url) (s : String) : Except UrlError Url :=
  let cs := significant s
  match scheme? cs with
  | none => withBase base cs
  | some (scheme,rest) =>
    if isFile scheme then
      match base.filter fun b => isFile b.scheme with
      | none => inFiles none rest
      | some b => withBase (some b) rest
    else if isSpecial scheme then specialUrl scheme base rest
    else generalUrl scheme rest

def ofString (s : String) : Except UrlError Url := parse none s

def join (u : Url) (s : String) : Except UrlError Url := parse (some u) s

end Url
end ClusterFramework
