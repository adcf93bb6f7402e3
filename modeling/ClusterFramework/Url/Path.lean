import ClusterFramework.Text.Split
import ClusterFramework.Url.Escape

/-! Paths behind slashes. One is read part by part, from the path that is known already: a
part of one dot stays, one of two dots goes up, and any other is added. Drives, which begin
the paths of files on some systems, are never left by going up. -/
namespace ClusterFramework
namespace Url

def isDrive : List Char → Bool
  | [letter,mark] => letter.isAlpha && (mark = ':' || mark = '|')
  | _ => false

/-- A drive that is all of a text, or is followed by what may end a part. -/
def beginsWithDrive (cs : List Char) : Bool :=
  isDrive (cs.take 2) && ((cs.drop 2).head?.map "/\\?#".toList.contains).getD true

def driveOf? (path : List Char) : Option (List Char) :=
  let part := (path.drop 1).takeWhile (· ≠ '/')
  if isDrive part && part.getLast? = some ':' then some part else none

def directory (path : List Char) : List Char := (path.reverse.dropWhile (· ≠ '/')).reverse

def lastPart (path : List Char) : List Char := (path.reverse.takeWhile (· ≠ '/')).reverse

/-- The directory of a path; the drive of a file is its own. -/
def directoryIn (file : Bool) (path : List Char) : List Char :=
  if file && isDrive (lastPart path) then path else directory path

def closed (path : List Char) : List Char :=
  if path.getLast? = some '/' then path else path ++ ['/']

/-- The directory above one. There is none above a drive. -/
def above (file : Bool) (path : List Char) : List Char :=
  let here := path.dropLast
  let hasAbove := path.getLast? = some '/' && here.contains '/' &&
    !beginsWithDrive (lastPart here ++ ['/'])
  directoryIn file (if hasAbove then here else path)

def isSingleDot (part : List Char) : Bool :=
  [".","%2e"].contains (String.ofList (part.map Char.toLower))

def isDoubleDot (part : List Char) : Bool :=
  ["..",".%2e","%2e.","%2e%2e"].contains (String.ofList (part.map Char.toLower))

def isSlash (special : Bool) (c : Char) : Bool := c = '/' || special && c = '\\'

def partsOf (special : Bool) (cs : List Char) : List (List Char) :=
  Text.splitAt '/' ((cs.map fun c => if isSlash special c then '/' else c).flatMap fun c =>
    if c = '/' then [c] else escape inPath [c])

/-- A path with one more part, which may be a directory. The first part of a file's path may be
a drive, and the drive of a path that is nothing else gets a slash. -/
def addPart (file : Bool) (path part : List Char) (isDirectory : Bool) : List Char :=
  let path := if file && path.length = 3 && (driveOf? path).isSome && !part.isEmpty then
    path ++ ['/'] else path
  if isSingleDot part then closed path
  else
    let longer :=
      if isDoubleDot part then above file path
      else if file && path.length = 1 && isDrive part then path ++ part.take 1 ++ [':']
      else path ++ part
    if !isDirectory then longer
    else if isDoubleDot part then closed longer
    else longer ++ ['/']

def walk (file : Bool) (path : List Char) : List (List Char) → List Char
  | [] => path
  | [part] => addPart file path part false
  | part :: next :: parts => walk file (addPart file path part true) (next :: parts)

def settled (file : Bool) (path : List Char) : List Char :=
  if file then '/' :: path.dropWhile (· = '/') else path

end Url
end ClusterFramework
