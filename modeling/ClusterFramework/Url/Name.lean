import ClusterFramework.Text.Composition
import ClusterFramework.Text.Direction
import ClusterFramework.Text.Joining
import ClusterFramework.Text.Split
import ClusterFramework.Url.Folding
import ClusterFramework.Url.Punycode

/-! Names of hosts in all scripts. A name is folded, composed and cut into labels; a label with
characters outside ASCII is written in Punycode behind `xn--`, and one that is written so
must mean such a label. -/
namespace ClusterFramework
namespace Url

structure Label where
  letters : List Char
  written : List Char
  deriving DecidableEq,Repr

namespace Label

def mark : List Char := ['x','n','-','-']

def ofText? (cs : List Char) : Option Label :=
  if mark.isPrefixOf cs then
    let code := cs.drop mark.length
    if 2000 < code.length then none
    else
      (Punycode.decode? code).bind fun letters =>
        if letters.all Punycode.isAscii || !letters.all isFolded ||
            Text.composed letters ≠ letters then none
        else some ⟨letters,cs⟩
  else if cs.all Punycode.isAscii then some ⟨cs,cs⟩
  else if 1000 < cs.length then none
  else some ⟨cs,mark ++ Punycode.encode cs⟩

def nonJoiner : Char := Char.ofNat 0x200C

def joiner : Char := Char.ofNat 0x200D

def nearest (test : Char → Bool) (cs : List Char) : Bool :=
  ((cs.dropWhile Text.isTransparent).head?.map test).getD false

/-- Both joiners may follow a virama. A non-joiner may also stand between letters that would
join without it. The characters before come with the last in front. -/
def joinersFit (before : List Char) : List Char → Bool
  | [] => true
  | c :: cs =>
    let afterVirama := (before.head?.map Text.isVirama).getD false
    let between := nearest Text.joinsNext before && nearest Text.joinsPrevious cs
    let fits :=
      if c = joiner then afterVirama else if c = nonJoiner then afterVirama || between else true
    fits && joinersFit (c :: before) cs

def directions (l : Label) : List Text.Direction := l.letters.map Text.directionOf

def isRightward (l : Label) : Bool :=
  l.directions.any fun d => d = .right || d = .arabicNumber

def lastDirection? (l : Label) : Option Text.Direction :=
  (l.directions.reverse.dropWhile (· = .mark)).head?

/-- A label goes in the direction of its first letter, and ends in a letter of that direction or
a number. One from right to left has numbers of one kind. -/
def keepsDirection (l : Label) : Bool :=
  match l.directions.head? with
  | none => true
  | some .left =>
    !l.isRightward && (l.lastDirection? = some .left || l.lastDirection? = some .europeanNumber)
  | some .right =>
    let ds := l.directions
    !ds.contains .left && !(ds.contains .europeanNumber && ds.contains .arabicNumber) &&
      [.right,.europeanNumber,.arabicNumber].contains (l.lastDirection?.getD .neutral)
  | some _ => false

def isSound (l : Label) : Bool :=
  !(l.letters.head?.map Text.isMark).getD false && joinersFit [] l.letters

end Label

/-- A name in ASCII, unless it breaks a rule. Directions matter only if one of its labels goes
from right to left. -/
def ascii? (name : List Char) : Option (List Char) := do
  let folded ← foldAll? name
  let labels ← (Text.splitAt '.' (Text.composed folded)).mapM Label.ofText?
  if labels.all Label.isSound &&
      (!labels.any Label.isRightward || labels.all Label.keepsDirection) then
    some (Text.joinWith '.' (labels.map Label.written))
  else none

end Url
end ClusterFramework
