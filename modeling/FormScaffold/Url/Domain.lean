import FormScaffold.Unicode.Direction
import FormScaffold.Unicode.DomainMapping
import FormScaffold.Unicode.Joining
import FormScaffold.Unicode.Mark
import FormScaffold.Url.Punycode

/-!
# Domain names

A domain name is written in many ways and kept in one.  Its characters are
brought to one form, and what is then between dots are its labels.  A label in
ASCII is kept as it is; any other is kept in Punycode behind a mark, and one
that has the mark has to be the Punycode of a label in that form.
-/

namespace FormScaffold.Url

structure Label where
  /-- The characters that it means. -/
  letters : Text
  /-- How it is kept. -/
  ascii : Text
  deriving DecidableEq, Repr

namespace Label

def mark : Text := "xn--".toList

/-- The most characters of a label that is not in ASCII. -/
def maxLength : Nat := 1000

/-- The most characters of Punycode. -/
def maxPunycode : Nat := 2000

/-- Whether a label in its one form makes sense: it is not too long, begins with
no mark, and its joiners have something to join. -/
def isSound (s : Text) : Bool :=
  s.length ≤ maxLength && !s.head?.any Unicode.isMark && Unicode.joinersFit [] s

/-- The label that Punycode means.  It is not in ASCII, and in its one form. -/
def ofPunycode? (s : Text) : Option Text :=
  if s.length ≤ maxPunycode then do
    let letters ← Punycode.decode? s
    if !Text.isAscii letters && letters.all Unicode.isDomainForm &&
        Unicode.composed letters == letters &&
        (Text.after? mark letters).isNone && isSound letters
    then return letters else none
  else none

/-- The label that a text in its one form is. -/
def ofText? (s : Text) : Option Label :=
  match Text.after? mark s with
  | some rest =>
    if Text.isAscii rest then (ofPunycode? rest).map
      (fun letters => ⟨letters, s⟩) else none
  | none =>
    if Text.isAscii s then some ⟨s, s⟩
    else if isSound s then some ⟨s, mark ++ Punycode.encode s⟩
    else none

end Label

namespace Domain

def isForbidden (c : Char) : Bool :=
  c.toNat ≤ 0x20 || c.toNat == 0x7F || "%#/:<>?@[\\]^|".toList.contains c

/-- The one form of the characters of a domain name. -/
def form? (s : Text) : Option Text :=
  (s.mapM Unicode.domainForm?).map (fun forms => Unicode.composed forms.flatten)

/-- The labels of a domain name.  If one of them turns the direction, each has
to run in one direction. -/
def labels? (s : Text) : Option (List Label) := do
  let labels ← ((← form? s).splitOn '.').mapM Label.ofText?
  if labels.any (fun l => Unicode.turnsDirection l.letters) &&
      !labels.all (fun l => Unicode.runsOneWay l.letters)
  then none else return labels

def toAscii? (s : Text) : Option Text := do
  let name := List.intercalate ['.'] ((← labels? s).map Label.ascii)
  if name = [] ∨ name.any isForbidden then none else return name

end Domain
end FormScaffold.Url
