import FormScaffold.Unicode.Runs
import FormScaffold.Unicode.Table.DomainMapping

/-!
# What becomes of characters in domain names

Names that look alike are to be one domain, so each character of a domain name
is kept, dropped, refused, or written as other characters: capital letters as
small ones, wide and styled letters as plain ones, and so on.
-/

namespace FormScaffold.Unicode

/-- What becomes of the characters of a run. -/
inductive DomainRule where
  | keep
  | drop
  | refuse
  /-- They are written as these. -/
  | write (text : Text)
  /-- Each is written as the one that stands so much further on, or back. -/
  | move (back : Bool) (distance : Nat)
  /-- They stand in pairs, and the first of each is written as the second. -/
  | pair
  deriving DecidableEq, Repr

namespace DomainRule

def ofText (s : Text) : DomainRule :=
  match s with
  | ['V'] => keep
  | ['I'] => drop
  | ['P'] => pair
  | 'M' :: codes =>
      write ((codes.splitOn '.').map
        (fun code => Char.ofNat (Text.numeral 16 code)))
  | 'S' :: sign :: distance => move (sign == '-') (Text.numeral 16 distance)
  | _ => refuse

/-- What a character is written as that has so many of its run before it, unless
it is refused. -/
def form? (c : Char) (before : Nat) : DomainRule → Option Text
  | keep => some [c]
  | drop => some []
  | refuse => none
  | write text => some text
  | move back distance =>
    some [Char.ofNat (if back then c.toNat - distance else c.toNat + distance)]
  | pair => some [if before % 2 = 0 then Char.ofNat (c.toNat + 1) else c]

def table : Runs DomainRule := Runs.ofLines ofText Table.domainMapping

end DomainRule

/-- What a character of a domain name is written as, unless it is refused. -/
def domainForm? (c : Char) : Option Text :=
  if c.toNat < 0x80 then some [c.toLower]
  else
    match DomainRule.table.find? c.toNat with
    | some (before, rule) => rule.form? c before
    | none => none

def isDomainForm (c : Char) : Bool := domainForm? c == some [c]

end FormScaffold.Unicode
