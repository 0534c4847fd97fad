import FormScaffold.Unicode.Runs
import FormScaffold.Unicode.Table.Direction

/-!
# Directions of writing

In a name with letters that run from right to left, each part has to run in one
direction, so that the parts do not change places when the name is shown.
-/

namespace FormScaffold.Unicode

/-- The direction that a character takes, or lets others take. -/
inductive Direction where
  | left
  | right
  | europeanDigit
  | arabicDigit
  | mark
  | neutral
  deriving DecidableEq, Repr

namespace Direction

def ofText (s : Text) : Direction :=
  match s with
  | ['L'] => left
  | ['R'] => right
  | ['E'] => europeanDigit
  | ['A'] => arabicDigit
  | ['M'] => mark
  | _ => neutral

def table : Runs Direction := Runs.ofLines ofText Table.directions

def ofChar (c : Char) : Direction := table.value left c

/-- Whether a character makes a name one whose parts have to be checked. -/
def turns : Direction → Bool
  | right | arabicDigit => true
  | _ => false

/-- The last direction, marks passed over. -/
def last? (directions : List Direction) : Option Direction :=
  (directions.reverse.dropWhile (· == mark)).head?

/-- Whether characters of these directions run in one direction.  They begin
with a letter and end with a letter or a digit; from left to right no other
direction may occur, and from right to left no mixture of digits. -/
def runOneWay (directions : List Direction) : Bool :=
  match directions with
  | left :: _ =>
    !directions.any turns &&
      (last? directions).any (fun d => d == left || d == europeanDigit)
  | right :: _ =>
    !directions.contains left &&
      (last? directions).any
        (fun d => d == right || d == europeanDigit || d == arabicDigit) &&
      !(directions.contains europeanDigit && directions.contains arabicDigit)
  | [] => true
  | _ => false

end Direction

/-- Whether a text makes a name one whose parts have to be checked, as no ASCII
text does. -/
def turnsDirection (s : Text) : Bool :=
  !Text.isAscii s && s.any (fun c => (Direction.ofChar c).turns)

/-- Whether a part of a name runs in one direction. -/
def runsOneWay (s : Text) : Bool := Direction.runOneWay (s.map Direction.ofChar)

end FormScaffold.Unicode
