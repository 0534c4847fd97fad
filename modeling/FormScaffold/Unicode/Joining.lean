import FormScaffold.Unicode.Normalization
import FormScaffold.Unicode.Table.Joining

/-!
# Joiners

In cursive scripts a letter has forms that join the letters beside it.  Two
characters without a look of their own say that letters join or do not join.
They mean something only behind a virama, and the one that keeps letters apart
also between letters that would join.
-/

namespace FormScaffold.Unicode

/-- How a character joins those beside it. -/
inductive JoiningType where
  | left
  | right
  | dual
  /-- Joining passes over it. -/
  | transparent
  | other
  deriving DecidableEq, Repr

def JoiningType.ofText (s : Text) : JoiningType :=
  match s with
  | ['L'] => left
  | ['R'] => right
  | ['D'] => dual
  | ['T'] => transparent
  | _ => other

def joiningTypes : Runs JoiningType :=
  Runs.ofLines JoiningType.ofText Table.joiningTypes

def joiningType (c : Char) : JoiningType := joiningTypes.value .other c

def nonJoiner : Char := '\u200c'

def joiner : Char := '\u200d'

def viramaClass : Nat := 9

/-- Whether the first character that is not passed over is dual or has the given
joining type. -/
def joins (type : JoiningType) (s : Text) : Bool :=
  match s.dropWhile (fun c => joiningType c == .transparent) with
  | c :: _ => joiningType c == .dual || joiningType c == type
  | [] => false

/-- Whether a joiner may stand between two texts, the first of which is given
backwards. -/
def mayStand (c : Char) (before after : Text) : Bool :=
  before.head?.any (fun b => combiningClass b == viramaClass) ||
    (c == nonJoiner && joins .left before && joins .right after)

/-- Whether every joiner of a text may stand where it is, behind what is given
backwards. -/
def joinersFit (before : Text) : Text → Bool
  | [] => true
  | c :: s =>
    (!(c == nonJoiner || c == joiner) || mayStand c before s) &&
      joinersFit (c :: before) s

end FormScaffold.Unicode
