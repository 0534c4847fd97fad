import FormScaffold.Url.Escape
import FormScaffold.Url.Scheme

/-!
# Segments of paths

A path is read segment by segment, with those read so far on a stack.  One dot
adds nothing, and two dots take the last segment back, unless it names a drive.
The first segment of a file's path may name a drive, which is then written with
a colon and stands in the place of a host.
-/

namespace FormScaffold.Url

def isDrive (s : Text) : Bool :=
  match s with
  | [letter, mark] => letter.isAlpha && (mark == ':' || mark == '|')
  | _ => false

/-- A drive as a segment: its letter and a colon. -/
def driveSegment (s : Text) : Text := s.take 1 ++ [':']

def isDot (s : Text) : Bool := s == ['.'] || s.map Char.toLower == "%2e".toList

def isDoubleDot (s : Text) : Bool :=
  ["..", "%2e%2e", "%2e.", ".%2e"].any (fun d => s.map Char.toLower == d.toList)

/-- The drive that a text begins with, where a tab or a line break sets off what
follows it. -/
def setOffDrive? (s : Text) : Option (Text × Text) :=
  match withoutVoids s with
  | letter :: ':' :: c :: rest =>
    if letter.isAlpha ∧ (behind 2 s).head?.any isVoid
      then some ([letter, ':'], c :: rest)
    else none
  | _ => none

/-- What was read of a path. -/
structure Trail where
  /-- The segments, the last one on top. -/
  read : List Text
  /-- Whether the first segment is a drive in the place of a host. -/
  hasDrive : Bool
  deriving DecidableEq, Repr

namespace Trail

def empty : Trail := ⟨[], false⟩

/-- The segments without the last one; a drive stays. -/
def climb : List Text → List Text
  | [] => []
  | top :: below => if isDrive top then top :: below else below

/-- Reads one more segment, and writes it with the characters of a set escaped.
`last` says that no slash follows it: then the path ends with a slash behind
dots. -/
def enter (kind : SchemeKind) (escaped : EscapeSet) (last : Bool) (t : Trail)
    (s : Text) : Trail :=
  let close (read : List Text) := if last then [] :: read else read
  let written := escape escaped (withoutVoids s)
  let atDrive := kind == .file && t.read.isEmpty
  match if atDrive then setOffDrive? s else none with
  | some (drive, rest) => { t with read := [escape escaped rest, drive] }
  | none =>
    if isDoubleDot written then { t with read := close (climb t.read) }
    else if isDot written then { t with read := close t.read }
    else if atDrive && isDrive written then ⟨[driveSegment written], true⟩
    else { t with read := written :: t.read }

/-- Reads the segments of a path, the last one included. -/
def enterAll (kind : SchemeKind) (t : Trail) : List Text → Trail
  | [] => t
  | [s] => t.enter kind .path true s
  | s :: rest => (t.enter kind .path false s).enterAll kind rest

def segments (t : Trail) : List Text := t.read.reverse

end Trail
end FormScaffold.Url
