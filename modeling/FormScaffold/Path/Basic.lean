import FormScaffold.Text.Basic

/-!
# Paths

A path is a text in which slashes stand between names.  It is kept as it was
written: joining puts texts side by side, and only cleaning changes how a
path is spelled.  What a path means is read off its components: a slash in
front is the root, a leading single dot is the place itself, two dots lead up,
and empty stretches and other single dots say nothing.
-/

namespace FormScaffold

/-- A path as it was written. -/
structure Path where
  text : Text
  deriving DecidableEq, Repr

/-- One part of what a path says. -/
inductive Component where
  | root
  | here
  | up
  | name (n : Text)
  deriving DecidableEq, Repr

namespace Component

def upText : Text := "..".toList

/-- What a stretch between slashes says. -/
def ofSegment? (s : Text) : Option Component :=
  if s = [] ∨ s = ['.'] then none
  else if s = upText then some up
  else some (name s)

end Component

namespace Path

def empty : Path := ⟨[]⟩

def isAbsolute (p : Path) : Bool := p.text.head? == some '/'

/-- The stretches between slashes. -/
def segments (p : Path) : List Text := p.text.splitOn '/'

/-- What the path says, part by part. -/
def components (p : Path) : List Component :=
  match p.segments with
  | [] => []
  | first :: rest =>
    (if p.isAbsolute then [.root]
      else if first = ['.'] then [.here]
      else (Component.ofSegment? first).toList) ++
    rest.filterMap Component.ofSegment?

/-- The second path as seen from the first.  An absolute path is seen the same
from everywhere. -/
def join (p q : Path) : Path :=
  if q.isAbsolute then q
  else if p.text = [] ∨ p.text.getLast? = some '/' then ⟨p.text ++ q.text⟩
  else ⟨p.text ++ '/' :: q.text⟩

/-- The root or the leading dot of a path, which no segment after it holds. -/
def anchor (p : Path) : Text :=
  if p.isAbsolute then ['/']
  else if p.segments.head? = some ['.'] then ['.']
  else []

/-- Segments without the silent ones at their end. -/
def trimSegments (segments : List Text) : List Text :=
  (segments.reverse.dropWhile (fun s =>
    (Component.ofSegment? s).isNone)).reverse

/-- The segments behind the anchor, up to the last one that says something. -/
def body (p : Path) : List Text :=
  trimSegments ((p.text.drop p.anchor.length).splitOn '/')

/-- A path from an anchor and the segments behind it. -/
def ofBody (anchor : Text) (body : List Text) : Path :=
  ⟨anchor ++ List.intercalate ['/'] body⟩

/-- The path without its last component, if there is one that is not the
root. -/
def parent? (p : Path) : Option Path :=
  match p.body with
  | [] => if p.anchor = ['.'] then some empty else none
  | segments => some (ofBody p.anchor (trimSegments segments.dropLast))

/-- The last component, if it is a name. -/
def fileName? (p : Path) : Option Text :=
  match p.body.getLast? with
  | some s => if s = Component.upText then none else some s
  | none => none

/-- Whether the last component is a name with an extension: a dot in it, other
than its first character. -/
def hasExtension (p : Path) : Bool :=
  match p.fileName? with
  | some name => (name.drop 1).contains '.'
  | none => false

/-- The path with an extension added to the name it ends in; what followed the
name, which said nothing, is dropped.  A path that ends in no name stays. -/
def addExtension (p : Path) (extension : Text) : Path :=
  match p.fileName? with
  | some _ => ⟨(ofBody p.anchor p.body).text ++ '.' :: extension⟩
  | none => p

/-- Takes one more component onto the names read so far, the last on top.  Two
dots take away what is on top, and are kept where there is nothing. -/
def cleanStep (names : List Text) : Component → List Text
  | .root => names
  | .here => names
  | .name n => n :: names
  | .up =>
    match names with
    | [] => [Component.upText]
    | _ :: below => below

/-- The path that is written as these names. -/
def ofNames (absolute : Bool) (names : List Text) : Path :=
  ⟨(if absolute then ['/'] else []) ++ List.intercalate ['/'] names⟩

/-- The path with single dots dropped and each pair of dots taken off against
the name before it. -/
def clean (p : Path) : Path :=
  ofNames p.isAbsolute (p.components.foldl cleanStep []).reverse

end Path
end FormScaffold
