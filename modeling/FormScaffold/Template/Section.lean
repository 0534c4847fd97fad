import FormScaffold.Template.FieldKind

/-!
# Sections of a template

A template is cut into sections by marker lines.  A marker line holds nothing
but a marker: the split token, two slashes and an identifier.  It opens a
section that runs to the next marker line; text before the first marker is a
section too.  The identifier `body` marks text that every project gets, any
other marks text for the field kind of that identifier.  Cutting keeps every
character, so the sections of a template, joined, are the template.
-/

namespace FormScaffold

namespace Marker

/-- The token that every marker begins with. -/
def splitToken : Text := "//split".toList

/-- What stands between the split token and the identifier. -/
def commentLead : Text := "//".toList

/-- The identifier of text that every project gets. -/
def bodyId : Text := "body".toList

/-- Letters, digits, underscore and hyphen form identifiers. -/
def isIdChar (c : Char) : Bool := c.isAlphanum || c == '_' || c == '-'

/-- A line break, or as much of one as may end a text. -/
def isLineBreak (s : Text) : Bool :=
  s == [] || s == ['\n'] || s == ['\r'] || s == ['\r', '\n']

/-- The identifier of a marker line; blanks may stand before and after the
marker. -/
def id? (line : Text) : Option Text := do
  let rest ← Text.after? (splitToken ++ commentLead) (Text.skipBlanks line)
  let name := rest.takeWhile isIdChar
  if name ≠ [] ∧ isLineBreak (Text.skipBlanks (rest.dropWhile isIdChar)) then
    some name
  else
    none

end Marker

/-- Whom a section is for. -/
inductive SectionTag where
  /-- Text that every project gets. -/
  | body
  /-- Text for the field kind of this identifier. -/
  | kind (id : Text)
  deriving DecidableEq, Repr

namespace SectionTag

/-- The tag that a marker with this identifier gives. -/
def ofMarker (id : Text) : SectionTag :=
  if id = Marker.bodyId then body else kind id

/-- The identifier of the field kind the section is for. -/
def kindId? : SectionTag → Option Text
  | body => none
  | kind id => some id

end SectionTag

/-- A stretch of template text, its marker line included, and its tag. -/
structure Section where
  tag : SectionTag
  text : Text
  deriving DecidableEq, Repr

namespace Section

/-- The section in a list of its own, unless it holds no text. -/
def toList (s : Section) : List Section := if s.text = [] then [] else [s]

/-- Continues a section through further lines: a marker line closes it and
opens the next. -/
def extend (current : Section) : List Text → List Section
  | [] => current.toList
  | line :: rest =>
    match Marker.id? line with
    | some id => current.toList ++ extend ⟨SectionTag.ofMarker id, line⟩ rest
    | none => extend ⟨current.tag, current.text ++ line⟩ rest

def split (source : Text) : List Section :=
  extend ⟨.body, []⟩ (Text.lines source)

def join (sections : List Section) : Text := sections.flatMap Section.text

/-- Whether a section stays when the given kinds are dropped.  A section whose
identifier is in no catalog always stays. -/
def staysWithout (dropped : List FieldKind) (s : Section) : Bool :=
  match s.tag.kindId? with
  | some id => !dropped.any (fun k => k.id == id)
  | none => true

/-- The template without the sections of kinds that were not chosen. -/
def filter (chosen : List FieldKind) (source : Text) : Text :=
  match FieldKind.unchosen chosen with
  | [] => source
  | dropped => join ((split source).filter (staysWithout dropped))

end Section
end FormScaffold
