import FormScaffold.Text.Basic

/-!
# Patterns and the pieces of a text

A pattern says, at each place of a text, whether something it looks for begins
there and what follows it.  Cutting a text along a pattern walks from left to
right, takes the first span found, goes on behind it, and leaves every other
character as it is.  Deletion, replacement and the listing of spans all read
the same pieces, so they always speak of the same spans.
-/

namespace FormScaffold

/-- What a pattern is told at a place: whether a line begins there, and the
text from there on.  It answers with what follows the span it found. -/
abbrev Pattern := Bool → Text → Option Text

/-- A character outside every span, or a span. -/
inductive Piece where
  | kept (c : Char)
  | span (s : Text)
  deriving DecidableEq, Repr

namespace Piece

def text : Piece → Text
  | kept c => [c]
  | span s => s

/-- The piece with a span replaced by what `f` makes of it. -/
def replace (f : Text → Text) : Piece → Text
  | kept c => [c]
  | span s => f s

end Piece

namespace Pattern

/-- The pieces of a text.  A span takes at least one character; an answer that
takes none counts as nothing found. -/
def pieces (p : Pattern) (lineStart : Bool) : Text → List Piece
  | [] => []
  | c :: s =>
    match p lineStart (c :: s) with
    | some rest =>
      if _shorter : rest.length < (c :: s).length then
        let found := (c :: s).take ((c :: s).length - rest.length)
        .span found :: pieces p (found.getLast? == some '\n') rest
      else
        .kept c :: pieces p (c == '\n') s
    | none => .kept c :: pieces p (c == '\n') s
termination_by s => s.length
decreasing_by
  · exact _shorter
  · exact Nat.lt_succ_self _
  · exact Nat.lt_succ_self _

def replaceAll (p : Pattern) (f : Text → Text) (s : Text) : Text :=
  (pieces p true s).flatMap (Piece.replace f)

def deleteAll (p : Pattern) (s : Text) : Text :=
  replaceAll p (fun _ => []) s

/-- Where a span stands, in bytes of the UTF-8 form, and what it says. -/
structure Found where
  start : Nat
  stop : Nat
  text : Text
  deriving DecidableEq, Repr

/-- The spans among pieces that begin `offset` bytes into a text. -/
def spansFrom (offset : Nat) : List Piece → List Found
  | [] => []
  | .kept c :: rest => spansFrom (offset + c.utf8Size) rest
  | .span s :: rest =>
    let stop := offset + s.byteSize
    ⟨offset, stop, s⟩ :: spansFrom stop rest

/-- All spans of a text, from left to right. -/
def findAll (p : Pattern) (s : Text) : List Found :=
  spansFrom 0 (pieces p true s)

end Pattern
end FormScaffold
