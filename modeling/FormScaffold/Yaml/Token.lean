import FormScaffold.Text.Basic

/-!
# Tokens of YAML

The tokens that a YAML text is made of.  Where a key may turn out to begin, the
lexer leaves an open slot among its lexemes; when the colon behind the key is
met the slot is filled, and a slot that is never filled stands for nothing.
So lexemes are only ever added at the end.
-/

namespace FormScaffold.Yaml

inductive ScalarStyle where
  | plain
  | singleQuoted
  | doubleQuoted
  | literal
  | folded
  deriving DecidableEq, Repr

inductive Token where
  | versionDirective (major minor : Nat)
  | tagDirective (handle lead : Text)
  | documentStart
  | documentEnd
  | blockSequenceStart
  | blockMappingStart
  | blockEnd
  | flowSequenceStart
  | flowSequenceEnd
  | flowMappingStart
  | flowMappingEnd
  | blockEntry
  | flowEntry
  | key
  | value
  | alias (name : Text)
  | anchor (name : Text)
  | tag (handle suffix : Text)
  | scalar (style : ScalarStyle) (text : Text)
  deriving DecidableEq, Repr

/-- A token, or a slot that a key may still fill. -/
inductive Lexeme where
  | token (t : Token)
  | slot (number : Nat)
  deriving DecidableEq, Repr

/-- The tokens of lexemes whose slots were filled so. -/
def Lexeme.tokens (filled : List (Nat × List Token))
    (lexemes : List Lexeme) : List Token :=
  lexemes.flatMap fun
    | .token t => [t]
    | .slot n => (filled.lookup n).getD []

/-- A place in a text: what follows it, its line and column, and how many bytes
stand before it. -/
structure Cursor where
  rest : Text
  line : Nat
  column : Nat
  index : Nat
  deriving DecidableEq, Repr

def isBreak (c : Char) : Bool :=
  c == '\r' || c == '\n' || c == '\x85' || c == '\u2028' || c == '\u2029'

/-- Whether a text begins with a blank or a line break, or is at its end. -/
def endsWord (s : Text) : Bool :=
  match s with
  | c :: _ => Text.isBlank c || isBreak c
  | [] => true

def isWordChar (c : Char) : Bool := c.isAlphanum || c == '_' || c == '-'

def isAllowed (c : Char) : Bool :=
  let n := c.toNat
  n == 0x9 || n == 0xA || n == 0xD || (0x20 ≤ n && n ≤ 0x7E) || n == 0x85 ||
    (0xA0 ≤ n && n ≤ 0xD7FF) || (0xE000 ≤ n && n ≤ 0xFFFD) ||
    (0x10000 ≤ n && n ≤ 0x10FFFF)

namespace Cursor

def ofText (s : Text) : Cursor := ⟨s, 0, 0, 0⟩

/-- The place `n` characters further on the line. -/
def advance (c : Cursor) (n : Nat) : Cursor :=
  { c with
    rest := c.rest.drop n
    column := c.column + n
    index := c.index + Text.byteSize (c.rest.take n) }

def skipWhile (p : Char → Bool) (c : Cursor) : Cursor :=
  c.advance (c.rest.takeWhile p).length

/-- The place further on the line where this text follows. -/
def moveTo (c : Cursor) (rest : Text) : Cursor :=
  c.advance (c.rest.length - rest.length)

/-- The place behind the line break that follows, and the break as it is kept:
all but the line and paragraph separators become a line feed. -/
def takeBreak (c : Cursor) : Text × Cursor :=
  match c.rest with
  | '\r' :: '\n' :: s => (['\n'], ⟨s, c.line + 1, 0, c.index + 2⟩)
  | b :: s =>
    if isBreak b then
      (if b = '\u2028' ∨ b = '\u2029' then [b]
        else ['\n'], ⟨s, c.line + 1, 0, c.index + b.utf8Size⟩)
    else ([], c)
  | [] => ([], c)

/-- The place behind the line break that follows, if one does. -/
def skipBreak (c : Cursor) : Cursor := c.takeBreak.2

def atBreak (c : Cursor) : Bool :=
  match c.rest with
  | b :: _ => isBreak b
  | [] => false

def atLineEnd (c : Cursor) : Bool := c.rest.isEmpty || c.atBreak

/-- The place behind a comment, if one follows. -/
def skipComment (c : Cursor) : Cursor :=
  match c.rest with
  | '#' :: _ => c.skipWhile (fun b => !isBreak b)
  | _ => c

/-- Whether the line says that a document begins or ends. -/
def atDocumentIndicator (c : Cursor) : Bool :=
  c.column == 0 &&
    match c.rest with
    | '-' :: '-' :: '-' :: s => endsWord s
    | '.' :: '.' :: '.' :: s => endsWord s
    | _ => false

end Cursor
end FormScaffold.Yaml
