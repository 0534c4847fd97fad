import FormScaffold.Text.Letters
import FormScaffold.Yaml.Token

/-!
# Scalars of YAML

The five ways to write a scalar.  Between the words of a plain or quoted
scalar, a single line break counts as a space and further ones are kept.  A
block scalar keeps its lines, or folds them, below the indentation of its
first line.
-/

namespace FormScaffold.Yaml

/-- What stands between two words of a scalar. -/
structure Gap where
  /-- Blanks on one line. -/
  blanks : Text
  /-- The first line break, if there is one. -/
  break? : Option Text
  /-- Further line breaks. -/
  further : Text
  deriving DecidableEq, Repr

namespace Gap

def none : Gap := ⟨[], .none, []⟩

/-- What a gap comes to in the text of the scalar. -/
def text (g : Gap) : Text :=
  match g.break? with
  | .none => g.blanks
  | some first =>
    if first = ['\n'] then (if g.further = [] then [' '] else g.further)
    else first ++ g.further

/-- Reads on through blanks and line breaks.  A tab left of `margin` on a new
line is refused. -/
def scan (margin : Nat) : Nat → Cursor → Gap → Option (Gap × Cursor)
  | 0, c, g => some (g, c)
  | fuel + 1, c, g =>
    match c.rest with
    | [] => some (g, c)
    | b :: _ =>
      if Text.isBlank b then
        if g.break?.isSome then
          if c.column < margin ∧ b = '\t' then .none
          else scan margin fuel (c.advance 1) g
        else scan margin fuel (c.advance 1) { g with blanks := g.blanks ++ [b] }
      else if isBreak b then
        let (kept, next) := c.takeBreak
        match g.break? with
        | .none => scan margin fuel next { g with break? := some kept }
        | some _ =>
            scan margin fuel next { g with further := g.further ++ kept }
      else some (g, c)

end Gap

namespace Scalar

/-! ## Plain scalars -/

/-- Characters that have a meaning of their own inside brackets. -/
def isFlowIndicator (c : Char) : Bool :=
  c == ',' || c == '[' || c == ']' || c == '\x7b' || c == '\x7d'

/-- Cuts off the leading word of a plain scalar.  A word ends before a blank, a
line break or a colon that ends a key, and inside brackets also before what
has a meaning there; a colon right before such a character is refused. -/
def plainWord (flow : Bool) : Text → Option (Text × Text)
  | [] => some ([], [])
  | c :: s =>
    if Text.isBlank c || isBreak c then some ([], c :: s)
    else if c = ':' ∧ flow ∧
      (s.head?.any (fun d => isFlowIndicator d || d == '?')) then none
    else if c = ':' ∧ endsWord s then some ([], c :: s)
    else if flow ∧ isFlowIndicator c then some ([], c :: s)
    else (plainWord flow s).map (fun (w, rest) => (c :: w, rest))

/-- Reads a plain scalar on, behind the text `read` and a gap.  It ends where
no word follows, at a comment, at a line that begins or ends a document, and
outside of brackets at a line that is indented less than `margin`.  The
answer tells whether a line was left last. -/
def plain (flow : Bool) (margin : Nat) :
    Nat → Cursor → Text → Gap → Option (Text × Bool × Cursor)
  | 0, c, read, gap => some (read, gap.break?.isSome, c)
  | fuel + 1, c, read, gap =>
    if c.atDocumentIndicator || c.rest.head? == some '#' then
      some (read, gap.break?.isSome, c)
    else
      match plainWord flow c.rest with
      | .none => .none
      | some (word, rest) =>
        let after := c.moveTo rest
        let read := if word = [] then read else read ++ gap.text ++ word
        let gap := if word = [] then gap else Gap.none
        if after.rest.isEmpty || !endsWord after.rest then
          some (read, gap.break?.isSome, after)
        else
          match Gap.scan margin (after.rest.length + 1) after gap with
          | .none => .none
          | some (gap, next) =>
            if !flow && next.column < margin
              then some (read, gap.break?.isSome, next)
            else plain flow margin fuel next read gap

/-! ## Quoted scalars -/

def simpleEscape? (c : Char) : Option Char :=
  match c with
  | '0' => some '\x00'
  | 'a' => some '\x07'
  | 'b' => some '\x08'
  | 't' => some '\t'
  | '\t' => some '\t'
  | 'n' => some '\n'
  | 'v' => some '\x0b'
  | 'f' => some '\x0c'
  | 'r' => some '\r'
  | 'e' => some '\x1b'
  | ' ' => some ' '
  | '"' => some '"'
  | '/' => some '/'
  | '\\' => some '\\'
  | 'N' => some '\x85'
  | '_' => some '\xa0'
  | 'L' => some '\u2028'
  | 'P' => some '\u2029'
  | _ => none

/-- How many hexadecimal digits follow a character after a backslash. -/
def escapeDigits? (c : Char) : Option Nat :=
  match c with
  | 'x' => some 2
  | 'u' => some 4
  | 'U' => some 8
  | _ => none

def hexNumber? (digits : Text) : Option Nat :=
  digits.foldlM (fun n c => (Text.hexValue? c).map (n * 16 + ·)) 0

def charOfCode? (n : Nat) : Option Char :=
  if n.isValidChar then some (Char.ofNat n) else none

/-- An escape behind its backslash: the character and what follows. -/
def escape? : Text → Option (Char × Text)
  | [] => none
  | c :: s =>
    match simpleEscape? c with
    | some x => some (x, s)
    | none => do
      let n ← escapeDigits? c
      let digits := s.take n
      if digits.length = n then
        let x ← hexNumber? digits >>= charOfCode?
        return (x, s.drop n)
      else none

/-- How the leading word of a quoted scalar ends. -/
inductive WordEnd where
  /-- At a blank, a line break, the closing quote or the end of the text. -/
  | open
  /-- Before a backslash with a line break behind it. -/
  | escapedBreak
  deriving DecidableEq, Repr

/-- Cuts off the leading word of a quoted scalar. -/
def quotedWord (single : Bool) : Nat → Text → Option (Text × WordEnd × Text)
  | 0, s => some ([], .open, s)
  | _, [] => some ([], .open, [])
  | fuel + 1, c :: s =>
    if Text.isBlank c || isBreak c then some ([], .open, c :: s)
    else if single then
      if c = '\'' then
        match s with
        | '\'' :: s =>
            (quotedWord single fuel s).map
              (fun (w, e, rest) => ('\'' :: w, e, rest))
        | _ => some ([], .open, c :: s)
      else (quotedWord single fuel s).map
        (fun (w, e, rest) => (c :: w, e, rest))
    else if c = '"' then some ([], .open, c :: s)
    else if c = '\\' then
      if s.head?.any isBreak then some ([], .escapedBreak, c :: s)
      else do
        let (x, s) ← escape? s
        let (w, e, rest) ← quotedWord single fuel s
        return (x :: w, e, rest)
    else (quotedWord single fuel s).map (fun (w, e, rest) => (c :: w, e, rest))

/-- Reads a quoted scalar on, behind its opening quote and the text `read`. -/
def quoted (single : Bool) : Nat → Cursor → Text → Option (Text × Cursor)
  | 0, _, _ => none
  | fuel + 1, c, read =>
    if c.atDocumentIndicator || c.rest.isEmpty then none
    else do
      let (word, ending, rest) ← quotedWord single (c.rest.length + 1) c.rest
      let after := c.moveTo rest
      let (after, gap) := match ending with
        | .open => (after, Gap.none)
        | .escapedBreak =>
            ((after.advance 1).skipBreak, { Gap.none with break? := some [] })
      let read := read ++ word
      if after.rest.head? = some (if single then '\'' else '"') then
        return (read, after.advance 1)
      else
        let (gap, next) ← Gap.scan 0 (after.rest.length + 1) after gap
        quoted single fuel next (read ++ gap.text)

/-! ## Block scalars -/

inductive Chomping where
  | strip
  | clip
  | keep
  deriving DecidableEq, Repr

/-- The head of a block scalar: how it ends, and its indentation if it says. -/
structure BlockHead where
  chomping : Chomping
  indent? : Option Nat
  deriving DecidableEq, Repr

def chomping? (s : Text) : Option (Chomping × Text) :=
  match s with
  | '+' :: rest => some (.keep, rest)
  | '-' :: rest => some (.strip, rest)
  | _ => none

/-- A digit for indentation, if there is one; zero is refused. -/
def indentDigit? (s : Text) : Option (Option Nat × Text) :=
  match s with
  | c :: rest =>
    if c = '0' then none
    else if c.isDigit then some (some (c.toNat - '0'.toNat), rest)
    else some (none, s)
  | [] => some (none, s)

/-- The head of a block scalar and what follows it on its line. -/
def blockHead? (s : Text) : Option (BlockHead × Text) :=
  match chomping? s with
  | some (chomping, rest) => do
    let (indent?, rest) ← indentDigit? rest
    return (⟨chomping, indent?⟩, rest)
  | none => do
    let (indent?, rest) ← indentDigit? s
    match (if indent?.isSome then chomping? rest else none) with
    | some (chomping, rest) => return (⟨chomping, indent?⟩, rest)
    | none => return (⟨.clip, indent?⟩, rest)

/-- Reads on through empty lines of a block scalar.  While the indentation is
not known, `widest` is the widest seen.  A tab in the indentation is refused. -/
def blockGap (indent? : Option Nat) :
    Nat → Cursor → Nat → Text → Option (Nat × Text × Cursor)
  | 0, c, widest, breaks => some (widest, breaks, c)
  | fuel + 1, c, widest, breaks =>
    let spaces := (c.rest.takeWhile (· == ' ')).length
    let c := match indent? with
      | none => c.advance spaces
      | some indent => c.advance (min spaces (indent - c.column))
    let widest := max widest c.column
    let inIndent := match indent? with
      | none => true
      | some indent => c.column < indent
    if inIndent && c.rest.head? == some '\t' then none
    else if c.atBreak then
      let (kept, next) := c.takeBreak
      blockGap indent? fuel next widest (breaks ++ kept)
    else some (widest, breaks, c)

/-- Reads the lines of a block scalar on, behind the text `read`, the line
break `first` of its last line and the empty lines `breaks`. -/
def blockLines (literal : Bool) (chomping : Chomping) (indent : Nat) :
    Nat → Cursor → Text → Text → Bool → Text → Option (Text × Cursor)
  | 0, _, _, _, _, _ => none
  | fuel + 1, c, read, first, blankBefore, breaks =>
    if c.column = indent ∧ ¬ c.rest.isEmpty then
      let blankHere := c.rest.head?.any Text.isBlank
      let joint :=
        if !literal && first == ['\n'] && !blankBefore && !blankHere then
          (if breaks = [] then [' '] else [])
        else first
      let line := c.rest.takeWhile (fun b => !isBreak b)
      let (first, next) := (c.advance line.length).takeBreak
      match blockGap (some indent) (next.rest.length + 1) next 0 [] with
      | none => none
      | some (_, further, next) =>
        blockLines literal chomping indent fuel next
          (read ++ joint ++ breaks ++ line) first blankHere further
    else
      match chomping with
      | .strip => some (read, c)
      | .clip => some (read ++ first, c)
      | .keep => some (read ++ first ++ breaks, c)

/-- Reads a block scalar behind its indicator.  Its lines are indented by at
least `margin`. -/
def block (literal : Bool) (margin : Nat) (c : Cursor) :
    Option (Text × Cursor) := do
  let (head, rest) ← blockHead? c.rest
  let c := ((c.moveTo rest).skipWhile Text.isBlank).skipComment
  if c.atLineEnd then
    let c := c.skipBreak
    let stated := head.indent?.map (fun n => (margin - 1) + n)
    let (widest, breaks, c) ← blockGap stated (c.rest.length + 1) c 0 []
    let indent := stated.getD (max (max widest margin) 1)
    blockLines literal head.chomping indent (c.rest.length + 2) c [] [] false
      breaks
  else none

end Scalar
end FormScaffold.Yaml
