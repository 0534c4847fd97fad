import FormScaffold.Yaml.Scalar

/-!
# From YAML text to tokens

The lexer reads one token at a time.  Outside of brackets it keeps the columns
of the blocks that are open, and a line further left closes them.  A key is
known only by the colon behind it, so the lexer remembers, for each bracket
that is open, where a key may have begun; such a key has to end on its line
and within a bounded number of bytes.
-/

namespace FormScaffold.Yaml

/-- Where a key may have begun. -/
structure KeyStart where
  /-- Whether the text makes no sense unless a key did begin here. -/
  required : Bool
  slot : Nat
  line : Nat
  column : Nat
  index : Nat
  deriving DecidableEq, Repr

/-- The most bytes between the beginning of a key and its colon. -/
def maxKeyLength : Nat := 1024

/-- What the lexer knows at a place. -/
structure Lexer where
  cursor : Cursor
  /-- What was read, the last lexeme first. -/
  read : List Lexeme
  /-- The slots that were filled. -/
  filled : List (Nat × List Token)
  /-- How many slots there are. -/
  slots : Nat
  /-- The columns of the open blocks, the innermost first. -/
  blocks : List Nat
  /-- Where a key may have begun inside the innermost bracket. -/
  keyStart : Option KeyStart
  /-- The same for each bracket around it. -/
  outer : List (Option KeyStart)
  /-- Whether a key may begin here. -/
  keyAllowed : Bool
  deriving Repr

namespace Lexer

def ofText (s : Text) : Lexer where
  cursor := Cursor.ofText s
  read := []
  filled := []
  slots := 0
  blocks := []
  keyStart := none
  outer := []
  keyAllowed := true

def inFlow (l : Lexer) : Bool := !l.outer.isEmpty

/-- The least column that is inside the innermost block. -/
def margin (l : Lexer) : Nat :=
  match l.blocks with
  | column :: _ => column + 1
  | [] => 0

def emit (t : Token) (l : Lexer) : Lexer :=
  { l with read := .token t :: l.read }

def advance (n : Nat) (l : Lexer) : Lexer :=
  { l with cursor := l.cursor.advance n }

def allowKey (b : Bool) (l : Lexer) : Lexer := { l with keyAllowed := b }

/-- Gives up the key that may have begun, unless it is required. -/
def dropKey (l : Lexer) : Option Lexer :=
  match l.keyStart with
  | some k => if k.required then none else some { l with keyStart := none }
  | none => some l

def markKey (l : Lexer) : Option Lexer :=
  if l.keyAllowed then do
    let l ← l.dropKey
    let c := l.cursor
    return { l with
      keyStart := some {
        required := !l.inFlow && l.blocks.head? == some c.column
        slot := l.slots, line := c.line, column := c.column, index := c.index }
      read := .slot l.slots :: l.read
      slots := l.slots + 1 }
  else some l

/-- Gives up a key that can no longer be one, which is an error if it is
required. -/
def expire (c : Cursor) : Option KeyStart → Option (Option KeyStart)
  | some k =>
    if k.line < c.line ∨ k.index + maxKeyLength < c.index then
      (if k.required then none else some none)
    else some (some k)
  | none => some none

def expireKeys (l : Lexer) : Option Lexer := do
  let keyStart ← expire l.cursor l.keyStart
  let outer ← l.outer.mapM (expire l.cursor)
  return { l with keyStart, outer }

/-- Whether a block at this column would be inside the innermost one. -/
def isDeeper (l : Lexer) (column : Nat) : Bool :=
  !l.inFlow && decide (l.margin ≤ column)

/-- Opens a block at this column, if it is inside the innermost one. -/
def openBlock (start : Token) (column : Nat) (l : Lexer) : Lexer :=
  if l.isDeeper column then { l with blocks := column :: l.blocks }.emit start
    else l

/-- Closes the blocks that are further right than `keep` allows. -/
def closeBlocks (keep : Nat → Bool) (l : Lexer) : Lexer :=
  if l.inFlow then l
  else
    let closed := l.blocks.takeWhile (fun column => !keep column)
    { l with
      blocks := l.blocks.dropWhile (fun column => !keep column)
      read := closed.map (fun _ => .token .blockEnd) ++ l.read }

/-- Closes all blocks; where a key may have begun there is none. -/
def leaveBlocks (l : Lexer) : Option Lexer :=
  (l.closeBlocks (fun _ => false)).dropKey.map (allowKey false)

/-- Goes on to the next token, past blanks, comments and line breaks.  A tab is
passed only where no key may begin. -/
def skipToToken : Nat → Lexer → Lexer
  | 0, l => l
  | fuel + 1, l =>
    let c := l.cursor
    let c := if c.column == 0 && c.rest.head? == some '\ufeff' then c.advance 1
      else c
    let tabs := l.inFlow || !l.keyAllowed
    let c :=
      (c.skipWhile (fun b => b == ' ' || (tabs && b == '\t'))).skipComment
    if c.atBreak then
      skipToToken fuel
        { l with
          cursor := c.skipBreak, keyAllowed := l.keyAllowed || !l.inFlow }
    else { l with cursor := c }

/-! ## Directives, anchors and tags -/

/-- The number that up to nine digits write, and what follows. -/
def versionNumber? (s : Text) : Option (Nat × Text) :=
  let digits := s.takeWhile Char.isDigit
  if digits = [] ∨ digits.length > 9 then none
  else some (digits.foldl (fun n d => n * 10 + (d.toNat - '0'.toNat)) 0,
    s.dropWhile Char.isDigit)

def isTagChar (verbatim : Bool) (c : Char) : Bool :=
  isWordChar c || ";/?:@&=+$.%!~*'()".toList.contains c ||
    (verbatim && ",[]".toList.contains c)

/-- The byte that a percent sign and two digits write. -/
def percentByte? : Text → Option (UInt8 × Text)
  | '%' :: a :: b :: s => do
    return (((← Text.hexValue? a) * 16 + (← Text.hexValue? b)).toUInt8, s)
  | _ => none

/-- How many bytes a character has whose first byte is this one. -/
def byteCount? (b : UInt8) : Option Nat :=
  if b < 0x80 then some 1
  else if b &&& 0xE0 == 0xC0 then some 2
  else if b &&& 0xF0 == 0xE0 then some 3
  else if b &&& 0xF8 == 0xF0 then some 4
  else none

/-- Reads `n` further bytes of a character, each a percent sign and two
digits. -/
def percentBytes? : Nat → Text → Option (List UInt8 × Text)
  | 0, s => some ([], s)
  | n + 1, s => do
    let (b, s) ← percentByte? s
    if b &&& 0xC0 == 0x80 then
      let (bs, s) ← percentBytes? n s
      return (b :: bs, s)
    else none

/-- What stands for bytes that are a character only by their form. -/
def replacement : Text := ['\ufffd']

/-- The characters that percent signs write here. -/
def percentChar? (s : Text) : Option (Text × Text) := do
  let (b, rest) ← percentByte? s
  let n ← byteCount? b
  let (bs, rest) ← percentBytes? (n - 1) rest
  let decoded := String.fromUTF8? (ByteArray.mk (b :: bs).toArray)
  return ((decoded.map String.toList).getD replacement, rest)

/-- The text of a tag, and what follows. -/
def tagText? (verbatim : Bool) : Nat → Text → Option (Text × Text)
  | 0, s => some ([], s)
  | fuel + 1, s =>
    match s with
    | [] => some ([], [])
    | c :: rest =>
      if c = '%' then do
        let (decoded, rest) ← percentChar? s
        let (more, rest) ← tagText? verbatim fuel rest
        return (decoded ++ more, rest)
      else if isTagChar verbatim c then
        (tagText? verbatim fuel rest).map
          (fun (more, rest) => (c :: more, rest))
      else some ([], s)

/-- What counts of the text of a tag: an escaped NUL ends it. -/
def beforeNul (s : Text) : Text := s.takeWhile (· != '\x00')

/-- The handle that a text begins with: an exclamation mark, a word, and a
second mark if one follows. -/
def tagHandle? (s : Text) : Option (Text × Text) :=
  match s with
  | '!' :: s =>
    let word := s.takeWhile isWordChar
    match s.dropWhile isWordChar with
    | '!' :: rest => some ('!' :: word ++ ['!'], rest)
    | rest => some ('!' :: word, rest)
  | _ => none

/-- A tag: its handle, its suffix and what follows. -/
def tag? (s : Text) : Option (Text × Text × Text) :=
  match s with
  | '!' :: '<' :: rest => do
    let (suffix, rest) ← tagText? true (rest.length + 1) rest
    match rest with
    | '>' :: rest =>
        if suffix = [] then none else return ([], beforeNul suffix, rest)
    | _ => none
  | _ => do
    let (handle, rest) ← tagHandle? s
    let (suffix, rest) ← tagText? false (rest.length + 1) rest
    if handle.length > 1 ∧ handle.getLast? = some '!' then
      if suffix = [] then none else return (handle, beforeNul suffix, rest)
    else
      let suffix := beforeNul (handle.drop 1 ++ suffix)
      if suffix = [] then return ([], ['!'], rest)
      else return (['!'], suffix, rest)

/-- What a directive says behind its name, and what follows. -/
def directive? (name : Text) (s : Text) : Option (Token × Text) :=
  if name = "YAML".toList then do
    let (major, rest) ← versionNumber? (Text.skipBlanks s)
    let rest ← Text.after? ['.'] rest
    let (minor, rest) ← versionNumber? rest
    return (.versionDirective major minor, rest)
  else if name = "TAG".toList then do
    let (handle, rest) ← tagHandle? (Text.skipBlanks s)
    if handle.getLast? ≠ some '!' then none
    else if !(rest.head?.any Text.isBlank) then none
    else
      let rest := Text.skipBlanks rest
      let (lead, rest) ← tagText? true (rest.length + 1) rest
      if lead = [] ∨ ¬ endsWord rest then none
      else return (.tagDirective handle (beforeNul lead), rest)
  else none

def readDirective (l : Lexer) : Option Lexer := do
  let l ← l.leaveBlocks
  let c := l.cursor.advance 1
  let name := c.rest.takeWhile isWordChar
  let behind := c.rest.dropWhile isWordChar
  if name = [] ∨ ¬ endsWord behind then none
  else
    let (t, rest) ← directive? name behind
    let c := ((c.moveTo rest).skipWhile Text.isBlank).skipComment
    if c.atLineEnd then return { l.emit t with cursor := c.skipBreak } else none

def readName (make : Text → Token) (l : Lexer) : Option Lexer := do
  let l := (← l.markKey).allowKey false
  let rest := l.cursor.rest.drop 1
  let name := rest.takeWhile isWordChar
  let behind := rest.dropWhile isWordChar
  if name = [] ∨ ¬ (endsWord behind ∨
    behind.head?.any (fun c => "?:,]\x7d%@`".toList.contains c))
  then none
  else return (l.emit (make name)).advance (name.length + 1)

def readTag (l : Lexer) : Option Lexer := do
  let l := (← l.markKey).allowKey false
  let (handle, suffix, rest) ← tag? l.cursor.rest
  if endsWord rest || (l.inFlow && rest.head? == some ',') then
    return { l.emit (.tag handle suffix) with cursor := l.cursor.moveTo rest }
  else none

/-! ## Indicators and scalars -/

/-- Reads the line that says that a document begins or ends. -/
def readDocumentIndicator (t : Token) (l : Lexer) : Option Lexer :=
  l.leaveBlocks.map (fun l => (l.emit t).advance 3)

def readOpening (t : Token) (l : Lexer) : Option Lexer :=
  l.markKey.map fun l =>
    ({ l with
      outer := l.keyStart :: l.outer, keyStart := none,
        keyAllowed := true }.emit t).advance 1

def readClosing (t : Token) (l : Lexer) : Option Lexer :=
  l.dropKey.map fun l =>
    let l := match l.outer with
      | k :: outer => { l with keyStart := k, outer }
      | [] => l
    ((l.allowKey false).emit t).advance 1

def readFlowEntry (l : Lexer) : Option Lexer :=
  l.dropKey.map (fun l => ((l.allowKey true).emit .flowEntry).advance 1)

def readBlockEntry (l : Lexer) : Option Lexer :=
  if !l.inFlow && !l.keyAllowed then none
  else
    (l.openBlock .blockSequenceStart l.cursor.column).dropKey.map
      (fun l => ((l.allowKey true).emit .blockEntry).advance 1)

def readKey (l : Lexer) : Option Lexer :=
  if !l.inFlow && !l.keyAllowed then none
  else
    (l.openBlock .blockMappingStart l.cursor.column).dropKey.map
      (fun l => ((l.allowKey (!l.inFlow)).emit .key).advance 1)

/-- Reads the colon before a value.  If a key may have begun, it did. -/
def readValue (l : Lexer) : Option Lexer :=
  match l.keyStart with
  | some k =>
    let opens := l.isDeeper k.column
    let l := { l with
      filled :=
        (k.slot, (if opens then [.blockMappingStart, .key] else [.key])) ::
          l.filled
      blocks := if opens then k.column :: l.blocks else l.blocks
      keyStart := none
      keyAllowed := false }
    some ((l.emit .value).advance 1)
  | none =>
    if !l.inFlow && !l.keyAllowed then none
    else
      let l := (l.openBlock .blockMappingStart l.cursor.column).allowKey
        (!l.inFlow)
      some ((l.emit .value).advance 1)

def readBlockScalar (literal : Bool) (l : Lexer) : Option Lexer := do
  let l := (← l.dropKey).allowKey true
  let (text, cursor) ← Scalar.block literal l.margin (l.cursor.advance 1)
  return { l.emit (.scalar (if literal then .literal else .folded) text) with
    cursor }

def readQuoted (single : Bool) (l : Lexer) : Option Lexer := do
  let l := (← l.markKey).allowKey false
  let c := l.cursor.advance 1
  let (text, cursor) ← Scalar.quoted single (c.rest.length + 1) c []
  return { l.emit (.scalar (if single then .singleQuoted else .doubleQuoted)
    text) with cursor }

def readPlain (l : Lexer) : Option Lexer := do
  let l := (← l.markKey).allowKey false
  let c := l.cursor
  let (text, leftLine, cursor) ←
    Scalar.plain l.inFlow l.margin (c.rest.length + 1) c [] Gap.none
  return { l.emit (.scalar .plain text) with cursor, keyAllowed := leftLine }

/-- Whether a plain scalar may begin with a text: with any character that has
no meaning of its own, or with a dash, question mark or colon that something
follows. -/
def beginsPlain (flow : Bool) (s : Text) : Bool :=
  match s with
  | [] => false
  | c :: rest =>
    if Text.isBlank c || isBreak c then false
    else if c = '-' then !(rest.head?.any Text.isBlank)
    else if c = '?' ∨ c = ':' then !flow && !endsWord rest
    else !(",[]\x7b\x7d#&*!|>'\"%@`".toList.contains c)

def readToken (l : Lexer) : Option Lexer :=
  let c := l.cursor
  match c.rest with
  | [] => none
  | first :: behind =>
    if c.column = 0 ∧ first = '%' then l.readDirective
    else if c.atDocumentIndicator then
      l.readDocumentIndicator (if first = '-' then .documentStart
        else .documentEnd)
    else if first = '[' then l.readOpening .flowSequenceStart
    else if first = '\x7b' then l.readOpening .flowMappingStart
    else if first = ']' then l.readClosing .flowSequenceEnd
    else if first = '\x7d' then l.readClosing .flowMappingEnd
    else if first = ',' then l.readFlowEntry
    else if first = '-' ∧ endsWord behind then l.readBlockEntry
    else if first = '?' ∧ (l.inFlow ∨ endsWord behind) then l.readKey
    else if first = ':' ∧ (l.inFlow ∨ endsWord behind) then l.readValue
    else if first = '*' then l.readName .alias
    else if first = '&' then l.readName .anchor
    else if first = '!' then l.readTag
    else if first = '|' ∧ ¬ l.inFlow then l.readBlockScalar true
    else if first = '>' ∧ ¬ l.inFlow then l.readBlockScalar false
    else if first = '\'' then l.readQuoted true
    else if first = '"' then l.readQuoted false
    else if beginsPlain l.inFlow c.rest then l.readPlain
    else none

/-- Ends the text: a new line begins, and every block is closed. -/
def finish (l : Lexer) : Option Lexer :=
  let c := l.cursor
  let c := if c.column = 0 then c
    else { c with column := 0, line := c.line + 1 }
  { l with cursor := c }.leaveBlocks

def run : Nat → Lexer → Option Lexer
  | 0, _ => none
  | fuel + 1, l => do
    let l ← (l.skipToToken (l.cursor.rest.length + 1)).expireKeys
    let column := l.cursor.column
    let l := l.closeBlocks (fun open_ => decide (open_ ≤ column))
    if l.cursor.rest.isEmpty then l.finish
    else run fuel (← l.readToken)

end Lexer

def tokens? (s : Text) : Option (List Token) :=
  if s.all isAllowed then
    (Lexer.run (s.length + 1) (Lexer.ofText s)).map
      (fun l => Lexeme.tokens l.filled l.read.reverse)
  else none

end FormScaffold.Yaml
