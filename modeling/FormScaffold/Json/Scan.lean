import FormScaffold.Json.Relaxed

/-!
# Scanning relaxed JSON by positions

The walks that take comments and trailing commas go by a position in bytes.  At
each step the text is cut there, and what follows decides what is written and
how far the position moves.  A scan has no result if the text were cut behind
its end or inside a character, or if the position stood still.
-/

namespace FormScaffold.Json.Relaxed

/-- Where a scan stands: so many bytes into the text, and with respect to string
literals. -/
structure Cursor where
  offset : Nat
  place : Place
  deriving DecidableEq, Repr

def Cursor.start : Cursor := ⟨0, .outside⟩

/-- What is written for the comment that a text begins with, and how many bytes
it has; the outer level is none if the text were cut where it cannot be. -/
def commentSpan? (s : Text) : Option (Option (Text × Nat)) :=
  if "//".toList.isPrefixOf s then
    some (some ([], (Text.find? ['\n'] s).getD s.byteSize))
  else if "/*".toList.isPrefixOf s then do
    let behind ← Text.sliceFrom? 2 s
    let size := match Text.find? "*/".toList behind with
      | some i => i + 4
      | none => s.byteSize
    return some ([' '], size)
  else some none

/-- The same for a comma with only white space between it and a closing
bracket. -/
def trailingCommaSpan? (s : Text) : Option (Option (Text × Nat)) :=
  if [','].isPrefixOf s then do
    let behind ← Text.sliceFrom? 1 s
    let next := Text.trimStart behind
    if ['\x7d'].isPrefixOf next || [']'].isPrefixOf next
      then return some ([], 1)
    else return none
  else some none

/-- One step of a scan: what it writes and where it stands then, unless nothing
follows.  Outside of string literals `span?` may take a stretch off the text. -/
def advance? (span? : Text → Option (Option (Text × Nat))) (source : Text)
    (cursor : Cursor) : Option (Option (Text × Cursor)) := do
  match ← Text.sliceFrom? cursor.offset source with
  | [] => return none
  | c :: s =>
    let span ← if cursor.place = .outside ∧ c ≠ '"' then span? (c :: s)
        else some none
    match span with
    | some (written, size) =>
      return some (written, { cursor with offset := cursor.offset + size })
    | none =>
      return some ([c], ⟨cursor.offset + c.utf8Size, cursor.place.next c⟩)

/-- What a scan writes from a position on. -/
def scanFrom? (span? : Text → Option (Option (Text × Nat))) (source : Text)
    (cursor : Cursor) : Option Text :=
  if cursor.offset < source.byteSize then
    match advance? span? source cursor with
    | none => none
    | some none => some []
    | some (some (written, next)) =>
      if _forward : cursor.offset < next.offset then
        (scanFrom? span? source next).map (written ++ ·)
      else none
  else some []
termination_by source.byteSize - cursor.offset

/-- What a scan writes. -/
def scan? (span? : Text → Option (Option (Text × Nat)))
    (source : Text) : Option Text :=
  scanFrom? span? source .start

/-- The strict form of a relaxed JSON text, as the scans write it. -/
def toStrict? (s : Text) : Option Text :=
  scan? commentSpan? s >>= scan? trailingCommaSpan?

end FormScaffold.Json.Relaxed
