import FormScaffold.Url.Domain
import FormScaffold.Url.Escape

/-!
# Hosts of URLs

The host of a URL whose scheme is well known is a domain name or a number,
written in several ways and always kept in one.  The host of any other URL is
kept as it is.
-/

namespace FormScaffold.Url

inductive Host where
  | domain (name : Text)
  | ipv4 (address : Nat)
  | ipv6 (pieces : List Nat)
  deriving DecidableEq, Repr

namespace Host

/-! ## Numbers in four parts -/

/-- A part of a numeric address: decimal, octal behind a zero, or hexadecimal
behind a zero and an x. -/
def numberPart? (s : Text) : Option Nat :=
  match s with
  | [] => none
  | '0' :: 'x' :: digits =>
      if digits.all (fun c => (Text.hexValue? c).isSome) then
      some (Text.numeral 16 digits) else none
  | '0' :: d :: digits => if (d :: digits).all (fun c => '0' ≤ c ∧ c ≤ '7') then
      some (Text.numeral 8 (d :: digits)) else none
  | _ => if s.all Char.isDigit then some (Text.numeral 10 s) else none

/-- The parts between dots; a last dot with nothing behind it is dropped. -/
def parts (s : Text) : List Text :=
  let all := s.splitOn '.'
  if all.length > 1 ∧ all.getLast? = some [] then all.dropLast else all

/-- Whether a domain name is to be read as a number. -/
def endsInNumber (s : Text) : Bool :=
  match (parts s).getLast? with
  | some last =>
      (!last.isEmpty && last.all Char.isDigit) || (numberPart? last).isSome
  | none => false

/-- The address that a domain name writes.  All parts but the last are one byte
each, and the last fills what is left. -/
def ipv4? (s : Text) : Option Nat := do
  let parts := parts s
  if parts.length > 4 then none
  else
    let numbers ← parts.mapM numberPart?
    let last ← numbers.getLast?
    let bytes := numbers.dropLast
    if bytes.any (· > 255) ∨ last ≥ Nat.pow 256 (4 - bytes.length) then none
    else return bytes.foldl (fun n b => n * 256 + b) 0 *
      Nat.pow 256 (4 - bytes.length) + last

def ipv4Text (address : Nat) : Text :=
  List.intercalate ['.']
    ([0x1000000, 0x10000, 0x100, 1].map
      (fun w => (toString (address / w % 256)).toList))

/-! ## Numbers in eight pieces -/

/-- A piece: one to four hexadecimal digits. -/
def piece? (s : Text) : Option Nat :=
  if s ≠ [] ∧ s.length ≤ 4 ∧ s.all (fun c => (Text.hexValue? c).isSome) then
    some (Text.numeral 16 s)
  else none

/-- The two pieces that four bytes between dots write. -/
def dotted? (s : Text) : Option (List Nat) := do
  let bytes ← (s.splitOn '.').mapM fun part =>
    if part ≠ [] ∧ part.all Char.isDigit ∧
      (part.length = 1 ∨ part.head? ≠ some '0') ∧
        part.length ≤ 3 ∧ Text.numeral 10 part ≤ 255
          then some (Text.numeral 10 part) else none
  match bytes with
  | [a, b, c, d] => return [a * 256 + b, c * 256 + d]
  | _ => none

/-- Pieces between colons; the last may be written as bytes between dots, if
`dots` allows it. -/
def pieces? (dots : Bool) (s : Text) : Option (List Nat) :=
  if s = [] then some []
  else
    let groups := s.splitOn ':'
    match groups.getLast? with
    | some last =>
      if dots && last.contains '.' then do
        return (← groups.dropLast.mapM piece?) ++ (← dotted? last)
      else groups.mapM piece?
    | none => none

/-- Cuts a text at its first two colons in a row. -/
def cutDouble : Text → Option (Text × Text)
  | ':' :: ':' :: s => some ([], s)
  | c :: s => (cutDouble s).map (fun (before, after) => (c :: before, after))
  | [] => none

/-- The eight pieces that a text writes.  Two colons in a row stand for as many
zeros as are missing. -/
def ipv6? (s : Text) : Option (List Nat) :=
  match cutDouble s with
  | some (before, after) => do
    let front ← pieces? false before
    let back ← pieces? true after
    if front.length + back.length ≤ 7 then
      return front ++ List.replicate (8 - front.length - back.length) 0 ++ back
    else none
  | none => do
    let pieces ← pieces? true s
    if pieces.length = 8 then return pieces else none

def zeros (pieces : List Nat) : Nat := (pieces.takeWhile (· == 0)).length

/-- The longest run of zeros: how many pieces stand before it, and its length.
Of equal ones the first counts. -/
def longestZeros : List Nat → Nat × Nat
  | [] => (0, 0)
  | p :: rest =>
    let here := zeros (p :: rest)
    let (before, later) := longestZeros rest
    if later ≤ here then (0, here) else (before + 1, later)

def pieceText (n : Nat) : Text := Nat.toDigits 16 n

/-- Eight pieces between colons, the longest run of at least two zeros left
out. -/
def ipv6Text (pieces : List Nat) : Text :=
  let write (ps : List Nat) := List.intercalate [':'] (ps.map pieceText)
  let (before, length) := longestZeros pieces
  if length < 2 then write pieces
  else write (pieces.take before) ++ "::".toList ++
    write (pieces.drop (before + length))

/-! ## Reading and writing -/

def inBrackets? (s : Text) : Option (Option Text) :=
  match s with
  | '[' :: rest =>
      if rest.getLast? = some ']' then some (some rest.dropLast) else some none
  | _ => none

/-- The host that a text means after a well-known scheme. -/
def special? (s : Text) : Option Host :=
  match inBrackets? s with
  | some inner => (inner >>= ipv6?).map .ipv6
  | none => do
    let name ← unescape? s >>= Domain.toAscii?
    if endsInNumber name then (ipv4? name).map .ipv4 else some (.domain name)

/-- Whether a character must not stand in a host that is kept as it is. -/
def isForbidden (c : Char) : Bool :=
  "\x00\t\n\r #/:<>?@[\\]^|".toList.contains c

/-- The host that a text means after any other scheme. -/
def plain? (s : Text) : Option Host :=
  match inBrackets? s with
  | some inner => (inner >>= ipv6?).map .ipv6
  | none =>
      if s.any isForbidden then none else some (.domain (escape .plainPath s))

def toText : Host → Text
  | domain name => name
  | ipv4 address => ipv4Text address
  | ipv6 pieces => '[' :: ipv6Text pieces ++ [']']

end Host
end FormScaffold.Url
