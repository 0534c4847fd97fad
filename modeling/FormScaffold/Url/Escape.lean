import FormScaffold.Text.Letters

/-!
# Percent escapes of URLs

In each part of a URL some characters stand for themselves, and the others are
written as the bytes of their UTF-8 form, a percent sign and two digits each.
-/

namespace FormScaffold.Url

/-- The parts of a URL that differ in what is escaped. -/
inductive EscapeSet where
  | plainPath
  | fragment
  | query (special : Bool)
  | path
  | segment (special : Bool)
  | userInfo
  deriving DecidableEq, Repr

namespace EscapeSet

/-- The ASCII characters that are escaped, apart from control characters. -/
def escaped : EscapeSet → Text
  | plainPath => []
  | fragment => " \"<>`".toList
  | query special => " \"#<>".toList ++ (if special then ['\''] else [])
  | path => " \"<>`#?\x7b\x7d".toList
  | segment special =>
      " \"<>`#?\x7b\x7d/%".toList ++ (if special then ['\\'] else [])
  | userInfo => " \"<>`#?\x7b\x7d/:;=@[\\]^|".toList

def contains (e : EscapeSet) (c : Char) : Bool :=
  c.toNat < 0x20 || 0x7F ≤ c.toNat || e.escaped.contains c

end EscapeSet

def hexDigit (n : Nat) : Char :=
  if n < 10 then Char.ofNat ('0'.toNat + n)
    else Char.ofNat ('A'.toNat + (n - 10))

def escapeByte (b : UInt8) : Text :=
  ['%', hexDigit (b.toNat / 16), hexDigit (b.toNat % 16)]

def escapeChar (c : Char) : Text := (String.utf8EncodeChar c).flatMap escapeByte

def escape (e : EscapeSet) (s : Text) : Text :=
  s.flatMap (fun c => if e.contains c then escapeChar c else [c])

/-- The bytes of a text with its escapes undone. -/
def unescapeBytes : Text → List UInt8
  | '%' :: a :: b :: s =>
    match Text.hexValue? a, Text.hexValue? b with
    | some m, some n => (m * 16 + n).toUInt8 :: unescapeBytes s
    | _, _ => '%'.toUInt8 :: unescapeBytes (a :: b :: s)
  | c :: s => String.utf8EncodeChar c ++ unescapeBytes s
  | [] => []
termination_by s => s.length

def unescape? (s : Text) : Option Text :=
  (String.fromUTF8? (ByteArray.mk (unescapeBytes s).toArray)).map String.toList

end FormScaffold.Url
