import FormScaffold.Text.Letters

/-!
# Tokens of JSON

A JSON text is read one character at a time by a machine whose state is the
token begun so far.  String and number tokens keep the way they were written;
what a string says is decoded apart, because a text may hold strings that
nobody reads and whose escapes need not make sense.
-/

namespace FormScaffold.Json

/-- A token.  A string token holds what stands between its quotes. -/
inductive Token where
  | openBrace
  | closeBrace
  | openBracket
  | closeBracket
  | colon
  | comma
  | null
  | bool (b : Bool)
  | number (written : Text)
  | string (written : Text)
  deriving DecidableEq, Repr

namespace Token

def isSpace (c : Char) : Bool := c == ' ' || c == '\t' || c == '\n' || c == '\r'

def isNumberChar (c : Char) : Bool :=
  c.isDigit || c == '-' || c == '+' || c == '.' || c == 'e' || c == 'E'

/-- What follows the digits that a text begins with, if there are any. -/
def afterDigits? (s : Text) : Option Text :=
  match s with
  | c :: _ => if c.isDigit then some (s.dropWhile Char.isDigit) else none
  | [] => none

/-- What follows an integer, which has no zero before another digit. -/
def afterInteger? (s : Text) : Option Text :=
  match s with
  | '0' :: rest => some rest
  | _ => afterDigits? s

/-- What follows a fraction, which may be missing. -/
def afterFraction? (s : Text) : Option Text :=
  match s with
  | '.' :: rest => afterDigits? rest
  | _ => some s

def skipSign : Text → Text
  | '+' :: s => s
  | '-' :: s => s
  | s => s

/-- What follows an exponent, which may be missing. -/
def afterExponent? (s : Text) : Option Text :=
  match s with
  | 'e' :: rest => afterDigits? (skipSign rest)
  | 'E' :: rest => afterDigits? (skipSign rest)
  | _ => some s

def isNumber (s : Text) : Bool :=
  let unsigned := match s with
    | '-' :: rest => rest
    | _ => s
  (afterInteger? unsigned >>= afterFraction? >>= afterExponent?) == some []

def ofNumber? (s : Text) : Option Token :=
  if isNumber s then some (number s) else none

def ofWord? (s : Text) : Option Token :=
  if s = "null".toList then some null
  else if s = "true".toList then some (bool true)
  else if s = "false".toList then some (bool false)
  else none

/-- The token that a single character is. -/
def ofPunctuation? (c : Char) : Option Token :=
  match c with
  | '\x7b' => some openBrace
  | '\x7d' => some closeBrace
  | '[' => some openBracket
  | ']' => some closeBracket
  | ':' => some colon
  | ',' => some comma
  | _ => none

def isSimpleEscape (c : Char) : Bool := "\"\\/bfnrt".toList.contains c

/-- What has been read of the current token, its last character first. -/
inductive Reading where
  | between
  | inString (read : Text)
  | escaped (read : Text)
  | inUnicode (read : Text) (missing : Nat)
  | inNumber (read : Text)
  | inWord (read : Text)
  deriving DecidableEq, Repr

/-- A character where no token is begun: the token that it is, if any, and
what is begun behind it. -/
def beginWith (c : Char) : Option (List Token × Reading) :=
  if isSpace c then some ([], .between)
  else if c = '"' then some ([], .inString [])
  else if c.isDigit || c == '-' then some ([], .inNumber [c])
  else if c.isLower then some ([], .inWord [c])
  else (ofPunctuation? c).map (fun t => ([t], .between))

def step : Reading → Char → Option (List Token × Reading)
  | .between, c => beginWith c
  | .inString read, c =>
    if c = '"' then some ([string read.reverse], .between)
    else if c = '\\' then some ([], .escaped (c :: read))
    else if c.toNat < 0x20 then none
    else some ([], .inString (c :: read))
  | .escaped read, c =>
    if isSimpleEscape c then some ([], .inString (c :: read))
    else if c = 'u' then some ([], .inUnicode (c :: read) 4)
    else none
  | .inUnicode read missing, c =>
    if (Text.hexValue? c).isNone then none
    else if missing ≤ 1 then some ([], .inString (c :: read))
    else some ([], .inUnicode (c :: read) (missing - 1))
  | .inNumber read, c =>
    if isNumberChar c then some ([], .inNumber (c :: read))
    else do
      let t ← ofNumber? read.reverse
      let (ts, next) ← beginWith c
      return (t :: ts, next)
  | .inWord read, c =>
    if c.isLower then some ([], .inWord (c :: read))
    else do
      let t ← ofWord? read.reverse
      let (ts, next) ← beginWith c
      return (t :: ts, next)

/-- The token that the end of the text completes. -/
def finish : Reading → Option (List Token)
  | .between => some []
  | .inNumber read => (ofNumber? read.reverse).map ([·])
  | .inWord read => (ofWord? read.reverse).map ([·])
  | _ => none

/-- The tokens of a text, from within a token. -/
def scanFrom : Reading → Text → Option (List Token)
  | reading, [] => finish reading
  | reading, c :: s => do
    let (ts, next) ← step reading c
    let rest ← scanFrom next s
    return ts ++ rest

def scan? (s : Text) : Option (List Token) := scanFrom .between s

/-- The number that four hexadecimal digits write. -/
def unit? (a b c d : Char) : Option Nat := do
  return (((← Text.hexValue? a) * 16 + (← Text.hexValue? b)) * 16 +
    (← Text.hexValue? c)) * 16 + (← Text.hexValue? d)

/-- What a simple escape stands for. -/
def unescape? (c : Char) : Option Char :=
  match c with
  | '"' => some '"'
  | '\\' => some '\\'
  | '/' => some '/'
  | 'b' => some '\x08'
  | 'f' => some '\x0c'
  | 'n' => some '\n'
  | 'r' => some '\r'
  | 't' => some '\t'
  | _ => none

/-- What a string token says.  A unit above the basic plane is written as a
high and a low half; a half that stands alone says nothing. -/
def decode? : Text → Option Text
  | [] => some []
  | '\\' :: 'u' :: a :: b :: c :: d :: rest =>
    match unit? a b c d with
    | none => none
    | some n =>
      if 0xD800 ≤ n ∧ n ≤ 0xDBFF then
        match rest with
        | '\\' :: 'u' :: e :: f :: g :: h :: rest =>
          match unit? e f g h with
          | none => none
          | some m =>
            if 0xDC00 ≤ m ∧ m ≤ 0xDFFF then
              (decode? rest).map
                (Char.ofNat (0x10000 + (n - 0xD800) * 0x400 + (m - 0xDC00)) ::
                  ·)
            else none
        | _ => none
      else if 0xDC00 ≤ n ∧ n ≤ 0xDFFF then none
      else (decode? rest).map (Char.ofNat n :: ·)
  | '\\' :: c :: rest =>
    match unescape? c with
    | none => none
    | some x => (decode? rest).map (x :: ·)
  | c :: rest => (decode? rest).map (c :: ·)

end Token
end FormScaffold.Json
