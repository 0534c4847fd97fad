import FormScaffold.Url.Basic

/-!
# Reading URLs

A URL is read from left to right: scheme, authority, path, query, fragment.
Well-known schemes take backslashes for slashes and any number of slashes
before the host.  Segments of one or two dots are taken in, also where the
dots are escaped.
-/

namespace FormScaffold.Url

def trimControls (s : Text) : Text :=
  let drop (t : Text) := t.dropWhile (fun c => c.toNat ≤ 0x20)
  (drop (drop s).reverse).reverse

def isSchemeChar (c : Char) : Bool :=
  c.isAlphanum || c == '+' || c == '-' || c == '.'

/-- The scheme that a text begins with, in small letters, and what follows its
colon. -/
def scheme? (s : Text) : Option (Text × Text) :=
  if s.head?.any Char.isAlpha then
    match s.dropWhile isSchemeChar with
    | ':' :: rest => some ((s.takeWhile isSchemeChar).map Char.toLower, rest)
    | _ => none
  else none

def isSlash (kind : SchemeKind) (c : Char) : Bool :=
  c == '/' || (kind.isSpecial && c == '\\')

def endsPath (c : Char) : Bool := c == '?' || c == '#'

/-! ## Authorities -/

def endsAuthority (kind : SchemeKind) (c : Char) : Bool :=
  isSlash kind c || endsPath c

/-- Cuts a text at its last at sign, if it has one. -/
def cutLastAt (s : Text) : Option (Text × Text) :=
  let tail := (s.reverse.takeWhile (· != '@')).reverse
  if tail.length = s.length then none
  else some (s.take (s.length - tail.length - 1), tail)

/-- The user and the password before an at sign. -/
def userInfo (s : Text) : Text × Text :=
  let user := s.takeWhile (· != ':')
  (escape .userInfo user, escape .userInfo (s.drop (user.length + 1)))

/-- The length of the host that a text begins with: a colon ends it, except
between brackets. -/
def hostLength : Bool → Text → Nat
  | _, [] => 0
  | bracket, c :: s =>
    if c = ':' ∧ ¬ bracket then 0
    else if c = '[' then hostLength true s + 1
    else if c = ']' then hostLength false s + 1
    else hostLength bracket s + 1

/-- The port that a text is, if it is one: none where nothing is given, or what
the scheme means anyway. -/
def port? (scheme : Text) (s : Text) : Option (Option Nat) :=
  if s.all Char.isDigit then
    let n := Text.numeral 10 s
    if n > 65535 then none
    else if s = [] ∨ defaultPort? scheme = some n then some none
    else some (some n)
  else none

/-- The host and the port that a text begins with, and what stands behind them,
which a backslash begins. -/
def hostAndPort? (scheme : Text) (kind : SchemeKind) (s : Text) :
    Option (Option Host × Option Nat × Text) := do
  let name := s.take (hostLength false s)
  let behind := s.drop name.length
  if name = [] then
    if kind.isSpecial ∨ behind ≠ [] then none else return (none, none, [])
  else
    let host ← if kind.isSpecial then Host.special? name else Host.plain? name
    match behind with
    | ':' :: rest =>
      let digits := rest.takeWhile (· != '\\')
      return (some host, ← port? scheme digits, rest.drop digits.length)
    | _ => return (some host, none, [])

/-- The authority that a text begins with, and what stands behind it.  A user
needs a host, and so does an at sign that stands alone, if anything follows the
text. -/
def Authority.parse? (scheme : Text) (kind : SchemeKind) (followed : Bool)
    (s : Text) : Option (Authority × Text) := do
  let cut := cutLastAt s
  let (user, password) := match cut with
    | some (info, _) => userInfo info
    | none => ([], [])
  let place := match cut with
    | some (_, place) => place
    | none => s
  let (host?, port?, rest) ← hostAndPort? scheme kind place
  if host? = none ∧ (user ≠ [] ∨ password ≠ [] ∨ (s = ['@'] ∧ followed))
    then none
  else return ({ user, password, host?, port? }, rest)

/-! ## Paths -/

/-- What is read of a path that was written so, its first slash left out. -/
def pathTrail (kind : SchemeKind) (s : Text) : Trail :=
  Trail.empty.enterAll kind (s.splitOnP (isSlash kind))

def pathBehind (kind : SchemeKind) (s : Text) : UrlPath :=
  match s with
  | [] => .segments (if kind.isSpecial then [[]] else [])
  | c :: rest =>
      .segments (pathTrail kind (if isSlash kind c then rest else s)).segments

/-- Segments without the empty ones before the first that is not. -/
def dropEmptyFirst : List Text → List Text
  | [] :: s :: rest => dropEmptyFirst (s :: rest)
  | segments => segments

/-! ## Whole URLs -/

def tail (kind : SchemeKind) (s : Text) : Option Text × Option Text :=
  let query := s.takeWhile (· != '#')
  let fragment := s.dropWhile (· != '#')
  (if query = [] then none
    else some (escape (.query kind.isSpecial) (query.drop 1)),
    if fragment = [] then none else some (escape .fragment (fragment.drop 1)))

/-- The URL with this much read.  Without an authority, an empty first segment
has to be set off. -/
def ofParts (scheme : Text) (kind : SchemeKind) (authority? : Option Authority)
    (path : UrlPath) (behind : Text) : Url :=
  let (query?, fragment?) := tail kind behind
  let isSetOff := authority?.isNone && path.beginsEmpty
  { scheme, authority?, isSetOff, path, query?, fragment? }

/-- Reads a URL from behind the slashes before its authority. -/
def behindSlashes? (scheme : Text) (kind : SchemeKind) (s : Text) :
    Option Url := do
  let place := s.takeWhile (fun c => !endsAuthority kind c)
  let rest := s.drop place.length
  let (authority, more) ← Authority.parse? scheme kind (!rest.isEmpty) place
  let path := rest.takeWhile (fun c => !endsPath c)
  return ofParts scheme kind (some authority) (pathBehind kind (more ++ path))
    (rest.drop path.length)

/-- The URL of a file on a host.  A drive stands in the place of the host.
Empty segments before the first that is not are dropped. -/
def fileUrl (scheme : Text) (host? : Option Host) (path behind : Text) : Url :=
  let trail := pathTrail .file path
  let host? := if trail.hasDrive then none else host?
  ofParts scheme .file (some { Authority.empty with host? })
    (.segments (dropEmptyFirst trail.segments)) behind

/-- Reads a file URL from behind its scheme, tabs and line breaks included.  A
drive is no host, and the host that means this machine is left out; where no
host is kept, the slash before the path counts as a segment. -/
def fileUrl? (scheme : Text) (s : Text) : Option Url :=
  let solid := withoutVoids s
  let slashes := (solid.takeWhile (isSlash .file)).length
  let url (host? : Option Host) (start : Nat) : Url :=
    let path := (behind start s).takeWhile (fun c => !endsPath c)
    fileUrl scheme host? path (solid.drop (start + (withoutVoids path).length))
  if 2 ≤ slashes then
    let name := (solid.drop 2).takeWhile (fun c => !endsAuthority .file c)
    if name = [] ∨ isDrive name then some (url none 2)
    else do
      let host ← Host.special? name
      let start := 2 + name.length
      if host = .domain "localhost".toList then return url none start
      else
        let slash := (solid.drop start).head?.any (isSlash .file)
        return url (some host) (if slash then start + 1 else start)
  else some (url none slashes)

/-- Reads a URL of a scheme that is not well known from behind its scheme. -/
def otherUrl? (scheme : Text) (s : Text) : Option Url :=
  let path := s.takeWhile (fun c => !endsPath c)
  let behind := s.drop path.length
  match path with
  | '/' :: '/' :: _ => behindSlashes? scheme .other (s.drop 2)
  | '/' :: rest =>
    some (ofParts scheme .other none
      (.segments (pathTrail .other rest).segments) behind)
  | _ =>
      some (ofParts scheme .other none (.plain (escape .plainPath path)) behind)

def parse? (s : Text) : Option Url := do
  let s := trimControls s
  let (scheme, rest) ← scheme? (withoutVoids s)
  match SchemeKind.ofScheme scheme with
  | .file => fileUrl? scheme ((s.dropWhile (· != ':')).drop 1)
  | .special =>
      behindSlashes? scheme .special (rest.dropWhile (isSlash .special))
  | .other => otherUrl? scheme rest

end FormScaffold.Url
