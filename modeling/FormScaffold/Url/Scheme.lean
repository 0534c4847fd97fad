import FormScaffold.Text.Basic

/-!
# Schemes of URLs

The scheme of a URL says how the rest of it is laid out: whether backslashes
count as slashes, whether a host has to be there, and which port is meant where
none is given.
-/

namespace FormScaffold.Url

inductive SchemeKind where
  /-- Files, which need no host. -/
  | file
  /-- Well-known schemes with a host. -/
  | special
  | other
  deriving DecidableEq, Repr

/-- The well-known schemes, that of files aside. -/
def specialSchemes : List Text :=
  ["http".toList, "https".toList, "ws".toList, "wss".toList, "ftp".toList]

def SchemeKind.ofScheme (scheme : Text) : SchemeKind :=
  if scheme = "file".toList then .file
  else if specialSchemes.contains scheme then .special
  else .other

def SchemeKind.isSpecial : SchemeKind → Bool
  | other => false
  | _ => true

def defaultPort? (scheme : Text) : Option Nat :=
  if scheme = "http".toList ∨ scheme = "ws".toList then some 80
  else if scheme = "https".toList ∨ scheme = "wss".toList then some 443
  else if scheme = "ftp".toList then some 21
  else none

/-! ## Tabs and line breaks -/

/-- Tabs and line breaks, which mean nothing in URLs. -/
def isVoid (c : Char) : Bool := c == '\t' || c == '\n' || c == '\r'

def withoutVoids (s : Text) : Text := s.filter (fun c => !isVoid c)

/-- What stands behind the first `n` characters, tabs and line breaks not
counted. -/
def behind : Nat → Text → Text
  | 0, s => s
  | _ + 1, [] => []
  | n + 1, c :: s => if isVoid c then behind (n + 1) s else behind n s

/-- Nothing but tabs and line breaks is lost by cutting a text so. -/
theorem withoutVoids_behind (n : Nat) (s : Text) :
    withoutVoids (behind n s) = (withoutVoids s).drop n := by
  induction s generalizing n with
  | nil => cases n <;> rfl
  | cons c s ih =>
    cases n with
    | zero => rfl
    | succ n =>
      cases h : isVoid c with
      | true => simpa [behind, withoutVoids, h] using ih (n + 1)
      | false => simpa [behind, withoutVoids, h] using ih n

end FormScaffold.Url
