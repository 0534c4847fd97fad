import FormScaffold.Url.Host
import FormScaffold.Url.Segment

/-!
# URLs

A URL is kept in its parts.  The path is a list of segments, each of which is
written behind a slash, or, for a scheme that knows no hierarchy, a text.  A
segment can be appended to a list; an empty last segment gives way to it.
-/

namespace FormScaffold

namespace Url

structure Authority where
  user : Text
  password : Text
  host? : Option Host
  port? : Option Nat
  deriving DecidableEq, Repr

inductive UrlPath where
  | plain (text : Text)
  | segments (list : List Text)
  deriving DecidableEq, Repr

end Url

structure Url where
  scheme : Text
  authority? : Option Url.Authority
  /-- Whether a dot stands before the path.  Behind a scheme, two slashes would
  begin an authority, so a path that was read with an empty first segment is
  set off by a dot, and stays so. -/
  isSetOff : Bool
  path : Url.UrlPath
  query? : Option Text
  fragment? : Option Text
  deriving DecidableEq, Repr

namespace Url

namespace Authority

def empty : Authority := ⟨[], [], none, none⟩

def toText (a : Authority) : Text :=
  (if a.user = [] ∧ a.password = [] then []
    else a.user ++ (if a.password = [] then [] else ':' :: a.password) ++
      ['@']) ++
  (match a.host? with
    | some host => host.toText
    | none => []) ++
  (match a.port? with
    | some port => ':' :: (toString port).toList
    | none => [])

end Authority

namespace UrlPath

def toText : UrlPath → Text
  | plain s => s
  | segments list => list.flatMap ('/' :: ·)

/-- Whether the path is a list with an empty first segment that is not its
only one. -/
def beginsEmpty : UrlPath → Bool
  | segments ([] :: _ :: _) => true
  | _ => false

end UrlPath

def toText (u : Url) : Text :=
  u.scheme ++ [':'] ++
  (match u.authority? with
    | some a => "//".toList ++ a.toText
    | none => []) ++
  (if u.isSetOff then "/.".toList else []) ++
  u.path.toText ++
  (match u.query? with
    | some q => '?' :: q
    | none => []) ++
  (match u.fragment? with
    | some f => '#' :: f
    | none => [])

/-- Segments without an empty last one, as long as others are left. -/
def dropEmptyLast (segments : List Text) : List Text :=
  if segments.length > 1 ∧ segments.getLast? = some [] then segments.dropLast
    else segments

/-- What was read when a segment follows these.  A single empty segment is the
root and gives way. -/
def trail (segments : List Text) : Trail :=
  ⟨if segments = [[]] then [] else segments.reverse, false⟩

/-- The URL of a file in the directory that a URL names, if URLs of its scheme
have segments.  The names of the directory itself and of the one above it add
nothing. -/
def append? (u : Url) (file : Text) : Option Url :=
  match u.path with
  | .plain _ => none
  | .segments list =>
    let base := dropEmptyLast list
    let kind := SchemeKind.ofScheme u.scheme
    let list :=
      if file = ['.'] ∨ file = "..".toList then base
      else ((trail base).enter kind (.segment kind.isSpecial) true
        file).segments
    some { u with path := .segments list }

end Url
end FormScaffold
