import FormScaffold.Path.Basic

/-!
# Surroundings

Not everything that a run depends on is decided here.  Requests are answered by
others, and what is said of a text that a library refuses, or when help is asked
for, is said by the library.  Such answers are taken as they are: all that is
shown of a run holds for any of them.
-/

namespace FormScaffold

/-- An answer to a request for a document. -/
structure Response where
  status : Nat
  /-- What the status is called. -/
  reason : Text
  /-- The text of the document, or why it cannot be read. -/
  text : Except Text Text

def Response.isSuccess (r : Response) : Bool := 200 ≤ r.status && r.status < 300

/-- What is found on the web: the answer that an address gives, or why it gives
none. -/
class Web where
  answer : Text → Except Text Response

instance Web.offline : Web := ⟨fun _ => .error []⟩

/-- What libraries say in their own words. -/
class Libraries where
  /-- Why the configuration that stands here is refused. -/
  complaint : Path → Text
  /-- The help on a command line. -/
  help : List Text → Text

instance Libraries.silent : Libraries := ⟨fun _ => [], fun _ => []⟩

/-- A cause as it is said behind what it is the cause of.  Of one that nothing
is said about nothing is said. -/
def because (cause : Text) : Text :=
  if cause = [] then [] else ": ".toList ++ cause

end FormScaffold
