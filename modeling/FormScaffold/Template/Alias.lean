import FormScaffold.Text.Pattern

/-!
# Import aliases

Templates import through two aliases, one for components and one for
utilities.  Both are replaced in one walk over the text, so what is written
for one alias is never read again.
-/

namespace FormScaffold.Alias

def defaultComponents : Text := "@/components".toList

def defaultUtils : Text := "@/lib/utils".toList

/-- The two aliases, wherever they stand. -/
def pattern : Pattern := fun _ s =>
  Text.after? defaultComponents s <|> Text.after? defaultUtils s

def replace (components utils source : Text) : Text :=
  Pattern.replaceAll pattern
    (fun found => if found = defaultComponents then components else utils)
      source

end FormScaffold.Alias
