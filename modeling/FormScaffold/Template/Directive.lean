import FormScaffold.Text.Pattern

/-!
# The runtime directive

A module that needs its client runtime says so in a directive line, in either
quotes, with or without a semicolon.  The policy takes every directive line
away, with the blank lines behind it, and, where the directive is wanted,
writes one at the top, a blank line after it.
-/

namespace FormScaffold.Directive

def line : Text := "\"use client\";".toList

/-- What the directive says between its quotes. -/
def words : Text := "use client".toList

def afterQuote? : Text → Option Text
  | '"' :: s => some s
  | '\'' :: s => some s
  | _ => none

def skipSemicolon : Text → Text
  | ';' :: s => s
  | s => s

/-- What follows the directive line that a text begins with.  The two quotes
need not be alike. -/
def afterLine? (s : Text) : Option Text := do
  let s ← afterQuote? (Text.skipBlanks s)
  let s ← Text.after? words s
  let s ← afterQuote? s
  Text.afterLineEnd? (skipSemicolon s)

/-- Directive lines, each with the blank lines behind it. -/
def pattern : Pattern := fun lineStart s =>
  if lineStart then (afterLine? s).map Text.dropBlankLines else none

def remove (source : Text) : Text := Pattern.deleteAll pattern source

/-- The text with the directive at the top and nowhere else, or nowhere. -/
def apply (wanted : Bool) (source : Text) : Text :=
  if wanted then line ++ "\n\n".toList ++ Text.dropBlankLines (remove source)
  else remove source

end FormScaffold.Directive
