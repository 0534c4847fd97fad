import FormScaffold.Text.Pattern

/-!
# Comments of a template

A line comment runs from two slashes to the end of the line.  A block comment
runs from a slash and a star to the next star and slash, and is one only if
it is closed.  A comment that has its line to itself goes with the line; a
line comment behind other text goes with the blanks before it; a block comment
goes alone.  Quotes mean nothing here: two slashes in a literal begin a comment.
-/

namespace FormScaffold.Comment

/-- What follows the first star and slash. -/
def afterClose? : Text → Option Text
  | '*' :: '/' :: s => some s
  | _ :: s => afterClose? s
  | [] => none

/-- What follows the closed block comment that a text begins with. -/
def afterBlock? (s : Text) : Option Text :=
  Text.after? "/*".toList s >>= afterClose?

/-- Whether a character ends a line comment. -/
def endsLine (c : Char) : Bool := c == '\r' || c == '\n'

/-- What follows the line comment that a text begins with. -/
def afterLine? (s : Text) : Option Text :=
  (Text.after? "//".toList s).map (List.dropWhile (fun c => !endsLine c))

/-- What follows a line that holds a comment and blanks only. -/
def afterOwnLine? (s : Text) : Option Text :=
  let s := Text.skipBlanks s
  (afterBlock? s <|> afterLine? s) >>= Text.afterLineEnd?

/-- Comments: a line that holds nothing else, or a block comment, or a line
comment with the blanks before it. -/
def pattern : Pattern := fun lineStart s =>
  (if lineStart then afterOwnLine? s else none)
    <|> afterBlock? s
    <|> afterLine? (Text.skipBlanks s)

def strip (source : Text) : Text := Pattern.deleteAll pattern source

end FormScaffold.Comment
