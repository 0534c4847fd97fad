import FormScaffold.Unicode.Runs
import FormScaffold.Unicode.Table.Mark

/-!
# Marks

Characters that are written on others, and so cannot begin a name.
-/

namespace FormScaffold.Unicode

def marks : Runs Bool := Runs.ofLines (· == ['M']) Table.marks

def isMark (c : Char) : Bool := marks.value false c

end FormScaffold.Unicode
