import FormScaffold.Text.Letters

/-!
# Values of characters, run by run

A property of characters is kept as runs: how many characters in a row have a
value, from the first character on.  A table of runs is written as words, each
of which is a length in hexadecimal digits, a colon and a value.
-/

namespace FormScaffold.Unicode

/-- How many characters in a row have each value, from the first character
on. -/
abbrev Runs (α : Type) := List (Nat × α)

namespace Runs

variable {α : Type}

def ofWord (value : Text → α) (s : Text) : Nat × α :=
  (Text.numeral 16 (s.takeWhile (· != ':')),
    value ((s.dropWhile (· != ':')).drop 1))

def ofLines (value : Text → α) (lines : List String) : Runs α :=
  lines.flatMap (fun line => (line.toList.splitOn ' ').map (ofWord value))

/-- The value of the `n`-th character, and how many characters of its run stand
before it. -/
def find? : Runs α → Nat → Option (Nat × α)
  | [], _ => none
  | (length, a) :: rest, n =>
      if n < length then some (n, a) else find? rest (n - length)

/-- The value of a character, or another one behind the last run. -/
def value (other : α) (runs : Runs α) (c : Char) : α :=
  match find? runs c.toNat with
  | some (_, a) => a
  | none => other

theorem find?_cons_of_lt {length n : Nat} (a : α) (rest : Runs α)
    (h : n < length) :
    find? ((length, a) :: rest) n = some (n, a) := by
  simp [find?, h]

theorem find?_cons_add (length : Nat) (a : α) (rest : Runs α) (n : Nat) :
    find? ((length, a) :: rest) (length + n) = find? rest n := by
  have h : ¬ length + n < length := by omega
  rw [find?, if_neg h, Nat.add_sub_cancel_left]

end Runs
end FormScaffold.Unicode
