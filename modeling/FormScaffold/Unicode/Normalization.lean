import FormScaffold.Unicode.Runs
import FormScaffold.Unicode.Table.CombiningClass
import FormScaffold.Unicode.Table.Composite

/-!
# The composed form of a text

Characters with marks can be written in one or in several characters, and
marks that do not touch each other in any order.  The composed form of a text
takes every character apart, puts marks in the order of their combining
classes, and puts together what can be put together.
-/

namespace FormScaffold.Unicode

def combiningClasses : Runs Nat :=
  Runs.ofLines (Text.numeral 16) Table.combiningClasses

/-- The canonical combining class of a character: zero for all but marks. -/
def combiningClass (c : Char) : Nat := combiningClasses.value 0 c

/-- The characters that are composed of two others, with these. -/
def composites : List (Char × Char × Char) :=
  Table.composites.flatMap fun line =>
    (line.toList.splitOn ' ').filterMap fun word =>
      match (word.splitOn '.').map
        (fun code => Char.ofNat (Text.numeral 16 code)) with
      | [c, a, b] => some (c, a, b)
      | _ => none

/-! ## Hangul syllables -/

/-- The two parts of a Hangul syllable: a syllable without its tail and the
tail, or the lead and the vowel. -/
def splitSyllable? (c : Char) : Option (Char × Char) :=
  let n := c.toNat
  if 0xAC00 ≤ n ∧ n < 0xAC00 + 11172 then
    let i := n - 0xAC00
    if i % 28 = 0 then some (Char.ofNat (0x1100 + i / 588),
      Char.ofNat (0x1161 + i % 588 / 28))
    else some (Char.ofNat (n - i % 28), Char.ofNat (0x11A7 + i % 28))
  else none

def joinSyllable? (a b : Char) : Option Char :=
  let m := a.toNat
  let n := b.toNat
  if 0x1100 ≤ m ∧ m < 0x1113 ∧ 0x1161 ≤ n ∧ n < 0x1176 then
    some (Char.ofNat (0xAC00 + (m - 0x1100) * 588 + (n - 0x1161) * 28))
  else if 0xAC00 ≤ m ∧ m < 0xAC00 + 11172 ∧ (m - 0xAC00) % 28 = 0 ∧ 0x11A7 < n ∧
    n < 0x11C3 then
    some (Char.ofNat (m + (n - 0x11A7)))
  else none

/-! ## Taking apart, ordering, putting together -/

def split? (c : Char) : Option (Char × Char) :=
  (splitSyllable? c).or ((composites.find? (·.1 == c)).map (·.2))

def join? (a b : Char) : Option Char :=
  (joinSyllable? a b).or ((composites.find? (·.2 == (a, b))).map (·.1))

/-- A character, taken apart up to `n` times. -/
def decompose : Nat → Char → Text
  | 0, c => [c]
  | n + 1, c =>
    match split? c with
    | some (a, b) => decompose n a ++ [b]
    | none => [c]

/-- The most often that a character can be taken apart. -/
def maxDepth : Nat := 3

/-- Puts a character before ordered ones, behind the marks of lower classes. -/
def insertMark (c : Char) : Text → Text
  | [] => [c]
  | d :: s =>
    if 0 < combiningClass d ∧ combiningClass d < combiningClass c
      then d :: insertMark c s
    else c :: d :: s

/-- The characters with marks ordered by their classes. -/
def orderMarks (s : Text) : Text := s.foldr insertMark []

/-- Puts a character and those behind it together.  Between the character and
the next one stand marks that could not be put together with it; they let only
a mark of a higher class pass. -/
def composeBehind (c : Char) (marks : Text) : Text → Text
  | [] => c :: marks
  | d :: s =>
    let passes :=
  marks.getLast?.all (fun m => combiningClass m < combiningClass d)
    match if passes then join? c d else none with
    | some joined => composeBehind joined marks s
    | none =>
      if combiningClass d = 0 then c :: marks ++ composeBehind d [] s
      else composeBehind c (marks ++ [d]) s

def compose : Text → Text
  | [] => []
  | c :: s =>
      if combiningClass c = 0 then composeBehind c [] s else c :: compose s

def composed (s : Text) : Text :=
  if Text.isAscii s then s
    else compose (orderMarks (s.flatMap (decompose maxDepth)))

/-- In ASCII there is nothing to compose. -/
theorem composed_of_isAscii {s : Text} (h : Text.isAscii s = true) :
    composed s = s := by
  simp [composed, h]

/-- Ordering marks moves characters, and keeps every one. -/
theorem insertMark_perm (c : Char) (s : Text) :
    (insertMark c s).Perm (c :: s) := by
  induction s with
  | nil => exact List.Perm.refl _
  | cons d s ih =>
    simp only [insertMark]
    split
    · exact (ih.cons d).trans (List.Perm.swap c d s)
    · exact List.Perm.refl _

theorem orderMarks_perm (s : Text) : (orderMarks s).Perm s := by
  induction s with
  | nil => exact List.Perm.refl _
  | cons c s ih => exact (insertMark_perm c (orderMarks s)).trans (ih.cons c)

end FormScaffold.Unicode
