import FormScaffold.Text.Basic

/-!
# Letters, digits and white space

White space is what the Unicode standard gives the property `White_Space`.
Lower case is needed only to compare with names written in small ASCII
letters, so the map here covers every character whose lower-case form is one
ASCII letter and leaves all others alone.
-/

namespace FormScaffold.Text

/-- The characters with the property `White_Space`. -/
def isWhiteSpace (c : Char) : Bool :=
  let n := c.toNat
  (0x9 ≤ n && n ≤ 0xD) || n == 0x20 || n == 0x85 || n == 0xA0 || n == 0x1680 ||
    (0x2000 ≤ n && n ≤ 0x200A) || n == 0x2028 || n == 0x2029 || n == 0x202F ||
    n == 0x205F || n == 0x3000

def trimStart (s : Text) : Text := s.dropWhile isWhiteSpace

def trim (s : Text) : Text := (trimStart (trimStart s).reverse).reverse

/-- The lower-case form of a character, where that is one ASCII letter: the
capital letters, and the Kelvin sign, whose small letter is `k`. -/
def lowerChar (c : Char) : Char :=
  if c.toNat = 0x212A then 'k' else c.toLower

/-- The text in small letters, as far as these are ASCII letters. -/
def lower (s : Text) : Text := s.map lowerChar

/-- Two texts are the same but for the case of ASCII letters. -/
def sameButCase (s t : Text) : Bool := s.map Char.toLower == t.map Char.toLower

def isAscii (s : Text) : Bool := s.all (fun c => c.toNat < 0x80)

def hexValue? (c : Char) : Option Nat :=
  if c.isDigit then some (c.toNat - '0'.toNat)
  else if 'a' ≤ c ∧ c ≤ 'f' then some (c.toNat - 'a'.toNat + 10)
  else if 'A' ≤ c ∧ c ≤ 'F' then some (c.toNat - 'A'.toNat + 10)
  else none

/-- The number that digits write in a base up to sixteen. -/
def numeral (base : Nat) (digits : Text) : Nat :=
  digits.foldl (fun n c => n * base + (hexValue? c).getD 0) 0

/-- A character of a class is none of the signs outside of the class. -/
theorem not_mem_of_all_not {isIn : Char → Bool} {c : Char} {signs : Text}
    (hc : isIn c = true)
    (hsigns : signs.all (fun d => !isIn d) = true) : c ∉ signs := by
  intro hmem
  have hsign := List.all_eq_true.mp hsigns c hmem
  rw [hc] at hsign
  cases hsign

theorem toNat_of_isAlphanum {c : Char} (hc : c.isAlphanum = true) :
    0x30 ≤ c.toNat ∧ c.toNat ≤ 0x7A := by
  change ((decide ('A'.val ≤ c.val ∧ c.val ≤ 'Z'.val) ||
    (decide ('a'.val ≤ c.val) && decide (c.val ≤ 'z'.val))) ||
      (decide ('0'.val ≤ c.val) && decide (c.val ≤ '9'.val))) = true at hc
  simp only [Bool.or_eq_true, Bool.and_eq_true, decide_eq_true_eq,
    UInt32.le_iff_toNat_le]
    at hc
  change ((65 ≤ c.toNat ∧ c.toNat ≤ 90) ∨ (97 ≤ c.toNat ∧ c.toNat ≤ 122)) ∨
    (48 ≤ c.toNat ∧ c.toNat ≤ 57) at hc
  omega

end FormScaffold.Text
