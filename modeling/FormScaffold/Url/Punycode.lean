import FormScaffold.Text.Letters

/-!
# Punycode

A way to write any characters with ASCII letters, digits and hyphens.  The ASCII
characters come first, and a hyphen behind them if there are any.  The others
follow in the order of their codes, each as the number of steps from the one
before it, where a step goes to the next place of the text and, behind the last
place, to the next code.  The numbers are written in digits whose bases vary,
so that each number shows where it ends.
-/

namespace FormScaffold.Url.Punycode

/-- A digit: letters, then figures. -/
def digit (n : Nat) : Char :=
  if n < 26 then Char.ofNat ('a'.toNat + n)
    else Char.ofNat ('0'.toNat + (n - 26))

def digitValue? (c : Char) : Option Nat :=
  if 'a' ≤ c ∧ c ≤ 'z' then some (c.toNat - 'a'.toNat)
  else if '0' ≤ c ∧ c ≤ '9' then some (c.toNat - '0'.toNat + 26)
  else none

/-- The least digit at a place that is not the last of its number. -/
def threshold (bias place : Nat) : Nat :=
  min 26 (max 1 (36 * (place + 1) - bias))

theorem threshold_pos (bias place : Nat) : 0 < threshold bias place := by
  unfold threshold
  omega

/-- The digits of a number from a place on, the lowest first. -/
def digits (bias place n : Nat) : Text :=
  let t := threshold bias place
  if n < t then [digit n]
  else digit (t + (n - t) % (36 - t)) ::
    digits bias (place + 1) ((n - t) / (36 - t))
termination_by n
decreasing_by
  have := threshold_pos bias place
  exact Nat.lt_of_le_of_lt (Nat.div_le_self _ _) (by omega)

/-- The number whose digits from a place on begin a text, where a digit at that
place counts `weight`, and what follows them. -/
def number? (bias : Nat) : Nat → Nat → Text → Option (Nat × Text)
  | _, _, [] => none
  | place, weight, c :: s => do
    let d ← digitValue? c
    let t := threshold bias place
    if d < t then return (d * weight, s)
    else
      let (n, rest) ← number? bias (place + 1) (weight * (36 - t)) s
      return (d * weight + n, rest)

theorem length_lt_of_number? {bias place weight n : Nat} {s rest : Text}
    (h : number? bias place weight s = some (n, rest)) :
    rest.length < s.length := by
  induction s generalizing place weight n with
  | nil => simp [number?] at h
  | cons c s ih =>
    simp only [number?] at h
    cases hd : digitValue? c with
    | none => simp [hd] at h
    | some d =>
      simp only [hd, Option.bind_eq_bind, Option.bind_some] at h
      split at h
      · obtain ⟨_, rfl⟩ := Prod.mk.inj (Option.some.inj h)
        exact Nat.lt_succ_self _
      · cases hn : number? bias (place + 1)
          (weight * (36 - threshold bias place)) s with
        | none => simp [hn] at h
        | some found =>
          obtain ⟨m, behind⟩ := found
          simp only [hn, Option.bind_some] at h
          obtain ⟨_, rfl⟩ := Prod.mk.inj (Option.some.inj h)
          exact Nat.lt_succ_of_lt (ih hn)

/-- The bias for a number of this size, and what is added to it on the way. -/
def biasOf (added n : Nat) : Nat :=
  if n > 455 then biasOf (added + 36) (n / 35) else added + 36 * n / (n + 38)
termination_by n
decreasing_by exact Nat.div_lt_self (by omega) (by omega)

/-- The bias after a number, when the text has `count` characters. -/
def nextBias (n count : Nat) (first : Bool) : Nat :=
  let n := if first then n / 700 else n / 2
  biasOf 0 (n + n / count)

/-! ## Writing -/

/-- What was written, and what decides about the rest. -/
structure Writer where
  written : Text
  /-- The steps since the last character. -/
  steps : Nat
  bias : Nat
  /-- How many characters are in their places. -/
  placed : Nat
  deriving Repr

/-- Passes a place of the text on the way to the characters with a code. -/
def Writer.pass (basic code : Nat) (w : Writer) (c : Char) : Writer :=
  if c.toNat < code then { w with steps := w.steps + 1 }
  else if c.toNat = code then
    { written := w.written ++ digits w.bias 0 w.steps
      steps := 0
      bias := nextBias w.steps (w.placed + 1) (w.placed == basic)
      placed := w.placed + 1 }
  else w

/-- Writes the characters with these codes, which are in their order; codes
below `next` are behind. -/
def Writer.writeCodes (s : Text) (basic : Nat) :
    Nat → List Nat → Writer → Writer
  | _, [], w => w
  | next, code :: codes, w =>
    let w := { w with steps := w.steps + (code - next) * (w.placed + 1) }
    let w := s.foldl (pass basic code) w
    writeCodes s basic (code + 1) codes { w with steps := w.steps + 1 }

/-- The numbers of a list in order, each of them once. -/
def distinct (codes : List Nat) : List Nat :=
  (codes.mergeSort (· ≤ ·)).eraseDups

def encode (s : Text) : Text :=
  let isBasic (c : Char) : Bool := c.toNat < 0x80
  let basic := s.filter isBasic
  let codes := distinct ((s.filter (fun c => !isBasic c)).map Char.toNat)
  basic ++ (if basic = [] then [] else ['-']) ++
    (Writer.writeCodes s basic.length 0x80 codes ⟨[], 0, 72,
      basic.length⟩).written

/-! ## Reading -/

/-- Places the characters that numbers write into a text.  The steps are counted
from a place and a code. -/
def place? (bias place code : Nat) (out : Text) : Text → Option Text
  | [] => some out
  | c :: s =>
    match _read : number? bias 0 1 (c :: s) with
    | none => none
    | some (n, rest) =>
      let count := out.length + 1
      let code := code + (place + n) / count
      let here := (place + n) % count
      if code.isValidChar then
        place? (nextBias n count (place == 0)) (here + 1) code
          (out.take here ++ Char.ofNat code :: out.drop here) rest
      else none
termination_by s => s.length
decreasing_by exact length_lt_of_number? _read

def decode? (s : Text) : Option Text :=
  let tail := (s.reverse.takeWhile (· != '-')).reverse
  let basic := s.take (s.length - tail.length - 1)
  place? 72 0 0x80 basic (if basic = [] then s else tail)

end FormScaffold.Url.Punycode
