/-!
# Texts and their lines

A text is a list of characters.  A line of a text runs up to and including its
line feed, so the lines of a text, laid end to end, are the text again; the
last line may lack the line feed.  Blanks are the space and the tab, the two
characters that may stand unseen before and after what a line says.
-/

namespace FormScaffold

/-- A text, character by character. -/
abbrev Text := List Char

namespace Text

def isBlank (c : Char) : Bool := c == ' ' || c == '\t'

def skipBlanks (s : Text) : Text := s.dropWhile isBlank

/-- What follows `lead` in a text that begins with it. -/
def after? : Text → Text → Option Text
  | [], s => some s
  | a :: lead, c :: s => if a = c then after? lead s else none
  | _ :: _, [] => none

@[simp] theorem after?_nil (s : Text) : after? [] s = some s := by
  cases s <;> rfl

@[simp] theorem after?_append (lead s : Text) :
    after? lead (lead ++ s) = some s := by
  induction lead with
  | nil => simp
  | cons a lead ih => simp [after?, ih]

theorem eq_append_of_after? {lead s rest : Text}
    (h : after? lead s = some rest) :
    s = lead ++ rest := by
  induction lead generalizing s with
  | nil => simpa using h
  | cons a lead ih =>
    cases s with
    | nil => simp [after?] at h
    | cons c s =>
      simp only [after?] at h
      split at h
      · next hc => rw [ih h, hc]; rfl
      · simp at h

/-- The lines of a text, each with its line feed. -/
def lines : Text → List Text
  | [] => []
  | c :: s =>
    if c = '\n' then [c] :: lines s
    else
      match lines s with
      | [] => [[c]]
      | line :: rest => (c :: line) :: rest

/-- No character is lost or moved by cutting a text into lines. -/
theorem flatten_lines (s : Text) : (lines s).flatten = s := by
  induction s with
  | nil => rfl
  | cons c s ih =>
    simp only [lines]
    split
    · simp [ih]
    · split
      · next h => simp_all
      · next line rest h => rw [h] at ih; simpa using ih

/-- What follows the first line break, if only blanks stand before it. -/
def afterBlankLine? : Text → Option Text
  | '\n' :: s => some s
  | '\r' :: '\n' :: s => some s
  | c :: s => if isBlank c then afterBlankLine? s else none
  | [] => none

/-- What follows the end of the line, if only blanks stand before it; the end
of the text ends a line too, and so does a carriage return just before it. -/
def afterLineEnd? : Text → Option Text
  | [] => some []
  | '\n' :: s => some s
  | ['\r'] => some []
  | '\r' :: '\n' :: s => some s
  | c :: s => if isBlank c then afterLineEnd? s else none

theorem length_lt_of_afterBlankLine? {s rest : Text}
    (h : afterBlankLine? s = some rest) :
    rest.length < s.length := by
  fun_induction afterBlankLine? s with
  | case1 s =>
    obtain rfl := Option.some.inj h
    exact Nat.lt_succ_self _
  | case2 s =>
    obtain rfl := Option.some.inj h
    exact Nat.lt_succ_of_lt (Nat.lt_succ_self _)
  | case3 c s _ _ _ ih => exact Nat.lt_succ_of_lt (ih h)
  | case4 => simp at h
  | case5 => simp at h

/-- The text without the blank lines it begins with.  A last line without a
line break is kept, blank or not. -/
def dropBlankLines (s : Text) : Text :=
  match _rest : afterBlankLine? s with
  | some rest => dropBlankLines rest
  | none => s
termination_by s.length
decreasing_by exact length_lt_of_afterBlankLine? _rest

def byteSize (s : Text) : Nat := s.foldl (fun n c => n + c.utf8Size) 0

@[simp] theorem byteSize_nil : byteSize [] = 0 := rfl

theorem byteSize_append (s t : Text) :
    byteSize (s ++ t) = s.byteSize + t.byteSize := by
  have hfrom : ∀ n : Nat, t.foldl (fun n c => n + c.utf8Size) n =
      n + t.byteSize := by
    unfold byteSize
    induction t with
    | nil => exact fun _ => rfl
    | cons c t ih =>
      intro n
      rw [List.foldl_cons, List.foldl_cons, ih, ih (0 + c.utf8Size)]
      omega
  unfold byteSize
  rw [List.foldl_append, hfrom]
  rfl

theorem byteSize_cons (c : Char) (s : Text) :
    byteSize (c :: s) = c.utf8Size + s.byteSize := by
  have hhead : byteSize [c] = c.utf8Size := Nat.zero_add _
  rw [← hhead]
  exact byteSize_append [c] s

/-- The first so many bytes of a text and the others, unless the text has fewer
or a character is cut. -/
def cutAt? : Nat → Text → Option (Text × Text)
  | 0, s => some ([], s)
  | _ + 1, [] => none
  | n + 1, c :: s =>
    if c.utf8Size ≤ n + 1 then
      (cutAt? (n + 1 - c.utf8Size) s).map fun cut => (c :: cut.1, cut.2)
    else none

/-- The bytes of a text from `start` to `stop`, if they come in this order and
neither is behind the end or inside a character. -/
def slice? (start stop : Nat) (s : Text) : Option Text := do
  guard (start ≤ stop)
  let front ← cutAt? stop s
  let inner ← cutAt? start front.1
  return inner.2

/-- The bytes of a text from `start` on, unless that is behind the end or inside
a character. -/
def sliceFrom? (start : Nat) (s : Text) : Option Text :=
  (cutAt? start s).map Prod.snd

/-- How many bytes stand before a stretch where it comes first. -/
def find? (stretch : Text) : Text → Option Nat
  | [] => if stretch = [] then some 0 else none
  | c :: s =>
    if stretch.isPrefixOf (c :: s) then some 0
    else (find? stretch s).map (c.utf8Size + ·)

/-- What stands before and behind a character where it comes first. -/
def splitOnce? (mark : Char) : Text → Option (Text × Text)
  | [] => none
  | c :: s =>
    if c = mark then some ([], s)
    else (splitOnce? mark s).map fun parts => (c :: parts.1, parts.2)

end Text
end FormScaffold
