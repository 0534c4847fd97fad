import FormScaffold.Text.Letters

/-!
# Comments and trailing commas around JSON

A relaxed JSON text may hold comments and a comma after a last item.  Two
walks take these away and leave strict JSON: the first takes comments, the
second the commas with nothing but white space before a closing bracket.  Both
copy string literals as they are.  Here a walk is told by what is left of a
text; `Json.Scan` makes it by positions.
-/

namespace FormScaffold.Json.Relaxed

/-- Where a walk stands with respect to string literals. -/
inductive Place where
  | outside
  | inString
  | escaped
  deriving DecidableEq, Repr

/-- Where a walk stands after a character that it copies. -/
def Place.next : Place → Char → Place
  | .outside, c => if c = '"' then .inString else .outside
  | .inString, c =>
      if c = '\\' then .escaped else if c = '"' then .outside else .inString
  | .escaped, _ => .inString

/-- Copies a text.  Outside of string literals, `skip?` may take a stretch off
the text: it says what to write for it and what follows it. -/
def copy (skip? : Text → Option (Text × Text)) : Place → Text → Text
  | _, [] => []
  | place, c :: s =>
    match (if place = .outside then skip? (c :: s) else none) with
    | some (written, rest) =>
      if _shorter : rest.length < (c :: s).length
        then written ++ copy skip? .outside rest
      else c :: copy skip? (place.next c) s
    | none => c :: copy skip? (place.next c) s
termination_by _ s => s.length
decreasing_by
  · exact _shorter
  · exact Nat.lt_succ_self _
  · exact Nat.lt_succ_self _

section

variable {skip? : Text → Option (Text × Text)} {place : Place} {c : Char}
  {s written rest : Text}

theorem copy_nil (place : Place) : copy skip? place [] = [] := by
  rw [copy]

theorem copy_cons (h : place = .outside → skip? (c :: s) = none) :
    copy skip? place (c :: s) = c :: copy skip? (place.next c) s := by
  rw [copy]
  by_cases hplace : place = .outside
  · rw [if_pos hplace, h hplace]
  · rw [if_neg hplace]

theorem copy_of_some (h : skip? (c :: s) = some (written, rest))
    (hshorter : rest.length < (c :: s).length) :
    copy skip? .outside (c :: s) = written ++ copy skip? .outside rest := by
  rw [copy]
  simp only [if_true, h]
  rw [dif_pos hshorter]

end

/-- What follows the first star and slash, or nothing. -/
def afterClose : Text → Text
  | '*' :: '/' :: s => s
  | _ :: s => afterClose s
  | [] => []

/-- The first star and slash are found behind a stretch without them. -/
theorem afterClose_append {content : Text} (h : ¬ "*/".toList <:+: content)
    (s : Text) :
    afterClose (content ++ '*' :: '/' :: s) = s := by
  fun_induction afterClose content with
  | case1 s' => exact absurd ⟨[], s', rfl⟩ h
  | case2 c s' hopen ih =>
      have hrest :=
        ih fun hoccurs => h (hoccurs.trans (List.suffix_cons c s').isInfix)
      cases s' with
      | nil =>
          rw [List.cons_append, List.nil_append, afterClose]
          · exact hrest
          · intro s'' _ heq
            cases heq
      | cons d s' =>
          rw [List.cons_append, List.cons_append, afterClose]
          · exact hrest
          · rintro s'' rfl heq
            cases heq
            exact hopen s' rfl rfl
  | case3 => rfl

/-- A comment: one from two slashes leaves its line feed behind, one between
slash and star leaves a space, and one that is not closed takes all the rest. -/
def comment? : Text → Option (Text × Text)
  | '/' :: '/' :: s => some ([], s.dropWhile (fun c => c != '\n'))
  | '/' :: '*' :: s => some ([' '], afterClose s)
  | _ => none

theorem comment?_eq_none {c : Char} (hc : c ≠ '/') (s : Text) :
    comment? (c :: s) = none := by
  unfold comment?
  split
  next heq => cases heq; exact absurd rfl hc
  next heq => cases heq; exact absurd rfl hc
  next => rfl

/-- A comma with only white space between it and a closing bracket. -/
def trailingComma? : Text → Option (Text × Text)
  | ',' :: s =>
    match Text.trimStart s with
    | c :: _ => if c = '\x7d' ∨ c = ']' then some ([], s) else none
    | [] => none
  | _ => none

theorem trailingComma?_eq_none {c : Char} (hc : c ≠ ',') (s : Text) :
    trailingComma? (c :: s) = none := by
  unfold trailingComma?
  split
  next heq => cases heq; exact absurd rfl hc
  next => rfl

def toStrict (s : Text) : Text :=
  copy trailingComma? .outside (copy comment? .outside s)

end FormScaffold.Json.Relaxed
