import FormScaffold.Proofs.Json.Scanning

/-!
# String literals of relaxed JSON

A reader that goes through a text character by character tells its string
literals, each from its opening quote to the quote that closes it or to the end
of the text.  It may know comments, in which quotes mean nothing.  What is left
of a text without its comments and trailing commas has the literals that stand
outside of comments in the text, and since no comment is left in it, a reader
that knows none finds the same.
-/

namespace FormScaffold.Json.Relaxed

/-- What a reader of a text is in. -/
inductive Region where
  | code
  /-- Behind a slash, which another or a star makes a comment. -/
  | slash
  /-- In a string literal, of which this much is read. -/
  | literal (read : Text)
  /-- Behind a backslash in a string literal. -/
  | escaped (read : Text)
  | line
  | block
  /-- Behind a star in a block comment. -/
  | star
  deriving DecidableEq, Repr

namespace Region

/-- What a character of the code leads into. -/
def begun (comments : Bool) (c : Char) : Region :=
  if c = '"' then literal ['"'] else if comments ∧ c = '/' then slash else code

/-- What the reader is in behind a character; `comments` says whether it knows
comments. -/
def next (comments : Bool) : Region → Char → Region
  | code, c => begun comments c
  | slash, c =>
      if c = '/' then line else if c = '*' then block else begun comments c
  | literal read, c =>
    if c = '\\' then escaped (read ++ [c])
    else if c = '"' then code
    else literal (read ++ [c])
  | escaped read, c => literal (read ++ [c])
  | line, c => if c = '\n' then code else line
  | block, c => if c = '*' then star else block
  | star, c => if c = '/' then code else if c = '*' then star else block

/-- The literal that a character closes. -/
def closed : Region → Char → List Text
  | literal read, c => if c = '"' then [read ++ [c]] else []
  | _, _ => []

/-- The literal that the end of the text cuts off. -/
def unclosed : Region → List Text
  | literal read => [read]
  | escaped read => [read]
  | _ => []

end Region

/-- The string literals that a reader completes in a text. -/
def literalsFrom (comments : Bool) : Region → Text → List Text
  | region, [] => region.unclosed
  | region, c :: s =>
      region.closed c ++ literalsFrom comments (region.next comments c) s

/-- The string literals of a text that stand outside of its comments. -/
def literals (s : Text) : List Text := literalsFrom true .code s

/-- The string literals of a text that holds no comments. -/
def strictLiterals (s : Text) : List Text := literalsFrom false .code s

variable {place : Place} {c : Char} {s rest written read : Text}

/-! ## Reading over a comment -/

theorem comment?_slash_eq_none_iff :
    comment? ('/' :: s) = none ↔ ∀ d ∈ s.head?, d ≠ '/' ∧ d ≠ '*' := by
  cases s with
  | nil => simp [comment?]
  | cons d s =>
      by_cases hslash : d = '/'
      · simp [comment?, hslash]
      · by_cases hstar : d = '*'
        · simp [comment?, hstar]
        · simp [comment?, hslash, hstar]

/-- Behind a slash that begins no comment the reader is in code. -/
theorem literalsFrom_slash (h : comment? ('/' :: s) = none) :
    literalsFrom true .slash s = literalsFrom true .code s := by
  cases s with
  | nil => rfl
  | cons d s =>
      obtain ⟨hslash, hstar⟩ := comment?_slash_eq_none_iff.mp h d rfl
      simp [literalsFrom, Region.closed, Region.next, hslash, hstar]

theorem literalsFrom_line (s : Text) :
    literalsFrom true .line s =
      literalsFrom true .code (s.dropWhile (fun c => c != '\n')) := by
  induction s with
  | nil => rfl
  | cons c s ih =>
      by_cases hc : c = '\n'
      · subst hc
        rfl
      · rw [List.dropWhile_cons_of_pos (by simpa using hc), ← ih]
        simp [literalsFrom, Region.closed, Region.next, hc]

/-- A star that no slash follows is one of the comment's characters. -/
theorem literalsFrom_star (h : ∀ d ∈ s.head?, d ≠ '/') :
    literalsFrom true .star s = literalsFrom true .block s := by
  cases s with
  | nil => rfl
  | cons d s => simp [literalsFrom, Region.closed, Region.next, h d rfl]

theorem literalsFrom_block (s : Text) :
    literalsFrom true .block s = literalsFrom true .code (afterClose s) := by
  fun_induction afterClose s with
  | case1 s => rfl
  | case2 c s hopen ih =>
      rw [← ih]
      by_cases hc : c = '*'
      · subst hc
        apply literalsFrom_star
        intro d hd
        rintro rfl
        obtain ⟨s', rfl⟩ := List.head?_eq_some_iff.mp hd
        exact hopen s' rfl rfl
      · simp [literalsFrom, Region.closed, Region.next, hc]
  | case3 => rfl

theorem written_of_comment? (h : comment? s = some (written, rest)) :
    written = [] ∨ written = [' '] := by
  unfold comment? at h
  split at h <;> cases h
  · exact Or.inl rfl
  · exact Or.inr rfl

theorem literalsFrom_comment (h : comment? s = some (written, rest)) :
    literalsFrom true .code s = literalsFrom true .code rest := by
  unfold comment? at h
  split at h
  next s =>
    cases h
    exact literalsFrom_line s
  next s =>
    cases h
    exact literalsFrom_block s
  next => cases h

/-! ## Readers and walks -/

/-- What a reader is in where a walk stands. -/
def Place.region (read : Text) : Place → Region
  | outside => .code
  | inString => .literal read
  | escaped => .escaped read

theorem exists_region_next (place : Place) (read : Text) (c : Char) :
    ∃ read', (place.region read).next false c =
      (place.next c).region read' := by
  cases place with
  | outside =>
      by_cases hquote : c = '"'
      · exact ⟨['"'], by simp [Place.region, Place.next, Region.next,
          Region.begun, hquote]⟩
      · exact ⟨[], by simp [Place.region, Place.next, Region.next, Region.begun,
          hquote]⟩
  | inString =>
      by_cases hescape : c = '\\'
      · exact ⟨read ++ [c], by simp [Place.region, Place.next, Region.next,
          hescape]⟩
      · by_cases hquote : c = '"'
        · exact ⟨[], by simp [Place.region, Place.next, Region.next, hquote]⟩
        · exact ⟨read ++ [c],
            by simp [Place.region, Place.next, Region.next, hescape, hquote]⟩
  | escaped => exact ⟨read ++ [c], rfl⟩

/-- Where no comment begins, it makes no difference whether the reader knows
comments. -/
theorem literalsFrom_next
    (hkept : place = .outside → comment? (c :: s) = none) :
    literalsFrom true ((place.region read).next true c) s =
      literalsFrom true ((place.region read).next false c) s := by
  cases place with
  | outside =>
      by_cases hc : c = '/'
      · subst hc
        exact literalsFrom_slash (hkept rfl)
      · simp [Place.region, Region.next, Region.begun, hc]
  | inString => rfl
  | escaped => rfl

/-- The first walk leaves the literals outside of comments, and nothing that a
reader takes for one.  A comment leaves nothing or a blank, and neither opens a
literal. -/
theorem literalsFrom_copy_comment (place : Place) (s read : Text) :
    literalsFrom false (place.region read) (copy comment? place s) =
      literalsFrom true (place.region read) s := by
  induction place,
    s using measures_comment.walk_induction generalizing read with
  | nil place =>
      rw [copy_nil]
      cases place <;> rfl
  | kept place c s hkept ih =>
      obtain ⟨read', hnext⟩ := exists_region_next place read c
      have hclosed : literalsFrom true ((place.region read).next true c) s =
          literalsFrom true ((place.next c).region read') s := by
        rw [literalsFrom_next hkept, hnext]
      rw [copy_cons hkept, literalsFrom, literalsFrom, hclosed, hnext, ih]
  | taken c s written rest hcomment hshorter ih =>
      have hwritten : literalsFrom false .code
          (written ++ copy comment? .outside rest) =
          literalsFrom false .code (copy comment? .outside rest) := by
        rcases written_of_comment? hcomment with rfl | rfl <;> rfl
      rw [copy_of_some hcomment hshorter]
      exact hwritten.trans ((ih read).trans
        (literalsFrom_comment hcomment).symm)

/-- The second walk leaves all literals. -/
theorem literalsFrom_copy_trailingComma (place : Place) (s read : Text) :
    literalsFrom false (place.region read) (copy trailingComma? place s) =
      literalsFrom false (place.region read) s := by
  induction place,
    s using measures_trailingComma.walk_induction generalizing read with
  | nil place => rw [copy_nil]
  | kept place c s hkept ih =>
      obtain ⟨read', hnext⟩ := exists_region_next place read c
      rw [copy_cons hkept, literalsFrom, literalsFrom, hnext, ih]
  | taken c s written rest hcomma hshorter ih =>
      obtain ⟨hs, rfl⟩ := eq_of_trailingComma? hcomma
      rw [copy_of_some hcomma hshorter, hs]
      exact ih read

/-! ## Texts without comments -/

/-- No comment begins in the text outside of string literals. -/
def IsUncommented : Place → Text → Prop
  | _, [] => True
  | place, c :: s => (place = .outside → comment? (c :: s) = none) ∧
      IsUncommented (place.next c) s

theorem IsUncommented.literalsFrom_eq (h : IsUncommented place s)
    (read : Text) :
    literalsFrom true (place.region read) s =
      literalsFrom false (place.region read) s := by
  induction s generalizing place read with
  | nil => rfl
  | cons c s ih =>
      obtain ⟨read', hnext⟩ := exists_region_next place read c
      rw [literalsFrom, literalsFrom, literalsFrom_next h.1, hnext, ih h.2]

theorem isUncommented_cons {skip? : Text → Option (Text × Text)}
    (hhead : place = .outside → comment? (c :: copy skip? .outside s) = none)
    (htail : IsUncommented (place.next c) (copy skip? (place.next c) s)) :
    IsUncommented place (c :: copy skip? (place.next c) s) := by
  refine ⟨?_, htail⟩
  rintro rfl
  by_cases hc : c = '"'
  · exact comment?_eq_none (by rw [hc]; decide) _
  · have hplace : Place.outside.next c = .outside := by simp [Place.next, hc]
    rw [hplace]
    exact hhead rfl

theorem comment?_of_head? {t : Text} (h : comment? (c :: s) = none)
    (hhead : ∀ d ∈ t.head?, d ∈ s.head? ∨ d ≠ '/' ∧ d ≠ '*') :
    comment? (c :: t) = none := by
  by_cases hc : c = '/'
  · subst hc
    rw [comment?_slash_eq_none_iff] at h ⊢
    intro d hd
    rcases hhead d hd with hold | hnew
    · exact h d hold
    · exact hnew
  · exact comment?_eq_none hc t

/-- Nothing that is left in front of a comment becomes the beginning of one. -/
theorem comment?_copy_comment (h : comment? (c :: s) = none) :
    comment? (c :: copy comment? .outside s) = none := by
  by_cases hc : c = '/'
  · subst hc
    apply comment?_of_head? h
    intro d hd
    left
    cases s with
    | nil =>
        rw [copy_nil] at hd
        cases hd
    | cons e s =>
        have he := comment?_slash_eq_none_iff.mp h e rfl
        rw [copy_cons fun _ => comment?_eq_none he.1 s] at hd
        exact hd
  · exact comment?_eq_none hc _

theorem isUncommented_copy_comment (place : Place) (s : Text) :
    IsUncommented place (copy comment? place s) := by
  induction place, s using measures_comment.walk_induction with
  | nil place =>
      rw [copy_nil]
      trivial
  | kept place c s hkept ih =>
      rw [copy_cons hkept]
      exact isUncommented_cons
        (fun hplace => comment?_copy_comment (hkept hplace)) ih
  | taken c s written rest hcomment hshorter ih =>
      rw [copy_of_some hcomment hshorter]
      rcases written_of_comment? hcomment with rfl | rfl
      · exact ih
      · exact ⟨fun _ => rfl, ih⟩

/-- Behind a trailing comma there is white space or the closing bracket. -/
theorem exists_head_of_trailingComma?
    (h : trailingComma? (',' :: s) = some (written, rest)) :
    ∃ d t, s = d :: t ∧ d ≠ ',' ∧ d ≠ '/' ∧ d ≠ '*' := by
  cases s with
  | nil => cases h
  | cons d t =>
      refine ⟨d, t, rfl, ?_⟩
      by_cases hspace : Text.isWhiteSpace d = true
      · refine ⟨?_, ?_, ?_⟩ <;>
          · rintro rfl
            cases hspace
      · have htrim : Text.trimStart (d :: t) = d :: t :=
          List.dropWhile_cons_of_neg hspace
        have hcloser : d = '\x7d' ∨ d = ']' := by
          by_contra hother
          simp only [trailingComma?, htrim, if_neg hother] at h
          cases h
        rcases hcloser with rfl | rfl <;> decide

/-- Nothing that is left in front of a trailing comma becomes the beginning of a
comment. -/
theorem comment?_copy_trailingComma (h : comment? (c :: s) = none) :
    comment? (c :: copy trailingComma? .outside s) = none := by
  apply comment?_of_head? h
  intro d hd
  cases s with
  | nil =>
      rw [copy_nil] at hd
      cases hd
  | cons e s =>
      cases hcomma : trailingComma? (e :: s) with
      | none =>
          rw [copy_cons fun _ => hcomma] at hd
          exact Or.inl hd
      | some taken =>
          obtain ⟨written, rest⟩ := taken
          obtain ⟨heq, rfl⟩ := eq_of_trailingComma? hcomma
          cases heq
          obtain ⟨f, t, rfl, hf, hhead⟩ := exists_head_of_trailingComma? hcomma
          rw [copy_of_some hcomma (Nat.lt_succ_self _),
            copy_cons fun _ => trailingComma?_eq_none hf t] at hd
          cases hd
          exact Or.inr hhead

theorem IsUncommented.copy_trailingComma (h : IsUncommented place s) :
    IsUncommented place (copy trailingComma? place s) := by
  induction place, s using measures_trailingComma.walk_induction with
  | nil place =>
      rw [copy_nil]
      trivial
  | kept place c s hkept ih =>
      rw [copy_cons hkept]
      exact isUncommented_cons
        (fun hplace => comment?_copy_trailingComma (h.1 hplace)) (ih h.2)
  | taken c s written rest hcomma hshorter ih =>
      obtain ⟨hs, rfl⟩ := eq_of_trailingComma? hcomma
      rw [copy_of_some hcomma hshorter]
      rw [hs] at h
      exact ih h.2

/-! ## Strict forms -/

theorem strictLiterals_toStrict (s : Text) :
    strictLiterals (toStrict s) = literals s := by
  have hcommas := literalsFrom_copy_trailingComma .outside
    (copy comment? .outside s) []
  exact hcommas.trans (literalsFrom_copy_comment .outside s [])

theorem literals_toStrict (s : Text) : literals (toStrict s) = literals s := by
  have huncommented :=
    (isUncommented_copy_comment .outside s).copy_trailingComma
  exact (huncommented.literalsFrom_eq []).trans (strictLiterals_toStrict s)

/-- Both scans come to the end of every text.  They stand between two characters
all the time, where the text can be cut, and every step leads further.  What
they write has the string literals that stand outside of comments in the text,
and no others, whether or not one looks for comments in it. -/
theorem toStrict?_keeps_literals (s : Text) :
    ∃ uncommented strict,
      scan? commentSpan? s = some uncommented ∧
      scan? trailingCommaSpan? uncommented = some strict ∧
      toStrict? s = some strict ∧
      IsSafe commentSpan? s ∧ IsSafe trailingCommaSpan? uncommented ∧
      literals strict = literals s ∧ strictLiterals strict = literals s :=
  ⟨copy comment? .outside s, toStrict s, measures_comment.scan?_eq_copy s,
    measures_trailingComma.scan?_eq_copy _, toStrict?_eq_some s,
    measures_comment.isSafe s, measures_trailingComma.isSafe _,
    literals_toStrict s, strictLiterals_toStrict s⟩

/-- A backslash ends the text within a literal. -/
example : toStrict? "é/*\"ü*/[\"//é,]\",\t] \"x\\".toList =
      some "é [\"//é,]\"\t] \"x\\".toList ∧
    literals "é/*\"ü*/[\"//é,]\",\t] \"x\\".toList =
      ["\"//é,]\"".toList, "\"x\\".toList] := by
  decide +kernel

end FormScaffold.Json.Relaxed
