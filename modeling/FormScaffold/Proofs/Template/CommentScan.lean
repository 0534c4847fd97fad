import FormScaffold.Proofs.Template.CommentSpan

/-!
# Comments by one scan

A scan from left to right tells for every character whether it is code or stands
in a comment.  It looks at no lines and takes no blanks along, so it differs
from the comment pattern in what white space it counts, and in nothing else: the
code it finds is what the pattern leaves.
-/

namespace FormScaffold.Comment

open Text

/-- Where a character stands. -/
inductive Region where
  | code
  | line
  | block
  deriving DecidableEq, Repr

/-- Every character with its region, when the scan comes to the text in a given
region.  A slash and a star open a block comment only if a star and a slash
follow. -/
def scan : Region → Text → List (Char × Region)
  | .code, '/' :: '/' :: s => ('/', .line) :: ('/', .line) :: scan .line s
  | .code, '/' :: '*' :: s =>
    if "*/".toList <:+: s then ('/', .block) :: ('*', .block) :: scan .block s
    else ('/', .code) :: ('*', .code) :: scan .code s
  | .code, c :: s => (c, .code) :: scan .code s
  | .line, c :: s =>
    if endsLine c then (c, .code) :: scan .code s
      else (c, .line) :: scan .line s
  | .block, '*' :: '/' :: s => ('*', .block) :: ('/', .block) :: scan .code s
  | .block, c :: s => (c, .block) :: scan .block s
  | _, [] => []

/-- The characters that the scan takes for code. -/
def codeOf (region : Region) (s : Text) : Text :=
  ((scan region s).filter fun p => p.2 = .code).map Prod.fst

/-- The text without spaces, tabs, carriage returns and line feeds. -/
def ink (s : Text) : Text := s.filter fun c => !(isBlank c || endsLine c)

theorem map_fst_scan (region : Region) (s : Text) :
    (scan region s).map Prod.fst = s := by
  fun_induction scan region s <;> simp_all

/-! ## The scan and the readers of the pattern -/

theorem codeOf_cons_of_ne_slash {c : Char} (hc : c ≠ '/') (s : Text) :
    codeOf .code (c :: s) = c :: codeOf .code s := by
  simp [codeOf, scan, hc]

theorem codeOf_slash_star (s : Text) :
    codeOf .code ('/' :: '*' :: s) =
      if "*/".toList <:+: s then codeOf .block s
      else '/' :: '*' :: codeOf .code s := by
  by_cases hclosed : "*/".toList <:+: s
  · rw [if_pos hclosed, codeOf, scan, if_pos hclosed]
    rfl
  · rw [if_neg hclosed, codeOf, scan, if_neg hclosed]
    rfl

theorem codeOf_cons_of_none {c : Char} {s : Text}
    (hblock : afterBlock? (c :: s) = none)
    (hline : afterLine? (c :: s) = none) :
    codeOf .code (c :: s) = c :: codeOf .code s := by
  by_cases hc : c = '/'
  · subst hc
    cases s with
    | nil => rfl
    | cons d s =>
        by_cases hslash : d = '/'
        · subst hslash
          simp [afterLine?, after?] at hline
        by_cases hstar : d = '*'
        · subst hstar
          have hopen : ¬ "*/".toList <:+: s := by
            rw [← afterClose?_eq_none_iff]
            simpa [afterBlock?, after?] using hblock
          rw [codeOf_slash_star, if_neg hopen,
            codeOf_cons_of_ne_slash (by decide)]
        · simp [codeOf, scan, hslash, hstar]
  · exact codeOf_cons_of_ne_slash hc s

theorem codeOf_line_cons (c : Char) (s : Text) :
    codeOf .line (c :: s) = if endsLine c then c :: codeOf .code s
      else codeOf .line s := by
  cases hc : endsLine c with
  | true => simp [codeOf, scan, hc]
  | false => simp [codeOf, scan, hc]

theorem codeOf_line (s : Text) :
    codeOf .line s = codeOf .code (s.dropWhile fun c => !endsLine c) := by
  induction s with
  | nil => rfl
  | cons c s ih =>
      by_cases hc : endsLine c = true
      · have hslash : c ≠ '/' := by
          rintro rfl
          simp [endsLine] at hc
        simp [codeOf_line_cons, hc, codeOf_cons_of_ne_slash hslash]
      · simp [codeOf_line_cons, hc, ih]

theorem codeOf_block_of_afterClose? {s rest : Text}
    (hclose : afterClose? s = some rest) :
    codeOf .block s = codeOf .code rest := by
  fun_induction afterClose? s with
  | case1 s =>
      obtain rfl := Option.some.inj hclose
      rfl
  | case2 c s hnot ih =>
      have hhead : codeOf .block (c :: s) = codeOf .block s := by
        simp [codeOf, scan]
      rw [hhead, ih hclose]
  | case3 => simp at hclose

theorem BeginsBefore.codeOf_eq {s rest : Text}
    (hbegins : BeginsBefore s rest) : codeOf .code s = codeOf .code rest := by
  rcases hbegins with hblock | hline
  · obtain ⟨inside, rfl, hclose⟩ := afterBlock?_eq_some_iff.mp hblock
    have hclosed : "*/".toList <:+: inside := by
      by_contra hopen
      rw [afterClose?_eq_none_iff.mpr hopen] at hclose
      simp at hclose
    rw [codeOf_slash_star, if_pos hclosed,
      codeOf_block_of_afterClose? hclose]
  · obtain ⟨said, rfl, rfl⟩ := afterLine?_eq_some_iff.mp hline
    have hhead : codeOf .code ('/' :: '/' :: said) = codeOf .line said := rfl
    rw [hhead, codeOf_line]

theorem ink_codeOf_append {voids : Text}
    (hvoids : ∀ c ∈ voids, isBlank c = true ∨ endsLine c = true) (s : Text) :
    ink (codeOf .code (voids ++ s)) = ink (codeOf .code s) := by
  induction voids with
  | nil => rfl
  | cons c voids ih =>
      rcases List.forall_mem_cons.mp hvoids with ⟨hc, hvoids⟩
      have hslash : c ≠ '/' := by
        rintro rfl
        simp [isBlank, endsLine] at hc
      have hvoid : (!(isBlank c || endsLine c)) = false := by
        simpa [or_iff_not_imp_left] using hc
      rw [List.cons_append, codeOf_cons_of_ne_slash hslash, ink,
        List.filter_cons_of_neg (by simp [hvoid])]
      exact ih hvoids

theorem ink_codeOf_skipBlanks (s : Text) :
    ink (codeOf .code (skipBlanks s)) = ink (codeOf .code s) := by
  obtain ⟨blanks, hblanks, hsplit⟩ := exists_blanks s
  have hink := ink_codeOf_append (fun c hc => Or.inl (hblanks c hc))
    (skipBlanks s)
  rw [← hsplit] at hink
  exact hink.symm

theorem ink_codeOf_of_pattern {lineStart : Bool} {s rest : Text}
    (hfound : pattern lineStart s = some rest) :
    ink (codeOf .code s) = ink (codeOf .code rest) := by
  rcases pattern_eq_some hfound with ⟨-, behind, hbegins, hend⟩ | hblock | hline
  · obtain ⟨ending, hending, hsplit⟩ := exists_lineEnd hend
    calc
      ink (codeOf .code s) = ink (codeOf .code (skipBlanks s)) :=
        (ink_codeOf_skipBlanks s).symm
      _ = ink (codeOf .code behind) := by rw [hbegins.codeOf_eq]
      _ = ink (codeOf .code rest) := by
        rw [hsplit, ink_codeOf_append hending]
  · rw [BeginsBefore.codeOf_eq (Or.inl hblock)]
  · rw [← ink_codeOf_skipBlanks, BeginsBefore.codeOf_eq (Or.inr hline)]

theorem ink_stripFrom (lineStart : Bool) (s : Text) :
    ink (stripFrom lineStart s) = ink (codeOf .code s) := by
  induction lineStart, s using pattern_findsSpans.walk with
  | nil lineStart =>
      rw [stripFrom_nil]
      rfl
  | kept lineStart c s hnone ih =>
      obtain ⟨hblock, hline⟩ := pattern_eq_none hnone
      rw [stripFrom_cons_of_none hnone, codeOf_cons_of_none hblock hline]
      simp only [ink, List.filter_cons] at ih ⊢
      rw [ih]
  | span lineStart span rest hne hsome ih =>
      rw [stripFrom_append_of_some hne hsome, ih,
        ink_codeOf_of_pattern hsome]

/-- What is left is the source with characters taken out, and it is, but for
blanks and line breaks, the code that one scan over the characters of the source
finds. -/
theorem strip_leaves_exactly_code (source : Text) :
    (strip source).Sublist source ∧
      (scan .code source).map Prod.fst = source ∧
      ink (strip source) = ink (codeOf .code source) := by
  rw [strip_eq_stripFrom]
  refine ⟨?_, map_fst_scan .code source, ink_stripFrom true source⟩
  exact pattern_findsSpans.delete_sublist true source

end FormScaffold.Comment
