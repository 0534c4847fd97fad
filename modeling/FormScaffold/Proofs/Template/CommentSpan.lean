import FormScaffold.Template.Comment
import FormScaffold.Proofs.Text.LineEnd
import FormScaffold.Proofs.Text.PatternWalk

/-!
# What the comment pattern finds

Each reader of the comment pattern is turned over once: what it took, and what
it leaves.  A span of the pattern is a comment that has a line to itself, a
block comment, or a line comment with the blanks before it, and where the
pattern finds nothing no comment begins.
-/

namespace FormScaffold.Comment

open Text

/-- The readers behind each other: a comment begins the text, and `rest`
follows it. -/
def BeginsBefore (s rest : Text) : Prop :=
  afterBlock? s = some rest ∨ afterLine? s = some rest

/-! ## Line ends -/

theorem exists_lineEnd {s rest : Text} (hend : afterLineEnd? s = some rest) :
    ∃ ending, (∀ c ∈ ending, isBlank c = true ∨ endsLine c = true) ∧
      s = ending ++ rest := by
  rcases exists_of_afterLineEnd? hend with ⟨read, hread, -, hs⟩
  refine ⟨read, fun c hc => ?_, hs⟩
  rcases hread.isBlank_or_mem hc with hblank | ⟨ending, hending, hc⟩
  · exact Or.inl hblank
  · rcases eq_of_mem_ending hending hc with rfl | rfl <;> exact Or.inr rfl

/-! ## Block comments -/

theorem exists_of_afterClose? {s rest : Text}
    (hclose : afterClose? s = some rest) :
    ∃ inside, s = inside ++ "*/".toList ++ rest := by
  fun_induction afterClose? s with
  | case1 s =>
      obtain rfl := Option.some.inj hclose
      exact ⟨[], rfl⟩
  | case2 c s _ ih =>
      obtain ⟨inside, hsplit⟩ := ih hclose
      exact ⟨c :: inside, by simp [hsplit]⟩
  | case3 => simp at hclose

theorem afterClose?_eq_none_iff {s : Text} :
    afterClose? s = none ↔ ¬ "*/".toList <:+: s := by
  constructor
  · intro hnone hclosed
    fun_induction afterClose? s with
    | case1 => simp at hnone
    | case2 c s hnot ih =>
        rcases List.infix_cons_iff.mp hclosed with hprefix | hinfix
        · obtain ⟨behind, hsplit⟩ := hprefix
          exact hnot behind (List.cons_eq_cons.mp hsplit.symm).1
            (List.cons_eq_cons.mp hsplit.symm).2
        · exact ih hnone hinfix
    | case3 => simp at hclosed
  · intro hopen
    by_contra hsome
    rcases Option.ne_none_iff_exists'.mp hsome with ⟨rest, hclose⟩
    obtain ⟨inside, rfl⟩ := exists_of_afterClose? hclose
    exact hopen ⟨inside, rest, rfl⟩

theorem afterBlock?_eq_some_iff {s rest : Text} :
    afterBlock? s = some rest ↔
      ∃ inside, s = '/' :: '*' :: inside ∧ afterClose? inside = some rest := by
  constructor
  · intro hblock
    rcases Option.bind_eq_some_iff.mp hblock with ⟨inside, hlead, hclose⟩
    exact ⟨inside, eq_append_of_after? hlead, hclose⟩
  · rintro ⟨inside, rfl, hclose⟩
    simpa [afterBlock?, after?] using hclose

/-! ## Line comments -/

theorem afterLine?_eq_some_iff {s rest : Text} :
    afterLine? s = some rest ↔
      ∃ said, s = '/' :: '/' :: said ∧
        rest = said.dropWhile fun c => !endsLine c := by
  constructor
  · intro hline
    rcases Option.map_eq_some_iff.mp hline with ⟨said, hlead, hrest⟩
    exact ⟨said, eq_append_of_after? hlead, hrest.symm⟩
  · rintro ⟨said, rfl, rfl⟩
    simp [afterLine?, after?]

theorem eq_nil_or_endsLine_of_afterLine? {s rest : Text}
    (hline : afterLine? s = some rest) :
    rest = [] ∨ ∃ c tail, rest = c :: tail ∧ endsLine c = true := by
  rcases afterLine?_eq_some_iff.mp hline with ⟨said, -, rfl⟩
  cases hrest : said.dropWhile fun c => !endsLine c with
  | nil => exact Or.inl rfl
  | cons c tail =>
      right
      have hstop := List.head_dropWhile_not (fun c => !endsLine c)
        (l := said) (by simp [hrest])
      refine ⟨c, tail, rfl, ?_⟩
      simpa [hrest] using hstop

/-! ## The pattern -/

/-- No blank stands before a comment that begins the text. -/
theorem BeginsBefore.skipBlanks_eq {s rest : Text}
    (hbegins : BeginsBefore s rest) : skipBlanks s = s := by
  rcases hbegins with hblock | hline
  · rcases afterBlock?_eq_some_iff.mp hblock with ⟨inside, rfl, -⟩
    exact skipBlanks_cons_of_not_isBlank rfl _
  · rcases afterLine?_eq_some_iff.mp hline with ⟨said, rfl, -⟩
    exact skipBlanks_cons_of_not_isBlank rfl _

/-- A comment begins with a slash, and what ends a line is no part of it. -/
theorem BeginsBefore.exists_comment {s rest : Text}
    (hbegins : BeginsBefore s rest) :
    ∃ comment, comment.head? = some '/' ∧
      (∀ c ∈ comment.getLast?, endsLine c = false) ∧ s = comment ++ rest := by
  rcases hbegins with hblock | hline
  · obtain ⟨inside, rfl, hclose⟩ := afterBlock?_eq_some_iff.mp hblock
    obtain ⟨said, rfl⟩ := exists_of_afterClose? hclose
    refine ⟨'/' :: '*' :: (said ++ "*/".toList), rfl, ?_, by simp⟩
    intro c hlast
    rw [← List.cons_append, ← List.cons_append, List.getLast?_append] at hlast
    obtain rfl := Option.some.inj hlast
    rfl
  · obtain ⟨said, rfl, rfl⟩ := afterLine?_eq_some_iff.mp hline
    refine ⟨"//".toList ++ said.takeWhile fun c => !endsLine c, rfl, ?_, ?_⟩
    · intro c hlast
      rcases List.mem_append.mp (List.mem_of_getLast? hlast) with hslash | hsaid
      · obtain rfl : c = '/' := by simpa using hslash
        rfl
      · simpa using List.mem_takeWhile_imp hsaid
    · rw [List.append_assoc, List.takeWhile_append_dropWhile]
      rfl

theorem BeginsBefore.exists_span {s rest : Text}
    (hbegins : BeginsBefore s rest) : ∃ span, span ≠ [] ∧ s = span ++ rest := by
  obtain ⟨comment, hhead, -, hs⟩ := hbegins.exists_comment
  refine ⟨comment, ?_, hs⟩
  rintro rfl
  cases hhead

theorem pattern_eq_some {lineStart : Bool} {s rest : Text}
    (hfound : pattern lineStart s = some rest) :
    (lineStart = true ∧ ∃ behind, BeginsBefore (skipBlanks s) behind ∧
        afterLineEnd? behind = some rest) ∨
      afterBlock? s = some rest ∨ afterLine? (skipBlanks s) = some rest := by
  simp only [pattern, afterOwnLine?, Option.orElse_eq_orElse,
    Option.orElse_eq_or, Option.or_eq_some_iff] at hfound
  rcases hfound with hown | ⟨-, hblock | ⟨-, hline⟩⟩
  · left
    cases lineStart with
    | false => simp at hown
    | true =>
        rcases Option.bind_eq_some_iff.mp hown with ⟨behind, hbegins, hend⟩
        refine ⟨rfl, behind, ?_, hend⟩
        rcases Option.or_eq_some_iff.mp hbegins with hblock | ⟨-, hline⟩
        · exact Or.inl hblock
        · exact Or.inr hline
  · exact Or.inr (Or.inl hblock)
  · exact Or.inr (Or.inr hline)

theorem pattern_eq_none {lineStart : Bool} {s : Text}
    (hnone : pattern lineStart s = none) :
    afterBlock? s = none ∧ afterLine? s = none := by
  simp only [pattern, Option.orElse_eq_orElse, Option.orElse_eq_or,
    Option.or_eq_none_iff] at hnone
  obtain ⟨-, hblock, hline⟩ := hnone
  refine ⟨hblock, ?_⟩
  by_contra hsome
  rcases Option.ne_none_iff_exists'.mp hsome with ⟨rest, hrest⟩
  rw [BeginsBefore.skipBlanks_eq (Or.inr hrest), hrest] at hline
  simp at hline

/-- Where no comment begins behind the blanks, nothing is found. -/
theorem pattern_eq_none_of_not_begins {s : Text}
    (hnot : ∀ rest, ¬ BeginsBefore (skipBlanks s) rest) (lineStart : Bool) :
    pattern lineStart s = none := by
  by_contra hsome
  rcases Option.ne_none_iff_exists'.mp hsome with ⟨rest, hfound⟩
  rcases pattern_eq_some hfound with ⟨-, behind, hbegins, -⟩ | hblock | hline
  · exact hnot behind hbegins
  · have hskip := BeginsBefore.skipBlanks_eq (Or.inl hblock)
    exact hnot rest (hskip.symm ▸ Or.inl hblock)
  · exact hnot rest (Or.inr hline)

theorem pattern_findsSpans : Pattern.FindsSpans pattern := by
  intro lineStart s rest hfound
  obtain ⟨blanks, -, hblanks⟩ := exists_blanks s
  rcases pattern_eq_some hfound with ⟨-, behind, hbegins, hend⟩ | hblock | hline
  · obtain ⟨span, hne, hspan⟩ := hbegins.exists_span
    obtain ⟨ending, -, hending⟩ := exists_lineEnd hend
    refine ⟨blanks ++ span ++ ending, by simp [hne], ?_⟩
    rw [hblanks, hspan, hending]
    simp
  · exact BeginsBefore.exists_span (Or.inl hblock)
  · obtain ⟨span, hne, hspan⟩ := BeginsBefore.exists_span (Or.inr hline)
    refine ⟨blanks ++ span, by simp [hne], ?_⟩
    rw [hblanks, hspan]
    simp

theorem pattern_endsLine {c : Char} (hc : endsLine c = true)
    (lineStart : Bool) (s : Text) : pattern lineStart (c :: s) = none := by
  have hcases : c = '\r' ∨ c = '\n' := by
    simpa [endsLine] using hc
  cases lineStart <;> rcases hcases with rfl | rfl <;> rfl

/-! ## What is left -/

/-- The text without its comments, from a place on at which a line begins or
not. -/
def stripFrom (lineStart : Bool) (s : Text) : Text :=
  Pattern.replaceFrom pattern (fun _ => []) lineStart s

theorem strip_eq_stripFrom (source : Text) :
    strip source = stripFrom true source :=
  Pattern.replaceAll_eq_replaceFrom ..

@[simp] theorem stripFrom_nil (lineStart : Bool) :
    stripFrom lineStart [] = [] :=
  Pattern.replaceFrom_nil ..

theorem stripFrom_cons_of_none {lineStart : Bool} {c : Char} {s : Text}
    (hnone : pattern lineStart (c :: s) = none) :
    stripFrom lineStart (c :: s) = c :: stripFrom (c == '\n') s :=
  Pattern.replaceFrom_cons_of_none hnone _

theorem stripFrom_append_of_some {lineStart : Bool} {span rest : Text}
    (hne : span ≠ []) (hsome : pattern lineStart (span ++ rest) = some rest) :
    stripFrom lineStart (span ++ rest) =
      stripFrom (span.getLast? == some '\n') rest :=
  Pattern.replaceFrom_append_of_some hne hsome _

end FormScaffold.Comment
