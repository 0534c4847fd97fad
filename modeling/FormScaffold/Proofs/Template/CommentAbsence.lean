import FormScaffold.Template.Section
import FormScaffold.Proofs.Template.CommentSpan

/-!
# No comment is left

Deleting a span brings the text before it next to the text behind it, and no
comment is born there.  In front of a line comment that is not on a line of its
own the next character left is the end of the line, and a block comment does not
follow a slash.  A slash and a star that stay have no star and slash behind
them, and the walk makes none.
-/

namespace FormScaffold.Comment

open Text

/-- Two slashes stand in the text, or a slash and a star with a star and a slash
behind them. -/
def Occurs (s : Text) : Prop :=
  "//".toList <:+: s ∨
    ∃ inside, "/*".toList ++ inside <:+ s ∧ "*/".toList <:+: inside

/-- No comment begins at any place of the text. -/
inductive Plain : Text → Prop where
  | nil : Plain []
  | cons {c : Char} {s : Text} (hblock : afterBlock? (c :: s) = none)
      (hline : afterLine? (c :: s) = none) (hrest : Plain s) : Plain (c :: s)

theorem afterLine?_eq_none_iff {s : Text} :
    afterLine? s = none ↔ ¬ "//".toList <+: s := by
  rw [Option.eq_none_iff_forall_ne_some]
  constructor
  · rintro hnone ⟨said, rfl⟩
    exact hnone _ (afterLine?_eq_some_iff.mpr ⟨said, rfl, rfl⟩)
  · intro hnot rest hline
    rcases afterLine?_eq_some_iff.mp hline with ⟨said, rfl, -⟩
    exact hnot ⟨said, rfl⟩

theorem afterBlock?_eq_none_iff {s : Text} :
    afterBlock? s = none ↔
      ∀ inside, s = "/*".toList ++ inside → ¬ "*/".toList <:+: inside := by
  constructor
  · rintro hnone inside rfl
    rw [← afterClose?_eq_none_iff]
    simpa [afterBlock?, after?] using hnone
  · intro hopen
    rw [Option.eq_none_iff_forall_ne_some]
    intro rest hblock
    rcases afterBlock?_eq_some_iff.mp hblock with ⟨inside, rfl, hclose⟩
    rw [afterClose?_eq_none_iff.mpr (hopen inside rfl)] at hclose
    simp at hclose

theorem not_occurs_cons_iff {c : Char} {s : Text} :
    ¬ Occurs (c :: s) ↔ afterBlock? (c :: s) = none ∧
      afterLine? (c :: s) = none ∧ ¬ Occurs s := by
  rw [afterBlock?_eq_none_iff, afterLine?_eq_none_iff]
  simp only [Occurs, List.infix_cons_iff, List.suffix_cons_iff]
  grind

theorem plain_iff_not_occurs {s : Text} : Plain s ↔ ¬ Occurs s := by
  induction s with
  | nil => simp [Occurs, Plain.nil]
  | cons c s ih =>
      rw [not_occurs_cons_iff, ← ih]
      constructor
      · intro hplain
        cases hplain with
        | cons hblock hline hrest => exact ⟨hblock, hline, hrest⟩
      · rintro ⟨hblock, hline, hrest⟩
        exact .cons hblock hline hrest

/-! ## Borders of deleted spans -/

/-- Within a line, what is left begins with the next character, unless that is
the end of a line or a block comment begins here. -/
theorem exists_cons_of_stripFrom_cons {s left : Text} {c : Char}
    (hleft : stripFrom false s = c :: left) (hc : endsLine c = false)
    (hblock : afterBlock? s = none) :
    ∃ rest, s = c :: rest ∧ left = stripFrom (c == '\n') rest := by
  cases s with
  | nil => simp at hleft
  | cons d s =>
      cases hfound : pattern false (d :: s) with
      | none =>
          rw [stripFrom_cons_of_none hfound] at hleft
          rcases List.cons_eq_cons.mp hleft with ⟨rfl, rfl⟩
          exact ⟨s, rfl, rfl⟩
      | some rest =>
          obtain ⟨span, hne, hsplit⟩ := pattern_findsSpans hfound
          have hline : afterLine? (skipBlanks (d :: s)) = some rest := by
            rcases pattern_eq_some hfound with ⟨hstart, -⟩ | hsome | hline
            · simp at hstart
            · simp [hsome] at hblock
            · exact hline
          rw [hsplit] at hfound hleft
          rw [stripFrom_append_of_some hne hfound] at hleft
          rcases eq_nil_or_endsLine_of_afterLine? hline with
            rfl | ⟨e, tail, rfl, he⟩
          · simp at hleft
          · rw [stripFrom_cons_of_none (pattern_endsLine he _ tail)] at hleft
            rcases List.cons_eq_cons.mp hleft with ⟨rfl, -⟩
            simp [he] at hc

theorem afterBlock?_eq_none_of_afterClose? {s : Text}
    (hopen : afterClose? s = none) : afterBlock? s = none := by
  rw [afterClose?_eq_none_iff] at hopen
  rw [afterBlock?_eq_none_iff]
  rintro inside rfl hclosed
  exact hopen (hclosed.trans (List.suffix_append _ _).isInfix)

theorem afterClose?_stripFrom {s : Text} (lineStart : Bool)
    (hopen : afterClose? s = none) :
    afterClose? (stripFrom lineStart s) = none := by
  rw [afterClose?_eq_none_iff] at hopen ⊢
  induction lineStart, s using pattern_findsSpans.walk with
  | nil lineStart => simp
  | kept lineStart c s hnone ih =>
      rw [List.infix_cons_iff, not_or] at hopen
      rw [stripFrom_cons_of_none hnone, List.infix_cons_iff, not_or]
      refine ⟨?_, ih hopen.2⟩
      rintro ⟨left, hleft⟩
      rcases List.cons_eq_cons.mp hleft with ⟨rfl, hslash⟩
      have hblock : afterBlock? s = none :=
        afterBlock?_eq_none_of_afterClose?
          (afterClose?_eq_none_iff.mpr hopen.2)
      obtain ⟨rest, rfl, -⟩ :=
        exists_cons_of_stripFrom_cons hslash.symm rfl hblock
      exact hopen.1 ⟨rest, rfl⟩
  | span lineStart span rest hne hsome ih =>
      rw [stripFrom_append_of_some hne hsome]
      exact ih fun hclosed =>
        hopen (hclosed.trans (List.suffix_append span rest).isInfix)

/-- No comment is new in what is left: its slash was kept, and the sign behind
it as well, so the two stood together before. -/
theorem plain_stripFrom (lineStart : Bool) (s : Text) :
    Plain (stripFrom lineStart s) := by
  induction lineStart, s using pattern_findsSpans.walk with
  | nil lineStart =>
      rw [stripFrom_nil]
      exact .nil
  | kept lineStart c s hnone ih =>
      rw [stripFrom_cons_of_none hnone]
      obtain ⟨hblock, hline⟩ := pattern_eq_none hnone
      rw [afterBlock?_eq_none_iff] at hblock
      rw [afterLine?_eq_none_iff] at hline
      have hnext : c = '/' → afterBlock? s = none := by
        rintro rfl
        rw [afterBlock?_eq_none_iff]
        rintro inside rfl
        exact absurd ⟨_, rfl⟩ hline
      refine .cons ?_ ?_ ih
      · rw [afterBlock?_eq_none_iff]
        intro inside hleft
        rcases List.cons_eq_cons.mp hleft with ⟨rfl, hstar⟩
        obtain ⟨rest, rfl, rfl⟩ :=
          exists_cons_of_stripFrom_cons hstar rfl (hnext rfl)
        have hopen : afterClose? rest = none :=
          afterClose?_eq_none_iff.mpr (hblock rest rfl)
        exact afterClose?_eq_none_iff.mp (afterClose?_stripFrom _ hopen)
      · rw [afterLine?_eq_none_iff]
        rintro ⟨said, hleft⟩
        rcases List.cons_eq_cons.mp hleft with ⟨rfl, hslash⟩
        obtain ⟨rest, rfl, -⟩ :=
          exists_cons_of_stripFrom_cons hslash.symm rfl (hnext rfl)
        exact hline ⟨rest, rfl⟩
  | span lineStart span rest hne hsome ih =>
      rw [stripFrom_append_of_some hne hsome]
      exact ih

/-! ## Texts without a comment -/

theorem Plain.of_append {s t : Text} (hplain : Plain (s ++ t)) : Plain t := by
  induction s with
  | nil => exact hplain
  | cons c s ih =>
      cases hplain with
      | cons _ _ hrest => exact ih hrest

theorem Plain.not_beginsBefore {s rest : Text} (hplain : Plain s) :
    ¬ BeginsBefore s rest := by
  cases hplain with
  | nil => rintro (hblock | hline) <;> contradiction
  | cons hblock hline _ => simp [BeginsBefore, hblock, hline]

theorem Plain.pattern_eq_none {s : Text} (hplain : Plain s)
    (lineStart : Bool) : pattern lineStart s = none := by
  have hskip : Plain (skipBlanks s) := by
    obtain ⟨blanks, -, hsplit⟩ := exists_blanks s
    rw [hsplit] at hplain
    exact hplain.of_append
  exact pattern_eq_none_of_not_begins (fun _ => hskip.not_beginsBefore)
    lineStart

theorem Plain.stripFrom_eq {s : Text} (hplain : Plain s) (lineStart : Bool) :
    stripFrom lineStart s = s := by
  induction hplain generalizing lineStart with
  | nil => simp
  | cons hblock hline hrest ih =>
      have hnone := (Plain.cons hblock hline hrest).pattern_eq_none lineStart
      rw [stripFrom_cons_of_none hnone, ih]

theorem occurs_of_marker {line id : Text} (hid : Marker.id? line = some id) :
    "//".toList <:+: line := by
  rcases Option.bind_eq_some_iff.mp hid with ⟨rest, hlead, -⟩
  obtain ⟨blanks, -, hsplit⟩ := exists_blanks line
  rw [eq_append_of_after? hlead] at hsplit
  exact ⟨blanks, "split//".toList ++ rest, by rw [hsplit]; simp; rfl⟩

/-- What is left holds no comment, and it is the text itself exactly if that
holds none.  So a second deletion changes nothing, and no line of what is left
is a marker. -/
theorem strip_leaves_no_comment (source : Text) :
    ¬ Occurs (strip source) ∧ (strip source = source ↔ ¬ Occurs source) ∧
      strip (strip source) = strip source ∧
      (lines (strip source)).filterMap Marker.id? = [] := by
  have hplain : Plain (strip source) := by
    rw [strip_eq_stripFrom]
    exact plain_stripFrom true source
  have hnot : ¬ Occurs (strip source) := plain_iff_not_occurs.mp hplain
  refine ⟨hnot, ⟨?_, ?_⟩, hplain.stripFrom_eq true, ?_⟩
  · intro heq
    rwa [heq] at hnot
  · intro hsource
    exact (plain_iff_not_occurs.mpr hsource).stripFrom_eq true
  · rw [List.filterMap_eq_nil_iff]
    intro line hline
    by_contra hsome
    rcases Option.ne_none_iff_exists'.mp hsome with ⟨id, hid⟩
    have hinfix : line <:+: strip source := by
      rw [← flatten_lines (strip source)]
      exact List.infix_of_mem_flatten hline
    exact hnot (Or.inl ((occurs_of_marker hid).trans hinfix))

end FormScaffold.Comment
