import FormScaffold.Template.Emission
import FormScaffold.Proofs.Template.AliasLines
import FormScaffold.Proofs.Template.CommentSpan
import FormScaffold.Proofs.Template.DirectiveLines
import FormScaffold.Proofs.Template.SectionFilter
import Mathlib.Data.List.Infix

/-!
# Line breaks of two characters

In a text whose line breaks are all made of a carriage return and a line feed,
no rewriting takes one of the two without the other.  What a rewriting takes
away begins in front of a pair or behind one, and ends so: sections and
directive lines are whole lines, and comments begin with a character of their
own and end behind one or behind a whole line break.  Only the directive at the
top brings line feeds of its own.
-/

namespace FormScaffold

open Text

namespace Text

variable {s t : Text}

/-- Every line feed stands right behind a carriage return. -/
def FeedsBehindReturns (s : Text) : Prop :=
  ∀ first, first ++ ['\n'] <+: s → first.getLast? = some '\r'

instance : DecidablePred FeedsBehindReturns := fun s =>
  decidable_of_iff
    (∀ first ∈ s.inits, first.getLast? = some '\n' →
      first.dropLast.getLast? = some '\r') <| by
    constructor
    · intro h first hfirst
      simpa using h _ ((List.mem_inits _ _).mpr hfirst) (by simp)
    · intro h first hfirst hlast
      obtain ⟨before, rfl⟩ := List.getLast?_eq_some_iff.mp hlast
      simpa using h before ((List.mem_inits _ _).mp hfirst)

/-- Carriage returns and line feeds stand in pairs, the return in front. -/
structure PairsBreaks (s : Text) : Prop where
  returns : ReturnsBeforeFeeds s
  feeds : FeedsBehindReturns s

instance : DecidablePred PairsBreaks := fun s =>
  decidable_of_iff (ReturnsBeforeFeeds s ∧ FeedsBehindReturns s)
    ⟨fun h => ⟨h.1, h.2⟩, fun h => ⟨h.returns, h.feeds⟩⟩

def IsUnbroken (s : Text) : Prop := '\r' ∉ s ∧ '\n' ∉ s

instance : DecidablePred IsUnbroken := fun s =>
  inferInstanceAs (Decidable ('\r' ∉ s ∧ '\n' ∉ s))

theorem IsUnbroken.pairsBreaks (hs : IsUnbroken s) : PairsBreaks s where
  returns := fun _ hsuffix => absurd (hsuffix.subset List.mem_cons_self) hs.1
  feeds := fun _ hfed =>
    absurd (hfed.subset (List.mem_append_right _ List.mem_cons_self)) hs.2

theorem pairsBreaks_nil : PairsBreaks [] :=
  IsUnbroken.pairsBreaks (by decide)

theorem PairsBreaks.append (hs : PairsBreaks s) (ht : PairsBreaks t) :
    PairsBreaks (s ++ t) where
  returns := by
    intro rest hsuffix
    rcases List.suffix_or_suffix_of_suffix hsuffix (List.suffix_append s t) with
      hsecond | ⟨first, hsplit⟩
    · exact ht.returns rest hsecond
    · cases first with
      | nil => exact ht.returns rest ⟨[], hsplit.symm⟩
      | cons c first =>
          obtain ⟨rfl, rfl⟩ : c = '\r' ∧ first ++ t = rest :=
            List.cons_eq_cons.mp hsplit
          have hfirst : '\r' :: first <:+ s := by
            rwa [← List.cons_append, List.suffix_append_self_iff] at hsuffix
          rw [List.head?_append, hs.returns first hfirst, Option.some_or]
  feeds := by
    intro first hfed
    rcases List.prefix_or_prefix_of_prefix hfed (List.prefix_append s t) with
      hfirst | ⟨second, hsplit⟩
    · exact hs.feeds first hfirst
    · rcases List.eq_nil_or_concat second with rfl | ⟨second, c, rfl⟩
      · rw [List.append_nil] at hsplit
        exact hs.feeds first ⟨[], by rw [List.append_nil, hsplit]⟩
      · rw [List.concat_eq_append, ← List.append_assoc] at hsplit
        obtain ⟨rfl, hc⟩ := List.append_inj' hsplit rfl
        have hsecond : second ++ ['\n'] <+: t := by
          rwa [List.append_assoc, List.prefix_append_right_inj] at hfed
        rw [List.getLast?_append, ht.feeds second hsecond, Option.some_or]

/-- A text is cut between pairs wherever the second part begins with no line
feed. -/
theorem PairsBreaks.of_append (h : PairsBreaks (s ++ t))
    (hhead : t.head? ≠ some '\n') :
    PairsBreaks s ∧ PairsBreaks t := by
  refine ⟨⟨?_, ?_⟩, ⟨?_, ?_⟩⟩
  · intro rest hsuffix
    have hnext := h.returns (rest ++ t)
      (by rwa [← List.cons_append, List.suffix_append_self_iff])
    rw [List.head?_append, Option.or_eq_some_iff] at hnext
    exact hnext.resolve_right fun h => hhead h.2
  · exact fun first hfed => h.feeds first (hfed.trans (List.prefix_append s t))
  · exact fun rest hsuffix =>
      h.returns rest (hsuffix.trans (List.suffix_append s t))
  · intro first hfed
    have hlast := h.feeds (s ++ first)
      (by rwa [List.append_assoc, List.prefix_append_right_inj])
    rw [List.getLast?_append, Option.or_eq_some_iff] at hlast
    refine hlast.resolve_right ?_
    rintro ⟨hnone, -⟩
    rw [List.getLast?_eq_none_iff.mp hnone] at hfed
    obtain ⟨rest, rfl⟩ := hfed
    exact hhead rfl

/-- Behind anything but a carriage return no line feed begins. -/
theorem PairsBreaks.head?_ne (h : PairsBreaks (s ++ t))
    (hlast : s.getLast? ≠ some '\r') :
    t.head? ≠ some '\n' := by
  intro hhead
  obtain ⟨rest, rfl⟩ := List.head?_eq_some_iff.mp hhead
  exact hlast (h.feeds s ⟨rest, by simp⟩)

/-! ## Whole lines -/

theorem pairsBreaks_flatten {texts : List Text}
    (htexts : ∀ s ∈ texts, PairsBreaks s) :
    PairsBreaks texts.flatten := by
  induction texts with
  | nil => exact pairsBreaks_nil
  | cons s texts ih =>
      rw [List.forall_mem_cons] at htexts
      exact htexts.1.append (ih htexts.2)

/-- Whole lines are cut off between pairs. -/
theorem PairsBreaks.of_flatten {texts : List Text}
    (haligned : ∀ s ∈ texts.dropLast, LineAligned s)
    (h : PairsBreaks texts.flatten) :
    ∀ s ∈ texts, PairsBreaks s := by
  induction texts with
  | nil => simp
  | cons s texts ih =>
      obtain ⟨hs, hrest⟩ := forall_mem_dropLast_cons.mp haligned
      rw [List.flatten_cons] at h
      have hhead : texts.flatten.head? ≠ some '\n' := by
        rcases eq_or_ne texts [] with rfl | hne
        · simp
        rcases hs hne with rfl | hlast
        · intro hfeed
          obtain ⟨rest, hrest⟩ := List.head?_eq_some_iff.mp hfeed
          cases h.feeds [] ⟨rest, by simp [hrest]⟩
        · exact h.head?_ne (by simp [hlast])
      obtain ⟨hfirst, hlater⟩ := h.of_append hhead
      exact List.forall_mem_cons.mpr ⟨hfirst, ih hrest hlater⟩

/-- A selection of the lines keeps whole pairs. -/
theorem PairsBreaks.of_lines_sublist (h : PairsBreaks s)
    (hsub : (lines t).Sublist (lines s)) : PairsBreaks t := by
  have hlines : ∀ line ∈ lines s, PairsBreaks line := by
    refine PairsBreaks.of_flatten (isCut_lines s).lineAligned_of_mem_dropLast ?_
    rwa [flatten_lines]
  rw [← flatten_lines t]
  exact pairsBreaks_flatten fun line hline => hlines line (hsub.subset hline)

end Text

namespace Pattern

/-- A span begins with no line feed and, unless the text ends with it, ends in
no carriage return. -/
def SparesPairs (p : Pattern) : Prop :=
  ∀ ⦃lineStart : Bool⦄ ⦃span rest : Text⦄, span ≠ [] →
    p lineStart (span ++ rest) = some rest →
      span.head? ≠ some '\n' ∧ (rest = [] ∨ span.getLast? ≠ some '\r')

/-- The walk keeps what stands before the place it has come to, where a carriage
return may wait for its line feed. -/
theorem FindsSpans.pairsBreaks_replaceFrom {p : Pattern} (hp : p.FindsSpans)
    (hspares : p.SparesPairs) {f : Text → Text}
    (hf : ∀ span, PairsBreaks (f span)) (lineStart : Bool) (before : Text)
    {s : Text} (hs : PairsBreaks (before ++ s)) :
    PairsBreaks (before ++ replaceFrom p f lineStart s) := by
  induction lineStart, s using hp.walk generalizing before with
  | nil lineStart => simpa using hs
  | kept lineStart c s hnone ih =>
      rw [replaceFrom_cons_of_none hnone, List.append_cons]
      rw [List.append_cons] at hs
      exact ih _ hs
  | span lineStart span rest hne hsome ih =>
      obtain ⟨hbegins, hends⟩ := hspares hne hsome
      have hhead : (span ++ rest).head? ≠ some '\n' := by
        rwa [List.head?_append_of_ne_nil _ hne]
      obtain ⟨hbefore, hbehind⟩ := hs.of_append hhead
      have hnext : rest.head? ≠ some '\n' := by
        rcases hends with rfl | hlast
        · simp
        · exact hbehind.head?_ne hlast
      have hrest := ih [] (hbehind.of_append hnext).2
      rw [replaceFrom_append_of_some hne hsome]
      exact hbefore.append ((hf span).append hrest)

end Pattern

namespace Section

theorem pairsBreaks_filter {source : Text} (hsource : PairsBreaks source)
    (chosen : List FieldKind) : PairsBreaks (filter chosen source) := by
  have hsections : ∀ t ∈ (split source).map text, PairsBreaks t := by
    refine PairsBreaks.of_flatten ?_ ?_
    · intro t ht
      rw [← List.map_dropLast] at ht
      rcases List.mem_map.mp ht with ⟨s, hs, rfl⟩
      exact Or.inr ((wellFormed_split source).lineFeed s hs)
    · rwa [← List.flatMap_def, ← join, join_split]
  rw [filter_eq_join_filter, join, List.flatMap_def]
  refine pairsBreaks_flatten fun t ht => hsections t ?_
  exact (List.filter_sublist.map text).subset ht

end Section

namespace Comment

theorem head?_blanks_append_ne {blanks comment : Text}
    (hblank : ∀ c ∈ blanks, isBlank c = true) (hhead : comment.head? = some '/')
    (behind : Text) : (blanks ++ (comment ++ behind)).head? ≠ some '\n' := by
  intro hfeed
  cases blanks with
  | nil => simp [List.head?_append, hhead] at hfeed
  | cons c blanks =>
      obtain rfl : c = '\n' := by simpa using hfeed
      cases hblank _ List.mem_cons_self

theorem getLast?_append_comment_ne {comment : Text}
    (hhead : comment.head? = some '/')
    (hlast : ∀ c ∈ comment.getLast?, endsLine c = false) (before : Text) :
    (before ++ comment).getLast? ≠ some '\r' := by
  intro hreturn
  have hcomment : comment ≠ [] := by
    rintro rfl
    cases hhead
  rw [List.getLast?_append_of_ne_nil _ hcomment] at hreturn
  cases hlast _ hreturn

theorem pattern_sparesPairs : Pattern.SparesPairs pattern := by
  intro lineStart span rest hne hfound
  obtain ⟨blanks, hblank, hblanks⟩ := exists_blanks (span ++ rest)
  rcases pattern_eq_some hfound with ⟨-, behind, hcomment, hend⟩ | hblock |
    hline
  · obtain ⟨comment, hhead, -, hs⟩ := hcomment.exists_comment
    obtain ⟨ending, -, hlast, hending⟩ := exists_of_afterLineEnd? hend
    obtain rfl : span = blanks ++ (comment ++ ending) := by
      rw [hs, hending, ← List.append_assoc comment,
        ← List.append_assoc] at hblanks
      exact List.append_cancel_right hblanks
    refine ⟨head?_blanks_append_ne hblank hhead ending, ?_⟩
    rcases eq_or_ne rest [] with hnil | hmore
    · exact Or.inl hnil
    · right
      rw [← List.append_assoc, List.getLast?_append, hlast hmore,
        Option.some_or]
      decide
  · obtain ⟨comment, hhead, hlast, hs⟩ :=
      BeginsBefore.exists_comment (Or.inl hblock)
    obtain rfl := List.append_cancel_right hs
    exact ⟨by simp [hhead], Or.inr (getLast?_append_comment_ne hhead hlast [])⟩
  · obtain ⟨comment, hhead, hlast, hs⟩ :=
      BeginsBefore.exists_comment (Or.inr hline)
    obtain rfl : span = blanks ++ comment := by
      rw [hs, ← List.append_assoc] at hblanks
      exact List.append_cancel_right hblanks
    have hfirst := head?_blanks_append_ne hblank hhead []
    rw [List.append_nil] at hfirst
    exact ⟨hfirst, Or.inr (getLast?_append_comment_ne hhead hlast blanks)⟩

theorem pairsBreaks_strip {source : Text} (hsource : PairsBreaks source) :
    PairsBreaks (strip source) :=
  pattern_findsSpans.pairsBreaks_replaceFrom pattern_sparesPairs
    (fun _ => pairsBreaks_nil) true [] hsource

end Comment

namespace Directive

theorem pairsBreaks_remove {source : Text} (hsource : PairsBreaks source) :
    PairsBreaks (remove source) := by
  apply hsource.of_lines_sublist
  rw [lines_remove]
  exact keptLines_sublist false (lines source)

end Directive

namespace Alias

variable {components utils : Text}

theorem pattern_sparesPairs : Pattern.SparesPairs pattern := by
  intro lineStart span rest _ hfound
  have hspan : span.head? ≠ some '\n' ∧ span.getLast? ≠ some '\r' := by
    rcases span_eq_of_pattern hfound with rfl | rfl <;> decide
  exact hspan.imp_right Or.inr

theorem pairsBreaks_replace (hcomponents : IsUnbroken components)
    (hutils : IsUnbroken utils) {source : Text} (hsource : PairsBreaks source) :
    PairsBreaks (replace components utils source) := by
  refine pattern_findsSpans.pairsBreaks_replaceFrom pattern_sparesPairs ?_ true
    [] hsource
  intro span
  split
  · exact hcomponents.pairsBreaks
  · exact hutils.pairsBreaks

/-- An alias begins with its one `@`, so what stands before the first `@` is
kept. -/
theorem prefix_replaceFrom {s : Text} (hs : '@' ∉ s) (f : Text → Text)
    (lineStart : Bool)
    (t : Text) : s <+: Pattern.replaceFrom pattern f lineStart (s ++ t) := by
  induction s generalizing lineStart with
  | nil => exact List.nil_prefix
  | cons c s ih =>
      rw [List.mem_cons, not_or] at hs
      have hnone : pattern lineStart (c :: (s ++ t)) = none := by
        by_contra hsome
        rcases Option.ne_none_iff_exists'.mp hsome with ⟨rest, hfound⟩
        rcases pattern_eq_some hfound with hsplit | hsplit
        · exact hs.1 (List.cons_eq_cons.mp hsplit).1.symm
        · exact hs.1 (List.cons_eq_cons.mp hsplit).1.symm
      rw [List.cons_append, Pattern.replaceFrom_cons_of_none hnone,
        List.prefix_cons_inj]
      exact ih hs.2 _

end Alias

namespace TemplateFile

/-- The directive ends in a line feed alone. -/
theorem not_pairsBreaks_replace_apply_true (components utils source : Text) :
    ¬ PairsBreaks (Alias.replace components utils
      (Directive.apply true source)) := by
  intro h
  have hline : Directive.line ++ ['\n'] <+:
      Alias.replace components utils (Directive.apply true source) := by
    unfold Directive.apply
    rw [if_pos rfl, Alias.replace_eq_replaceFrom, List.append_assoc]
    have hsign : '@' ∉ Directive.line ++ ['\n'] := by decide
    have hkept := Alias.prefix_replaceFrom hsign
      (fun found => if found = Alias.defaultComponents then components
        else utils) true
      ('\n' :: dropBlankLines (Directive.remove source))
    rwa [List.append_assoc] at hkept
  exact absurd (h.feeds _ hline) (by decide)

/-- A text whose line breaks are pairs keeps them so under each rewriting, and
what is emitted has them so exactly where no directive is written at the top. -/
theorem emit_pairsBreaks_iff {source : Text} (hsource : PairsBreaks source) :
    (∀ chosen, PairsBreaks (Section.filter chosen source)) ∧
      PairsBreaks (Comment.strip source) ∧
      (∀ components utils, IsUnbroken components → IsUnbroken utils →
        PairsBreaks (Alias.replace components utils source)) ∧
      ∀ (file : TemplateFile) (choices : Choices),
        IsUnbroken choices.components → IsUnbroken choices.utils →
          (PairsBreaks (file.emit choices source) ↔
            choices.directive = false ∨ file.isClient = false) := by
  refine ⟨Section.pairsBreaks_filter hsource, Comment.pairsBreaks_strip hsource,
    fun _ _ hcomponents hutils =>
      Alias.pairsBreaks_replace hcomponents hutils hsource, ?_⟩
  intro file choices hcomponents hutils
  unfold emit
  rw [← Bool.and_eq_false_iff]
  cases choices.directive && file.isClient with
  | true => simp [not_pairsBreaks_replace_apply_true]
  | false =>
      have hselected : PairsBreaks (if file.hasSections then
          Comment.strip (Section.filter choices.kinds source) else source) := by
        split
        · exact Comment.pairsBreaks_strip (Section.pairsBreaks_filter hsource _)
        · exact hsource
      have hremoved := Directive.pairsBreaks_remove hselected
      exact iff_of_true (Alias.pairsBreaks_replace hcomponents hutils hremoved)
        rfl

/-- Comments over several lines and at the end of the text, a directive line
with blank lines behind it and a section that goes: each takes its line breaks
along whole. -/
theorem emit_pairsBreaks_of_sections :
    let file : TemplateFile := ⟨"form.tsx".toList, true, true⟩
    let choices : Choices := ⟨"~/ui".toList, [], false, [.text]⟩
    let source :=
      ("/* a\r\n b */ \r\n'use client'\r\n\t\r\n\r\nx /* c\r\n*/ // d\r\n" ++
      "//split//select\r\ny\r\n//split//body\r\n\"@/components\" @/lib/utils\r\n// e").toList
    PairsBreaks source ∧ IsUnbroken choices.components ∧
      IsUnbroken choices.utils ∧
      PairsBreaks (Section.filter [.text] source) ∧
      PairsBreaks (Comment.strip source) ∧
      PairsBreaks (Alias.replace "~/ui".toList [] source) ∧
      file.emit choices source = "x \r\n\"~/ui\" \r\n".toList ∧
      PairsBreaks (file.emit choices source) ∧
      ¬ PairsBreaks (file.emit { choices with directive := true } source) := by
  intro file choices source
  have hsource : PairsBreaks source := by decide +kernel
  have hcomponents : IsUnbroken choices.components := by decide
  have hutils : IsUnbroken choices.utils := by decide
  obtain ⟨hfilter, hstrip, hreplace, hemit⟩ := emit_pairsBreaks_iff hsource
  refine ⟨hsource, hcomponents, hutils, hfilter _, hstrip,
    hreplace _ _ hcomponents hutils, ?_,
    (hemit file choices hcomponents hutils).mpr (Or.inl rfl), ?_⟩
  · decide +kernel
  · exact mt (hemit file { choices with
      directive := true } hcomponents hutils).mp (by decide)

end TemplateFile

end FormScaffold
