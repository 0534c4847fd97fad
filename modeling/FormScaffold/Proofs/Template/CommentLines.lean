import FormScaffold.Proofs.Template.CommentAbsence
import FormScaffold.Proofs.Text.Lines

/-!
# Comments and lines

The signs that begin and end comments hold no line feed, so none of them runs
over the end of a line.  Taking whole lines out of a text therefore makes no
comment: a selection of the lines of a text without comments has none either.
-/

namespace FormScaffold.Text

theorem infix_append_iff_of_lineAligned {w s : Text} (hw : '\n' ∉ w)
    (hs : LineAligned s) (t : Text) : w <:+: s ++ t ↔ w <:+: s ∨ w <:+: t := by
  constructor
  · intro hpart
    rcases List.infix_append_iff.mp hpart with
      hfirst | hsecond | ⟨before, behind, rfl, hsuffix, hprefix⟩
    · exact Or.inl hfirst
    · exact Or.inr hsecond
    · rcases eq_or_ne before [] with rfl | hne
      · exact Or.inr hprefix.isInfix
      · rcases hsuffix with ⟨first, rfl⟩
        have hlast : before.getLast? = some '\n' := by
          have hlast := hs.resolve_left (by simp [hne])
          rwa [List.getLast?_append_of_ne_nil _ hne] at hlast
        exact absurd (List.mem_append_left _ (List.mem_of_getLast? hlast)) hw
  · rintro (hfirst | hsecond)
    · exact hfirst.trans (List.prefix_append s t).isInfix
    · exact hsecond.trans (List.suffix_append s t).isInfix

theorem infix_flatten_of_sublist {w : Text} (hw : '\n' ∉ w)
    {selected ls : List Text} (hcut : IsCut ls)
    (hsub : selected.Sublist ls) (hpart : w <:+: selected.flatten) :
    w <:+: ls.flatten := by
  induction hsub with
  | slnil => exact hpart
  | cons line hsub ih =>
      cases hcut with
      | cons _ _ hrest =>
          exact (ih hrest hpart).trans (List.suffix_append line _).isInfix
  | @cons_cons selected ls line hsub ih =>
      cases hcut with
      | cons _ haligned hrest =>
          rcases eq_or_ne ls [] with rfl | hne
          · rwa [List.sublist_nil.mp hsub] at hpart
          · rw [List.flatten_cons,
              infix_append_iff_of_lineAligned hw (haligned hne)] at hpart ⊢
            exact hpart.imp id (ih hrest)

end FormScaffold.Text

namespace FormScaffold.Comment

open Text

/-- A closed block comment begins in the first text, whose lines are whole: its
end is there or in the second. -/
def BlockBeginsIn (s t : Text) : Prop :=
  ∃ inside, "/*".toList ++ inside <:+ s ∧
    ("*/".toList <:+: inside ∨ "*/".toList <:+: t)

theorem blockBeginsIn_of_suffix {s t inside : Text} (hs : LineAligned s)
    (hblock : "/*".toList ++ inside <:+ s ++ t)
    (hclosed : "*/".toList <:+: inside) :
    BlockBeginsIn s t ∨ Occurs t := by
  rcases List.suffix_or_suffix_of_suffix hblock (List.suffix_append s t) with
    hsecond | ⟨opening, hsplit⟩
  · exact Or.inr (Or.inr ⟨inside, hsecond, hclosed⟩)
  · rcases hblock with ⟨before, hwhole⟩
    have hfirst : before ++ opening = s := by
      rw [← hsplit, ← List.append_assoc] at hwhole
      exact List.append_cancel_right hwhole
    subst hfirst
    match opening with
    | [] => exact Or.inr (Or.inr ⟨inside, ⟨[], hsplit.symm⟩, hclosed⟩)
    | [c] =>
        have hc : c = '/' := (List.cons_eq_cons.mp hsplit).1
        simp [LineAligned, hc] at hs
    | c :: d :: rest =>
        have hletters : c :: d :: (rest ++ t) = '/' :: '*' :: inside := hsplit
        simp only [List.cons.injEq] at hletters
        obtain ⟨rfl, rfl, rfl⟩ := hletters
        have hrest : LineAligned rest := by
          rcases eq_or_ne rest [] with rfl | hne
          · exact lineAligned_nil
          · have hlast := hs.resolve_left (by simp)
            rw [List.append_cons, List.append_cons,
              List.getLast?_append_of_ne_nil _ hne] at hlast
            exact Or.inr hlast
        have hclose : '\n' ∉ "*/".toList := by decide
        left
        refine ⟨rest, List.suffix_append _ _, ?_⟩
        exact (infix_append_iff_of_lineAligned hclose hrest t).mp hclosed

theorem occurs_append_iff {s : Text} (hs : LineAligned s) (t : Text) :
    Occurs (s ++ t) ↔
      "//".toList <:+: s ∨ BlockBeginsIn s t ∨ Occurs t := by
  have hslashes : '\n' ∉ "//".toList := by decide
  constructor
  · rintro (hline | ⟨inside, hblock, hclosed⟩)
    · rcases (infix_append_iff_of_lineAligned hslashes hs t).mp hline with
        hfirst | hsecond
      · exact Or.inl hfirst
      · exact Or.inr (Or.inr (Or.inl hsecond))
    · exact Or.inr (blockBeginsIn_of_suffix hs hblock hclosed)
  · rintro (hline | ⟨inside, ⟨before, rfl⟩, hclosed⟩ | hline | hblock)
    · exact Or.inl (hline.trans (List.prefix_append s t).isInfix)
    · refine Or.inr ⟨inside ++ t, ⟨before, by simp⟩, ?_⟩
      rcases hclosed with hfirst | hsecond
      · exact hfirst.trans (List.prefix_append inside t).isInfix
      · exact hsecond.trans (List.suffix_append inside t).isInfix
    · exact Or.inl (hline.trans (List.suffix_append s t).isInfix)
    · rcases hblock with ⟨inside, hsuffix, hclosed⟩
      exact Or.inr ⟨inside, hsuffix.trans (List.suffix_append s t), hclosed⟩

theorem occurs_flatten_of_sublist {selected ls : List Text} (hcut : IsCut ls)
    (hsub : selected.Sublist ls) (hoccurs : Occurs selected.flatten) :
    Occurs ls.flatten := by
  have hclose : '\n' ∉ "*/".toList := by decide
  induction hsub with
  | slnil => exact hoccurs
  | cons line hsub ih =>
      cases hcut with
      | cons hline haligned hrest =>
          have hrest := ih hrest hoccurs
          rw [List.flatten_cons, occurs_append_iff (haligned ?_)]
          · exact Or.inr (Or.inr hrest)
          · rintro rfl
            simp [Occurs] at hrest
  | @cons_cons selected ls line hsub ih =>
      cases hcut with
      | cons hline haligned hrest =>
          rcases eq_or_ne ls [] with rfl | hne
          · rwa [List.sublist_nil.mp hsub] at hoccurs
          · rw [List.flatten_cons,
              occurs_append_iff (haligned hne)] at hoccurs ⊢
            rcases hoccurs with hline | ⟨inside, hblock, hclosed⟩ | hbehind
            · exact Or.inl hline
            · refine Or.inr (Or.inl ⟨inside, hblock, ?_⟩)
              exact hclosed.imp id (infix_flatten_of_sublist hclose hrest hsub)
            · exact Or.inr (Or.inr (ih hrest hbehind))

theorem Plain.of_lines_sublist {s t : Text} (hplain : Plain s)
    (hsub : (lines t).Sublist (lines s)) : Plain t := by
  rw [plain_iff_not_occurs] at hplain ⊢
  intro hoccurs
  apply hplain
  rw [← flatten_lines s]
  apply occurs_flatten_of_sublist (isCut_lines s) hsub
  rwa [flatten_lines]

theorem Plain.append_of_not_mem {s t : Text} (hplain : Plain t)
    (hs : '/' ∉ s) : Plain (s ++ t) := by
  induction s with
  | nil => exact hplain
  | cons c s ih =>
      rw [List.mem_cons, not_or] at hs
      refine .cons ?_ ?_ (ih hs.2)
      · rw [afterBlock?_eq_none_iff]
        intro inside hsplit
        exact absurd (List.cons_eq_cons.mp hsplit).1.symm hs.1
      · rw [afterLine?_eq_none_iff]
        rintro ⟨said, hsplit⟩
        exact absurd (List.cons_eq_cons.mp hsplit).1 hs.1

theorem Plain.id?_eq_none {s line : Text} (hplain : Plain s)
    (hline : line ∈ lines s) : Marker.id? line = none := by
  rw [plain_iff_not_occurs] at hplain
  by_contra hsome
  rcases Option.ne_none_iff_exists'.mp hsome with ⟨id, hid⟩
  have hpart : line <:+: s := by
    rw [← flatten_lines s]
    exact List.infix_of_mem_flatten hline
  exact hplain (Or.inl ((occurs_of_marker hid).trans hpart))

end FormScaffold.Comment
