import FormScaffold.Text.Basic
import Mathlib.Data.List.Infix

/-!
# How lines join

Two texts, laid end to end, have the lines of the first and then the lines of
the second, as soon as the first ends where a line ends.  The list of the lines
of a text is described on its own by `IsCut`: each member is a single line, and
each but the last has its line feed.
-/

namespace FormScaffold.Text

/-- Every line of the text has its line feed, so that what is put behind the
text begins a line. -/
def LineAligned (s : Text) : Prop := s = [] ∨ s.getLast? = some '\n'

theorem lineAligned_nil : LineAligned [] := Or.inl rfl

theorem LineAligned.of_cons {c : Char} {s : Text}
    (haligned : LineAligned (c :: s)) : LineAligned s := by
  cases s with
  | nil => exact lineAligned_nil
  | cons d s =>
      rcases haligned with hnil | hlast
      · simp at hnil
      · right
        simpa using hlast

theorem LineAligned.cons {s : Text} (haligned : LineAligned s)
    (hne : s ≠ []) (c : Char) : LineAligned (c :: s) := by
  rcases haligned with hnil | hlast
  · exact absurd hnil hne
  · right
    simp [List.getLast?_cons, hlast]

theorem LineAligned.append {s t : Text} (hs : LineAligned s)
    (ht : LineAligned t) : LineAligned (s ++ t) := by
  rcases ht with rfl | hlast
  · simpa using hs
  · right
    simp [List.getLast?_append, hlast]

@[simp] theorem lines_eq_nil_iff {s : Text} : lines s = [] ↔ s = [] := by
  cases s with
  | nil => simp [lines]
  | cons c s =>
      simp only [lines]
      split
      · simp
      · split <;> simp

theorem lines_append {s : Text} (haligned : LineAligned s) (t : Text) :
    lines (s ++ t) = lines s ++ lines t := by
  induction s with
  | nil => rfl
  | cons c s ih =>
      have htail := ih haligned.of_cons
      by_cases hc : c = '\n'
      · simp [lines, hc, htail]
      · have hne : s ≠ [] := by
          rintro rfl
          rcases haligned with hnil | hlast
          · simp at hnil
          · exact hc (by simpa using hlast)
        obtain ⟨line, rest, hlines⟩ :=
          List.exists_cons_of_ne_nil (mt lines_eq_nil_iff.mp hne)
        rw [hlines] at htail
        simp [lines, hc, hlines, htail]

theorem lines_cons_of_line {c : Char} {s : Text} (hc : c ≠ '\n')
    (hline : lines s = [s]) : lines (c :: s) = [c :: s] := by
  simp [lines, hc, hline]

theorem lines_append_of_line {first s : Text} (hfirst : '\n' ∉ first)
    (hline : lines s = [s]) : lines (first ++ s) = [first ++ s] := by
  induction first with
  | nil => exact hline
  | cons c first ih =>
      rw [List.mem_cons, not_or] at hfirst
      exact lines_cons_of_line (Ne.symm hfirst.1) (ih hfirst.2)

theorem lines_of_not_mem {s : Text} (hne : s ≠ []) (hs : '\n' ∉ s) :
    lines s = [s] := by
  have hlast := List.dropLast_append_getLast hne
  rw [← hlast, List.mem_append, not_or] at hs
  have hsingle : lines [s.getLast hne] = [[s.getLast hne]] := by
    simp [lines]
  have hline := lines_append_of_line hs.1 hsingle
  rwa [hlast] at hline

theorem line_of_append {first s : Text} (hne : s ≠ [])
    (hline : lines (first ++ s) = [first ++ s]) :
    '\n' ∉ first ∧ lines s = [s] := by
  induction first with
  | nil => exact ⟨by simp, hline⟩
  | cons c first ih =>
      obtain ⟨line, rest, hlines⟩ := List.exists_cons_of_ne_nil
        (mt lines_eq_nil_iff.mp (List.append_ne_nil_of_right_ne_nil first hne))
      by_cases hc : c = '\n'
      · simp [lines, hc, hne] at hline
      · simp only [List.cons_append, lines, hc, ↓reduceIte, hlines,
          List.cons.injEq, true_and] at hline
        obtain ⟨hfirst, hs⟩ := ih (by rw [hlines, hline.1, hline.2])
        exact ⟨by simp [hfirst, Ne.symm hc], hs⟩

/-- The lines of some text: single lines, all but the last with a line feed. -/
inductive IsCut : List Text → Prop where
  | nil : IsCut []
  | cons {line : Text} {rest : List Text} (hline : lines line = [line])
      (haligned : rest ≠ [] → LineAligned line) (hrest : IsCut rest) :
      IsCut (line :: rest)

theorem isCut_lines (s : Text) : IsCut (lines s) := by
  induction s with
  | nil => exact .nil
  | cons c s ih =>
      simp only [lines]
      split
      next hc =>
        subst hc
        exact .cons rfl (fun _ => Or.inr rfl) ih
      next hc =>
        split
        next => exact .cons (by simp [lines, hc]) (by simp) .nil
        next line rest hlines =>
          rw [hlines] at ih
          cases ih with
          | cons hline haligned hrest =>
              have hne : line ≠ [] := by
                rintro rfl
                simp [lines] at hline
              refine .cons (by simp [lines, hc, hline]) ?_ hrest
              exact fun h => (haligned h).cons hne c

theorem IsCut.lines_flatten {ls : List Text} (hcut : IsCut ls) :
    lines ls.flatten = ls := by
  induction hcut with
  | nil => rfl
  | @cons line rest hline haligned _ ih =>
      rcases eq_or_ne rest [] with rfl | hne
      · simpa using hline
      · rw [List.flatten_cons, lines_append (haligned hne), hline, ih]
        rfl

theorem IsCut.of_append {ls rest : List Text} (hcut : IsCut (ls ++ rest)) :
    IsCut ls := by
  induction ls with
  | nil => exact .nil
  | cons line ls ih =>
      cases hcut with
      | cons hline haligned htail =>
          exact .cons hline (fun h => haligned (by simp [h])) (ih htail)

theorem IsCut.sublist {selected ls : List Text} (hcut : IsCut ls)
    (hsub : selected.Sublist ls) : IsCut selected := by
  induction hsub with
  | slnil => exact .nil
  | cons line hsub ih =>
      cases hcut with
      | cons _ _ hrest => exact ih hrest
  | @cons_cons selected ls line hsub ih =>
      cases hcut with
      | cons hline haligned hrest =>
          refine .cons hline (fun hne => haligned ?_) (ih hrest)
          rintro rfl
          exact hne (List.sublist_nil.mp hsub)

/-- The lines are changed one by one, and some of them go. -/
theorem IsCut.filter_map {f : Text → Text} {ls : List Text} (hcut : IsCut ls)
    (hline : ∀ line, lines line = [line] → f line ≠ [] →
      lines (f line) = [f line])
    (haligned : ∀ line, LineAligned line → LineAligned (f line)) :
    IsCut ((ls.map f).filter (· ≠ [])) := by
  induction hcut with
  | nil => exact .nil
  | @cons line rest hsingle hend _ ih =>
      rw [List.map_cons]
      rcases eq_or_ne (f line) [] with hgone | hkept
      · rwa [List.filter_cons_of_neg (by simpa using hgone)]
      · rw [List.filter_cons_of_pos (by simpa using hkept)]
        refine .cons (hline line hsingle hkept)
          (fun hmore => haligned line (hend ?_)) ih
        rintro rfl
        exact hmore rfl

theorem IsCut.lineAligned_flatten {ls rest : List Text}
    (hcut : IsCut (ls ++ rest)) (hne : rest ≠ []) :
    LineAligned ls.flatten := by
  induction ls with
  | nil => exact lineAligned_nil
  | cons line ls ih =>
      cases hcut with
      | cons _ haligned htail =>
          have hline : LineAligned line := haligned (by simp [hne])
          exact hline.append (ih htail)

theorem forall_mem_dropLast_cons {α : Type*} {P : α → Prop} {a : α}
    {l : List α} :
    (∀ b ∈ (a :: l).dropLast, P b) ↔
      (l ≠ [] → P a) ∧ ∀ b ∈ l.dropLast, P b := by
  cases l <;> simp

/-- What is done to a text piece by piece, where each piece but the last lets it
be done to the texts on both sides. -/
theorem flatten_eq_flatMap {β : Type*} {f : Text → List β} (hnil : f [] = [])
    {texts : List Text}
    (happend : ∀ s ∈ texts.dropLast, ∀ t, f (s ++ t) = f s ++ f t) :
    f texts.flatten = texts.flatMap f := by
  induction texts with
  | nil => exact hnil
  | cons s texts ih =>
      rcases forall_mem_dropLast_cons.mp happend with ⟨hs, hrest⟩
      rcases eq_or_ne texts [] with rfl | hne
      · simp
      · rw [List.flatten_cons, hs hne, ih hrest, List.flatMap_cons]

theorem lines_flatten_of_aligned {texts : List Text}
    (haligned : ∀ s ∈ texts.dropLast, LineAligned s) :
    lines texts.flatten = texts.flatMap lines :=
  flatten_eq_flatMap rfl fun s hs => lines_append (haligned s hs)

theorem IsCut.lines_eq_of_mem {ls : List Text} (hcut : IsCut ls) :
    ∀ line ∈ ls, lines line = [line] := by
  induction hcut with
  | nil => simp
  | cons hline _ _ ih => exact List.forall_mem_cons.mpr ⟨hline, ih⟩

theorem IsCut.lineAligned_of_mem_dropLast {ls : List Text} (hcut : IsCut ls) :
    ∀ line ∈ ls.dropLast, LineAligned line := by
  induction hcut with
  | nil => simp
  | cons _ haligned _ ih => exact forall_mem_dropLast_cons.mpr ⟨haligned, ih⟩

end FormScaffold.Text
