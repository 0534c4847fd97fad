import FormScaffold.Template.Alias
import FormScaffold.Proofs.Text.LineReader
import FormScaffold.Proofs.Text.PatternWalk

/-!
# Aliases among lines

The aliases of a template hold no line feed, so replacing them is a matter of
each line.  If what is put in their place holds no line feed either and is not
empty, a line stays a line, and the lines of the result are the lines of the
text with the aliases in each of them replaced.
-/

namespace FormScaffold

open Text

namespace Pattern

/-- Where spans hold no line feed, and neither does what they are replaced by, a
line stays a line. -/
theorem FindsSpans.lines_replaceFrom {p : Pattern} (hp : p.FindsSpans)
    (hspan : ∀ {lineStart : Bool} {span rest : Text},
      p lineStart (span ++ rest) = some rest → '\n' ∉ span)
    {f : Text → Text} (hf : ∀ span, f span ≠ [] ∧ '\n' ∉ f span)
    {s : Text} (hline : lines s = [s]) (lineStart : Bool) :
    lines (replaceFrom p f lineStart s) = [replaceFrom p f lineStart s] ∧
      (LineAligned s → LineAligned (replaceFrom p f lineStart s)) := by
  induction lineStart, s using hp.walk with
  | nil lineStart => simp [lines] at hline
  | kept lineStart c s hnone ih =>
      rw [replaceFrom_cons_of_none hnone]
      rcases eq_or_ne s [] with rfl | hne
      · rw [replaceFrom_nil]
        exact ⟨hline, id⟩
      · obtain ⟨hc, hs⟩ : '\n' ∉ [c] ∧ lines s = [s] := line_of_append hne hline
        obtain ⟨hlines, haligned⟩ := ih hs
        refine ⟨lines_append_of_line hc hlines, fun h => ?_⟩
        refine (haligned h.of_cons).cons ?_ c
        intro hnil
        simp [hnil, lines] at hlines
  | span lineStart span rest hne hsome ih =>
      rw [replaceFrom_append_of_some hne hsome]
      rcases eq_or_ne rest [] with rfl | hrest
      · rw [replaceFrom_nil, List.append_nil]
        refine ⟨lines_of_not_mem (hf span).1 (hf span).2, fun h => ?_⟩
        have hlast := h.resolve_left (by simpa using hne)
        rw [List.append_nil] at hlast
        exact absurd (List.mem_of_getLast? hlast) (hspan hsome)
      · obtain ⟨-, hs⟩ := line_of_append hrest hline
        obtain ⟨hlines, haligned⟩ := ih hs
        refine ⟨lines_append_of_line (hf span).2 hlines, fun h => ?_⟩
        have hlast := h.resolve_left (by simp [hne])
        rw [List.getLast?_append_of_ne_nil _ hrest] at hlast
        have hnext := (haligned (Or.inr hlast)).resolve_left (by
          rintro hnil
          simp [hnil, lines] at hlines)
        right
        rw [List.getLast?_append, hnext]
        rfl

end Pattern

namespace Alias

theorem pattern_eq_some {lineStart : Bool} {s rest : Text}
    (hfound : pattern lineStart s = some rest) :
    s = defaultComponents ++ rest ∨ s = defaultUtils ++ rest := by
  unfold pattern at hfound
  rw [Option.orElse_eq_orElse, Option.orElse_eq_or, Option.or_eq_some_iff]
    at hfound
  rcases hfound with hcomponents | ⟨-, hutils⟩
  · exact Or.inl (eq_append_of_after? hcomponents)
  · exact Or.inr (eq_append_of_after? hutils)

theorem span_eq_of_pattern {lineStart : Bool} {span rest : Text}
    (hfound : pattern lineStart (span ++ rest) = some rest) :
    span = defaultComponents ∨ span = defaultUtils :=
  (pattern_eq_some hfound).imp List.append_cancel_right List.append_cancel_right

theorem pattern_findsSpans : Pattern.FindsSpans pattern := by
  intro lineStart s rest hfound
  rcases pattern_eq_some hfound with rfl | rfl
  · exact ⟨defaultComponents, by decide, rfl⟩
  · exact ⟨defaultUtils, by decide, rfl⟩

theorem replace_eq_replaceFrom (components utils source : Text) :
    replace components utils source =
      Pattern.replaceFrom pattern
        (fun found => if found = defaultComponents then components else utils)
        true source := rfl

theorem replace_defaults (source : Text) :
    replace defaultComponents defaultUtils source = source := by
  rw [replace_eq_replaceFrom]
  apply pattern_findsSpans.replace_eq_self
  intro lineStart span rest hfound
  rcases span_eq_of_pattern hfound with rfl | rfl <;> decide

/-! ## Line by line -/

theorem passesOn_pattern (lineStart : Bool) : PassesOn (pattern lineStart) := by
  have hcomponents : '\n' ∉ defaultComponents := by decide
  have hutils : '\n' ∉ defaultUtils := by decide
  intro s hs t
  unfold pattern
  rw [(staysInLine_after? hcomponents).passesOn hs,
    (staysInLine_after? hutils).passesOn hs]
  cases after? defaultComponents s <;> rfl

theorem replace_append (components utils : Text) {s : Text}
    (hs : LineAligned s) (t : Text) :
    replace components utils (s ++ t) =
      replace components utils s ++ replace components utils t :=
  pattern_findsSpans.replaceFrom_append _
    (fun hlast (_ : True) => passesOn_pattern _ hlast t)
    (fun _ => id) (fun _ _ => id) hs (fun _ => rfl) trivial

/-- What may stand in place of an alias within a line. -/
structure FitsInLine (word : Text) : Prop where
  ne_nil : word ≠ []
  lineFeed : '\n' ∉ word

variable {components utils : Text}

theorem lines_replace_of_line (hcomponents : FitsInLine components)
    (hutils : FitsInLine utils) {line : Text} (hline : lines line = [line]) :
    lines (replace components utils line) = [replace components utils line] ∧
      (LineAligned line → LineAligned (replace components utils line)) := by
  refine pattern_findsSpans.lines_replaceFrom ?_ ?_ hline true
  · intro lineStart span rest hfound
    rcases span_eq_of_pattern hfound with rfl | rfl <;> decide
  · intro span
    split
    · exact ⟨hcomponents.ne_nil, hcomponents.lineFeed⟩
    · exact ⟨hutils.ne_nil, hutils.lineFeed⟩

theorem replace_flatten (components utils : Text) {ls : List Text}
    (hcut : IsCut ls) :
    replace components utils ls.flatten =
      (ls.map (replace components utils)).flatten := by
  rw [← List.flatMap_def]
  refine flatten_eq_flatMap (by simp [replace_eq_replaceFrom]) fun line hline =>
    ?_
  exact replace_append _ _ (hcut.lineAligned_of_mem_dropLast line hline)

theorem isCut_map_replace (hcomponents : FitsInLine components)
    (hutils : FitsInLine utils) {ls : List Text} (hcut : IsCut ls) :
    IsCut (ls.map (replace components utils)) := by
  induction hcut with
  | nil => exact .nil
  | cons hline haligned _ ih =>
      obtain ⟨hsingle, hkeeps⟩ := lines_replace_of_line hcomponents hutils hline
      refine .cons hsingle (fun hne => hkeeps (haligned ?_)) ih
      rintro rfl
      exact hne rfl

theorem lines_replace (hcomponents : FitsInLine components)
    (hutils : FitsInLine utils) (s : Text) :
    lines (replace components utils s) =
      (lines s).map (replace components utils) := by
  have hcut := isCut_lines s
  have hflat := replace_flatten components utils hcut
  rw [flatten_lines] at hflat
  rw [hflat]
  exact (isCut_map_replace hcomponents hutils hcut).lines_flatten

/-! ## What replacing leaves behind -/

def Holds (kind : Char → Prop) (s : Text) : Prop := ∃ c ∈ s, kind c

instance (kind : Char → Prop) [DecidablePred kind] (s : Text) :
    Decidable (Holds kind s) :=
  List.decidableBEx kind s

theorem FitsInLine.of_holds {kind : Char → Prop} {word : Text}
    (hfeed : '\n' ∉ word) (hholds : Holds kind word) : FitsInLine word := by
  obtain ⟨c, hc, -⟩ := hholds
  exact ⟨List.ne_nil_of_mem hc, hfeed⟩

/-- If the aliases, those of templates and those of the project, all hold a
character of some kind, a text without one is left as it is, and where something
is replaced there is one afterwards. -/
theorem replace_eq_self_or_holds {kind : Char → Prop}
    (hdefaults : Holds kind defaultComponents ∧ Holds kind defaultUtils)
    (hcomponents : Holds kind components) (hutils : Holds kind utils)
    (s : Text) :
    replace components utils s = s ∨
      Holds kind s ∧ Holds kind (replace components utils s) := by
  rw [replace_eq_replaceFrom]
  generalize true = lineStart
  induction lineStart, s using pattern_findsSpans.walk with
  | nil lineStart => simp
  | kept lineStart c s hnone ih =>
      rw [Pattern.replaceFrom_cons_of_none hnone]
      rcases ih with hsame | ⟨⟨d, hd, hkind⟩, ⟨e, he, hkind'⟩⟩
      · exact Or.inl (by rw [hsame])
      · exact Or.inr ⟨⟨d, List.mem_cons_of_mem c hd, hkind⟩,
          ⟨e, List.mem_cons_of_mem c he, hkind'⟩⟩
  | span lineStart span rest hne hsome _ =>
      right
      rw [Pattern.replaceFrom_append_of_some hne hsome]
      have hspan : Holds kind span := by
        rcases span_eq_of_pattern hsome with rfl | rfl
        · exact hdefaults.1
        · exact hdefaults.2
      have hword : Holds kind
          (if span = defaultComponents then components else utils) := by
        split
        · exact hcomponents
        · exact hutils
      obtain ⟨c, hc, hkind⟩ := hspan
      obtain ⟨d, hd, hkind'⟩ := hword
      exact ⟨⟨c, List.mem_append_left rest hc, hkind⟩,
        ⟨d, List.mem_append_left _ hd, hkind'⟩⟩

end Alias

end FormScaffold
