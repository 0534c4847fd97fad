import FormScaffold.Proofs.Path.Steps
import Mathlib.Data.List.DropRight

/-!
# The path above a path

The path above another is its text up to a slash.  It takes off the last step
and nothing else, and it ends in the step before that one, so that the path
above a written path says where the last step is made.
-/

namespace FormScaffold.Path

open Component

/-! ## Silent segments -/

theorem exists_silent_of_trimSegments (segments : List Text) :
    ∃ silent, segments = trimSegments segments ++ silent ∧
      ∀ s ∈ silent, ofSegment? s = none := by
  refine ⟨segments.rtakeWhile fun s => (ofSegment? s).isNone, ?_, ?_⟩
  · exact List.rdropWhile_append_rtakeWhile.symm
  · intro s hs
    have hsilent := List.mem_rtakeWhile_imp hs
    exact Option.isNone_iff_eq_none.mp hsilent

theorem exists_step_of_trimSegments {segments before : List Text} {s : Text}
    (htrim : trimSegments segments = before ++ [s]) :
    ∃ c, ofSegment? s = some c := by
  have hne : trimSegments segments ≠ [] := by simp [htrim]
  have hlast := List.rdropWhile_last_not
    (fun s => (ofSegment? s).isNone) segments hne
  change ¬ (ofSegment? ((trimSegments segments).getLast hne)).isNone at hlast
  simp only [htrim, List.getLast_concat] at hlast
  exact Option.ne_none_iff_exists'.mp fun hnone => hlast (by simp [hnone])

theorem filterMap_trimSegments (segments : List Text) :
    (trimSegments segments).filterMap ofSegment? =
      segments.filterMap ofSegment? := by
  obtain ⟨silent, hsplit, hsilent⟩ := exists_silent_of_trimSegments segments
  conv_rhs => rw [hsplit]
  rw [List.filterMap_append, List.filterMap_eq_nil_iff.mpr hsilent,
    List.append_nil]

/-! ## Segments behind the anchor -/

/-- The segments behind the anchor. -/
def inside (p : Path) : List Text := (p.text.drop p.anchor.length).splitOn '/'

theorem intercalate_append {first second : List Text} (hfirst : first ≠ [])
    (hsecond : second ≠ []) :
    List.intercalate ['/'] (first ++ second) =
      List.intercalate ['/'] first ++ '/' :: List.intercalate ['/'] second := by
  induction first with
  | nil => exact absurd rfl hfirst
  | cons s first ih =>
      cases first with
      | nil =>
          cases second with
          | nil => exact absurd rfl hsecond
          | cons t second => simp [List.intercalate]
      | cons t first =>
          have htail := ih (by simp)
          simp only [List.cons_append, List.intercalate_cons_cons] at htail ⊢
          rw [htail]
          simp

theorem text_eq_intercalate (p : Path) :
    p.text = List.intercalate ['/'] p.segments :=
  (List.intercalate_splitOn '/').symm

theorem segments_of_dot {p : Path} (hhead : p.segments.head? = some ['.']) :
    ∃ rest, p.segments = ['.'] :: rest ∧
      (p.text.drop 1).splitOn '/' = [] :: rest ∧ p.text.take 1 = ['.'] := by
  obtain ⟨rest, hsegments⟩ : ∃ rest, p.segments = ['.'] :: rest := by
    cases hsegments : p.segments with
    | nil => simp [hsegments] at hhead
    | cons first rest => exact ⟨rest, by simp_all⟩
  have htext := p.text_eq_intercalate
  refine ⟨rest, hsegments, ?_⟩
  rcases eq_or_ne rest [] with rfl | hne
  · have hdot : p.text = ['.'] := by
      rw [htext, hsegments]
      rfl
    simp [hdot]
  · have hslash : ∀ s ∈ rest, '/' ∉ s := by
      intro s hs
      apply slash_not_mem_of_mem_splitOn
      change s ∈ p.segments
      rw [hsegments]
      exact List.mem_cons_of_mem _ hs
    have hdot : p.text = '.' :: '/' :: List.intercalate ['/'] rest := by
      have hjoin := @intercalate_append [['.']] rest (by simp) hne
      rw [htext, hsegments]
      simpa using hjoin
    have hsplit := List.splitOn_append_cons_self (a := '/') []
      (List.intercalate ['/'] rest)
    rw [List.splitOn_intercalate '/' hslash hne] at hsplit
    rw [hdot]
    exact ⟨hsplit, rfl⟩

theorem anchor_of_isAbsolute {p : Path} (hp : p.isAbsolute = true) :
    p.anchor = ['/'] := by
  unfold anchor
  rw [if_pos hp]

theorem text_eq_anchor_append (p : Path) :
    p.text = p.anchor ++ List.intercalate ['/'] p.inside := by
  unfold inside
  rw [List.intercalate_splitOn]
  by_cases hp : p.isAbsolute = true
  · obtain ⟨s, rfl⟩ := exists_of_isAbsolute hp
    rw [anchor_of_isAbsolute hp]
    rfl
  · unfold anchor
    rw [if_neg hp]
    split
    next hhead =>
      obtain ⟨rest, -, -, htake⟩ := segments_of_dot hhead
      conv_lhs => rw [← List.take_append_drop 1 p.text, htake]
      rfl
    next => rfl

/-- Before the segments behind the anchor stands nothing that is a step, and at
most the first of them is a part of the anchor. -/
theorem exists_front (p : Path) :
    ∃ front hidden, p.segments = front ++ p.inside.drop hidden ∧
      (∀ s ∈ front, ofSegment? s = none) ∧
      (∀ s ∈ p.inside.take hidden, s = []) ∧ hidden ≤ 1 := by
  unfold inside
  by_cases hp : p.isAbsolute = true
  · obtain ⟨s, rfl⟩ := exists_of_isAbsolute hp
    rw [anchor_of_isAbsolute hp, segments_cons_slash]
    exact ⟨[[]], 0, rfl, by decide, by simp, by omega⟩
  · unfold anchor
    rw [if_neg hp]
    split
    next hhead =>
      obtain ⟨rest, hsegments, hinside, -⟩ := segments_of_dot hhead
      rw [hsegments, List.length_singleton, hinside]
      exact ⟨[['.']], 1, rfl, by decide, by simp, by omega⟩
    next => exact ⟨[], 0, rfl, by simp, by simp, by omega⟩

theorem steps_eq_filterMap_inside (p : Path) :
    p.steps = p.inside.filterMap ofSegment? := by
  obtain ⟨front, hidden, hsegments, hfront, hhidden, -⟩ := p.exists_front
  have hsilent : (p.inside.take hidden).filterMap ofSegment? = [] := by
    apply List.filterMap_eq_nil_iff.mpr
    intro s hs
    rw [hhidden s hs]
    rfl
  calc
    p.steps = (p.inside.drop hidden).filterMap ofSegment? := by
      unfold steps
      rw [hsegments, List.filterMap_append,
        List.filterMap_eq_nil_iff.mpr hfront, List.nil_append]
    _ = (p.inside.take hidden ++ p.inside.drop hidden).filterMap
      ofSegment? := by
      rw [List.filterMap_append, hsilent, List.nil_append]
    _ = p.inside.filterMap ofSegment? := by
      rw [List.take_append_drop]

theorem slash_not_mem_of_mem_inside {p : Path} {s : Text}
    (hs : s ∈ p.inside) : '/' ∉ s :=
  slash_not_mem_of_mem_splitOn hs

/-! ## The path above -/

/-- The last segment of the path is a step. -/
def EndsInStep (p : Path) : Prop :=
  ∃ before s c, p.segments = before ++ [s] ∧ ofSegment? s = some c

/-- The first path is the beginning of the second, and says the given steps. -/
structure IsAbove (q p : Path) (cs : List Component) : Prop where
  isAbsolute : q.isAbsolute = p.isAbsolute
  steps : q.steps = cs
  text : ∃ rest, rest ≠ [] ∧ p.text = q.text ++ rest
  last : cs ≠ [] → q.EndsInStep

theorem IsAbove.length_lt {q p : Path} {cs : List Component}
    (habove : IsAbove q p cs) : q.text.length < p.text.length := by
  obtain ⟨rest, hrest, htext⟩ := habove.text
  have hpos := List.length_pos_of_ne_nil hrest
  rw [htext, List.length_append]
  omega

theorem isAbove_anchor {p : Path} (hsteps : p.steps ≠ []) :
    IsAbove ⟨p.anchor⟩ p [] where
  isAbsolute := by
    unfold anchor
    split
    next hp =>
      rw [hp]
      rfl
    next hp =>
      have hrelative : p.isAbsolute = false := by simpa using hp
      rw [hrelative]
      split <;> rfl
  steps := by
    unfold anchor
    split
    · decide
    · split <;> decide
  text := by
    refine ⟨List.intercalate ['/'] p.inside, ?_, p.text_eq_anchor_append⟩
    intro hnil
    apply hsteps
    unfold inside at hnil
    rw [List.intercalate_splitOn] at hnil
    rw [steps_eq_filterMap_inside, inside, hnil]
    rfl
  last := by
    intro h
    exact absurd rfl h

theorem split_ofBody {p : Path} {first second : List Text}
    (hinside : p.inside = first ++ second) (hfirst : first ≠ [])
    (hsecond : second ≠ []) :
    p.text = (ofBody p.anchor first).text ++
        '/' :: List.intercalate ['/'] second ∧
      p.segments = (ofBody p.anchor first).segments ++ second := by
  have hslash : ∀ s ∈ second, '/' ∉ s := by
    intro s hs
    apply slash_not_mem_of_mem_inside (p := p)
    rw [hinside]
    exact List.mem_append_right first hs
  have htext : p.text = (ofBody p.anchor first).text ++
      '/' :: List.intercalate ['/'] second := by
    rw [p.text_eq_anchor_append, hinside, intercalate_append hfirst hsecond]
    simp [ofBody]
  have hsplit := List.splitOn_append_cons_self (a := '/')
    (ofBody p.anchor first).text (List.intercalate ['/'] second)
  rw [List.splitOn_intercalate '/' hslash hsecond, ← htext] at hsplit
  exact ⟨htext, hsplit⟩

theorem isAbsolute_ofBody {p : Path} {first : List Text} {rest : Text}
    (htext : p.text = (ofBody p.anchor first).text ++ '/' :: rest) :
    (ofBody p.anchor first).isAbsolute = p.isAbsolute := by
  cases hq : (ofBody p.anchor first).text with
  | nil =>
      exfalso
      rw [hq] at htext
      have hp : p.isAbsolute = true := by
        unfold isAbsolute
        rw [htext]
        rfl
      simp [ofBody, anchor_of_isAbsolute hp] at hq
  | cons a text =>
      unfold isAbsolute
      rw [htext, hq]
      rfl

/-- What is in front of further segments ends in a step if the segments behind
the anchor do. -/
theorem endsInStep_of_segments {p q : Path} {before second : List Text}
    {s : Text} {c : Component} (hinside : p.inside = (before ++ [s]) ++ second)
    (hs : ofSegment? s = some c)
    (hsegments : p.segments = q.segments ++ second) :
    q.EndsInStep := by
  obtain ⟨front, hidden, hfront, -, hhidden, hone⟩ := p.exists_front
  have hshort : hidden ≤ before.length := by
    by_contra hlong
    have hbefore : before = [] := List.length_eq_zero_iff.mp (by omega)
    have hnil : s = [] := by
      apply hhidden
      rw [hinside, hbefore, show hidden = 1 by omega]
      simp
    rw [hnil] at hs
    cases hs
  refine ⟨front ++ before.drop hidden, s, c, ?_, hs⟩
  have hwhole : q.segments ++ second =
      (front ++ before.drop hidden ++ [s]) ++ second := by
    rw [← hsegments, hfront, hinside, List.append_assoc before,
      List.drop_append_of_le_length hshort]
    simp
  exact List.append_cancel_right hwhole

theorem isAbove_ofBody {p : Path} {before second : List Text}
    {cs : List Component} {s : Text} {c d : Component}
    (hinside : p.inside = (before ++ [s]) ++ second) (hsecond : second ≠ [])
    (hsteps : p.steps = cs ++ [c]) (hc : second.filterMap ofSegment? = [c])
    (hs : ofSegment? s = some d) :
    IsAbove (ofBody p.anchor (before ++ [s])) p cs := by
  obtain ⟨htext, hsegments⟩ := split_ofBody hinside (by simp) hsecond
  refine ⟨isAbsolute_ofBody htext, ?_, ⟨_, by simp, htext⟩, ?_⟩
  · have hsplit : p.steps = (ofBody p.anchor (before ++ [s])).steps ++ [c] := by
      rw [← hc]
      unfold steps
      rw [hsegments, List.filterMap_append]
    exact List.append_cancel_right (hsplit.symm.trans hsteps)
  · intro _
    exact endsInStep_of_segments hinside hs hsegments

/-- The body of the path ends in the segment of its last step. -/
theorem exists_body {p : Path} {cs : List Component} {c : Component}
    (hsteps : p.steps = cs ++ [c]) :
    ∃ before s silent, p.body = before ++ [s] ∧
      p.inside = before ++ s :: silent ∧ before.filterMap ofSegment? = cs ∧
      (s :: silent).filterMap ofSegment? = [c] := by
  obtain ⟨silent, hinside, hsilent⟩ := exists_silent_of_trimSegments p.inside
  change p.inside = p.body ++ silent at hinside
  have hbody : p.body.filterMap ofSegment? = cs ++ [c] := by
    rw [← hsteps, steps_eq_filterMap_inside]
    exact filterMap_trimSegments p.inside
  rcases List.eq_nil_or_concat p.body with hnil | ⟨before, s, hlast⟩
  · rw [hnil] at hbody
    simp at hbody
  rw [List.concat_eq_append] at hlast
  obtain ⟨b, hb⟩ := exists_step_of_trimSegments hlast
  rw [hlast, List.filterMap_append, List.filterMap_cons_some hb] at hbody
  obtain ⟨hbefore, hbc⟩ := List.append_inj' hbody rfl
  refine ⟨before, s, silent, hlast, ?_, hbefore, ?_⟩
  · rw [hinside, hlast]
    simp
  · rw [List.filterMap_cons_some hb, List.filterMap_eq_nil_iff.mpr hsilent]
    exact hbc

/-- The path above takes off the last step; with no segment left it is the
anchor by itself. -/
theorem exists_parent {p : Path} {cs : List Component} {c : Component}
    (hsteps : p.steps = cs ++ [c]) :
    ∃ q, p.parent? = some q ∧ IsAbove q p cs := by
  obtain ⟨before, s, silent, hbody, hinside, hbefore, hlast⟩ :=
    exists_body hsteps
  obtain ⟨middle, hsplit, hmiddle⟩ := exists_silent_of_trimSegments before
  have hparent : p.parent? = some (ofBody p.anchor (trimSegments before)) := by
    unfold parent?
    rw [hbody]
    split
    next hnil => simp at hnil
    next => rw [List.dropLast_concat]
  refine ⟨_, hparent, ?_⟩
  rcases List.eq_nil_or_concat (trimSegments before) with hnone |
    ⟨rest, t, hrest⟩
  · have hcs : cs = [] := by
      rw [← hbefore, ← filterMap_trimSegments, hnone]
      rfl
    have hanchor : ofBody p.anchor (trimSegments before) = ⟨p.anchor⟩ := by
      rw [hnone]
      simp [ofBody, List.intercalate]
    rw [hanchor, hcs]
    exact isAbove_anchor (by simp [hsteps])
  · rw [List.concat_eq_append] at hrest
    obtain ⟨d, hd⟩ := exists_step_of_trimSegments hrest
    rw [hrest] at hsplit ⊢
    have hpieces : p.inside = (rest ++ [t]) ++ (middle ++ s :: silent) := by
      rw [hinside, hsplit, List.append_assoc]
    refine isAbove_ofBody hpieces (by simp) hsteps ?_ hd
    rw [List.filterMap_append, List.filterMap_eq_nil_iff.mpr hmiddle, hlast]
    rfl

/-- The path above a path says its steps without the last one. -/
theorem steps_of_parent {p q : Path} (hparent : p.parent? = some q) :
    q.steps = p.steps.dropLast ∧ q.isAbsolute = p.isAbsolute := by
  rcases List.eq_nil_or_concat p.steps with hnil | ⟨cs, c, hsteps⟩
  · have hbody : p.body = [] := by
      by_contra hne
      obtain ⟨before, s, hlast⟩ :=
        (List.eq_nil_or_concat p.body).resolve_left hne
      rw [List.concat_eq_append] at hlast
      obtain ⟨c, hc⟩ := exists_step_of_trimSegments hlast
      have hsteps : p.steps = p.body.filterMap Component.ofSegment? := by
        rw [steps_eq_filterMap_inside]
        exact (filterMap_trimSegments p.inside).symm
      simp [hsteps, hlast, hc] at hnil
    simp only [parent?, hbody] at hparent
    split at hparent
    next hdot =>
      cases hparent
      have hp : p.isAbsolute = false := by
        by_contra habsolute
        rw [anchor_of_isAbsolute (by simpa using habsolute)] at hdot
        simp at hdot
      rw [hnil, hp]
      exact ⟨rfl, rfl⟩
    next => cases hparent
  · rw [List.concat_eq_append] at hsteps
    obtain ⟨above, habove, his⟩ := exists_parent hsteps
    obtain rfl : above = q := Option.some.inj (habove.symm.trans hparent)
    rw [his.steps, hsteps, List.dropLast_concat]
    exact ⟨rfl, his.isAbsolute⟩

end FormScaffold.Path
