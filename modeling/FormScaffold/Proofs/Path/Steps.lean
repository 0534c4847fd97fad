import FormScaffold.Path.Basic
import Mathlib.Data.List.Basic

/-!
# The steps of a path

Between its slashes a path says steps, up or down to a name; the rest is silent.
Joining puts the steps of two paths side by side, and a path that is written
from steps says them again.
-/

namespace FormScaffold

namespace Component

/-- How the component is written between slashes. -/
def segment : Component → Text
  | root => []
  | here => ['.']
  | up => upText
  | name n => n

/-- The component can be written between slashes, and is read there again. -/
def IsStep (c : Component) : Prop :=
  ofSegment? c.segment = some c ∧ '/' ∉ c.segment

theorem segment_of_ofSegment? {s : Text} {c : Component}
    (hread : ofSegment? s = some c) : c.segment = s := by
  unfold ofSegment? at hread
  split at hread
  next => simp at hread
  next =>
    split at hread
    next hup =>
      rw [← Option.some.inj hread, hup]
      rfl
    next =>
      rw [← Option.some.inj hread]
      rfl

theorem isStep_of_ofSegment? {s : Text} {c : Component} (hslash : '/' ∉ s)
    (hread : ofSegment? s = some c) : c.IsStep := by
  have hsegment := segment_of_ofSegment? hread
  unfold IsStep
  rw [hsegment]
  exact ⟨hread, hslash⟩

theorem isStep_up : IsStep up := by
  unfold IsStep
  decide

theorem IsStep.ne_nil {c : Component} (hc : c.IsStep) : c.segment ≠ [] := by
  intro hnil
  have hread := hc.1
  simp [hnil, ofSegment?] at hread

end Component

namespace Path

open Component

def steps (p : Path) : List Component := p.segments.filterMap ofSegment?

/-- What the path says before its steps. -/
def lead (p : Path) : List Component :=
  if p.isAbsolute then [.root]
  else if p.segments.head? = some ['.'] then [.here]
  else []

theorem steps_of_text_nil {p : Path} (hp : p.text = []) : p.steps = [] := by
  unfold steps segments
  rw [hp]
  rfl

/-! ## Segments -/

theorem slash_not_mem_of_mem_splitOn {s segment : Text}
    (hsegment : segment ∈ s.splitOn '/') : '/' ∉ segment := by
  induction s generalizing segment with
  | nil =>
      have hnil : segment = [] := by simpa using hsegment
      simp [hnil]
  | cons c s ih =>
      rw [List.splitOn_cons_eq_if_modifyHead] at hsegment
      split at hsegment
      next =>
        rcases List.mem_cons.mp hsegment with rfl | hrest
        · simp
        · exact ih hrest
      next hc =>
        cases hpieces : s.splitOn '/' with
        | nil => simp [hpieces] at hsegment
        | cons first rest =>
            rw [hpieces] at hsegment ih
            rcases List.mem_cons.mp hsegment with rfl | hrest
            · have hfirst : '/' ∉ first := ih List.mem_cons_self
              have hne : '/' ≠ c := fun h => hc (beq_iff_eq.mpr h.symm)
              simp [hfirst, hne]
            · exact ih (List.mem_cons_of_mem first hrest)

theorem isStep_of_mem_steps {p : Path} {c : Component} (hc : c ∈ p.steps) :
    c.IsStep := by
  rcases List.mem_filterMap.mp hc with ⟨s, hs, hread⟩
  exact isStep_of_ofSegment? (slash_not_mem_of_mem_splitOn hs) hread

theorem segments_cons_slash (s : Text) :
    segments ⟨'/' :: s⟩ = [] :: s.splitOn '/' :=
  List.splitOn_append_cons_self [] s

theorem exists_head_segment {p : Path} (hp : p.isAbsolute = false)
    (hne : p.text ≠ []) : ∃ first rest, p.segments = first :: rest ∧
      first ≠ [] := by
  obtain ⟨text⟩ := p
  obtain ⟨c, s, rfl⟩ := List.exists_cons_of_ne_nil hne
  have hc : (c == '/') = false := by
    simpa [isAbsolute] using hp
  unfold segments
  rw [List.splitOn_cons_eq_if_modifyHead, hc, if_neg (by simp)]
  obtain ⟨first, rest, hpieces⟩ :=
    List.exists_cons_of_ne_nil (List.splitOn_ne_nil '/' s)
  rw [hpieces]
  exact ⟨c :: first, rest, rfl, by simp⟩

theorem exists_of_isAbsolute {p : Path} (hp : p.isAbsolute = true) :
    ∃ s, p = ⟨'/' :: s⟩ := by
  obtain ⟨text⟩ := p
  cases text with
  | nil => simp [isAbsolute] at hp
  | cons c s =>
      have hc : c = '/' := by simpa [isAbsolute] using hp
      exact ⟨s, by rw [hc]⟩

theorem components_eq_lead_append_steps (p : Path) :
    p.components = p.lead ++ p.steps := by
  unfold components lead steps
  cases hsegments : p.segments with
  | nil => exact absurd hsegments (List.splitOn_ne_nil '/' p.text)
  | cons first rest =>
      by_cases habsolute : p.isAbsolute = true
      · obtain ⟨s, rfl⟩ := exists_of_isAbsolute habsolute
        rw [segments_cons_slash, List.cons.injEq] at hsegments
        simp [habsolute, ← hsegments.1, ofSegment?]
      · by_cases hhere : first = ['.']
        · simp [habsolute, hhere, ofSegment?]
        · cases hfirst : ofSegment? first <;>
            simp [habsolute, hhere, hfirst]

/-! ## Joining -/

/-- The segments of the path that stay when another path is joined to it. -/
def inner (p : Path) : List Text :=
  if p.text = [] then []
  else if p.text.getLast? = some '/' then p.segments.dropLast
  else p.segments

theorem segments_join (p : Path) {q : Path} (hq : q.isAbsolute = false) :
    (p.join q).segments = p.inner ++ q.segments := by
  unfold join inner
  rw [hq, if_neg (by simp)]
  by_cases hempty : p.text = []
  · simp [hempty, segments]
  by_cases hlast : p.text.getLast? = some '/'
  · obtain ⟨s, hs⟩ := List.getLast?_eq_some_iff.mp hlast
    rw [if_pos (Or.inr hlast), if_neg hempty, if_pos hlast]
    unfold segments
    rw [hs, List.append_assoc, List.singleton_append,
      List.splitOn_append_cons_self, List.splitOn_append_cons_self]
    simp
  · rw [if_neg (by simp [hempty, hlast]), if_neg hempty, if_neg hlast]
    exact List.splitOn_append_cons_self p.text q.text

theorem steps_inner (p : Path) : p.inner.filterMap ofSegment? = p.steps := by
  unfold inner steps segments
  by_cases hempty : p.text = []
  · simp [hempty, ofSegment?]
  by_cases hlast : p.text.getLast? = some '/'
  · obtain ⟨s, hs⟩ := List.getLast?_eq_some_iff.mp hlast
    rw [if_neg hempty, if_pos hlast, hs, List.splitOn_append_cons_self]
    simp [ofSegment?]
  · rw [if_neg hempty, if_neg hlast]

theorem steps_join (p : Path) {q : Path} (hq : q.isAbsolute = false) :
    (p.join q).steps = p.steps ++ q.steps := by
  have hinner := steps_inner p
  unfold steps at hinner ⊢
  rw [segments_join p hq, List.filterMap_append, hinner]

theorem isAbsolute_join (p : Path) {q : Path} (hq : q.isAbsolute = false) :
    (p.join q).isAbsolute = p.isAbsolute := by
  obtain ⟨text⟩ := p
  unfold join
  rw [hq, if_neg (by simp)]
  cases text with
  | nil => simpa [isAbsolute] using hq
  | cons c s =>
      split <;> simp [isAbsolute]

theorem isAbsolute_join_of_isAbsolute {p : Path} (hp : p.isAbsolute = true)
    (q : Path) : (p.join q).isAbsolute = true := by
  cases hq : q.isAbsolute with
  | false => rw [isAbsolute_join p hq, hp]
  | true =>
      unfold join
      rw [if_pos hq, hq]

/-! ## Writing steps -/

theorem segments_ofNames {cs : List Component} (hcs : ∀ c ∈ cs, c.IsStep)
    (hne : cs ≠ []) (absolute : Bool) :
    (ofNames absolute (cs.map segment)).segments =
      (if absolute then [[]] else []) ++ cs.map segment := by
  have hslash : ∀ s ∈ cs.map segment, '/' ∉ s := by
    intro s hs
    rcases List.mem_map.mp hs with ⟨c, hc, rfl⟩
    exact (hcs c hc).2
  have hsplit := List.splitOn_intercalate '/' hslash (by simpa using hne)
  cases absolute with
  | false => simpa [ofNames, segments] using hsplit
  | true =>
      unfold ofNames
      rw [if_pos rfl, List.singleton_append, segments_cons_slash, hsplit]
      rfl

theorem filterMap_ofSegment?_map_segment {cs : List Component}
    (hcs : ∀ c ∈ cs, c.IsStep) :
    (cs.map segment).filterMap ofSegment? = cs := by
  induction cs with
  | nil => rfl
  | cons c cs ih =>
      rw [List.forall_mem_cons] at hcs
      rw [List.map_cons, List.filterMap_cons_some hcs.1.1, ih hcs.2]

theorem steps_ofNames {cs : List Component} (hcs : ∀ c ∈ cs, c.IsStep)
    (absolute : Bool) : (ofNames absolute (cs.map segment)).steps = cs := by
  rcases eq_or_ne cs [] with rfl | hne
  · cases absolute <;> decide
  · unfold steps
    rw [segments_ofNames hcs hne, List.filterMap_append,
      filterMap_ofSegment?_map_segment hcs]
    cases absolute <;> rfl

theorem isAbsolute_ofNames {cs : List Component} (hcs : ∀ c ∈ cs, c.IsStep)
    (absolute : Bool) :
    (ofNames absolute (cs.map segment)).isAbsolute = absolute := by
  cases absolute with
  | true => simp [ofNames, isAbsolute]
  | false =>
      cases cs with
      | nil => rfl
      | cons c cs =>
          have hc := hcs c List.mem_cons_self
          obtain ⟨a, s, hsegment⟩ := List.exists_cons_of_ne_nil hc.ne_nil
          have hslash : a ≠ '/' := by
            rintro rfl
            exact hc.2 (by simp [hsegment])
          cases cs <;>
            simp [ofNames, isAbsolute, List.intercalate, hsegment, hslash]

theorem lead_ofNames {cs : List Component} (hcs : ∀ c ∈ cs, c.IsStep)
    (absolute : Bool) :
    (ofNames absolute (cs.map segment)).lead =
      if absolute then [.root] else [] := by
  unfold lead
  rw [isAbsolute_ofNames hcs]
  cases absolute with
  | true => rfl
  | false =>
      cases cs with
      | nil => decide
      | cons c cs =>
          have hread := (hcs c List.mem_cons_self).1
          have hhere : c.segment ≠ ['.'] := by
            intro h
            simp [h, ofSegment?] at hread
          rw [segments_ofNames hcs (by simp)]
          simp [hhere]

end Path
end FormScaffold
