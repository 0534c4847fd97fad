import FormScaffold.Proofs.Path.Parent

/-!
# The name that a path ends in

A path whose last step is a name has it as its file name, and an extension is
added behind that name.  What stands behind the name in the text, slashes and
single dots, is lost by this; where nothing stands there, the extension is put
at the end.
-/

namespace FormScaffold.Path

open Component

variable {p : Path} {n : Text}

theorem getLast?_steps_of_components
    (hlast : p.components.getLast? = some (.name n)) :
    p.steps.getLast? = some (.name n) := by
  have hlead : p.lead.getLast? ≠ some (.name n) := by
    unfold lead
    split
    · simp
    · split <;> simp
  rw [components_eq_lead_append_steps, List.getLast?_append] at hlast
  cases hsteps : p.steps.getLast? with
  | none =>
      rw [hsteps, Option.none_or] at hlast
      exact absurd hlast hlead
  | some c => simpa [hsteps] using hlast

/-! ## The last segment that says something -/

/-- The body of a path that ends in a name ends in this name, and nothing behind
it says anything. -/
theorem exists_body_of_name (hlast : p.steps.getLast? = some (.name n)) :
    ∃ silent, p.inside = p.body ++ silent ∧ p.body.getLast? = some n ∧
      ofSegment? n = some (.name n) ∧ ∀ s ∈ silent, ofSegment? s = none := by
  obtain ⟨cs, hsteps⟩ := List.getLast?_eq_some_iff.mp hlast
  obtain ⟨before, s, silent, hbody, hinside, -, hname⟩ := exists_body hsteps
  obtain ⟨c, hc⟩ := exists_step_of_trimSegments hbody
  rw [List.filterMap_cons_some hc, List.cons.injEq] at hname
  obtain ⟨rfl, hsilent⟩ := hname
  have hs : n = s := segment_of_ofSegment? hc
  rw [← hs] at hc hbody hinside
  exact ⟨silent, by simp [hinside, hbody], by simp [hbody], hc,
    List.filterMap_eq_nil_iff.mp hsilent⟩

theorem fileName?_of_steps (hlast : p.steps.getLast? = some (.name n)) :
    p.fileName? = some n := by
  obtain ⟨-, -, hbody, hname, -⟩ := exists_body_of_name hlast
  have hup : n ≠ upText := by
    rintro rfl
    exact absurd hname (by decide)
  simp [fileName?, hbody, hup]

theorem hasExtension_iff (hlast : p.steps.getLast? = some (.name n)) :
    p.hasExtension = true ↔ '.' ∈ n.drop 1 := by
  simp [hasExtension, fileName?_of_steps hlast]

/-! ## Behind the name -/

theorem getLast?_segments (hsteps : p.steps ≠ []) :
    p.segments.getLast? = p.inside.getLast? := by
  obtain ⟨front, hidden, hsegments, -, hhidden, -⟩ := p.exists_front
  have hlong : ¬ p.inside.length ≤ hidden := by
    intro hshort
    apply hsteps
    rw [steps_eq_filterMap_inside, List.filterMap_eq_nil_iff]
    intro s hs
    rw [← List.take_of_length_le hshort] at hs
    rw [hhidden s hs]
    rfl
  have hdrop : (p.inside.drop hidden).getLast? = p.inside.getLast? := by
    rw [List.getLast?_drop, if_neg hlong]
  have hne : p.inside ≠ [] := by
    intro hnil
    simp [hnil] at hlong
  rw [hsegments, List.getLast?_append, hdrop, List.getLast?_eq_some_getLast hne]
  rfl

/-- The text of a path that ends in a name is its text up to the name, and a
slash before whatever stands behind the name. -/
theorem exists_behind (hlast : p.steps.getLast? = some (.name n)) :
    ∃ behind, p.text = (ofBody p.anchor p.body).text ++ behind ∧
      (p.segments.getLast? = some n ∧ behind = [] ∨
        p.segments.getLast? ≠ some n ∧ behind.head? = some '/') := by
  obtain ⟨silent, hinside, hbody, hname, hsilent⟩ := exists_body_of_name hlast
  have hsteps : p.steps ≠ [] := by
    intro hnil
    simp [hnil] at hlast
  rw [getLast?_segments hsteps, hinside]
  rcases eq_or_ne silent [] with rfl | hne
  · refine ⟨[], ?_, Or.inl ⟨by simpa using hbody, rfl⟩⟩
    rw [p.text_eq_anchor_append, hinside]
    simp [ofBody]
  · have hfirst : p.body ≠ [] := by
      intro hnil
      simp [hnil] at hbody
    refine ⟨_, (split_ofBody hinside hfirst hne).1, Or.inr ⟨?_, rfl⟩⟩
    rw [List.getLast?_append, List.getLast?_eq_some_getLast hne, Option.some_or]
    intro hlastName
    have hnone := hsilent _ (List.getLast_mem hne)
    rw [Option.some.inj hlastName, hname] at hnone
    cases hnone

/-- An extension makes another path of one that ends in a name. -/
theorem addExtension_ne (hlast : p.steps.getLast? = some (.name n))
    (extension : Text) : p.addExtension extension ≠ p := by
  obtain ⟨behind, htext, hbehind⟩ := exists_behind hlast
  intro heq
  have hsame := congrArg Path.text heq
  simp only [addExtension, fileName?_of_steps hlast] at hsame
  rw [htext] at hsame
  have hrest := List.append_cancel_left hsame
  rcases hbehind with ⟨-, hnil⟩ | ⟨-, hslash⟩
  · simp [hnil] at hrest
  · simp [← hrest] at hslash

/-- The extension is put at the end of the text just where the name stands
there. -/
theorem addExtension_eq_iff (hlast : p.steps.getLast? = some (.name n))
    (extension : Text) :
    p.addExtension extension = ⟨p.text ++ '.' :: extension⟩ ↔
      p.segments.getLast? = some n := by
  obtain ⟨behind, htext, hbehind⟩ := exists_behind hlast
  have hadd : p.addExtension extension =
      ⟨(ofBody p.anchor p.body).text ++ '.' :: extension⟩ := by
    simp [addExtension, fileName?_of_steps hlast]
  rw [hadd, htext, Path.mk.injEq, List.append_assoc, List.append_cancel_left_eq]
  rcases hbehind with ⟨hend, rfl⟩ | ⟨hend, hslash⟩
  · simp [hend]
  · obtain ⟨rest, rfl⟩ := List.head?_eq_some_iff.mp hslash
    simp [hend]

/-! ## Joining -/

theorem getLast?_steps_join (directory : Path)
    (hrelative : p.isAbsolute = false)
    (hlast : p.steps.getLast? = some (.name n)) :
    (directory.join p).steps.getLast? = some (.name n) := by
  rw [steps_join directory hrelative, List.getLast?_append, hlast,
    Option.some_or]

theorem getLast?_segments_join (directory : Path)
    (hrelative : p.isAbsolute = false) :
    (directory.join p).segments.getLast? = p.segments.getLast? := by
  have hne : p.segments ≠ [] := List.splitOn_ne_nil '/' p.text
  rw [segments_join directory hrelative, List.getLast?_append,
    List.getLast?_eq_some_getLast hne, Option.some_or]

/-- What is put behind a relative path is put behind the joined path. -/
theorem join_append (directory : Path) (hrelative : p.isAbsolute = false)
    (hne : p.text ≠ []) (s : Text) :
    directory.join ⟨p.text ++ s⟩ = ⟨(directory.join p).text ++ s⟩ := by
  have hlonger : isAbsolute ⟨p.text ++ s⟩ = false := by
    rw [← hrelative]
    unfold isAbsolute
    rw [List.head?_append_of_ne_nil _ hne]
  unfold join
  rw [hrelative, hlonger]
  simp only [Bool.false_eq_true, if_false]
  split <;> simp

end FormScaffold.Path
