import FormScaffold.Proofs.Template.SectionFilter

/-!
# One selection after another

What a selection of kinds leaves of a template is cut into the very sections
that stay, so a second selection is asked about the same sections as the first.
To select twice is therefore to select what both selections hold, and of a
selection nothing matters but which kinds it holds among those that the template
names.
-/

namespace FormScaffold.Section

open Text

variable {chosen first second : List FieldKind} {source : Text}

/-- A marker of the template names the kind. -/
def Names (source : Text) (k : FieldKind) : Prop :=
  ∃ line ∈ lines source, Marker.id? line = some k.id

/-! ## The sections that stay -/

theorem staysWithout_iff {s : Section} :
    staysWithout (FieldKind.unchosen chosen) s = true ↔
      ∀ k : FieldKind, s.tag = .kind k.id → k ∈ chosen := by
  cases htag : s.tag with
  | body => simp [staysWithout, SectionTag.kindId?, htag]
  | kind id =>
      simp only [staysWithout, SectionTag.kindId?, htag, Bool.not_eq_true',
        List.any_eq_false, beq_iff_eq, mem_unchosen, SectionTag.kind.injEq]
      exact forall_congr' fun k => by rw [eq_comm, not_imp_not]

/-- Cutting what a selection leaves gives the sections that stay. -/
theorem split_filter (chosen : List FieldKind) (source : Text) :
    split (filter chosen source) =
      (split source).filter (staysWithout (FieldKind.unchosen chosen)) := by
  rw [filter_eq_join_filter]
  exact split_join ((wellFormed_split source).sublist List.filter_sublist)

theorem filter_congr
    (hsame : ∀ s ∈ split source,
      staysWithout (FieldKind.unchosen first) s =
        staysWithout (FieldKind.unchosen second) s) :
    filter first source = filter second source := by
  rw [filter_eq_join_filter, filter_eq_join_filter, List.filter_congr hsame]

/-- Selecting twice comes to the selection of what is in both. -/
theorem filter_filter {both : List FieldKind}
    (hboth : ∀ k, k ∈ both ↔ k ∈ first ∧ k ∈ second) (source : Text) :
    filter second (filter first source) = filter both source := by
  have hstays : ∀ s : Section,
      (staysWithout (FieldKind.unchosen second) s &&
          staysWithout (FieldKind.unchosen first) s) =
        staysWithout (FieldKind.unchosen both) s := by
    intro s
    rw [Bool.eq_iff_iff, Bool.and_eq_true, staysWithout_iff, staysWithout_iff,
      staysWithout_iff]
    constructor
    · intro h k htag
      exact (hboth k).mpr ⟨h.2 k htag, h.1 k htag⟩
    · intro h
      exact ⟨fun k htag => ((hboth k).mp (h k htag)).2,
        fun k htag => ((hboth k).mp (h k htag)).1⟩
  rw [filter_eq_join_filter second, split_filter, List.filter_filter,
    filter_eq_join_filter both]
  exact congrArg join (List.filter_congr fun s _ => hstays s)

theorem filter_eq_self (hall : ∀ k ∈ FieldKind.catalog, k ∈ chosen)
    (source : Text) : filter chosen source = source := by
  have hstays : ∀ s ∈ split source,
      staysWithout (FieldKind.unchosen chosen) s = true := by
    intro s _
    exact staysWithout_iff.mpr fun k _ => hall k k.mem_catalog
  rw [filter_eq_join_filter, List.filter_eq_self.mpr hstays, join_split]

/-! ## The kinds that a template names -/

/-- A section that is for a kind begins with a marker that names it. -/
theorem exists_marker_of_mem_split {s : Section} {id : Text}
    (hs : s ∈ split source) (htag : s.tag = .kind id) :
    ∃ line ∈ lines source, Marker.id? line = some id := by
  have hwell := wellFormed_split source
  have hheaded : s.Headed := by
    cases hsections : split source with
    | nil => simp [hsections] at hs
    | cons t rest =>
        rw [hsections] at hs hwell
        rcases List.mem_cons.mp hs with hfirst | hlater
        · have hcases := hwell.first s (by simp [hfirst])
          exact hcases.resolve_right fun h => by simp [h.1] at htag
        · exact hwell.later s hlater
  obtain ⟨head, rest, id', hlines, hid, hof, -⟩ := hheaded.exists_lines
  have hname : id' = id := by
    rw [htag] at hof
    unfold SectionTag.ofMarker at hof
    split at hof
    · cases hof
    · exact (SectionTag.kind.inj hof).symm
  refine ⟨head, ?_, hname ▸ hid⟩
  rw [← join_split source, hwell.lines_join, List.mem_flatMap]
  exact ⟨s, hs, by rw [hlines]; exact List.mem_cons_self⟩

/-- Only the kinds that the template names matter. -/
theorem filter_eq_of_names
    (hsame : ∀ k, Names source k → (k ∈ first ↔ k ∈ second)) :
    filter first source = filter second source := by
  apply filter_congr
  intro s hs
  rw [Bool.eq_iff_iff, staysWithout_iff, staysWithout_iff]
  refine forall_congr' fun k => imp_congr_right fun htag => ?_
  exact hsame k (exists_marker_of_mem_split hs htag)

/-! ## Selections compose -/

/-- To select twice is to select what is in both.  So selecting again changes
nothing, two selections may change places, and the whole catalog leaves the
template as it is, by the early way out as by its sections; only which kinds are
chosen matters, and of these only the ones that the template names. -/
theorem filter_composes (source : Text) :
    (∀ first second both : List FieldKind,
      (∀ k, k ∈ both ↔ k ∈ first ∧ k ∈ second) →
        filter second (filter first source) = filter both source) ∧
    (∀ chosen, filter chosen (filter chosen source) = filter chosen source) ∧
    (∀ first second, filter second (filter first source) =
      filter first (filter second source)) ∧
    (∀ chosen, (∀ k ∈ FieldKind.catalog, k ∈ chosen) →
      filter chosen source = source) ∧
    (∀ chosen, filter chosen source =
      join ((split source).filter
        (staysWithout (FieldKind.unchosen chosen)))) ∧
    (∀ chosen other : List FieldKind, (∀ k, k ∈ chosen ↔ k ∈ other) →
      filter chosen source = filter other source) ∧
    ∀ chosen more : List FieldKind, (∀ k ∈ more, ¬ Names source k) →
      filter (chosen ++ more) source = filter chosen source := by
  refine ⟨fun _ _ _ hboth => filter_filter hboth source, ?_, ?_,
    fun _ hall => filter_eq_self hall source,
    fun chosen => filter_eq_join_filter chosen source, ?_, ?_⟩
  · intro chosen
    exact filter_filter (fun k => (and_self_iff).symm) source
  · intro first second
    have hinter : ∀ k, k ∈ first.filter (· ∈ second) ↔ k ∈ first ∧
        k ∈ second := by
      simp
    rw [filter_filter hinter]
    exact (filter_filter (fun k => (hinter k).trans and_comm) source).symm
  · intro chosen other hsame
    exact filter_eq_of_names fun k _ => hsame k
  · intro chosen more habsent
    apply filter_eq_of_names
    intro k hk
    have hnot : k ∉ more := fun hmore => habsent k hmore hk
    simp [hnot]

/-- Of the kinds that the template names, one twice, only that one is in
both. -/
theorem filter_composes_select :
    let source := ("a\n//split//text\nb\n\t//split//select\r\nc\n" ++
      "//split//body\nd\n//split//select").toList
    let left :=
      "a\n\t//split//select\r\nc\n//split//body\nd\n//split//select".toList
    (∀ k, k ∈ [FieldKind.select] ↔
        k ∈ [FieldKind.select, .checkbox] ∧
          k ∈ [FieldKind.text, .select, .text]) ∧
      filter [.text, .select, .text] (filter [.select, .checkbox] source) =
        left ∧
      (∀ k ∈ [FieldKind.checkbox], ¬ Names source k) ∧
      filter ([.select] ++ [.checkbox]) source = left := by
  intro source left
  have hboth : ∀ k, k ∈ [FieldKind.select] ↔
      k ∈ [FieldKind.select, .checkbox] ∧
        k ∈ [FieldKind.text, .select, .text] := by
    intro k
    cases k <;> decide
  have habsent : ∀ k ∈ [FieldKind.checkbox], ¬ Names source k := by
    unfold Names
    decide +kernel
  have hleft : filter [.select] source = left := by decide +kernel
  have hcomposes := filter_composes source
  exact ⟨hboth, (hcomposes.1 _ _ _ hboth).trans hleft, habsent,
    (hcomposes.2.2.2.2.2.2 _ _ habsent).trans hleft⟩

end FormScaffold.Section
