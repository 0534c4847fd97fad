import FormScaffold.Template.Section
import FormScaffold.Proofs.Text.Lines

/-!
# Cutting a template and joining its sections

Cutting and joining are inverse to each other on well-formed lists of sections,
and cutting never gives any other list.  The walk over the lines is described by
a decomposition of the lines: some without a marker, then the lines of sections
that each begin with their own marker.  A selection of the sections of a
template is well formed again, so it is cut where the template was.
-/

namespace FormScaffold.Section

open Text

/-- The first line of the section is a marker, the only one in it, and gives
the section its tag. -/
def Headed (s : Section) : Prop :=
  ((lines s.text).head?.bind Marker.id?).map SectionTag.ofMarker = some s.tag ∧
    ∀ line ∈ (lines s.text).tail, Marker.id? line = none

instance (s : Section) : Decidable s.Headed :=
  inferInstanceAs (Decidable (_ ∧ _))

/-- The section holds no marker and is for every project. -/
def Unmarked (s : Section) : Prop :=
  s.tag = .body ∧ ∀ line ∈ lines s.text, Marker.id? line = none

instance (s : Section) : Decidable s.Unmarked :=
  inferInstanceAs (Decidable (_ ∧ _))

/-- The lists of sections that templates are cut into. -/
structure WellFormed (sections : List Section) : Prop where
  text_ne_nil : ∀ s ∈ sections, s.text ≠ []
  lineFeed : ∀ s ∈ sections.dropLast, s.text.getLast? = some '\n'
  first : ∀ s ∈ sections.head?, s.Headed ∨ s.Unmarked
  later : ∀ s ∈ sections.tail, s.Headed

instance (sections : List Section) : Decidable (WellFormed sections) :=
  decidable_of_iff
    ((∀ s ∈ sections, s.text ≠ []) ∧
      (∀ s ∈ sections.dropLast, s.text.getLast? = some '\n') ∧
      (∀ s ∈ sections.head?, s.Headed ∨ s.Unmarked) ∧
      ∀ s ∈ sections.tail, s.Headed)
    ⟨fun h => ⟨h.1, h.2.1, h.2.2.1, h.2.2.2⟩,
      fun h => ⟨h.text_ne_nil, h.lineFeed, h.first, h.later⟩⟩

theorem toList_of_ne_nil {s : Section} (hne : s.text ≠ []) :
    s.toList = [s] := by
  simp [toList, hne]

theorem Headed.exists_lines {s : Section} (hs : s.Headed) :
    ∃ head rest id, lines s.text = head :: rest ∧ Marker.id? head = some id ∧
      s.tag = SectionTag.ofMarker id ∧
      ∀ line ∈ rest, Marker.id? line = none := by
  obtain ⟨htag, hrest⟩ := hs
  cases hlines : lines s.text with
  | nil => simp [hlines] at htag
  | cons head rest =>
      rw [hlines] at htag hrest
      rcases Option.map_eq_some_iff.mp htag with ⟨id, hid, hof⟩
      exact ⟨head, rest, id, rfl, hid, hof.symm, hrest⟩

theorem Headed.text_ne_nil {s : Section} (hs : s.Headed) : s.text ≠ [] := by
  obtain ⟨head, rest, -, hlines, -⟩ := hs.exists_lines
  intro hnil
  simp [hnil, lines] at hlines

/-! ## The walk over lines -/

@[simp] theorem join_append (sections others : List Section) :
    join (sections ++ others) = join sections ++ join others := by
  simp [join]

@[simp] theorem join_toList (s : Section) : join s.toList = s.text := by
  by_cases hnil : s.text = [] <;> simp [toList, join, hnil]

theorem join_extend (current : Section) (ls : List Text) :
    join (extend current ls) = current.text ++ ls.flatten := by
  induction ls generalizing current with
  | nil => simp [extend]
  | cons line rest ih =>
      cases hid : Marker.id? line with
      | none => simp [extend, hid, ih]
      | some id => simp [extend, hid, ih]

theorem extend_append_of_unmarked (current : Section) {ls : List Text}
    (hls : ∀ line ∈ ls, Marker.id? line = none) (rest : List Text) :
    extend current (ls ++ rest) =
      extend ⟨current.tag, current.text ++ ls.flatten⟩ rest := by
  induction ls generalizing current with
  | nil => simp
  | cons line ls ih =>
      have hline : Marker.id? line = none := hls line List.mem_cons_self
      have htail := ih ⟨current.tag, current.text ++ line⟩
        fun l hl => hls l (List.mem_cons_of_mem line hl)
      simp [extend, hline, htail]

theorem Headed.extend_lines_append {s : Section} (hs : s.Headed)
    (current : Section) (rest : List Text) :
    extend current (lines s.text ++ rest) =
      current.toList ++ extend s rest := by
  obtain ⟨head, tail, id, hlines, hid, htag, htail⟩ := hs.exists_lines
  have htext : head ++ tail.flatten = s.text := by
    rw [← flatten_lines s.text, hlines]
    rfl
  rw [hlines, List.cons_append]
  simp only [extend, hid]
  rw [extend_append_of_unmarked _ htail, htext, ← htag]

theorem extend_flatMap_lines {sections : List Section}
    (hheaded : ∀ s ∈ sections, s.Headed) (current : Section) :
    extend current (sections.flatMap fun s => lines s.text) =
      current.toList ++ sections := by
  induction sections generalizing current with
  | nil => simp [extend]
  | cons s sections ih =>
      have hs : s.Headed := hheaded s List.mem_cons_self
      have hrest := ih (fun t ht => hheaded t (List.mem_cons_of_mem s ht)) s
      rw [List.flatMap_cons, hs.extend_lines_append, hrest,
        toList_of_ne_nil hs.text_ne_nil]
      rfl

/-! ## Lines fall into sections -/

/-- Lines without a marker and the lines of headed sections, in this order; a
line begins behind each section. -/
structure Decomposition (ls plain : List Text) (sections : List Section) :
    Prop where
  lines_eq : ls = plain ++ sections.flatMap fun s => lines s.text
  unmarked : ∀ line ∈ plain, Marker.id? line = none
  headed : ∀ s ∈ sections, s.Headed
  plainAligned : sections ≠ [] → LineAligned plain.flatten
  aligned : ∀ s ∈ sections.dropLast, LineAligned s.text

theorem Decomposition.ls_ne_nil {ls plain : List Text}
    {sections : List Section} (hparts : Decomposition ls plain sections)
    (hne : sections ≠ []) : ls ≠ [] := by
  obtain ⟨s, rest, rfl⟩ := List.exists_cons_of_ne_nil hne
  have hs := (hparts.headed s List.mem_cons_self).text_ne_nil
  simp [hparts.lines_eq, hs]

theorem Decomposition.cons_unmarked {ls plain : List Text}
    {sections : List Section} (hparts : Decomposition ls plain sections)
    {line : Text} (hid : Marker.id? line = none)
    (haligned : ls ≠ [] → LineAligned line) :
    Decomposition (line :: ls) (line :: plain) sections where
  lines_eq := by rw [hparts.lines_eq, List.cons_append]
  unmarked := by
    intro l hl
    rcases List.mem_cons.mp hl with rfl | hl
    · exact hid
    · exact hparts.unmarked l hl
  headed := hparts.headed
  plainAligned := by
    intro hne
    exact (haligned (hparts.ls_ne_nil hne)).append (hparts.plainAligned hne)
  aligned := hparts.aligned

theorem Decomposition.cons_marker {ls plain : List Text}
    {sections : List Section} (hparts : Decomposition ls plain sections)
    {line id : Text} (hid : Marker.id? line = some id)
    (hcut : IsCut (line :: ls)) :
    Decomposition (line :: ls) []
      (⟨SectionTag.ofMarker id, line ++ plain.flatten⟩ :: sections) := by
  have hlines : lines (line ++ plain.flatten) = line :: plain := by
    have hwhole : IsCut
        ((line :: plain) ++ sections.flatMap fun s => lines s.text) := by
      rw [List.cons_append, ← hparts.lines_eq]
      exact hcut
    simpa using hwhole.of_append.lines_flatten
  have hheaded :
      Headed ⟨SectionTag.ofMarker id, line ++ plain.flatten⟩ := by
    refine ⟨?_, ?_⟩
    · simp [hlines, hid]
    · simpa [hlines] using hparts.unmarked
  refine ⟨?_, by simp, ?_, fun _ => lineAligned_nil, ?_⟩
  · simp [hlines, hparts.lines_eq]
  · intro s hs
    rcases List.mem_cons.mp hs with rfl | hs
    · exact hheaded
    · exact hparts.headed s hs
  · rw [forall_mem_dropLast_cons]
    refine ⟨?_, hparts.aligned⟩
    intro hne
    cases hcut with
    | cons _ haligned _ =>
        exact (haligned (hparts.ls_ne_nil hne)).append
          (hparts.plainAligned hne)

theorem exists_decomposition {ls : List Text} (hcut : IsCut ls) :
    ∃ plain sections, Decomposition ls plain sections := by
  induction hcut with
  | nil => exact ⟨[], [], rfl, by simp, by simp, by simp, by simp⟩
  | @cons line rest hline haligned hrest ih =>
      obtain ⟨plain, sections, hparts⟩ := ih
      cases hid : Marker.id? line with
      | none =>
          exact ⟨line :: plain, sections,
            hparts.cons_unmarked hid haligned⟩
      | some id =>
          exact ⟨[], _, hparts.cons_marker hid (.cons hline haligned hrest)⟩

/-! ## The inverse laws -/

theorem join_split (source : Text) : join (split source) = source := by
  unfold split
  rw [join_extend, flatten_lines]
  rfl

theorem Decomposition.extend_eq {ls plain : List Text}
    {sections : List Section} (hparts : Decomposition ls plain sections)
    (current : Section) :
    extend current ls =
      toList ⟨current.tag, current.text ++ plain.flatten⟩ ++ sections := by
  rw [hparts.lines_eq, extend_append_of_unmarked _ hparts.unmarked,
    extend_flatMap_lines hparts.headed]

theorem wellFormed_of_headed {sections : List Section}
    (hheaded : ∀ s ∈ sections, s.Headed)
    (haligned : ∀ s ∈ sections.dropLast, LineAligned s.text) :
    WellFormed sections where
  text_ne_nil s hs := (hheaded s hs).text_ne_nil
  lineFeed s hs :=
    (haligned s hs).resolve_left
      (hheaded s (List.mem_of_mem_dropLast hs)).text_ne_nil
  first s hs := Or.inl (hheaded s (List.mem_of_mem_head? hs))
  later s hs := hheaded s (List.mem_of_mem_tail hs)

/-- A section without a marker may only come first. -/
theorem WellFormed.cons_unmarked {s : Section} {sections : List Section}
    (hwell : WellFormed sections) (hheaded : ∀ t ∈ sections, t.Headed)
    (hs : s.Unmarked) (hne : s.text ≠ [])
    (haligned : sections ≠ [] → LineAligned s.text) :
    WellFormed (s :: sections) := by
  refine ⟨?_, ?_, ?_, hheaded⟩
  · exact List.forall_mem_cons.mpr ⟨hne, hwell.text_ne_nil⟩
  · rw [forall_mem_dropLast_cons]
    refine ⟨?_, hwell.lineFeed⟩
    intro hsections
    exact (haligned hsections).resolve_left hne
  · intro t ht
    have hfirst : s = t := by simpa using ht
    rw [← hfirst]
    exact Or.inr hs

theorem wellFormed_split (source : Text) : WellFormed (split source) := by
  obtain ⟨plain, sections, hparts⟩ :=
    exists_decomposition (isCut_lines source)
  have hsections : WellFormed sections :=
    wellFormed_of_headed hparts.headed hparts.aligned
  unfold split
  rw [hparts.extend_eq]
  rcases eq_or_ne plain.flatten [] with hnil | hne
  · simpa [toList, hnil] using hsections
  · have hplain : lines plain.flatten = plain := by
      have hcut := isCut_lines source
      rw [hparts.lines_eq] at hcut
      exact hcut.of_append.lines_flatten
    have hunmarked : Unmarked ⟨.body, plain.flatten⟩ := by
      refine ⟨rfl, ?_⟩
      rw [hplain]
      exact hparts.unmarked
    have hfirst : toList ⟨.body, [] ++ plain.flatten⟩ =
        [⟨.body, plain.flatten⟩] := by
      simp [toList, hne]
    rw [hfirst]
    exact hsections.cons_unmarked hparts.headed hunmarked hne
      hparts.plainAligned

theorem WellFormed.lines_join {sections : List Section}
    (hwell : WellFormed sections) :
    lines (join sections) = sections.flatMap fun s => lines s.text := by
  have haligned : ∀ t ∈ (sections.map text).dropLast, LineAligned t := by
    intro t ht
    rw [← List.map_dropLast] at ht
    rcases List.mem_map.mp ht with ⟨s, hs, rfl⟩
    exact Or.inr (hwell.lineFeed s hs)
  have hflat := lines_flatten_of_aligned haligned
  rw [List.flatMap_map] at hflat
  rw [join, List.flatMap_def]
  exact hflat

theorem split_join {sections : List Section} (hwell : WellFormed sections) :
    split (join sections) = sections := by
  unfold split
  rw [hwell.lines_join]
  cases sections with
  | nil => rfl
  | cons s sections =>
      have hlater : ∀ t ∈ sections, t.Headed := hwell.later
      rcases hwell.first s rfl with hs | hs
      · rw [extend_flatMap_lines (List.forall_mem_cons.mpr ⟨hs, hlater⟩)]
        rfl
      · have hself : (⟨.body, [] ++ (lines s.text).flatten⟩ : Section) = s := by
          rw [flatten_lines, ← hs.1]
          rfl
        have hne : s.text ≠ [] := hwell.text_ne_nil s List.mem_cons_self
        rw [List.flatMap_cons, extend_append_of_unmarked _ hs.2, hself,
          extend_flatMap_lines hlater, toList_of_ne_nil hne]
        rfl

theorem WellFormed.sublist {selected sections : List Section}
    (hwell : WellFormed sections) (hsub : selected.Sublist sections) :
    WellFormed selected := by
  have hdrop : selected.dropLast.Sublist sections.dropLast := by
    have htail := hsub.reverse.tail
    rw [List.tail_reverse, List.tail_reverse] at htail
    exact List.reverse_sublist.mp htail
  refine ⟨?_, ?_, ?_, ?_⟩
  · intro s hs
    exact hwell.text_ne_nil s (hsub.subset hs)
  · intro s hs
    exact hwell.lineFeed s (hdrop.subset hs)
  · intro s hs
    have hmem : s ∈ sections := hsub.subset (List.mem_of_mem_head? hs)
    cases sections with
    | nil => simp at hmem
    | cons t sections =>
        rcases List.mem_cons.mp hmem with rfl | hmem
        · exact hwell.first s rfl
        · exact Or.inl (hwell.later s hmem)
  · intro s hs
    exact hwell.later s (hsub.tail.subset hs)

/-- Cutting and joining are inverse: a template is the join of its sections, its
sections are well formed, and every well-formed list is cut out of its join
again.  So is every selection, in their order, of the sections of a template. -/
theorem split_join_inverse :
    (∀ source, join (split source) = source) ∧
      (∀ source, WellFormed (split source)) ∧
      (∀ sections, WellFormed sections →
        split (join sections) = sections) ∧
      ∀ source selected, selected.Sublist (split source) →
        split (join selected) = selected := by
  refine ⟨join_split, wellFormed_split, fun _ => split_join, ?_⟩
  intro source selected hsub
  exact split_join ((wellFormed_split source).sublist hsub)

/-- An indented marker with a carriage return and a marker that ends the text
come through. -/
theorem split_indented_and_unfinished_markers :
    split "a\n  //split//text \r\nb\n//split//body".toList =
      [⟨.body, "a\n".toList⟩,
        ⟨.kind "text".toList, "  //split//text \r\nb\n".toList⟩,
        ⟨.body, "//split//body".toList⟩] := by
  have hwell : WellFormed
      [⟨.body, "a\n".toList⟩,
        ⟨.kind "text".toList, "  //split//text \r\nb\n".toList⟩,
        ⟨.body, "//split//body".toList⟩] := by
    decide
  exact split_join_inverse.2.2.1 _ hwell

end FormScaffold.Section
