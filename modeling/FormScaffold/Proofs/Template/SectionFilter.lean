import FormScaffold.Proofs.Template.SectionRoundTrip

/-!
# Filtering, line by line

A line is governed by the last marker at or before it, and stays or goes with
the identifier of that marker alone.  The filter on sections keeps exactly the
lines that stay, in their order, also where it has nothing to drop and gives the
template back as it is.
-/

namespace FormScaffold.Section

open Text

/-- The identifier of the last marker among the lines. -/
def lastId? (ls : List Text) : Option Text :=
  (ls.filterMap Marker.id?).getLast?

/-- The identifier of the last marker at line `i` or before it. -/
def governingId? (ls : List Text) (i : ℕ) : Option Text :=
  lastId? (ls.take (i + 1))

/-- Whether a line that this identifier governs belongs to every project, is of
no kind in the catalog, or is of a chosen kind. -/
def Keeps (chosen : List FieldKind) (governing : Option Text) : Prop :=
  ∀ id ∈ governing, id = Marker.bodyId ∨
    (∀ k ∈ FieldKind.catalog, k.id ≠ id) ∨ ∃ k ∈ chosen, k.id = id

instance (chosen : List FieldKind) (governing : Option Text) :
    Decidable (Keeps chosen governing) :=
  inferInstanceAs (Decidable (∀ id ∈ governing, _))

/-- The lines of the template that stay, in their order. -/
def keptLines (chosen : List FieldKind) (source : Text) : List Text :=
  ((lines source).zipIdx.filter fun (_, i) =>
    Keeps chosen (governingId? (lines source) i)).map Prod.fst

/-! ## One line after the other -/

/-- The lines that stay behind a line governed by `governing`. -/
def keptBehind (chosen : List FieldKind) :
    Option Text → List Text → List Text
  | _, [] => []
  | governing, line :: rest =>
    let here := (Marker.id? line).or governing
    if Keeps chosen here then line :: keptBehind chosen here rest
    else keptBehind chosen here rest

@[simp] theorem lastId?_nil : lastId? [] = none := rfl

theorem lastId?_append_singleton (before : List Text) (line : Text) :
    lastId? (before ++ [line]) = (Marker.id? line).or (lastId? before) := by
  unfold lastId?
  rw [List.filterMap_append, List.getLast?_append]
  cases hid : Marker.id? line <;> simp [hid]

theorem governingId?_append_cons (before : List Text) (line : Text)
    (rest : List Text) :
    governingId? (before ++ line :: rest) before.length =
      (Marker.id? line).or (lastId? before) := by
  have htake : (before ++ line :: rest).take (before.length + 1) =
      before ++ [line] := by
    simp [List.take_append]
  unfold governingId?
  rw [htake, lastId?_append_singleton]

theorem keptBehind_eq_filter_zipIdx (chosen : List FieldKind)
    (before ls : List Text) :
    ((ls.zipIdx before.length).filter fun (_, i) =>
        Keeps chosen (governingId? (before ++ ls) i)).map Prod.fst =
      keptBehind chosen (lastId? before) ls := by
  induction ls generalizing before with
  | nil => rfl
  | cons line rest ih =>
      have hnext := ih (before ++ [line])
      simp only [lastId?_append_singleton, List.append_assoc,
        List.singleton_append, List.length_append,
        List.length_singleton] at hnext
      simp only [List.zipIdx_cons, List.filter_cons, keptBehind,
        governingId?_append_cons, ← hnext]
      by_cases hkeeps : Keeps chosen ((Marker.id? line).or (lastId? before))
      · simp [hkeeps]
      · simp [hkeeps]

theorem keptLines_eq_keptBehind (chosen : List FieldKind) (source : Text) :
    keptLines chosen source = keptBehind chosen none (lines source) := by
  unfold keptLines
  simpa using keptBehind_eq_filter_zipIdx chosen [] (lines source)

/-! ## The same lines by sections -/

/-- The tag of a section whose lines this identifier governs. -/
def tagOf : Option Text → SectionTag
  | none => .body
  | some id => .ofMarker id

theorem mem_unchosen {chosen : List FieldKind} {k : FieldKind} :
    k ∈ FieldKind.unchosen chosen ↔ k ∉ chosen := by
  simp [FieldKind.unchosen, FieldKind.mem_catalog]

theorem keeps_some_iff {chosen : List FieldKind} {id : Text} :
    Keeps chosen (some id) ↔
      id = Marker.bodyId ∨ ∀ k, k ∉ chosen → k.id ≠ id := by
  constructor
  · intro h
    rcases h id rfl with hbody | hnone | ⟨l, hl, hlid⟩
    · exact Or.inl hbody
    · exact Or.inr fun k _ => hnone k k.mem_catalog
    · right
      intro k hk hid
      have heq : k = l := FieldKind.id_injective (hid.trans hlid.symm)
      exact hk (heq ▸ hl)
  · rintro (hbody | h) _ ⟨⟩
    · exact Or.inl hbody
    · right
      by_cases hchosen : ∃ k ∈ chosen, k.id = id
      · exact Or.inr hchosen
      · left
        intro k _ hid
        exact h k (fun hk => hchosen ⟨k, hk, hid⟩) hid

theorem staysWithout_tagOf (chosen : List FieldKind)
    (governing : Option Text) (text : Text) :
    staysWithout (FieldKind.unchosen chosen) ⟨tagOf governing, text⟩ =
      decide (Keeps chosen governing) := by
  cases governing with
  | none => simp [staysWithout, tagOf, SectionTag.kindId?, Keeps]
  | some id =>
      by_cases hbody : id = Marker.bodyId
      · simp [staysWithout, tagOf, SectionTag.ofMarker, SectionTag.kindId?,
          keeps_some_iff, hbody]
      · rw [Bool.eq_iff_iff, decide_eq_true_iff, keeps_some_iff]
        simp [staysWithout, tagOf, SectionTag.ofMarker, SectionTag.kindId?,
          hbody, mem_unchosen]

theorem filter_eq_join_filter (chosen : List FieldKind) (source : Text) :
    filter chosen source =
      join ((split source).filter
        (staysWithout (FieldKind.unchosen chosen))) := by
  unfold filter
  split
  next hnone =>
    have hall : ∀ s : Section, staysWithout [] s = true := by
      intro s
      cases htag : s.tag <;> simp [staysWithout, htag, SectionTag.kindId?]
    rw [hnone, List.filter_eq_self.mpr fun s _ => hall s, join_split]
  next => rfl

theorem join_filter_toList (p : Section → Bool) (s : Section) :
    join (s.toList.filter p) = if p s then s.text else [] := by
  by_cases hnil : s.text = []
  · simp [toList, hnil, join]
  · by_cases hp : p s <;> simp [toList, hnil, hp, join]

theorem join_filter_extend (chosen : List FieldKind) (governing : Option Text)
    (text : Text) (ls : List Text) :
    join ((extend ⟨tagOf governing, text⟩ ls).filter
        (staysWithout (FieldKind.unchosen chosen))) =
      (if Keeps chosen governing then text else []) ++
        (keptBehind chosen governing ls).flatten := by
  induction ls generalizing governing text with
  | nil =>
      simp [extend, join_filter_toList, staysWithout_tagOf, keptBehind]
  | cons line rest ih =>
      cases hid : Marker.id? line with
      | none =>
          simp only [extend, hid, ih, keptBehind, Option.none_or]
          split <;> simp
      | some id =>
          have hnext := ih (some id) line
          simp only [tagOf] at hnext
          simp only [extend, hid, List.filter_append, join_append,
            join_filter_toList, staysWithout_tagOf, hnext, keptBehind,
            Option.some_or, decide_eq_true_eq]
          by_cases hkeeps : Keeps chosen (some id) <;> simp [hkeeps]

/-- Filtering keeps exactly the lines whose governing identifier is absent,
marks the body, is not in the catalog or is of a chosen kind; no other line
bears on the result. -/
theorem filter_eq_flatten_keptLines (chosen : List FieldKind) (source : Text) :
    filter chosen source = (keptLines chosen source).flatten ∧
      ∀ other, keptLines chosen other = keptLines chosen source →
        filter chosen other = filter chosen source := by
  have hfilter : ∀ s, filter chosen s = (keptLines chosen s).flatten := by
    intro s
    have hwalk := join_filter_extend chosen none [] (lines s)
    rw [filter_eq_join_filter, keptLines_eq_keptBehind]
    simpa [split, tagOf] using hwalk
  refine ⟨hfilter source, ?_⟩
  intro other hkept
  rw [hfilter, hfilter, hkept]

/-- What stands in the section of an unchosen kind cannot be told from the
result. -/
theorem filter_hides_unchosen_section :
    filter [.text] "a\n //split//select\r\nb\n//split//text\nc".toList =
      filter [.text] "a\n//split//select\n\n//split//text\nc".toList :=
  (filter_eq_flatten_keptLines [.text] _).2 _ (by decide)

end FormScaffold.Section
