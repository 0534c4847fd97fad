import FormScaffold.Json.Scan
import FormScaffold.Proofs.Text.Slice
import Mathlib.Data.List.TakeWhile

/-!
# Scans by positions

A position that a scan reaches lies between two characters of the text, so the
text can be cut there, and every step leads further.  So a scan comes to the end
of every text, and writes what the walk writes that takes its stretches off the
text itself.
-/

namespace FormScaffold

namespace Text

/-- A position in bytes that lies within a text and not inside a character. -/
def IsBoundary (n : ℕ) (s : Text) : Prop :=
  ∃ before behind, s = before ++ behind ∧ n = before.byteSize

end Text

namespace Json.Relaxed

variable {span? : Text → Option (Option (Text × ℕ))}
  {skip? : Text → Option (Text × Text)} {source s written rest : Text}
  {cursor next : Cursor} {c : Char}

/-! ## Stretches and their sizes -/

/-- `span?` measures what `skip?` takes off a text. -/
structure Measures (span? : Text → Option (Option (Text × ℕ)))
    (skip? : Text → Option (Text × Text)) : Prop where
  kept : ∀ {s}, skip? s = none → span? s = some none
  taken : ∀ {s written rest}, skip? s = some (written, rest) →
    ∃ stretch, s = stretch ++ rest ∧ stretch ≠ [] ∧
      span? s = some (some (written, stretch.byteSize))
  quote : ∀ s, skip? ('"' :: s) = none

theorem Measures.length_lt (m : Measures span? skip?)
    (h : skip? s = some (written, rest)) : rest.length < s.length := by
  obtain ⟨stretch, rfl, hne, -⟩ := m.taken h
  have hlength := List.length_pos_of_ne_nil hne
  rw [List.length_append]
  omega

theorem find?_lineFeed (s : Text) :
    (Text.find? ['\n'] s).getD s.byteSize =
      Text.byteSize (s.takeWhile (fun c => c != '\n')) := by
  induction s with
  | nil => rfl
  | cons c s ih =>
      by_cases hc : c = '\n'
      · subst hc
        rfl
      · have hlead : ['\n'].isPrefixOf (c :: s) = false := by
          simp [List.isPrefixOf, Ne.symm hc]
        rw [Text.find?, hlead, List.takeWhile_cons_of_pos (by simpa using hc),
          Text.byteSize_cons, Text.byteSize_cons, ← ih]
        cases Text.find? ['\n'] s <;> rfl

/-- What the size of a comment between slash and star is counted from: how far
its end is, if it has one. -/
theorem find?_close (s : Text) :
    match Text.find? "*/".toList s with
    | some i =>
        ∃ body, s = body ++ '*' :: '/' :: afterClose s ∧ i = body.byteSize
    | none => afterClose s = [] := by
  fun_induction afterClose s with
  | case1 s => exact ⟨[], rfl, rfl⟩
  | case2 c s hopen ih =>
      have hlead : "*/".toList.isPrefixOf (c :: s) = false := by
        apply Text.isPrefixOf_eq_false
        intro rest heq
        cases heq
        exact hopen rest rfl rfl
      rw [Text.find?, hlead]
      cases hfind : Text.find? "*/".toList s with
      | none =>
          rw [hfind] at ih
          exact ih
      | some i =>
          rw [hfind] at ih
          obtain ⟨body, hs, rfl⟩ := ih
          refine ⟨c :: body, ?_, (Text.byteSize_cons c body).symm⟩
          rw [List.cons_append, ← hs]
  | case3 => rfl

theorem commentSpan?_line (s : Text) :
    commentSpan? ('/' :: '/' :: s) =
      some (some ([],
        Text.byteSize ('/' :: '/' :: s.takeWhile (fun c => c != '\n')))) := by
  have hsize := find?_lineFeed ('/' :: '/' :: s)
  rw [List.takeWhile_cons_of_pos (by decide),
    List.takeWhile_cons_of_pos (by decide)] at hsize
  rw [← hsize]
  rfl

theorem commentSpan?_block (s : Text) :
    commentSpan? ('/' :: '*' :: s) = some (some ([' '],
      match Text.find? "*/".toList s with
      | some i => i + 4
      | none => Text.byteSize ('/' :: '*' :: s))) := by
  have hslice : Text.sliceFrom? 2 ('/' :: '*' :: s) = some s :=
    Text.sliceFrom?_append ['/', '*'] s
  change (Text.sliceFrom? 2 ('/' :: '*' :: s) >>= fun behind => _) = _
  rw [hslice]
  rfl

/-- The stretch of a comment between slash and star, which has the size
measured.  A comment that is not closed takes all the rest. -/
theorem exists_block (s : Text) :
    ∃ stretch : Text, '/' :: '*' :: s = stretch ++ afterClose s ∧ stretch ≠ [] ∧
      commentSpan? ('/' :: '*' :: s) =
        some (some ([' '], stretch.byteSize)) := by
  have hclose := find?_close s
  have hspan := commentSpan?_block s
  cases hfind : Text.find? "*/".toList s with
  | none =>
      simp only [hfind] at hclose hspan
      refine ⟨'/' :: '*' :: s, ?_, by simp, hspan⟩
      rw [hclose, List.append_nil]
  | some i =>
      simp only [hfind] at hclose hspan
      obtain ⟨body, hs, rfl⟩ := hclose
      refine ⟨'/' :: '*' :: (body ++ ['*', '/']), ?_, by simp, ?_⟩
      · conv_lhs => rw [hs]
        simp
      · have hsize : Text.byteSize ('/' :: '*' :: (body ++ ['*', '/'])) =
            body.byteSize + 4 := by
          rw [Text.byteSize_cons, Text.byteSize_cons, Text.byteSize_append]
          change 1 + (1 + (body.byteSize + 2)) = _
          omega
        rw [hspan, hsize]

theorem measures_comment : Measures commentSpan? comment? where
  kept := by
    intro s hnone
    unfold comment? at hnone
    split at hnone
    next => cases hnone
    next => cases hnone
    next hline hblock =>
      have hline : "//".toList.isPrefixOf s = false :=
        Text.isPrefixOf_eq_false hline
      have hblock : "/*".toList.isPrefixOf s = false :=
        Text.isPrefixOf_eq_false hblock
      unfold commentSpan?
      simp only [hline, hblock]
      rfl
  taken := by
    intro s written rest hsome
    unfold comment? at hsome
    split at hsome
    next s =>
      cases hsome
      refine ⟨'/' :: '/' :: s.takeWhile (fun c => c != '\n'), ?_, by simp,
        commentSpan?_line s⟩
      rw [List.cons_append, List.cons_append, List.takeWhile_append_dropWhile]
    next s =>
      cases hsome
      exact exists_block s
    next => cases hsome
  quote := fun _ => rfl

theorem eq_of_trailingComma? (h : trailingComma? s = some (written, rest)) :
    s = ',' :: rest ∧ written = [] := by
  unfold trailingComma? at h
  split at h
  next s =>
    split at h
    next =>
      split at h <;> cases h
      exact ⟨rfl, rfl⟩
    next => cases h
  next => cases h

theorem trailingCommaSpan?_comma (s : Text) :
    trailingCommaSpan? (',' :: s) =
      some ((trailingComma? (',' :: s)).map fun _ => ([], 1)) := by
  have hslice : Text.sliceFrom? 1 (',' :: s) = some s :=
    Text.sliceFrom?_append [','] s
  change (Text.sliceFrom? 1 (',' :: s) >>= fun behind => _) = _
  rw [hslice]
  simp only [trailingComma?, Option.bind_eq_bind, Option.bind_some]
  cases Text.trimStart s with
  | nil => rfl
  | cons c t =>
      simp only [List.isPrefixOf, Bool.and_true, Bool.or_eq_true, beq_iff_eq,
        eq_comm (b := c)]
      split <;> rfl

theorem measures_trailingComma :
    Measures trailingCommaSpan? trailingComma? where
  kept := by
    intro s hnone
    by_cases hcomma : ∃ s', s = ',' :: s'
    · obtain ⟨s', rfl⟩ := hcomma
      rw [trailingCommaSpan?_comma, hnone]
      rfl
    · have hlead : [','].isPrefixOf s = false :=
        Text.isPrefixOf_eq_false fun rest heq => hcomma ⟨rest, heq⟩
      unfold trailingCommaSpan?
      rw [hlead]
      rfl
  taken := by
    intro s written rest hsome
    obtain ⟨rfl, rfl⟩ := eq_of_trailingComma? hsome
    refine ⟨[','], rfl, by simp, ?_⟩
    rw [trailingCommaSpan?_comma, hsome]
    rfl
  quote := fun _ => rfl

/-- Along a walk: at each place a character is kept, or a stretch is taken
off. -/
theorem Measures.walk_induction (m : Measures span? skip?)
    {motive : Place → Text → Prop} (nil : ∀ place, motive place [])
    (kept : ∀ place c s, (place = .outside → skip? (c :: s) = none) →
      motive (place.next c) s → motive place (c :: s))
    (taken : ∀ c s written rest, skip? (c :: s) = some (written, rest) →
      rest.length < (c :: s).length → motive .outside rest →
      motive .outside (c :: s))
    (place : Place) (s : Text) : motive place s := by
  induction hlength : s.length using Nat.strong_induction_on generalizing place
    s with
  | h n ih =>
      subst hlength
      cases s with
      | nil => exact nil place
      | cons c s =>
          by_cases hskip : place = .outside → skip? (c :: s) = none
          · exact kept place c s hskip (ih _ (Nat.lt_succ_self _) _ s rfl)
          · obtain ⟨rfl, hne⟩ := Classical.not_imp.mp hskip
            obtain ⟨⟨written, rest⟩, hsome⟩ := Option.ne_none_iff_exists'.mp hne
            have hshorter := m.length_lt hsome
            exact taken c s written rest hsome hshorter
              (ih _ hshorter _ rest rfl)

/-! ## Steps -/

/-- The scan stands in front of this rest of the text. -/
def Stands (source : Text) (cursor : Cursor) (rest : Text) : Prop :=
  ∃ before, source = before ++ rest ∧ cursor.offset = before.byteSize

namespace Stands

theorem start (source : Text) : Stands source .start source := ⟨[], rfl, rfl⟩

theorem isBoundary (h : Stands source cursor rest) :
    Text.IsBoundary cursor.offset source := by
  obtain ⟨before, hsource, hoffset⟩ := h
  exact ⟨before, rest, hsource, hoffset⟩

theorem offset_lt_iff (h : Stands source cursor rest) :
    cursor.offset < source.byteSize ↔ rest ≠ [] := by
  obtain ⟨before, rfl, hoffset⟩ := h
  rw [hoffset, Text.byteSize_append]
  constructor
  · rintro hlt rfl
    rw [Text.byteSize_nil] at hlt
    omega
  · intro hne
    have hpos := Text.byteSize_pos hne
    omega

theorem sliceFrom? (h : Stands source cursor rest) :
    Text.sliceFrom? cursor.offset source = some rest := by
  obtain ⟨before, rfl, hoffset⟩ := h
  rw [hoffset, Text.sliceFrom?_append]

theorem move (stretch : Text) (h : Stands source cursor (stretch ++ rest))
    (hnext : next.offset = cursor.offset + stretch.byteSize) :
    Stands source next rest := by
  obtain ⟨before, rfl, hoffset⟩ := h
  refine ⟨before ++ stretch, (List.append_assoc before stretch rest).symm, ?_⟩
  rw [hnext, hoffset, Text.byteSize_append]

end Stands

/-- A step leads on from here, to another place between two characters, and what
it writes is what the walk writes up to there. -/
def Advances (span? : Text → Option (Option (Text × ℕ)))
    (skip? : Text → Option (Text × Text))
    (source : Text) (cursor : Cursor) (rest : Text) : Prop :=
  ∃ written next more, advance? span? source cursor =
    some (some (written, next)) ∧
    cursor.offset < next.offset ∧ Stands source next more ∧
    more.length < rest.length ∧
    copy skip? cursor.place rest = written ++ copy skip? next.place more

namespace Measures

variable (m : Measures span? skip?)

include m

theorem advances_of_kept (h : Stands source cursor (c :: s))
    (hkept : cursor.place = .outside → skip? (c :: s) = none) :
    Advances span? skip? source cursor (c :: s) := by
  have hadvance : advance? span? source cursor =
      some (some ([c], ⟨cursor.offset + c.utf8Size, cursor.place.next c⟩)) := by
    simp only [advance?, h.sliceFrom?, Option.bind_eq_bind, Option.bind_some]
    split
    next hread =>
      rw [m.kept (hkept hread.1)]
      rfl
    next => rfl
  refine ⟨[c], _, s, hadvance, Nat.lt_add_of_pos_right c.utf8Size_pos, ?_,
    Nat.lt_succ_self _, copy_cons hkept⟩
  exact Stands.move [c] h (by simp [Text.byteSize_cons])

theorem advances_of_taken (h : Stands source cursor (c :: s))
    (hplace : cursor.place = .outside)
    (htaken : skip? (c :: s) = some (written, rest)) :
    Advances span? skip? source cursor (c :: s) := by
  obtain ⟨stretch, hs, hne, hspan⟩ := m.taken htaken
  have hquote : c ≠ '"' := by
    rintro rfl
    rw [m.quote] at htaken
    cases htaken
  have hadvance : advance? span? source cursor =
      some (some (written, ⟨cursor.offset + stretch.byteSize, .outside⟩)) := by
    simp only [advance?, h.sliceFrom?, Option.bind_eq_bind, Option.bind_some]
    rw [if_pos ⟨hplace, hquote⟩, hspan, hplace]
    rfl
  have hshorter := m.length_lt htaken
  refine ⟨written, _, rest, hadvance,
    Nat.lt_add_of_pos_right (Text.byteSize_pos hne), ?_, hshorter, ?_⟩
  · exact Stands.move stretch (hs ▸ h) rfl
  · rw [hplace]
    exact copy_of_some htaken hshorter

/-- A scan makes a step wherever something follows. -/
theorem advances (h : Stands source cursor (c :: s)) :
    Advances span? skip? source cursor (c :: s) := by
  by_cases hplace : cursor.place = .outside
  · cases hskip : skip? (c :: s) with
    | none => exact m.advances_of_kept h fun _ => hskip
    | some taken => exact m.advances_of_taken h hplace hskip
  · exact m.advances_of_kept h fun houtside => absurd houtside hplace

/-! ## Runs -/

theorem scanFrom?_eq_copy (h : Stands source cursor rest) :
    scanFrom? span? source cursor = some (copy skip? cursor.place rest) := by
  induction hlength :
    rest.length using Nat.strong_induction_on generalizing cursor rest with
  | h n ih =>
      rw [scanFrom?]
      cases rest with
      | nil =>
          rw [if_neg (by simp [h.offset_lt_iff]), copy_nil]
      | cons c s =>
          obtain ⟨written, next, more, hadvance, hforward, hmore, hshorter,
              hcopy⟩ :=
            m.advances h
          rw [if_pos (h.offset_lt_iff.mpr (by simp)), hadvance]
          simp only
          rw [dif_pos hforward, ih _ (hlength ▸ hshorter) hmore rfl, hcopy]
          rfl

theorem scan?_eq_copy (source : Text) :
    scan? span? source = some (copy skip? .outside source) :=
  m.scanFrom?_eq_copy (Stands.start source)

end Measures

/-- The places that a scan comes to. -/
inductive Reaches (span? : Text → Option (Option (Text × ℕ))) (source : Text) :
    Cursor → Prop where
  | start : Reaches span? source .start
  | advance {cursor next : Cursor} {written : Text} :
      Reaches span? source cursor → cursor.offset < source.byteSize →
      advance? span? source cursor = some (some (written, next)) →
      Reaches span? source next

/-- Wherever a scan comes to, it stands between two characters of the text, and
before the end its next step cuts the text only where it can be cut, and leads
on. -/
def IsSafe (span? : Text → Option (Option (Text × ℕ))) (source : Text) : Prop :=
  ∀ cursor, Reaches span? source cursor →
    Text.IsBoundary cursor.offset source ∧
      (cursor.offset < source.byteSize →
        ∃ written next, advance? span? source cursor =
          some (some (written, next)) ∧
          cursor.offset < next.offset ∧ Text.IsBoundary next.offset source)

namespace Measures

variable (m : Measures span? skip?)

include m

theorem exists_stands (h : Reaches span? source cursor) :
    ∃ rest, Stands source cursor rest := by
  induction h with
  | start => exact ⟨source, Stands.start source⟩
  | advance _ hlt hadvance ih =>
      obtain ⟨rest, hrest⟩ := ih
      obtain ⟨c, s, rfl⟩ := List.exists_cons_of_ne_nil
        (hrest.offset_lt_iff.mp hlt)
      obtain ⟨_, next, more, hstep, -, hmore, -⟩ := m.advances hrest
      rw [hadvance] at hstep
      cases hstep
      exact ⟨more, hmore⟩

theorem isSafe (source : Text) : IsSafe span? source := by
  intro cursor h
  obtain ⟨rest, hrest⟩ := m.exists_stands h
  refine ⟨hrest.isBoundary, ?_⟩
  intro hlt
  obtain ⟨c, s, rfl⟩ := List.exists_cons_of_ne_nil (hrest.offset_lt_iff.mp hlt)
  obtain ⟨written, next, more, hstep, hforward, hmore, -⟩ := m.advances hrest
  exact ⟨written, next, hstep, hforward, hmore.isBoundary⟩

end Measures

theorem toStrict?_eq_some (s : Text) : toStrict? s = some (toStrict s) := by
  unfold toStrict?
  rw [measures_comment.scan?_eq_copy, Option.bind_eq_bind, Option.bind_some,
    measures_trailingComma.scan?_eq_copy]
  rfl

end Json.Relaxed
end FormScaffold
