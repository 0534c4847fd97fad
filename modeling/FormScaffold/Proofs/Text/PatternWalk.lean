import FormScaffold.Text.Pattern
import FormScaffold.Proofs.Text.Lines
import Mathlib.Data.List.Infix

/-!
# The walk of a pattern over a text

The walk that cuts a text into pieces is read here as three equations for the
text it leaves behind: nothing is left of the empty text, a place where nothing
is found keeps its character, and a span gives way to its replacement.  For a
pattern that answers with the text behind a span, an induction over the walk has
these three cases and no other.
-/

namespace FormScaffold.Pattern

/-- The pattern answers with what follows a span of at least one character. -/
def FindsSpans (p : Pattern) : Prop :=
  ∀ ⦃lineStart : Bool⦄ ⦃s rest : Text⦄, p lineStart s = some rest →
    ∃ span, span ≠ [] ∧ s = span ++ rest

/-- Every span replaced, from a place on at which a line begins or not. -/
def replaceFrom (p : Pattern) (f : Text → Text) (lineStart : Bool)
    (s : Text) : Text :=
  (pieces p lineStart s).flatMap (Piece.replace f)

theorem replaceAll_eq_replaceFrom (p : Pattern) (f : Text → Text)
    (s : Text) : replaceAll p f s = replaceFrom p f true s := rfl

@[simp] theorem replaceFrom_nil (p : Pattern) (f : Text → Text)
    (lineStart : Bool) : replaceFrom p f lineStart [] = [] := by
  simp [replaceFrom, pieces]

theorem replaceFrom_cons_of_none {p : Pattern} {lineStart : Bool} {c : Char}
    {s : Text} (hnone : p lineStart (c :: s) = none) (f : Text → Text) :
    replaceFrom p f lineStart (c :: s) =
      c :: replaceFrom p f (c == '\n') s := by
  simp [replaceFrom, pieces, hnone, Piece.replace]

theorem replaceFrom_append_of_some {p : Pattern} {lineStart : Bool}
    {span rest : Text} (hne : span ≠ [])
    (hsome : p lineStart (span ++ rest) = some rest) (f : Text → Text) :
    replaceFrom p f lineStart (span ++ rest) =
      f span ++ replaceFrom p f (span.getLast? == some '\n') rest := by
  obtain ⟨c, tail, rfl⟩ := List.exists_cons_of_ne_nil hne
  have hshorter : rest.length < (c :: (tail ++ rest)).length := by
    simp only [List.length_cons, List.length_append]
    omega
  have hspan : (c :: (tail ++ rest)).take
      ((c :: (tail ++ rest)).length - rest.length) = c :: tail := by
    have hlength : (c :: (tail ++ rest)).length - rest.length =
        (c :: tail).length := by
      simp only [List.length_cons, List.length_append]
      omega
    rw [hlength, ← List.cons_append]
    exact List.take_left
  rw [List.cons_append] at hsome ⊢
  rw [replaceFrom, pieces, hsome]
  simp only [hshorter, ↓reduceDIte, hspan]
  rfl

theorem FindsSpans.walk {p : Pattern} (hp : p.FindsSpans)
    {motive : Bool → Text → Prop}
    (nil : ∀ lineStart, motive lineStart [])
    (kept : ∀ lineStart c s, p lineStart (c :: s) = none →
      motive (c == '\n') s → motive lineStart (c :: s))
    (span : ∀ lineStart span rest, span ≠ [] →
      p lineStart (span ++ rest) = some rest →
      motive (span.getLast? == some '\n') rest →
      motive lineStart (span ++ rest))
    (lineStart : Bool) (s : Text) : motive lineStart s := by
  cases s with
  | nil => exact nil lineStart
  | cons c s =>
      cases hfound : p lineStart (c :: s) with
      | none =>
          exact kept lineStart c s hfound (walk hp nil kept span _ s)
      | some rest =>
          obtain ⟨found, hne, hsplit⟩ := hp hfound
          have hshorter : rest.length < s.length + 1 := by
            have hlength := congrArg List.length hsplit
            have hpos := List.length_pos_of_ne_nil hne
            simp only [List.length_cons, List.length_append] at hlength
            omega
          rw [hsplit] at hfound ⊢
          exact span lineStart found rest hne hfound
            (walk hp nil kept span _ rest)
termination_by s.length

theorem FindsSpans.delete_sublist {p : Pattern} (hp : p.FindsSpans)
    (lineStart : Bool) (s : Text) :
    (replaceFrom p (fun _ => []) lineStart s).Sublist s := by
  induction lineStart, s using hp.walk with
  | nil lineStart => simp
  | kept lineStart c s hnone ih =>
      rw [replaceFrom_cons_of_none hnone]
      exact ih.cons_cons c
  | span lineStart span rest hne hsome ih =>
      rw [replaceFrom_append_of_some hne hsome]
      exact ih.trans (List.sublist_append_right span rest)

theorem FindsSpans.replace_eq_self {p : Pattern} (hp : p.FindsSpans)
    {f : Text → Text}
    (hf : ∀ lineStart span rest, p lineStart (span ++ rest) = some rest →
      f span = span)
    (lineStart : Bool) (s : Text) : replaceFrom p f lineStart s = s := by
  induction lineStart, s using hp.walk with
  | nil lineStart => simp
  | kept lineStart c s hnone ih =>
      rw [replaceFrom_cons_of_none hnone, ih]
  | span lineStart span rest hne hsome ih =>
      rw [replaceFrom_append_of_some hne hsome, hf lineStart span rest hsome,
        ih]

/-- Two texts are walked one after the other, if the lines of the first are
whole and the pattern only passes on what stands behind them.  It has to do so
at the places that the walk comes to: `passes` holds at the first of them and is
kept from place to place. -/
theorem FindsSpans.replaceFrom_append {p : Pattern} (hp : p.FindsSpans)
    (f : Text → Text) {t : Text} {passes : Bool → Text → Prop}
    (happend : ∀ {lineStart s}, s.getLast? = some '\n' → passes lineStart s →
      p lineStart (s ++ t) = (p lineStart s).map (· ++ t))
    (hkept : ∀ {lineStart c s}, p lineStart (c :: s) = none →
      passes lineStart (c :: s) → passes (c == '\n') s)
    (hspan : ∀ {lineStart span rest}, span ≠ [] →
      p lineStart (span ++ rest) = some rest →
      passes lineStart (span ++ rest) →
      passes (span.getLast? == some '\n') rest)
    {lineStart : Bool} {s : Text} (haligned : Text.LineAligned s)
    (hstart : s = [] → lineStart = true) (hs : passes lineStart s) :
    replaceFrom p f lineStart (s ++ t) =
      replaceFrom p f lineStart s ++ replaceFrom p f true t := by
  induction lineStart, s using hp.walk with
  | nil lineStart =>
      rw [hstart rfl, List.nil_append, replaceFrom_nil, List.nil_append]
  | kept lineStart c s hnone ih =>
      have hlast := haligned.resolve_left (List.cons_ne_nil c s)
      have hnone' : p lineStart (c :: (s ++ t)) = none := by
        rw [← List.cons_append, happend hlast hs, hnone]
        rfl
      have hnext : s = [] → (c == '\n') = true := by
        rintro rfl
        simpa using hlast
      rw [List.cons_append, replaceFrom_cons_of_none hnone',
        replaceFrom_cons_of_none hnone,
        ih haligned.of_cons hnext (hkept hnone hs), List.cons_append]
  | span lineStart span rest hne hsome ih =>
      have hlast := haligned.resolve_left
        (List.append_ne_nil_of_left_ne_nil hne rest)
      have hsome' : p lineStart (span ++ (rest ++ t)) = some (rest ++ t) := by
        rw [← List.append_assoc, happend hlast hs, hsome]
        rfl
      have hnext : rest = [] → (span.getLast? == some '\n') = true := by
        rintro rfl
        simpa using hlast
      have hrest : Text.LineAligned rest := by
        rcases eq_or_ne rest [] with rfl | hrest
        · exact Text.lineAligned_nil
        · rw [List.getLast?_append_of_ne_nil _ hrest] at hlast
          exact Or.inr hlast
      rw [List.append_assoc, replaceFrom_append_of_some hne hsome',
        replaceFrom_append_of_some hne hsome,
        ih hrest hnext (hspan hne hsome hs), List.append_assoc]

/-- A pattern whose spans begin where lines begin keeps a whole line, as soon as
it finds nothing at its beginning. -/
theorem replaceFrom_append_of_line {p : Pattern} (hp : ∀ s, p false s = none)
    {line rest : Text} (hline : Text.lines line = [line])
    (haligned : rest ≠ [] → Text.LineAligned line) (f : Text → Text)
    {lineStart : Bool} (hnone : p lineStart (line ++ rest) = none) :
    replaceFrom p f lineStart (line ++ rest) =
      line ++ replaceFrom p f true rest := by
  induction line generalizing lineStart with
  | nil => simp [Text.lines] at hline
  | cons c line ih =>
      rw [List.cons_append] at hnone ⊢
      rw [replaceFrom_cons_of_none hnone, List.cons_append]
      congr 1
      by_cases hc : c = '\n'
      · have hnil : line = [] := by
          simpa [Text.lines, hc] using hline
        simp [hc, hnil]
      · have hstart : (c == '\n') = false := by simpa using hc
        rw [hstart]
        rcases eq_or_ne line [] with rfl | hne
        · have hrest : rest = [] := by
            by_contra hrest
            simpa [Text.LineAligned, hc] using haligned hrest
          simp [hrest]
        · have hrest : '\n' ∉ [c] ∧ Text.lines line = [line] :=
            Text.line_of_append hne hline
          exact ih hrest.2 (fun hmore => (haligned hmore).of_cons) (hp _)

end FormScaffold.Pattern
