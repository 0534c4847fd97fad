import FormScaffold.Proofs.Text.Lines
import FormScaffold.Proofs.Text.LineEnd

/-!
# Reading within a line

A reader answers with what it leaves of a text.  One that stays within the line
does not look past the line feed: what is put behind the text is only passed on.
The readers of line ends may take the line feed, and so they leave nothing of a
single line.  In this way a text that is read from its beginning is read line by
line, and dropping blank lines is a matter of the list of lines.
-/

namespace FormScaffold.Text

/-- The reader passes on what is put behind a line feed. -/
def PassesOn (reader : Text → Option Text) : Prop :=
  ∀ ⦃s : Text⦄, s.getLast? = some '\n' → ∀ t : Text,
    reader (s ++ t) = (reader s).map (· ++ t)

/-- The reader passes on what is put behind a line feed, and leaves the line
feed. -/
structure StaysInLine (reader : Text → Option Text) : Prop where
  passesOn : PassesOn reader
  lineFeed : ∀ ⦃s rest : Text⦄, s.getLast? = some '\n' →
    reader s = some rest → rest.getLast? = some '\n'

theorem StaysInLine.bind {first next : Text → Option Text}
    (hfirst : StaysInLine first) (hnext : StaysInLine next) :
    StaysInLine fun s => first s >>= next where
  passesOn := by
    intro s hs t
    cases hread : first s with
    | none => simp [hfirst.passesOn hs, hread]
    | some rest =>
        have hrest := hfirst.lineFeed hs hread
        simp [hfirst.passesOn hs, hread, hnext.passesOn hrest]
  lineFeed := by
    intro s rest hs hread
    rcases Option.bind_eq_some_iff.mp hread with ⟨middle, hmiddle, hrest⟩
    exact hnext.lineFeed (hfirst.lineFeed hs hmiddle) hrest

theorem StaysInLine.bind_passesOn {first next : Text → Option Text}
    (hfirst : StaysInLine first) (hnext : PassesOn next) :
    PassesOn fun s => first s >>= next := by
  intro s hs t
  cases hread : first s with
  | none => simp [hfirst.passesOn hs, hread]
  | some rest =>
      have hrest := hfirst.lineFeed hs hread
      simp [hfirst.passesOn hs, hread, hnext hrest]

theorem getLast?_of_cons_of_ne {c d : Char} {s : Text}
    (hlast : (c :: s).getLast? = some d) (hne : c ≠ d) :
    s.getLast? = some d := by
  cases s with
  | nil => exact absurd (by simpa using hlast) hne
  | cons e s => simpa using hlast

/-! ## The readers -/

theorem staysInLine_dropWhile {p : Char → Bool} (hp : p '\n' = false) :
    StaysInLine fun s => some (s.dropWhile p) := by
  have hdrop : ∀ ⦃s : Text⦄, s.getLast? = some '\n' →
      (s.dropWhile p).getLast? = some '\n' ∧
        ∀ t, (s ++ t).dropWhile p = s.dropWhile p ++ t := by
    intro s hs
    induction s with
    | nil => simp at hs
    | cons c s ih =>
        by_cases hc : p c = true
        · have hne : c ≠ '\n' := by
            rintro rfl
            simp [hp] at hc
          obtain ⟨hlast, happend⟩ := ih (getLast?_of_cons_of_ne hs hne)
          simp [hc, hlast, happend]
        · simp [hc, hs]
  refine ⟨fun s hs t => ?_, fun s rest hs hread => ?_⟩
  · simp [(hdrop hs).2 t]
  · obtain rfl := Option.some.inj hread
    exact (hdrop hs).1

theorem staysInLine_skipBlanks : StaysInLine fun s => some (skipBlanks s) :=
  staysInLine_dropWhile rfl

theorem staysInLine_after? {lead : Text} (hlead : '\n' ∉ lead) :
    StaysInLine (after? lead) := by
  induction lead with
  | nil => exact ⟨fun s _ t => by simp, fun s rest hs hread => by simp_all⟩
  | cons a lead ih =>
      rw [List.mem_cons, not_or] at hlead
      obtain ⟨ha, hlead⟩ := hlead
      obtain ⟨hpasses, hfeed⟩ := ih hlead
      refine ⟨?_, ?_⟩
      · intro s hs t
        cases s with
        | nil => simp at hs
        | cons c s =>
            by_cases hc : a = c
            · subst hc
              have htail := getLast?_of_cons_of_ne hs (Ne.symm ha)
              simp [after?, hpasses htail]
            · simp [after?, hc]
      · intro s rest hs hread
        cases s with
        | nil => simp at hs
        | cons c s =>
            simp only [after?] at hread
            split at hread
            next hc =>
              subst hc
              exact hfeed (getLast?_of_cons_of_ne hs (Ne.symm ha)) hread
            next => simp at hread

/-! ## Line ends -/

theorem afterBlankLine?_cons_cons {c d : Char} (hfeed : c ≠ '\n')
    (hreturn : c = '\r' → d ≠ '\n') (s : Text) :
    afterBlankLine? (c :: d :: s) =
      if isBlank c then afterBlankLine? (d :: s) else none := by
  rw [afterBlankLine?]
  · exact hfeed
  · rintro t rfl h
    simp_all

theorem afterLineEnd?_cons_cons {c d : Char} (hfeed : c ≠ '\n')
    (hreturn : c = '\r' → d ≠ '\n') (s : Text) :
    afterLineEnd? (c :: d :: s) =
      if isBlank c then afterLineEnd? (d :: s) else none := by
  rw [afterLineEnd?]
  · exact hfeed
  · simp
  · rintro t rfl h
    simp_all

/-- A reader that takes the blanks in front of a line break, and the break. -/
theorem passesOn_of_blanks {reader : Text → Option Text}
    (hfeeds : ∀ s, reader ('\n' :: s) = some s)
    (hreturns : ∀ s, reader ('\r' :: '\n' :: s) = some s)
    (hblanks : ∀ {c d : Char}, c ≠ '\n' → (c = '\r' → d ≠ '\n') → ∀ s,
      reader (c :: d :: s) = if isBlank c then reader (d :: s) else none) :
    PassesOn reader := by
  intro s hs t
  induction s with
  | nil => simp at hs
  | cons c s ih =>
      by_cases hfeed : c = '\n'
      · subst hfeed
        rw [List.cons_append, hfeeds, hfeeds]
        rfl
      · have htail := getLast?_of_cons_of_ne hs hfeed
        cases s with
        | nil => simp at htail
        | cons d s =>
            by_cases hreturn : c = '\r' ∧ d = '\n'
            · obtain ⟨rfl, rfl⟩ := hreturn
              rw [List.cons_append, List.cons_append, hreturns, hreturns]
              rfl
            · rw [not_and] at hreturn
              rw [List.cons_append, List.cons_append, hblanks hfeed hreturn,
                hblanks hfeed hreturn, ← List.cons_append, ih htail]
              split <;> rfl

theorem passesOn_afterBlankLine? : PassesOn afterBlankLine? :=
  passesOn_of_blanks (fun _ => rfl) (fun _ => rfl) afterBlankLine?_cons_cons

theorem passesOn_afterLineEnd? : PassesOn afterLineEnd? :=
  passesOn_of_blanks (fun _ => rfl) (fun _ => rfl) afterLineEnd?_cons_cons

/-! ## Line by line -/

/-- The reader takes a whole line, if it takes anything. -/
structure ReadsLine (reader : Text → Option Text) : Prop where
  passesOn : PassesOn reader
  whole : ∀ ⦃line rest : Text⦄, lines line = [line] →
    reader line = some rest → rest = []

theorem eq_nil_of_lines_append {read rest : Text}
    (hline : lines (read ++ rest) = [read ++ rest])
    (hread : rest ≠ [] → read.getLast? = some '\n') : rest = [] := by
  by_contra hrest
  have hlast := hread hrest
  have hne : read ≠ [] := by
    rintro rfl
    simp at hlast
  rw [lines_append (Or.inr hlast)] at hline
  have hlength := congrArg List.length hline
  have hfirst := List.length_pos_of_ne_nil (mt lines_eq_nil_iff.mp hne)
  have hsecond := List.length_pos_of_ne_nil (mt lines_eq_nil_iff.mp hrest)
  rw [List.length_append, List.length_singleton] at hlength
  omega

theorem readsLine_afterBlankLine? : ReadsLine afterBlankLine? where
  passesOn := passesOn_afterBlankLine?
  whole := by
    intro line rest hline hread
    rcases afterBlankLine?_eq_some_iff.mp hread with ⟨read, hbreak, rfl⟩
    exact eq_nil_of_lines_append hline fun _ => hbreak.getLast?_eq

theorem IsCut.read_cons {reader : Text → Option Text}
    (hreader : ReadsLine reader) {line : Text} {rest : List Text}
    (hcut : IsCut (line :: rest)) :
    reader (line ++ rest.flatten) =
      if reader line = some [] then some rest.flatten else none := by
  cases hcut with
  | cons hline haligned _ =>
      have hread : reader line = if reader line = some [] then some []
          else none := by
        cases hfound : reader line with
        | none => simp
        | some left => simp [hreader.whole hline hfound]
      rcases eq_or_ne rest [] with rfl | hne
      · simpa using hread
      · have hlast : line.getLast? = some '\n' := by
          refine (haligned hne).resolve_left ?_
          rintro rfl
          simp [lines] at hline
        rw [hreader.passesOn hlast, hread]
        split <;> simp_all

/-- The line holds blanks only and has a line break. -/
def IsBlankLine (line : Text) : Prop := afterBlankLine? line = some []

instance : DecidablePred IsBlankLine :=
  fun line => inferInstanceAs (Decidable (afterBlankLine? line = some []))

theorem dropBlankLines_of_some {s rest : Text}
    (hread : afterBlankLine? s = some rest) :
    dropBlankLines s = dropBlankLines rest := by
  rw [dropBlankLines]
  split
  next left hleft => rw [Option.some.inj (hread.symm.trans hleft)]
  next hnone => exact absurd (hread.symm.trans hnone) (by simp)

theorem dropBlankLines_of_none {s : Text} (hread : afterBlankLine? s = none) :
    dropBlankLines s = s := by
  rw [dropBlankLines]
  split
  next left hleft => exact absurd (hread.symm.trans hleft) (by simp)
  next => rfl

theorem IsCut.dropBlankLines_flatten {ls : List Text} (hcut : IsCut ls) :
    dropBlankLines ls.flatten =
      (ls.dropWhile fun line => IsBlankLine line).flatten := by
  induction hcut with
  | nil => exact dropBlankLines_of_none rfl
  | @cons line rest hline haligned hrest ih =>
      have hread := (IsCut.cons hline haligned hrest).read_cons
        readsLine_afterBlankLine?
      rw [List.flatten_cons]
      by_cases hblank : IsBlankLine line
      · rw [dropBlankLines_of_some (hread.trans (if_pos hblank)), ih,
          List.dropWhile_cons_of_pos (by simpa using hblank)]
      · rw [dropBlankLines_of_none (hread.trans (if_neg hblank)),
          List.dropWhile_cons_of_neg (by simpa using hblank),
          List.flatten_cons]

end FormScaffold.Text
