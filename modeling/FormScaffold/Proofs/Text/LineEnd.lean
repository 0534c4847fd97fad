import FormScaffold.Proofs.Text.Lines
import Mathlib.Data.List.TakeWhile

/-!
# Blanks and the ends of lines

A reader of line ends takes blanks and one ending behind them.  This is said
once for each of the two readers, and what they take or leave follows from it: a
line break ends in a line feed, and of the endings without one the reader leaves
nothing.  Where carriage returns stand only before line feeds, a line is what it
says and then its line break.
-/

namespace FormScaffold.Text

variable {endings others : List Text} {s rest blanks ending : Text} {c : Char}

/-- The ways a line ends that has its line feed. -/
def lineBreaks : List Text := ["\r\n".toList, "\n".toList]

/-- The ways a line ends where the text does. -/
def textEnds : List Text := ["\r".toList, []]

/-- Blanks, and behind them one of the endings. -/
def BlanksTo (endings : List Text) (s : Text) : Prop :=
  ∃ blanks, (∀ c ∈ blanks, isBlank c = true) ∧
    ∃ ending ∈ endings, s = blanks ++ ending

/-! ## Blanks -/

theorem eq_of_isBlank (hc : isBlank c = true) : c = ' ' ∨ c = '\t' := by
  simpa [isBlank] using hc

theorem skipBlanks_cons_of_not_isBlank (hc : isBlank c = false) (s : Text) :
    skipBlanks (c :: s) = c :: s := by
  simp [skipBlanks, hc]

theorem skipBlanks_append (hblanks : ∀ c ∈ blanks, isBlank c = true)
    (s : Text) :
    skipBlanks (blanks ++ s) = skipBlanks s :=
  List.dropWhile_append_of_pos hblanks

theorem exists_blanks (s : Text) :
    ∃ blanks, (∀ c ∈ blanks, isBlank c = true) ∧
      s = blanks ++ skipBlanks s := by
  refine ⟨s.takeWhile isBlank, ?_, ?_⟩
  · intro c hc
    exact List.mem_takeWhile_imp hc
  · exact List.takeWhile_append_dropWhile.symm

theorem reader_append {reader : Text → Option Text}
    (hblank : ∀ c s, isBlank c = true → reader (c :: s) = reader s)
    (hblanks : ∀ c ∈ blanks, isBlank c = true) (s : Text) :
    reader (blanks ++ s) = reader s := by
  induction blanks with
  | nil => rfl
  | cons c blanks ih =>
      rw [List.forall_mem_cons] at hblanks
      rw [List.cons_append, hblank c _ hblanks.1, ih hblanks.2]

theorem afterBlankLine?_cons_of_isBlank (c : Char) (s : Text)
    (hc : isBlank c = true) :
    afterBlankLine? (c :: s) = afterBlankLine? s := by
  rcases eq_of_isBlank hc with rfl | rfl <;> rfl

theorem afterLineEnd?_cons_of_isBlank (c : Char) (s : Text)
    (hc : isBlank c = true) :
    afterLineEnd? (c :: s) = afterLineEnd? s := by
  rcases eq_of_isBlank hc with rfl | rfl <;> rfl

/-! ## Endings behind blanks -/

theorem eq_of_mem_lineBreaks (hending : ending ∈ lineBreaks) :
    ending = ['\r', '\n'] ∨ ending = ['\n'] := by
  simpa [lineBreaks] using hending

theorem eq_of_mem_textEnds (hending : ending ∈ textEnds) :
    ending = ['\r'] ∨ ending = [] := by
  simpa [textEnds] using hending

/-- An ending holds no other characters than the two that end lines. -/
theorem eq_of_mem_ending (hending : ending ∈ lineBreaks ++ textEnds)
    (hc : c ∈ ending) :
    c = '\r' ∨ c = '\n' := by
  rcases List.mem_append.mp hending with hbreak | hend
  · rcases eq_of_mem_lineBreaks hbreak with rfl | rfl
    · simpa using hc
    · exact Or.inr (List.mem_singleton.mp hc)
  · rcases eq_of_mem_textEnds hend with rfl | rfl
    · exact Or.inl (List.mem_singleton.mp hc)
    · cases hc

theorem blanksTo_of_mem (hs : s ∈ endings) : BlanksTo endings s :=
  ⟨[], by simp, s, hs, rfl⟩

theorem BlanksTo.cons (hc : isBlank c = true) (hs : BlanksTo endings s) :
    BlanksTo endings (c :: s) := by
  rcases hs with ⟨blanks, hblanks, ending, hending, rfl⟩
  exact ⟨c :: blanks, List.forall_mem_cons.mpr ⟨hc, hblanks⟩, ending, hending,
    rfl⟩

theorem blanksTo_append_iff :
    BlanksTo (endings ++ others) s ↔ BlanksTo endings s ∨
      BlanksTo others s := by
  unfold BlanksTo
  simp only [List.mem_append, or_and_right, exists_or, and_or_left]

/-- Every character is a blank or one of an ending. -/
theorem BlanksTo.isBlank_or_mem (hs : BlanksTo endings s) (hc : c ∈ s) :
    isBlank c = true ∨ ∃ ending ∈ endings, c ∈ ending := by
  rcases hs with ⟨blanks, hblanks, ending, hending, rfl⟩
  rcases List.mem_append.mp hc with hc | hc
  · exact Or.inl (hblanks c hc)
  · exact Or.inr ⟨ending, hending, hc⟩

theorem BlanksTo.getLast?_eq (hs : BlanksTo lineBreaks s) :
    s.getLast? = some '\n' := by
  rcases hs with ⟨blanks, -, ending, hending, rfl⟩
  have hlast : ending.getLast? = some '\n' := by
    rcases eq_of_mem_lineBreaks hending with rfl | rfl <;> rfl
  rw [List.getLast?_append, hlast, Option.some_or]

/-! ## The readers -/

/-- The reader of blank lines takes blanks and a line break. -/
theorem afterBlankLine?_eq_some_iff :
    afterBlankLine? s = some rest ↔
      ∃ read, BlanksTo lineBreaks read ∧ s = read ++ rest := by
  constructor
  · intro hread
    fun_induction afterBlankLine? s with
    | case1 s =>
        obtain rfl := Option.some.inj hread
        exact ⟨['\n'], blanksTo_of_mem (by decide), rfl⟩
    | case2 s =>
        obtain rfl := Option.some.inj hread
        exact ⟨['\r', '\n'], blanksTo_of_mem (by decide), rfl⟩
    | case3 c s _ _ hc ih =>
        rcases ih hread with ⟨read, hblanks, rfl⟩
        exact ⟨c :: read, hblanks.cons hc, rfl⟩
    | case4 => cases hread
    | case5 => cases hread
  · rintro ⟨_, ⟨blanks, hblanks, ending, hending, rfl⟩, rfl⟩
    rw [List.append_assoc,
      reader_append afterBlankLine?_cons_of_isBlank hblanks]
    rcases eq_of_mem_lineBreaks hending with rfl | rfl <;> rfl

/-- The reader of line ends takes blanks and a line break, or blanks and what
may end a text. -/
theorem afterLineEnd?_eq_some_iff :
    afterLineEnd? s = some rest ↔
      ∃ read, (BlanksTo lineBreaks read ∨ rest = [] ∧ BlanksTo textEnds read) ∧
        s = read ++ rest := by
  constructor
  · intro hread
    fun_induction afterLineEnd? s with
    | case1 =>
        obtain rfl := Option.some.inj hread
        exact ⟨[], Or.inr ⟨rfl, blanksTo_of_mem (by decide)⟩, rfl⟩
    | case2 s =>
        obtain rfl := Option.some.inj hread
        exact ⟨['\n'], Or.inl (blanksTo_of_mem (by decide)), rfl⟩
    | case3 =>
        obtain rfl := Option.some.inj hread
        exact ⟨['\r'], Or.inr ⟨rfl, blanksTo_of_mem (by decide)⟩, rfl⟩
    | case4 s =>
        obtain rfl := Option.some.inj hread
        exact ⟨['\r', '\n'], Or.inl (blanksTo_of_mem (by decide)), rfl⟩
    | case5 c s _ _ _ hc ih =>
        rcases ih hread with ⟨read, hends, rfl⟩
        exact ⟨c :: read, hends.imp (BlanksTo.cons hc)
          (And.imp_right (BlanksTo.cons hc)), rfl⟩
    | case6 => cases hread
  · rintro ⟨_, ⟨blanks, hblanks, ending, hending, rfl⟩ |
      ⟨rfl, blanks, hblanks, ending, hending, rfl⟩, rfl⟩
    · rw [List.append_assoc,
        reader_append afterLineEnd?_cons_of_isBlank hblanks]
      rcases eq_of_mem_lineBreaks hending with rfl | rfl <;> rfl
    · rw [List.append_nil, reader_append afterLineEnd?_cons_of_isBlank hblanks]
      rcases eq_of_mem_textEnds hending with rfl | rfl <;> rfl

/-- What the reader of line ends takes is blanks and an ending. -/
theorem exists_of_afterLineEnd? (hread : afterLineEnd? s = some rest) :
    ∃ read, BlanksTo (lineBreaks ++ textEnds) read ∧
      (rest ≠ [] → read.getLast? = some '\n') ∧ s = read ++ rest := by
  rcases afterLineEnd?_eq_some_iff.mp hread with ⟨read, hbreak | ⟨hnil, hend⟩,
    hs⟩
  · exact ⟨read, blanksTo_append_iff.mpr (Or.inl hbreak),
      fun _ => hbreak.getLast?_eq, hs⟩
  · exact ⟨read, blanksTo_append_iff.mpr (Or.inr hend),
      fun hne => absurd hnil hne, hs⟩

theorem afterLineEnd?_eq_nil_iff :
    afterLineEnd? s = some [] ↔ BlanksTo (lineBreaks ++ textEnds) s := by
  rw [afterLineEnd?_eq_some_iff, blanksTo_append_iff]
  simp

/-! ## The line break of a line -/

/-- The line break at the end of a line, if there is one. -/
def lineBreak (line : Text) : Text :=
  if "\r\n".toList <:+ line then "\r\n".toList
  else if "\n".toList <:+ line then "\n".toList
  else []

/-- Every carriage return stands right before a line feed. -/
def ReturnsBeforeFeeds (s : Text) : Prop :=
  ∀ rest, '\r' :: rest <:+ s → rest.head? = some '\n'

theorem returnsBeforeFeeds_nil : ReturnsBeforeFeeds [] := by
  intro rest hsuffix
  simp at hsuffix

theorem returnsBeforeFeeds_cons_iff :
    ReturnsBeforeFeeds (c :: s) ↔
      (c = '\r' → s.head? = some '\n') ∧ ReturnsBeforeFeeds s := by
  constructor
  · intro hreturns
    refine ⟨?_,
      fun rest hsuffix => hreturns rest
        (List.suffix_cons_iff.mpr (Or.inr hsuffix))⟩
    rintro rfl
    exact hreturns s List.suffix_rfl
  · rintro ⟨hhead, hreturns⟩ rest hsuffix
    rcases List.suffix_cons_iff.mp hsuffix with heq | hsuffix
    · obtain ⟨rfl, rfl⟩ := List.cons_eq_cons.mp heq
      exact hhead rfl
    · exact hreturns rest hsuffix

instance decidableReturnsBeforeFeeds : DecidablePred ReturnsBeforeFeeds
  | [] => isTrue returnsBeforeFeeds_nil
  | _ :: s =>
    have := decidableReturnsBeforeFeeds s
    decidable_of_iff _ returnsBeforeFeeds_cons_iff.symm

theorem ReturnsBeforeFeeds.of_append {t : Text} (haligned : LineAligned s)
    (hreturns : ReturnsBeforeFeeds (s ++ t)) :
    ReturnsBeforeFeeds s ∧ ReturnsBeforeFeeds t := by
  induction s with
  | nil => exact ⟨returnsBeforeFeeds_nil, hreturns⟩
  | cons c s ih =>
      rw [List.cons_append, returnsBeforeFeeds_cons_iff] at hreturns
      obtain ⟨hs, ht⟩ := ih haligned.of_cons hreturns.2
      refine ⟨returnsBeforeFeeds_cons_iff.mpr ⟨?_, hs⟩, ht⟩
      rintro rfl
      have hhead := hreturns.1 rfl
      cases s with
      | nil => simp [LineAligned] at haligned
      | cons d s => exact hhead

theorem IsCut.returnsBeforeFeeds {ls : List Text} (hcut : IsCut ls)
    (hreturns : ReturnsBeforeFeeds ls.flatten) :
    ∀ line ∈ ls, ReturnsBeforeFeeds line := by
  induction hcut with
  | nil => simp
  | @cons line rest _ haligned _ ih =>
      rw [List.flatten_cons] at hreturns
      rcases eq_or_ne rest [] with rfl | hne
      · simpa using hreturns
      · obtain ⟨hline, hrest⟩ := hreturns.of_append (haligned hne)
        exact List.forall_mem_cons.mpr ⟨hline, ih hrest⟩

theorem lineBreak_mem (line : Text) : lineBreak line ∈ [] :: lineBreaks := by
  unfold lineBreak
  split
  · decide
  · split <;> decide

theorem getLast?_lineBreak {line : Text} (hlast : line.getLast? = some '\n') :
    (lineBreak line).getLast? = some '\n' := by
  obtain ⟨said, hline⟩ := List.getLast?_eq_some_iff.mp hlast
  unfold lineBreak
  split
  · rfl
  · rw [if_pos ⟨said, hline.symm⟩]
    rfl

theorem lineBreak_append (hreturn : '\r' ∉ s) (hfeed : '\n' ∉ s)
    (hending : ending ∈ [] :: lineBreaks) :
    lineBreak (s ++ ending) = ending := by
  unfold lineBreak
  rcases List.mem_cons.mp hending with rfl | hbreak
  · have hlong : ¬ "\r\n".toList <:+ s := fun h => hfeed (h.subset (by decide))
    have hshort : ¬ "\n".toList <:+ s := fun h => hfeed (h.subset (by decide))
    rw [List.append_nil, if_neg hlong, if_neg hshort]
  · rcases eq_of_mem_lineBreaks hbreak with rfl | rfl
    · exact if_pos (List.suffix_append s _)
    · have hno : ¬ "\r\n".toList <:+ s ++ ['\n'] := by
        rintro ⟨first, heq⟩
        have hs : first ++ ['\r'] = s :=
          List.append_cancel_right ((List.append_assoc ..).trans heq)
        rw [← hs] at hreturn
        exact hreturn (List.mem_append_right _ List.mem_cons_self)
      rw [if_neg hno]
      exact if_pos (List.suffix_append s _)

/-- A line is what it says and then its line break, if it has one. -/
theorem exists_said {line : Text} (hline : lines line = [line])
    (hreturns : ReturnsBeforeFeeds line) :
    ∃ said ending, '\r' ∉ said ∧ '\n' ∉ said ∧ ending ∈ [] :: lineBreaks ∧
      line = said ++ ending := by
  induction line with
  | nil => cases hline
  | cons c s ih =>
      rw [returnsBeforeFeeds_cons_iff] at hreturns
      by_cases hfeed : c = '\n'
      · have hs : s = [] := by simpa [lines, hfeed] using hline
        exact ⟨[], ['\n'], by simp, by simp, by decide, by rw [hfeed, hs]; rfl⟩
      by_cases hreturn : c = '\r'
      · obtain ⟨t, rfl⟩ := List.head?_eq_some_iff.mp (hreturns.1 hreturn)
        have ht : t = [] := by simpa [lines, hreturn] using hline
        exact ⟨[], ['\r', '\n'], by simp, by simp, by decide,
          by rw [hreturn, ht]; rfl⟩
      · rcases eq_or_ne s [] with rfl | hne
        · exact ⟨[c], [], by simpa using Ne.symm hreturn,
            by simpa using Ne.symm hfeed, by decide, rfl⟩
        · obtain ⟨-, hs⟩ : '\n' ∉ [c] ∧ lines s = [s] :=
            line_of_append hne hline
          obtain ⟨said, ending, hsaid, hsaid', hending, rfl⟩ := ih hs hreturns.2
          exact ⟨c :: said, ending, by simp [hsaid, Ne.symm hreturn],
            by simp [hsaid', Ne.symm hfeed], hending, rfl⟩

end FormScaffold.Text
