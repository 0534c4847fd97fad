import FormScaffold.Yaml.Scalar
import FormScaffold.Proofs.Yaml.Lexing

/-!
# Written scalars

The ways to write a scalar behind a key: nothing at all, words, quotes on one
line, and a block of lines that are kept or folded.  Each is read as the text
it stands for, up to where it ends.
-/

namespace FormScaffold.Yaml

/-! ## Words -/

/-- A word of a plain scalar: it is no comment and ends no key.  Its characters
are looked at one by one, not all characters there are. -/
def IsPlainWord (w : Text) : Prop :=
  w ≠ [] ∧ (∀ c ∈ w, Text.isBlank c = false ∧ isBreak c = false) ∧
    w.head? ≠ some '#' ∧ w.getLast? ≠ some ':'

instance : DecidablePred IsPlainWord := fun w =>
  letI : Decidable (∀ c ∈ w, Text.isBlank c = false ∧ isBreak c = false) :=
    List.decidableBAll _ w
  inferInstanceAs (Decidable (w ≠ [] ∧
    (∀ c ∈ w, Text.isBlank c = false ∧ isBreak c = false) ∧
    w.head? ≠ some '#' ∧ w.getLast? ≠ some ':'))

/-- What ends the words of a plain scalar: a blank, a line break, the end of the
text or a colon that ends a key. -/
def EndsPlain (s : Text) : Prop :=
  endsWord s = true ∨ ∃ behind, s = ':' :: behind ∧ endsWord behind = true

variable {w s t g : Text} {c : Cursor} {fuel margin n : ℕ}

theorem endsWord_append
    (hw : ∀ b ∈ w, Text.isBlank b = false ∧ isBreak b = false)
    (hne : w ≠ []) (s : Text) : endsWord (w ++ s) = false := by
  cases w with
  | nil => exact absurd rfl hne
  | cons b w => simp [endsWord, hw b List.mem_cons_self]

namespace Scalar

theorem plainWord_of_ends (hs : EndsPlain s) :
    plainWord false s = some ([], s) := by
  cases s with
  | nil => rfl
  | cons b s =>
      rcases hs with hends | ⟨behind, hcolon, hends⟩
      · have hb : (Text.isBlank b || isBreak b) = true := hends
        simp [plainWord, hb]
      · obtain ⟨rfl, rfl⟩ := List.cons_eq_cons.mp hcolon
        simp [plainWord, hends]

theorem plainWord_append
    (hw : ∀ b ∈ w, Text.isBlank b = false ∧ isBreak b = false)
    (hlast : w.getLast? ≠ some ':') (hs : EndsPlain s) :
    plainWord false (w ++ s) = some (w, s) := by
  induction w with
  | nil => exact plainWord_of_ends hs
  | cons b w ih =>
      rw [List.forall_mem_cons] at hw
      have hbehind : ¬ (b = ':' ∧ endsWord (w ++ s) = true) := by
        rintro ⟨rfl, hends⟩
        have hne : w ≠ [] := by
          rintro rfl
          exact hlast rfl
        rw [endsWord_append hw.2 hne] at hends
        contradiction
      have hrest : plainWord false (w ++ s) = some (w, s) := by
        refine ih hw.2 fun hcolon => hlast ?_
        rw [List.getLast?_cons, hcolon]
        rfl
      simp [plainWord, hw.1, hbehind, hrest]

end Scalar

/-! ## Gaps -/

/-- No blank and no line break stands here. -/
def EndsGap (s : Text) : Prop :=
  ∀ b ∈ s.head?, Text.isBlank b = false ∧ isBreak b = false

theorem EndsGap.of_isSolid (hs : isSolid s = true) : EndsGap s := by
  intro b hb
  obtain ⟨behind, rfl⟩ := List.head?_eq_some_iff.mp hb
  simp only [isSolid, Bool.not_eq_true', Bool.or_eq_false_iff] at hs
  exact hs.1.1

theorem EndsGap.takeWhile_space (hs : EndsGap s) :
    s.takeWhile (· == ' ') = [] := by
  cases s with
  | nil => rfl
  | cons b s =>
      have hb := (hs b rfl).1
      simp only [Text.isBlank, Bool.or_eq_false_iff] at hb
      simp [hb.1]

theorem EndsGap.atBreak (hs : EndsGap c.rest) : c.atBreak = false := by
  cases hrest : c.rest with
  | nil => simp only [Cursor.atBreak, hrest]
  | cons b s => simp only [Cursor.atBreak, hrest, (hs b (by rw [hrest]; rfl)).2]

theorem EndsGap.head?_ne_tab (hs : EndsGap s) :
    (s.head? == some '\t') = false := by
  rw [beq_eq_false_iff_ne]
  intro htab
  cases (hs '\t' htab).1

theorem Gap.scan_of_ends (hs : EndsGap c.rest) (fuel : ℕ) (gap : Gap) :
    Gap.scan margin fuel c gap = some (gap, c) := by
  cases fuel with
  | zero => rfl
  | succ fuel =>
      cases hrest : c.rest with
      | nil => simp [Gap.scan, hrest]
      | cons b s =>
          have hb := hs b (by rw [hrest]; rfl)
          simp [Gap.scan, hrest, hb]

/-- Blanks between words are kept. -/
theorem Gap.scan_blanks (hg : ∀ b ∈ g, Text.isBlank b = true) (hs : EndsGap s)
    (hrest : c.rest = g ++ s) (hfuel : g.length ≤ fuel) (blanks : Text) :
    Gap.scan margin fuel c ⟨blanks, .none, []⟩ =
      some (⟨blanks ++ g, .none, []⟩, c.advance g.length) := by
  induction g generalizing c fuel blanks with
  | nil =>
      rw [List.nil_append] at hrest
      rw [Gap.scan_of_ends (by rwa [hrest])]
      simp
  | cons b g ih =>
      rw [List.forall_mem_cons] at hg
      obtain ⟨fuel, rfl⟩ := Nat.exists_eq_add_one_of_ne_zero
        (Nat.ne_zero_of_lt hfuel)
      have hnext : (c.advance 1).rest = g ++ s := by simp [hrest]
      have hlater := ih hg.2 hnext (Nat.le_of_succ_le_succ hfuel)
        (blanks ++ [b])
      rw [Gap.scan, hrest]
      simpa [hg.1, Cursor.advance_advance, Nat.add_comm] using hlater

/-- Behind a line break, spaces only indent. -/
theorem Gap.scan_spaces {gap : Gap} (hgap : gap.break?.isSome = true)
    (hs : EndsGap s) (hrest : c.rest = List.replicate n ' ' ++ s)
    (hfuel : n ≤ fuel) :
    Gap.scan margin fuel c gap = some (gap, c.advance n) := by
  induction n generalizing c fuel with
  | zero =>
      rw [Gap.scan_of_ends (by rwa [hrest, List.replicate_zero,
        List.nil_append]), Cursor.advance_zero]
  | succ n ih =>
      obtain ⟨fuel, rfl⟩ := Nat.exists_eq_add_one_of_ne_zero
        (Nat.ne_zero_of_lt hfuel)
      rw [List.replicate_succ, List.cons_append] at hrest
      have hlater := ih (c := c.advance 1) (by simp [hrest])
        (Nat.le_of_succ_le_succ hfuel)
      rw [Gap.scan, hrest]
      simpa [Text.isBlank, hgap, Cursor.advance_advance,
        Nat.add_comm] using hlater

theorem Gap.scan_feed (hs : EndsGap s)
    (hrest : c.rest = '\n' :: (List.replicate n ' ' ++ s)) (hfuel : n < fuel) :
    Gap.scan margin fuel c Gap.none =
      some (⟨[], some ['\n'], []⟩, c.skipBreak.advance n) := by
  obtain ⟨fuel, rfl⟩ := Nat.exists_eq_add_one_of_ne_zero
    (Nat.ne_zero_of_lt hfuel)
  have hbreak : c.takeBreak = (['\n'], c.skipBreak) := by
    rw [Cursor.skipBreak, Cursor.takeBreak_feed hrest]
  have hnext : c.skipBreak.rest = List.replicate n ' ' ++ s := by
    rw [Cursor.skipBreak_feed hrest]
  have hlater : Gap.scan margin fuel c.skipBreak ⟨[], some ['\n'], []⟩ =
      some (⟨[], some ['\n'], []⟩, c.skipBreak.advance n) :=
    Gap.scan_spaces rfl hs hnext (Nat.le_of_lt_succ hfuel)
  rw [Gap.scan, hrest]
  simpa [Text.isBlank, isBreak, hbreak, Gap.none] using hlater

/-! ## Plain scalars -/

namespace Scalar

variable {read : Text} {gap : Gap}

/-- One word of a plain scalar is read, and what follows decides how it goes
on. -/
theorem plain_word (hline : c.atDocumentIndicator = false) (hw : IsPlainWord w)
    (hs : EndsPlain s) (hrest : c.rest = w ++ s) :
    plain false margin (fuel + 1) c read gap =
      if s.isEmpty || !endsWord s then
        some (read ++ gap.text ++ w, false, c.advance w.length)
      else
        match Gap.scan margin (s.length + 1) (c.advance w.length) Gap.none with
        | none => none
        | some (gap', next) =>
          if next.column < margin then
            some (read ++ gap.text ++ w, gap'.break?.isSome, next)
          else plain false margin fuel next (read ++ gap.text ++ w) gap' := by
  obtain ⟨hne, hsolid, hhead, hlast⟩ := hw
  have hcomment : (c.rest.head? == some '#') = false := by
    rw [hrest, List.head?_append_of_ne_nil _ hne]
    exact beq_eq_false_iff_ne.mpr hhead
  have hword : plainWord false c.rest = some (w, s) := by
    rw [hrest, plainWord_append hsolid hlast hs]
  have hafter : (c.advance w.length).rest = s := by simp [hrest]
  rw [plain, hline, hcomment, hword]
  simp only [Cursor.moveTo_of_append hrest, hafter, hne, if_false,
    Bool.or_false, Bool.false_eq_true, Bool.not_false, Bool.true_and,
    decide_eq_true_eq]
  rfl

/-- A plain scalar that is a key ends at its colon. -/
theorem plain_colon (hline : c.atDocumentIndicator = false) (hw : IsPlainWord w)
    (ht : endsWord t = true) (hrest : c.rest = w ++ ':' :: t) :
    plain false margin (fuel + 1) c read gap =
      some (read ++ gap.text ++ w, false, c.advance w.length) := by
  rw [plain_word hline hw (Or.inr ⟨t, rfl, ht⟩) hrest]
  simp [endsWord, Text.isBlank, isBreak]

/-- A plain scalar ends before a line that is not indented further than the
block it is in. -/
theorem plain_feed (hline : c.atDocumentIndicator = false) (hw : IsPlainWord w)
    (ht : EndsGap t) (hn : n < margin)
    (hrest : c.rest = w ++ '\n' :: (List.replicate n ' ' ++ t)) :
    plain false margin (fuel + 1) c read gap =
      some (read ++ gap.text ++ w, true,
        (c.advance w.length).skipBreak.advance n) := by
  have hafter : (c.advance w.length).rest =
      '\n' :: (List.replicate n ' ' ++ t) := by
    simp [hrest]
  have hcolumn : ((c.advance w.length).skipBreak.advance n).column = n := by
    rw [Cursor.skipBreak_feed hafter, Cursor.advance_column, Nat.zero_add]
  rw [plain_word hline hw (Or.inl rfl) hrest,
    Gap.scan_feed ht hafter (by simp; omega)]
  simp only [hcolumn, if_pos hn, endsWord, isBreak]
  rfl

/-- Blanks join a word to the next one. -/
theorem plain_gap (hline : c.atDocumentIndicator = false) (hw : IsPlainWord w)
    (hg : ∀ b ∈ g, Text.isBlank b = true) (hne : g ≠ []) (ht : EndsGap t)
    (hmargin : margin ≤ c.column + 1) (hrest : c.rest = w ++ (g ++ t)) :
    plain false margin (fuel + 1) c read gap =
      plain false margin fuel (c.advance (w.length + g.length))
        (read ++ gap.text ++ w) ⟨g, none, []⟩ := by
  have hends : endsWord (g ++ t) = true := by
    cases g with
    | nil => exact absurd rfl hne
    | cons b g => simp [endsWord, hg b List.mem_cons_self]
  have hafter : (c.advance w.length).rest = g ++ t := by simp [hrest]
  have hwide : ¬ c.column + (w.length + g.length) < margin := by
    have hpos := List.length_pos_of_ne_nil hw.1
    omega
  have hscan : Gap.scan margin ((g ++ t).length + 1) (c.advance w.length)
      ⟨[], .none, []⟩ =
      some (⟨g, .none, []⟩, (c.advance w.length).advance g.length) :=
    Gap.scan_blanks hg ht hafter (by simp; omega) []
  rw [plain_word hline hw (Or.inl hends) hrest, Gap.none, hscan]
  simp [hends, hne, Cursor.advance_advance, hwide]

/-- Blanks and a word behind another word of a plain scalar. -/
def IsPlainTail (p : Text × Text) : Prop :=
  p.1 ≠ [] ∧ (∀ b ∈ p.1, Text.isBlank b = true) ∧ IsPlainWord p.2

instance : DecidablePred IsPlainTail := fun p =>
  letI : Decidable (∀ b ∈ p.1, Text.isBlank b = true) :=
    List.decidableBAll _ p.1
  inferInstanceAs (Decidable (p.1 ≠ [] ∧ (∀ b ∈ p.1, Text.isBlank b = true) ∧
    IsPlainWord p.2))

def joined (more : List (Text × Text)) : Text :=
  more.flatMap fun p => p.1 ++ p.2

theorem length_le_joined {more : List (Text × Text)}
    (hmore : ∀ p ∈ more, IsPlainTail p) :
    more.length ≤ (joined more).length := by
  induction more with
  | nil => exact Nat.le_refl 0
  | cons p more ih =>
      rw [List.forall_mem_cons] at hmore
      have hpos := List.length_pos_of_ne_nil hmore.1.1
      have hrest := ih hmore.2
      simp only [joined, List.flatMap_cons, List.length_append,
        List.length_cons] at hrest ⊢
      omega

/-- A text has more characters than words that are joined in it. -/
theorem length_lt_of_joined {more : List (Text × Text)}
    (hmore : ∀ p ∈ more, IsPlainTail p) {s first behind : Text}
    (hs : s = first ++ (joined more ++ behind)) :
    more.length < s.length + 1 := by
  have hlength := length_le_joined hmore
  rw [hs, List.length_append, List.length_append]
  omega

/-- A word ends where blanks join another one to it, or at the colon of a
key. -/
theorem endsPlain_joined {more : List (Text × Text)}
    (hmore : ∀ p ∈ more, IsPlainTail p)
    (ht : endsWord t = true) : EndsPlain (joined more ++ ':' :: t) := by
  cases more with
  | nil => exact Or.inr ⟨t, rfl, ht⟩
  | cons p more =>
      obtain ⟨g, w⟩ := p
      obtain ⟨hne, hg, -⟩ := hmore _ List.mem_cons_self
      obtain ⟨b, g, rfl⟩ := List.exists_cons_of_ne_nil hne
      have hb : Text.isBlank b = true := hg b List.mem_cons_self
      left
      simp [joined, endsWord, hb]

/-- A plain scalar is read word by word, and what follows the last word decides
how it ends.  Each gap is held back until the next word shows that it belongs to
the scalar. -/
theorem plain_words (out : Cursor → Bool × Cursor) {more : List (Text × Text)}
    (hlast : ∀ fuel (c : Cursor) read gap w, c.atDocumentIndicator = false →
      IsPlainWord w →
      c.rest = w ++ t → plain false margin (fuel + 1) c read gap =
        some (read ++ gap.text ++ w, out (c.advance w.length)))
    (hline : c.atDocumentIndicator = false) (hw : IsPlainWord w)
    (hmore : ∀ p ∈ more, IsPlainTail p) (hmargin : margin ≤ c.column + 1)
    (hfuel : more.length < fuel) (hrest : c.rest = w ++ (joined more ++ t)) :
    plain false margin fuel c read gap =
      some (read ++ gap.text ++ (w ++ joined more),
        out (c.advance (w ++ joined more).length)) := by
  induction more generalizing c read gap w fuel with
  | nil =>
      obtain ⟨fuel, rfl⟩ := Nat.exists_eq_add_one_of_ne_zero
        (Nat.ne_zero_of_lt hfuel)
      simpa [joined] using hlast fuel c read gap w hline hw hrest
  | cons p more ih =>
      obtain ⟨g, w'⟩ := p
      obtain ⟨⟨hne, hg, hw'⟩, hmore⟩ := List.forall_mem_cons.mp hmore
      obtain ⟨fuel, rfl⟩ := Nat.exists_eq_add_one_of_ne_zero
        (Nat.ne_zero_of_lt hfuel)
      have hsplit : c.rest = w ++ (g ++ (w' ++ (joined more ++ t))) := by
        rw [hrest]
        simp [joined]
      have hends : EndsGap (w' ++ (joined more ++ t)) := by
        intro b hb
        rw [List.head?_append_of_ne_nil _ hw'.1] at hb
        exact hw'.2.1 b (List.mem_of_mem_head? hb)
      have hpos := List.length_pos_of_ne_nil hw.1
      have hline' : (c.advance (w.length + g.length)).atDocumentIndicator =
          false :=
        Cursor.atDocumentIndicator_of_pos (by rw [Cursor.advance_column]; omega)
      have hmargin' : margin ≤ (c.advance (w.length + g.length)).column +
          1 := by
        rw [Cursor.advance_column]
        omega
      have hrest' : (c.advance (w.length + g.length)).rest =
          w' ++ (joined more ++ t) := by
        rw [Cursor.advance_rest, hsplit, ← List.append_assoc,
          ← List.length_append, List.drop_left]
      rw [plain_gap hline hw hg hne hends hmargin hsplit,
        ih hline' hw' hmore hmargin' (Nat.lt_of_succ_lt_succ hfuel) hrest']
      simp [joined, Gap.text, Cursor.advance_advance, Nat.add_assoc]

end Scalar

/-! ## Quoted scalars -/

/-- A character between quotes, as it is or behind the sign that escapes. -/
inductive Stroke where
  | raw (c : Char)
  | escaped (code c : Char)
  deriving DecidableEq, Repr

namespace Stroke

def char : Stroke → Char
  | raw c => c
  | escaped _ c => c

/-- How a stroke is written.  Between single quotes, a quote is the sign that
escapes. -/
def source (single : Bool) : Stroke → Text
  | raw c => [c]
  | escaped code _ => [if single then '\'' else '\\', code]

/-- Whether a stroke can stand between quotes on one line. -/
def IsWritten (single : Bool) : Stroke → Prop
  | raw c => isBreak c = false ∧ if single then c ≠ '\'' else c ≠ '"' ∧ c ≠ '\\'
  | escaped code c =>
    if single then code = '\'' ∧ c = '\''
      else Scalar.simpleEscape? code = some c

instance (single : Bool) : DecidablePred (IsWritten single)
  | raw c => inferInstanceAs (Decidable
      (isBreak c = false ∧ if single then c ≠ '\'' else c ≠ '"' ∧ c ≠ '\\'))
  | escaped code c => inferInstanceAs (Decidable
      (if single then code = '\'' ∧ c = '\''
        else Scalar.simpleEscape? code = some c))

/-- Whether a stroke is a blank between words. -/
def isGap : Stroke → Bool
  | raw c => Text.isBlank c
  | escaped _ _ => false

end Stroke

def Stroke.sources (single : Bool) (strokes : List Stroke) : Text :=
  strokes.flatMap (Stroke.source single)

@[simp] theorem Stroke.sources_append (single : Bool)
    (strokes later : List Stroke) :
    sources single (strokes ++ later) =
      sources single strokes ++ sources single later :=
  List.flatMap_append

theorem Stroke.length_le_sources (single : Bool) (strokes : List Stroke) :
    strokes.length ≤ (sources single strokes).length := by
  induction strokes with
  | nil => exact Nat.le_refl 0
  | cons x strokes ih =>
      have hpos : 1 ≤ (x.source single).length := by
        cases x <;> simp [Stroke.source]
      rw [sources] at ih ⊢
      rw [List.flatMap_cons, List.length_append, List.length_cons]
      omega

/-- The sign around a quoted scalar. -/
def quote (single : Bool) : Char := if single then '\'' else '"'

namespace Scalar

variable {single : Bool} {strokes : List Stroke} {read : Text}

theorem isBreak_of_simpleEscape {code x : Char}
    (h : simpleEscape? code = some x) :
    isBreak code = false := by
  unfold simpleEscape? at h
  split at h
  all_goals first
    | rfl
    | cases h

/-- What may follow a word between quotes. -/
def EndsQuotedWord (single : Bool) (s : Text) : Prop :=
  (∃ b behind, s = b :: behind ∧ Text.isBlank b = true) ∨
    ∃ behind, s = quote single :: behind ∧ behind.head? ≠ some '\''

theorem quotedWord_of_ends (hs : EndsQuotedWord single s) (fuel : ℕ) :
    quotedWord single (fuel + 1) s = some ([], .open, s) := by
  rcases hs with ⟨b, behind, rfl, hb⟩ | ⟨behind, rfl, hbehind⟩
  · simp [quotedWord, hb]
  · cases single with
    | false => simp [quotedWord, quote, Text.isBlank, isBreak]
    | true =>
        cases behind with
        | nil => simp [quotedWord, quote, Text.isBlank, isBreak]
        | cons d behind =>
            have hd : d ≠ '\'' := by simpa using hbehind
            simp [quotedWord, quote, Text.isBlank, isBreak, hd]

/-- A stroke that is no gap belongs to the word. -/
theorem quotedWord_stroke {x : Stroke} (hx : x.IsWritten single)
    (hgap : x.isGap = false) (fuel : ℕ) (s : Text) :
    quotedWord single (fuel + 1) (x.source single ++ s) =
      (quotedWord single fuel s).map fun (w, e, rest) =>
        (x.char :: w, e, rest) := by
  cases x with
  | raw b =>
      have hblank : Text.isBlank b = false := hgap
      cases single with
      | false =>
          obtain ⟨hbreak, hquote, hsign⟩ : isBreak b = false ∧ b ≠ '"' ∧
              b ≠ '\\' := hx
          simp [Stroke.source, Stroke.char, quotedWord, hblank, hbreak, hquote,
            hsign]
      | true =>
          obtain ⟨hbreak, hquote⟩ : isBreak b = false ∧ b ≠ '\'' := hx
          simp [Stroke.source, Stroke.char, quotedWord, hblank, hbreak, hquote]
  | escaped code b =>
      cases single with
      | false =>
          have hcode : simpleEscape? code = some b := hx
          have hbreak := isBreak_of_simpleEscape hcode
          have hsign : Text.isBlank '\\' = false ∧ isBreak '\\' = false :=
            ⟨rfl, rfl⟩
          simp [Stroke.source, Stroke.char, quotedWord, hsign, hbreak, escape?,
            hcode]
          cases quotedWord false fuel s <;> rfl
      | true =>
          obtain ⟨rfl, rfl⟩ : code = '\'' ∧ b = '\'' := hx
          simp [Stroke.source, Stroke.char, quotedWord, Text.isBlank, isBreak]

theorem quotedWord_strokes (hwritten : ∀ x ∈ strokes, x.IsWritten single)
    (hword : ∀ x ∈ strokes, x.isGap = false) (hs : EndsQuotedWord single s)
    (hfuel : strokes.length < fuel) :
    quotedWord single fuel (Stroke.sources single strokes ++ s) =
      some (strokes.map Stroke.char, .open, s) := by
  induction strokes generalizing fuel with
  | nil =>
      obtain ⟨fuel, rfl⟩ := Nat.exists_eq_add_one_of_ne_zero
        (Nat.ne_zero_of_lt hfuel)
      exact quotedWord_of_ends hs fuel
  | cons x strokes ih =>
      obtain ⟨fuel, rfl⟩ := Nat.exists_eq_add_one_of_ne_zero
        (Nat.ne_zero_of_lt hfuel)
      rw [List.forall_mem_cons] at hwritten hword
      rw [Stroke.sources, List.flatMap_cons, List.append_assoc,
        quotedWord_stroke hwritten.1 hword.1, ← Stroke.sources,
        ih hwritten.2 hword.2 (Nat.lt_of_succ_lt_succ hfuel)]
      rfl

theorem source_of_gaps (single : Bool) {gaps : List Stroke}
    (hgaps : ∀ x ∈ gaps, x.isGap = true) :
    Stroke.sources single gaps = gaps.map Stroke.char ∧
      ∀ b ∈ gaps.map Stroke.char, Text.isBlank b = true := by
  induction gaps with
  | nil => simp [Stroke.sources]
  | cons x gaps ih =>
      rw [List.forall_mem_cons] at hgaps
      obtain ⟨hsource, hblank⟩ := ih hgaps.2
      cases x with
      | raw b =>
          have hb : Text.isBlank b = true := hgaps.1
          rw [Stroke.sources, List.flatMap_cons, ← Stroke.sources, hsource,
            List.map_cons, List.forall_mem_cons]
          exact ⟨rfl, hb, hblank⟩
      | escaped code b => cases hgaps.1

/-- A gap ends where a stroke is none, or at the closing quote. -/
theorem endsGap_sources (hwritten : ∀ x ∈ strokes, x.IsWritten single)
    (hhead : ∀ x ∈ strokes.head?, x.isGap = false) :
    EndsGap (Stroke.sources single strokes ++ quote single :: t) := by
  intro b hb
  cases strokes with
  | nil =>
      obtain rfl : quote single = b := by simpa [Stroke.sources] using hb
      cases single <;> decide
  | cons x strokes =>
      have hx := hwritten x List.mem_cons_self
      have hgap := hhead x rfl
      cases x with
      | raw d =>
          obtain rfl : d = b := by
            simpa [Stroke.sources, Stroke.source] using hb
          exact ⟨hgap, hx.1⟩
      | escaped code d =>
          obtain rfl : (if single then '\'' else '\\') = b := by
            simpa [Stroke.sources, Stroke.source] using hb
          cases single <;> decide

/-- Strokes without a gap are one word; others begin with a word and a gap. -/
theorem exists_gap_of_strokes (strokes : List Stroke) :
    (∀ x ∈ strokes, x.isGap = false) ∨
      ∃ word gaps later, strokes = word ++ (gaps ++ later) ∧
        (∀ x ∈ word, x.isGap = false) ∧
        gaps ≠ [] ∧ (∀ x ∈ gaps, x.isGap = true) ∧
        ∀ x ∈ later.head?, x.isGap = false := by
  induction strokes with
  | nil => exact Or.inl (by simp)
  | cons x strokes ih =>
      cases hx : x.isGap with
      | false =>
          rcases ih with hall | ⟨word, gaps, later, rfl, hword, hrest⟩
          · exact Or.inl (List.forall_mem_cons.mpr ⟨hx, hall⟩)
          · exact Or.inr ⟨x :: word, gaps, later, rfl,
              List.forall_mem_cons.mpr ⟨hx, hword⟩, hrest⟩
      | true =>
          refine Or.inr ⟨[], x :: strokes.takeWhile Stroke.isGap,
            strokes.dropWhile Stroke.isGap, ?_, by simp, List.cons_ne_nil _ _,
            ?_, ?_⟩
          · simp
          · rw [List.forall_mem_cons]
            exact ⟨hx, fun y hy => List.mem_takeWhile_imp hy⟩
          · intro y hy
            have hdrop : strokes.dropWhile Stroke.isGap ≠ [] := by
              rintro hnil
              simp [hnil] at hy
            have hnot := List.head_dropWhile_not Stroke.isGap hdrop
            rw [List.head?_eq_some_head hdrop] at hy
            obtain rfl := Option.some.inj hy
            exact hnot

/-- One word is read, and what follows decides how the scalar goes on. -/
theorem quoted_word (hwritten : ∀ x ∈ strokes, x.IsWritten single)
    (hword : ∀ x ∈ strokes, x.isGap = false) (hs : EndsQuotedWord single s)
    (hcolumn : 0 < c.column)
    (hrest : c.rest = Stroke.sources single strokes ++ s) :
    quoted single (fuel + 1) c read =
      if s.head? = some (quote single) then
        some (read ++ strokes.map Stroke.char,
          c.advance ((Stroke.sources single strokes).length + 1))
      else
        (Gap.scan 0 (s.length + 1)
          (c.advance (Stroke.sources single strokes).length)
          Gap.none).bind fun (gap, next) =>
            quoted single fuel next (read ++ strokes.map Stroke.char ++
              gap.text) := by
  have hne : s ≠ [] := by
    rintro rfl
    rcases hs with ⟨b, behind, hsplit, -⟩ | ⟨behind, hsplit, -⟩
    · cases hsplit
    · cases hsplit
  have hempty : c.rest.isEmpty = false := by simp [hrest, hne]
  have hlength : strokes.length < c.rest.length + 1 := by
    have hsource := Stroke.length_le_sources single strokes
    rw [hrest, List.length_append]
    omega
  have hread := quotedWord_strokes hwritten hword hs hlength
  have hafter : (c.advance (Stroke.sources single strokes).length).rest =
      s := by
    simp [hrest]
  rw [← hrest] at hread
  rw [quoted, Cursor.atDocumentIndicator_of_pos hcolumn, hempty]
  simp only [hread, Bool.or_self, Bool.false_eq_true, if_false,
    Option.bind_eq_bind, Option.bind_some, Cursor.moveTo_of_append hrest,
    hafter, Cursor.advance_advance]
  rfl

theorem quoted_last (hwritten : ∀ x ∈ strokes, x.IsWritten single)
    (hword : ∀ x ∈ strokes, x.isGap = false) (ht : t.head? ≠ some '\'')
    (hcolumn : 0 < c.column)
    (hrest : c.rest = Stroke.sources single strokes ++ quote single :: t) :
    quoted single (fuel + 1) c read =
      some (read ++ strokes.map Stroke.char,
        c.advance ((Stroke.sources single strokes).length + 1)) := by
  rw [quoted_word hwritten hword (Or.inr ⟨t, rfl, ht⟩) hcolumn hrest,
    List.head?_cons, if_pos rfl]

/-- A gap joins a word to the strokes behind it. -/
theorem quoted_gap {gaps : List Stroke}
    (hwritten : ∀ x ∈ strokes, x.IsWritten single)
    (hword : ∀ x ∈ strokes, x.isGap = false) (hne : gaps ≠ [])
    (hgaps : ∀ x ∈ gaps, x.isGap = true) (hs : EndsGap s)
    (hcolumn : 0 < c.column)
    (hrest : c.rest = Stroke.sources single (strokes ++ gaps) ++ s) :
    quoted single (fuel + 1) c read =
      quoted single fuel
        (c.advance (Stroke.sources single (strokes ++ gaps)).length)
        (read ++ (strokes ++ gaps).map Stroke.char) := by
  obtain ⟨hsource, hblank⟩ := source_of_gaps single hgaps
  rw [Stroke.sources_append, hsource, List.append_assoc] at hrest
  obtain ⟨b, behind, hgap⟩ : ∃ b behind, gaps.map Stroke.char = b :: behind :=
    List.exists_cons_of_ne_nil (by simpa using hne)
  have hb : Text.isBlank b = true :=
    hblank b (by rw [hgap]; exact List.mem_cons_self)
  have hquote : (gaps.map Stroke.char ++ s).head? ≠ some (quote single) := by
    rw [hgap]
    intro hhead
    obtain rfl : b = quote single := Option.some.inj hhead
    cases single <;> cases hb
  have hafter : (c.advance (Stroke.sources single strokes).length).rest =
      gaps.map Stroke.char ++ s := by simp [hrest]
  have hscan : Gap.scan 0 ((gaps.map Stroke.char ++ s).length + 1)
      (c.advance (Stroke.sources single strokes).length) Gap.none =
        some (⟨gaps.map Stroke.char, none, []⟩,
          (c.advance (Stroke.sources single strokes).length).advance
            (gaps.map Stroke.char).length) :=
    Gap.scan_blanks hblank hs hafter (by simp; omega) []
  rw [quoted_word hwritten hword
    (Or.inl ⟨b, behind ++ s, by rw [hgap]; rfl, hb⟩) hcolumn hrest,
    if_neg hquote, hscan]
  simp [Gap.text, Cursor.advance_advance, hsource]

/-- A quoted scalar is read word by word, with the blanks between them, up to
the closing quote. -/
theorem quoted_strokes (hwritten : ∀ x ∈ strokes, x.IsWritten single)
    (ht : t.head? ≠ some '\'') (hcolumn : 0 < c.column)
    (hrest : c.rest = Stroke.sources single strokes ++ quote single :: t)
    (hfuel : strokes.length < fuel) :
    quoted single fuel c read =
      some (read ++ strokes.map Stroke.char,
        c.advance ((Stroke.sources single strokes).length + 1)) := by
  induction fuel generalizing strokes c read with
  | zero => cases hfuel
  | succ fuel ih =>
      rcases exists_gap_of_strokes strokes with
        hword | ⟨word, gaps, later, rfl, hword, hne, hgaps, hlater⟩
      · exact quoted_last hwritten hword ht hcolumn hrest
      · rw [← List.append_assoc] at hwritten hrest hfuel ⊢
        rw [Stroke.sources_append, List.append_assoc] at hrest
        obtain ⟨hfirst, hlast⟩ := List.forall_mem_append.mp hwritten
        have hends := endsGap_sources (t := t) hlast hlater
        have hshort : later.length < fuel := by
          have hpos := List.length_pos_of_ne_nil hne
          simp only [List.length_append] at hfuel
          omega
        have hcolumn' : 0 <
            (c.advance (Stroke.sources single (word ++
              gaps)).length).column := by
          rw [Cursor.advance_column]
          omega
        have hrest' :
            (c.advance (Stroke.sources single (word ++ gaps)).length).rest =
            Stroke.sources single later ++ quote single :: t := by
          rw [Cursor.advance_rest, hrest, List.drop_left]
        rw [quoted_gap (List.forall_mem_append.mp hfirst).1 hword hne hgaps
          hends hcolumn hrest, ih hlast hcolumn' hrest' hshort]
        simp [Cursor.advance_advance, Nat.add_assoc]

end Scalar

/-! ## Block scalars -/

/-- What joins two lines of a block scalar that have so many empty lines between
them.  Where lines are folded, a single line break counts as a space, unless one
of the two lines begins with a blank. -/
def joint (literal blankBefore blankHere : Bool) (empties : ℕ) : Text :=
  if literal || blankBefore || blankHere then List.replicate (empties + 1) '\n'
  else if empties = 0 then [' ']
  else List.replicate empties '\n'

def beginsBlank (line : Text) : Bool := line.head?.any Text.isBlank

/-- The text that further lines of a block scalar come to. -/
def blockText (literal : Bool) : Bool → List (ℕ × Text) → Text
  | _, [] => ['\n']
  | blankBefore, (empties, line) :: more =>
    joint literal blankBefore (beginsBlank line) empties ++ line ++
      blockText literal (beginsBlank line) more

/-- How further lines of a block scalar are written at this indentation. -/
def blockSource (indent : ℕ) (more : List (ℕ × Text)) : Text :=
  more.flatMap fun p =>
    '\n' :: List.replicate p.1 '\n' ++ List.replicate indent ' ' ++ p.2

/-- Whether a line of a block scalar is one line. -/
def IsBlockLine (line : Text) : Prop :=
  line ≠ [] ∧ ∀ c ∈ line, isBreak c = false

instance : DecidablePred IsBlockLine := fun line =>
  letI : Decidable (∀ c ∈ line, isBreak c = false) := List.decidableBAll _ line
  inferInstanceAs (Decidable (line ≠ [] ∧ ∀ c ∈ line, isBreak c = false))

namespace Scalar

variable {indent empties : ℕ} {literal : Bool} {line read : Text}

/-- An empty line of a block scalar is passed. -/
theorem blockGap_feed (hcolumn : c.column = 0)
    (hrest : c.rest = '\n' :: s) (widest : ℕ) (breaks : Text) :
    blockGap (some indent) (fuel + 1) c widest breaks =
      blockGap (some indent) fuel ⟨s, c.line + 1, 0, c.index + 1⟩ widest
        (breaks ++ ['\n']) := by
  have hspaces : (c.rest.takeWhile (· == ' ')).length = 0 := by simp [hrest]
  have hbreak : c.atBreak = true := by simp [Cursor.atBreak, hrest, isBreak]
  have htab : (c.rest.head? == some '\t') = false := by simp [hrest]
  rw [blockGap]
  simp only [hspaces, Nat.zero_min, Cursor.advance_zero, htab, hbreak,
    Bool.and_false, Bool.false_eq_true, if_false, if_true,
    Cursor.takeBreak_feed hrest, hcolumn, Nat.max_zero]

/-- The indentation of a line is passed. -/
theorem blockGap_line (hn : n ≤ indent) (hs : ∀ b ∈ s.head?, isBreak b = false)
    (hshort : n < indent → EndsGap s) (hcolumn : c.column = 0)
    (hrest : c.rest = List.replicate n ' ' ++ s) (widest : ℕ) (breaks : Text) :
    blockGap (some indent) (fuel + 1) c widest breaks =
      some (max widest n, breaks, c.advance n) := by
  have hspaces : min (c.rest.takeWhile (· == ' ')).length (indent - c.column) =
      n := by
    rw [hrest, List.takeWhile_append_of_pos (by simp), hcolumn,
      List.length_append, List.length_replicate]
    rcases Nat.lt_or_eq_of_le hn with hlt | rfl
    · rw [(hshort hlt).takeWhile_space, List.length_nil]
      omega
    · omega
  have hafter : (c.advance n).rest = s := by simp [hrest]
  have hbreak : (c.advance n).atBreak = false := by
    cases s with
    | nil => simp only [Cursor.atBreak, hafter]
    | cons b s => simp only [Cursor.atBreak, hafter, hs b rfl]
  have htab : (decide ((c.advance n).column < indent) &&
      (c.advance n).rest.head? == some '\t') = false := by
    rw [hafter, Cursor.advance_column, hcolumn, Nat.zero_add]
    by_cases hlt : n < indent
    · rw [(hshort hlt).head?_ne_tab, Bool.and_false]
    · rw [decide_eq_false hlt, Bool.false_and]
  rw [blockGap]
  simp only [hspaces]
  rw [htab, hbreak, if_neg Bool.false_ne_true, if_neg Bool.false_ne_true,
    Cursor.advance_column, hcolumn, Nat.zero_add]

/-- Empty lines are passed, and then the indentation of the next line. -/
theorem blockGap_lines (hn : n ≤ indent) (hs : ∀ b ∈ s.head?, isBreak b = false)
    (hshort : n < indent → EndsGap s) (hcolumn : c.column = 0)
    (hrest : c.rest = List.replicate empties '\n' ++
      (List.replicate n ' ' ++ s))
    (hfuel : empties < fuel) (widest : ℕ) (breaks : Text) :
    ∃ widest' next, blockGap (some indent) fuel c widest breaks =
      some (widest', breaks ++ List.replicate empties '\n', next) ∧
        next.rest = s ∧ next.column = n := by
  obtain ⟨fuel, rfl⟩ := Nat.exists_eq_add_one_of_ne_zero
    (Nat.ne_zero_of_lt hfuel)
  induction empties generalizing c fuel breaks with
  | zero =>
      refine ⟨max widest n, c.advance n, ?_, by simp [hrest], by simp [hcolumn]⟩
      rw [blockGap_line hn hs hshort hcolumn hrest, List.replicate_zero,
        List.append_nil]
  | succ empties ih =>
      obtain ⟨fuel, rfl⟩ := Nat.exists_eq_add_one_of_ne_zero
        (show fuel ≠ 0 by omega)
      rw [List.replicate_succ, List.cons_append] at hrest
      have hlater := ih (c := ⟨_, c.line + 1, 0, c.index + 1⟩) rfl rfl
        (breaks ++ ['\n']) fuel (Nat.lt_of_succ_lt_succ hfuel)
      rwa [List.append_assoc, List.singleton_append, ← List.replicate_succ,
        ← blockGap_feed hcolumn hrest] at hlater

/-- The first line of a block scalar says how far the others are indented. -/
theorem blockGap_first (hs : EndsGap s) (hcolumn : c.column = 0)
    (hrest : c.rest = List.replicate n ' ' ++ s) :
    blockGap none (fuel + 1) c 0 [] = some (n, [], c.advance n) := by
  have hspaces : (c.rest.takeWhile (· == ' ')).length = n := by
    rw [hrest, List.takeWhile_append_of_pos (by simp), hs.takeWhile_space,
      List.append_nil, List.length_replicate]
  have hafter : EndsGap (c.advance n).rest := by simpa [hrest] using hs
  rw [blockGap]
  simp only [hspaces, hafter.head?_ne_tab, hafter.atBreak, Bool.and_false,
    Bool.false_eq_true, if_false, Cursor.advance_column, hcolumn, Nat.zero_add,
    Nat.zero_max]

/-- What stands before a line of a block scalar, in the text that it comes
to. -/
def lead (literal : Bool) (first : Text) (blankBefore blankHere : Bool)
    (breaks : Text) : Text :=
  (if !literal && first == ['\n'] && !blankBefore && !blankHere then
    (if breaks = [] then [' '] else []) else first) ++ breaks

theorem lead_eq_joint (literal blankBefore blankHere : Bool) (empties : ℕ) :
    lead literal ['\n'] blankBefore blankHere (List.replicate empties '\n') =
      joint literal blankBefore blankHere empties := by
  unfold lead joint
  cases literal <;> cases blankBefore <;> cases blankHere <;> cases empties <;>
    simp [List.replicate_succ]

/-- One line of a block scalar is read, with the empty lines and the indentation
behind it. -/
theorem blockLines_line {chomping : Chomping} (hline : IsBlockLine line)
    (hcolumn : c.column = indent) (hn : n ≤ indent)
    (hs : ∀ b ∈ s.head?, isBreak b = false) (hshort : n < indent → EndsGap s)
    (hrest : c.rest =
      line ++ '\n' :: (List.replicate empties '\n' ++
        (List.replicate n ' ' ++ s)))
    (read first : Text) (blankBefore : Bool) (breaks : Text) :
    ∃ next,
      blockLines literal chomping indent (fuel + 1) c read first blankBefore
          breaks =
        blockLines literal chomping indent fuel next
          (read ++ lead literal first blankBefore (beginsBlank line) breaks ++
            line)
          ['\n'] (beginsBlank line) (List.replicate empties '\n') ∧
        next.rest = s ∧ next.column = n := by
  have hafter : (c.advance line.length).rest =
      '\n' :: (List.replicate empties '\n' ++ (List.replicate n ' ' ++ s)) := by
        simp [hrest]
  have hbreak := Cursor.takeBreak_feed hafter
  have hfuel : empties < (c.advance line.length).takeBreak.2.rest.length +
      1 := by
    rw [hbreak, List.length_append, List.length_replicate]
    omega
  obtain ⟨widest, next, hgap, hnext⟩ :=
    blockGap_lines (c := (c.advance line.length).takeBreak.2)
    hn hs hshort (by rw [hbreak]) (by rw [hbreak]) hfuel 0 []
  refine ⟨next, ?_, hnext⟩
  have hempty : c.rest.isEmpty = false := by simp [hrest]
  have htake : c.rest.takeWhile (fun b => !isBreak b) = line := by
    have hall : ∀ b ∈ line, (!isBreak b) = true :=
      fun b hb => by rw [hline.2 b hb]; rfl
    rw [hrest, List.takeWhile_append_of_pos hall,
      List.takeWhile_cons_of_neg (by decide), List.append_nil]
  have hblank : c.rest.head?.any Text.isBlank = beginsBlank line := by
    rw [hrest, List.head?_append_of_ne_nil _ hline.1]
    rfl
  simp only [blockLines, hcolumn, hempty, htake, hblank, hgap, List.nil_append]
  rw [if_pos ⟨trivial, by decide⟩, hbreak, lead]
  simp only [List.append_assoc]

/-- The lines of a block scalar are read one by one, up to a line that is not
indented as far. -/
theorem blockLines_lines (literal : Bool) {more : List (ℕ × Text)}
    (hline : IsBlockLine line) (hmore : ∀ p ∈ more, IsBlockLine p.2)
    (hn : n < indent) (ht : EndsGap t) (hcolumn : c.column = indent)
    (hrest : c.rest = line ++
      (blockSource indent more ++ '\n' :: (List.replicate n ' ' ++ t)))
    (hfuel : more.length + 1 < fuel) (read first : Text) (blankBefore : Bool)
    (breaks : Text) :
    ∃ next,
      blockLines literal .clip indent fuel c read first blankBefore breaks =
        some (read ++
          lead literal first blankBefore (beginsBlank line) breaks ++ line ++
            blockText literal (beginsBlank line) more, next) ∧
        next.rest = t ∧ next.column = n := by
  obtain ⟨fuel, rfl⟩ := Nat.exists_eq_add_one_of_ne_zero
    (Nat.ne_zero_of_lt hfuel)
  induction more generalizing c line read first blankBefore breaks fuel with
  | nil =>
      obtain ⟨fuel, rfl⟩ := Nat.exists_eq_add_one_of_ne_zero
        (show fuel ≠ 0 by simp at hfuel; omega)
      have hsplit : c.rest = line ++ '\n' :: (List.replicate 0 '\n' ++
          (List.replicate n ' ' ++ t)) := hrest
      obtain ⟨next, hstep, hnext, hnextColumn⟩ :=
        blockLines_line hline hcolumn hn.le
          (fun b hb => (ht b hb).2) (fun _ => ht) hsplit read first
          blankBefore breaks
      refine ⟨next, ?_, hnext, hnextColumn⟩
      rw [hstep, blockLines, if_neg (by omega)]
      rfl
  | cons p more ih =>
      obtain ⟨fuel, rfl⟩ := Nat.exists_eq_add_one_of_ne_zero
        (show fuel ≠ 0 by simp at hfuel; omega)
      obtain ⟨empties, line'⟩ := p
      obtain ⟨hline', hmore⟩ := List.forall_mem_cons.mp hmore
      have hsplit : c.rest = line ++ '\n' :: (List.replicate empties '\n' ++
          (List.replicate indent ' ' ++
            (line' ++ (blockSource indent more ++ '\n' ::
              (List.replicate n ' ' ++ t))))) := by
        rw [hrest]
        simp [blockSource]
      have hhead : ∀ b ∈ (line' ++ (blockSource indent more ++
          '\n' :: (List.replicate n ' ' ++ t))).head?, isBreak b = false := by
        intro b hb
        rw [List.head?_append_of_ne_nil _ hline'.1] at hb
        exact hline'.2 b (List.mem_of_mem_head? hb)
      obtain ⟨next, hstep, hnext, hnextColumn⟩ :=
        blockLines_line hline hcolumn le_rfl hhead
          (fun hlt => absurd hlt (Nat.lt_irrefl _)) hsplit read first
          blankBefore breaks
      obtain ⟨last, hlater, hlast⟩ := ih hline' hmore hnextColumn hnext
        (read ++ lead literal first blankBefore (beginsBlank line) breaks ++
          line)
        ['\n'] (beginsBlank line) (List.replicate empties '\n') fuel
        (Nat.lt_of_succ_lt_succ hfuel)
      refine ⟨last, ?_, hlast⟩
      rw [hstep, hlater, lead_eq_joint]
      simp [blockText]

theorem length_le_blockSource (indent : ℕ) (more : List (ℕ × Text)) :
    more.length ≤ (blockSource indent more).length := by
  induction more with
  | nil => exact Nat.le_refl 0
  | cons p more ih =>
      rw [blockSource] at ih ⊢
      simp only [List.flatMap_cons, List.length_append, List.length_cons]
      omega

theorem blockHead?_feed (s : Text) :
    blockHead? ('\n' :: s) = some (⟨.clip, none⟩, '\n' :: s) := by
  simp [blockHead?, chomping?, indentDigit?]

/-- A block scalar is read behind its sign. -/
theorem block_lines {first : Text} {more : List (ℕ × Text)}
    (hfirst : IsBlockLine first) (hblank : beginsBlank first = false)
    (hmore : ∀ p ∈ more, IsBlockLine p.2) (hindent : margin ≤ indent)
    (hn : n < indent) (ht : EndsGap t)
    (hrest : c.rest = '\n' :: (List.replicate indent ' ' ++
      (first ++ (blockSource indent more ++ '\n' ::
        (List.replicate n ' ' ++ t))))) :
    ∃ next, block literal margin c =
      some (first ++ blockText literal false more, next) ∧
      next.rest = t ∧ next.column = n := by
  have hends : EndsGap (first ++ (blockSource indent more ++
      '\n' :: (List.replicate n ' ' ++ t))) := by
    intro b hb
    rw [List.head?_append_of_ne_nil _ hfirst.1] at hb
    refine ⟨?_, hfirst.2 b (List.mem_of_mem_head? hb)⟩
    rw [beginsBlank, hb] at hblank
    exact hblank
  have hline : ((c.moveTo c.rest).skipWhile Text.isBlank).skipComment = c := by
    have hnone : c.rest.takeWhile Text.isBlank = [] := by rw [hrest]; rfl
    have hmove : c.moveTo c.rest = c := by simp [Cursor.moveTo]
    rw [hmove, Cursor.skipWhile, hnone, List.length_nil, Cursor.advance_zero,
      Cursor.skipComment_of_ne (by rw [hrest]; simp)]
  have hend : c.atLineEnd = true := by
    simp [Cursor.atLineEnd, Cursor.atBreak, hrest, isBreak]
  have hhead : blockHead? c.rest = some (⟨.clip, none⟩, c.rest) := by
    rw [hrest, blockHead?_feed]
  have hbehind := Cursor.skipBreak_feed hrest
  have hgap : blockGap none (c.skipBreak.rest.length + 1) c.skipBreak 0 [] =
      some (indent, [], c.skipBreak.advance indent) :=
    blockGap_first hends (by rw [hbehind]) (by rw [hbehind])
  have hfuel : more.length + 1 < (c.skipBreak.advance indent).rest.length +
      2 := by
    have hlength := length_le_blockSource indent more
    rw [hbehind]
    simp
    omega
  have hwide : max (max indent margin) 1 = indent := by
    rw [max_eq_left hindent, max_eq_left (by omega)]
  obtain ⟨next, hlines, hnext⟩ := blockLines_lines literal
    (c := c.skipBreak.advance indent) hfirst hmore hn ht (by rw [hbehind]; simp)
    (by rw [hbehind]; simp) hfuel [] [] false []
  refine ⟨next, ?_, hnext⟩
  rw [block, hhead]
  simp only [Option.bind_eq_bind, Option.bind_some, hline, hend, if_true,
    Option.map_none, hgap, Option.getD_none, hwide, hlines]
  simp [lead, hblank]

end Scalar

end FormScaffold.Yaml
