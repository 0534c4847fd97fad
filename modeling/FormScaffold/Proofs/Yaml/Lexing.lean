import FormScaffold.Yaml.Lexer
import Mathlib.Data.List.Basic
import Mathlib.Data.List.TakeWhile

/-!
# What a YAML text still comes to

A lexer that stands before a text adds tokens to those it has read.  Which ones
depends on the text, the column and the open blocks, and not on how it came
there.  `Lexer.Lexes` says what is added, and each lemma here takes one token
off the front of a text.
-/

namespace FormScaffold.Yaml

@[simp] theorem Cursor.advance_zero (c : Cursor) : c.advance 0 = c := by
  simp [advance]

@[simp] theorem Cursor.advance_rest (c : Cursor) (n : ℕ) :
    (c.advance n).rest = c.rest.drop n := rfl

@[simp] theorem Cursor.advance_column (c : Cursor) (n : ℕ) :
    (c.advance n).column = c.column + n := rfl

theorem Cursor.advance_advance (c : Cursor) (m n : ℕ) :
    (c.advance m).advance n = c.advance (m + n) := by
  simp [advance, List.drop_drop, List.take_add, Text.byteSize_append,
    Nat.add_assoc]

theorem Cursor.advance_of_append {c : Cursor} {s t : Text}
    (hrest : c.rest = s ++ t) :
    c.advance s.length =
      ⟨t, c.line, c.column + s.length, c.index + Text.byteSize s⟩ := by
  simp [advance, hrest]

theorem Cursor.moveTo_of_append {c : Cursor} {s t : Text}
    (hrest : c.rest = s ++ t) :
    c.moveTo t = c.advance s.length := by
  simp [moveTo, hrest]

theorem Cursor.takeBreak_feed {c : Cursor} {s : Text}
    (hrest : c.rest = '\n' :: s) :
    c.takeBreak = (['\n'], ⟨s, c.line + 1, 0, c.index + 1⟩) := by
  simp [takeBreak, hrest, isBreak]
  rfl

theorem Cursor.skipBreak_feed {c : Cursor} {s : Text}
    (hrest : c.rest = '\n' :: s) :
    c.skipBreak = ⟨s, c.line + 1, 0, c.index + 1⟩ := by
  rw [skipBreak, takeBreak_feed hrest]

theorem Cursor.skipComment_of_ne {c : Cursor} (h : c.rest.head? ≠ some '#') :
    c.skipComment = c := by
  unfold skipComment
  split
  · next hsign =>
      rw [hsign] at h
      exact absurd rfl h
  · rfl

theorem Cursor.atDocumentIndicator_of_pos {c : Cursor} (h : 0 < c.column) :
    c.atDocumentIndicator = false := by
  have hcolumn : (c.column == 0) = false := beq_eq_false_iff_ne.mpr h.ne'
  rw [atDocumentIndicator, hcolumn, Bool.false_and]

/-- A token begins here, or the text is over. -/
def isSolid : Text → Bool
  | c :: _ => !(Text.isBlank c || isBreak c || c == '#' || c == '\ufeff')
  | [] => true

theorem isSolid_append {s : Text} (hs : s ≠ []) (t : Text) :
    isSolid (s ++ t) = isSolid s := by
  cases s with
  | nil => contradiction
  | cons c s => rfl

namespace Lexer

def tokens (l : Lexer) : List Token := Lexeme.tokens l.filled l.read.reverse

/-- Where a lexer stands while no bracket is open and no key may have begun.
Slots are numbered in the order in which they come. -/
structure Stands (l : Lexer) (allowed : Bool) (column : ℕ) (rest : Text)
    (blocks : List ℕ) : Prop where
  keyAllowed : l.keyAllowed = allowed
  column : l.cursor.column = column
  rest : l.cursor.rest = rest
  blocks : l.blocks = blocks
  keyStart : l.keyStart = none
  outer : l.outer = []
  slots : ∀ n, .slot n ∈ l.read → n < l.slots

/-- Reading on adds these tokens to those that were read. -/
def Yields (l : Lexer) (more : List Token) : Prop :=
  ∃ r, (∀ fuel, l.cursor.rest.length < fuel → run fuel l = some r) ∧
    r.tokens = l.tokens ++ more

/-- Wherever a lexer stands so, reading on adds these tokens. -/
def Lexes (allowed : Bool) (column : ℕ) (rest : Text) (blocks : List ℕ)
    (more : List Token) : Prop :=
  ∀ l : Lexer, l.Stands allowed column rest blocks → l.Yields more

variable {l l' : Lexer} {allowed : Bool} {column n : ℕ} {rest s t : Text}
  {blocks : List ℕ} {emitted more : List Token}

/-! ## Tokens -/

@[simp] theorem tokens_emit (token : Token) (l : Lexer) :
    (l.emit token).tokens = l.tokens ++ [token] := by
  simp [tokens, emit, Lexeme.tokens]

@[simp] theorem tokens_advance (n : ℕ) (l : Lexer) :
    (l.advance n).tokens = l.tokens := rfl

@[simp] theorem tokens_allowKey (b : Bool) (l : Lexer) :
    (l.allowKey b).tokens = l.tokens := rfl

theorem Stands.inFlow (h : l.Stands allowed column rest blocks) :
    l.inFlow = false := by
  simp [Lexer.inFlow, h.outer]

/-! ## Reading on -/

theorem Yields.of_run_eq (hlater : l'.Yields more)
    (hrun : ∀ fuel, run (fuel + 1) l = run (fuel + 1) l')
    (hrest : l'.cursor.rest.length ≤ l.cursor.rest.length)
    (htokens : l'.tokens = l.tokens ++ emitted) :
    l.Yields (emitted ++ more) := by
  obtain ⟨r, hends, hmore⟩ := hlater
  refine ⟨r, fun fuel hfuel => ?_, by rw [hmore, htokens, List.append_assoc]⟩
  obtain ⟨fuel, rfl⟩ := Nat.exists_eq_add_one_of_ne_zero
    (Nat.ne_zero_of_lt hfuel)
  rw [hrun]
  exact hends _ (lt_of_le_of_lt hrest hfuel)

theorem Yields.of_steps (hlater : l'.Yields more) (count : ℕ)
    (hrun : ∀ fuel, run (fuel + count) l = run fuel l')
    (hrest : l'.cursor.rest.length + count ≤ l.cursor.rest.length)
    (htokens : l'.tokens = l.tokens ++ emitted) :
    l.Yields (emitted ++ more) := by
  obtain ⟨r, hends, hmore⟩ := hlater
  refine ⟨r, fun fuel hfuel => ?_, by rw [hmore, htokens, List.append_assoc]⟩
  obtain ⟨fuel, rfl⟩ := Nat.exists_eq_add_of_le' (show count ≤ fuel by omega)
  rw [hrun]
  exact hends _ (by omega)

/-! ## The way to the next token -/

/-- What may stand behind the spaces that a lexer passes. -/
def EndsSpaces (s : Text) : Prop :=
  ∀ b ∈ s.head?, Text.isBlank b = false ∧ b ≠ '#' ∧ b ≠ '\ufeff'

theorem endsSpaces_of_isSolid (hs : isSolid s = true) : EndsSpaces s := by
  intro b hb
  obtain ⟨behind, rfl⟩ := List.head?_eq_some_iff.mp hb
  simp only [isSolid, Bool.not_eq_true', Bool.or_eq_false_iff,
    beq_eq_false_iff_ne] at hs
  exact ⟨hs.1.1.1, hs.1.2, hs.2⟩

/-- On the way to a token, spaces are passed on each line. -/
theorem skip_spaces {c : Cursor} (hrest : c.rest = List.replicate n ' ' ++ s)
    (hs : EndsSpaces s) (tabs : Bool) :
    ((if c.column == 0 && c.rest.head? == some '\ufeff' then c.advance 1
      else c).skipWhile
      (fun b => b == ' ' || (tabs && b == '\t'))).skipComment =
        c.advance n := by
  have hmark : c.rest.head? ≠ some '\ufeff' := by
    intro hhead
    cases n with
    | zero => exact (hs _ (by simpa [hrest] using hhead)).2.2 rfl
    | succ n => simp [hrest, List.replicate_succ] at hhead
  have hspaces : c.rest.takeWhile (fun b => b == ' ' || (tabs && b == '\t')) =
      List.replicate n ' ' := by
    have hend : s.takeWhile (fun b => b == ' ' || (tabs && b == '\t')) =
        [] := by
      cases s with
      | nil => rfl
      | cons b s =>
          have hb := (hs b rfl).1
          simp only [Text.isBlank, Bool.or_eq_false_iff] at hb
          simp [hb.1, hb.2]
    rw [hrest, List.takeWhile_append_of_pos (by simp), hend, List.append_nil]
  have hbehind : (c.advance n).rest = s := by simp [hrest]
  have hcomment : (c.advance n).rest.head? ≠ some '#' := by
    rw [hbehind]
    exact fun hhead => (hs _ hhead).2.1 rfl
  rw [if_neg (by simp [hmark]), Cursor.skipWhile, hspaces,
    List.length_replicate, Cursor.skipComment_of_ne hcomment]

/-- Spaces before a token are passed. -/
theorem skipToToken_spaces (hrest : l.cursor.rest = List.replicate n ' ' ++ s)
    (hs : isSolid s = true) (fuel : ℕ) :
    l.skipToToken (fuel + 1) = { l with cursor := l.cursor.advance n } := by
  have hbreak : (l.cursor.advance n).atBreak = false := by
    cases s with
    | nil => simp [Cursor.atBreak, hrest]
    | cons b s =>
        simp only [isSolid, Bool.not_eq_true', Bool.or_eq_false_iff] at hs
        simp [Cursor.atBreak, hrest, hs.1.1.2]
  simp only [skipToToken, skip_spaces hrest (endsSpaces_of_isSolid hs), hbreak,
    Bool.false_eq_true, if_false]

/-- Where a token begins, nothing is passed. -/
theorem skipToToken_of_isSolid (h : isSolid l.cursor.rest = true) (fuel : ℕ) :
    l.skipToToken (fuel + 1) = l := by
  rw [skipToToken_spaces (n := 0) rfl h, Cursor.advance_zero]

/-- A line break and the spaces behind it are passed, and then a key may
begin. -/
theorem skipToToken_feed (hflow : l.inFlow = false)
    (hrest : l.cursor.rest = '\n' :: (List.replicate n ' ' ++ s))
    (hs : isSolid s = true) (fuel : ℕ) :
    l.skipToToken (fuel + 2) =
      { l with
        cursor := l.cursor.skipBreak.advance n, keyAllowed := true } := by
  have hhere : l.cursor.rest = List.replicate 0 ' ' ++ '\n' ::
      (List.replicate n ' ' ++ s) := hrest
  have hend : EndsSpaces ('\n' :: (List.replicate n ' ' ++ s)) := by
    intro b hb
    obtain rfl : '\n' = b := by simpa using hb
    decide
  have hbreak : l.cursor.atBreak = true := by
    simp [Cursor.atBreak, hrest, isBreak]
  have hnext : l.cursor.skipBreak.rest = List.replicate n ' ' ++ s := by
    rw [Cursor.skipBreak_feed hrest]
  rw [skipToToken]
  simp only [skip_spaces hhere hend, Cursor.advance_zero, hbreak, if_true]
  rw [skipToToken_spaces hnext hs]
  simp [hflow]

/-! ## One token -/

theorem expireKeys_of_none (hkey : l.keyStart = none) (houter : l.outer = []) :
    l.expireKeys = some l := by
  cases l
  simp_all [expireKeys, expire]

theorem closeBlocks_of_inside {keep : ℕ → Bool}
    (h : ∀ b ∈ l.blocks.head?, keep b = true) :
    l.closeBlocks keep = l := by
  have hnone : l.blocks.takeWhile (fun column => !keep column) = [] ∧
      l.blocks.dropWhile (fun column => !keep column) = l.blocks := by
    cases hblocks : l.blocks with
    | nil => exact ⟨rfl, rfl⟩
    | cons b blocks =>
        have hb : keep b = true := h b (by rw [hblocks]; rfl)
        simp [hb]
  unfold closeBlocks
  rw [hnone.1, hnone.2]
  split <;> rfl

theorem run_of_skip (hskip : l.skipToToken (l.cursor.rest.length + 1) = l')
    (hsolid : isSolid l'.cursor.rest = true) (fuel : ℕ) :
    run (fuel + 1) l = run (fuel + 1) l' := by
  rw [run, run, hskip, skipToToken_of_isSolid hsolid]

/-- Where a token begins and no block ends, the token is read. -/
theorem run_of_token (hsolid : isSolid l.cursor.rest = true)
    (hkeys : l.expireKeys = some l)
    (hblocks : ∀ b ∈ l.blocks.head?, b ≤ l.cursor.column) (fuel : ℕ) :
    run (fuel + 1) l =
      if l.cursor.rest.isEmpty then l.finish else l.readToken >>= run fuel := by
  have hclose : l.closeBlocks (fun open_ => decide (open_ ≤ l.cursor.column)) =
      l :=
    closeBlocks_of_inside fun b hb => by simpa using hblocks b hb
  rw [run, skipToToken_of_isSolid hsolid, hkeys]
  simp only [Option.bind_eq_bind, Option.bind_some, hclose]

theorem Stands.run_eq (h : l.Stands allowed column rest blocks)
    (hrest : isSolid rest = true) (hblocks : ∀ b ∈ blocks.head?, b ≤ column)
    (fuel : ℕ) :
    run (fuel + 1) l = if rest.isEmpty then l.finish
      else l.readToken >>= run fuel := by
  rw [← h.rest] at hrest ⊢
  rw [← h.blocks, ← h.column] at hblocks
  exact run_of_token hrest (expireKeys_of_none h.keyStart h.outer) hblocks fuel

/-- Spaces before a token do not count. -/
theorem Lexes.spaces (hs : isSolid s = true)
    (h : Lexes allowed (column + n) s blocks more) :
    Lexes allowed column (List.replicate n ' ' ++ s) blocks more := by
  intro l hl
  have hskip := skipToToken_spaces hl.rest hs l.cursor.rest.length
  have hstands : ({ l with cursor := l.cursor.advance n } : Lexer).Stands
    allowed (column + n) s
      blocks :=
    { hl with column := by simp [hl.column], rest := by simp [hl.rest] }
  exact (h _ hstands).of_run_eq (run_of_skip hskip (by rw [hstands.rest, hs]))
    (by simp) (List.append_nil _).symm

/-- A line break before a token lets a key begin. -/
theorem Lexes.feed (hs : isSolid s = true) (h : Lexes true n s blocks more) :
    Lexes allowed column ('\n' :: (List.replicate n ' ' ++ s)) blocks more := by
  intro l hl
  have hlength : l.cursor.rest.length + 1 =
      (List.replicate n ' ' ++ s).length + 2 := by
    rw [hl.rest, List.length_cons]
  have hskip : l.skipToToken (l.cursor.rest.length + 1) =
      { l with
        cursor := l.cursor.skipBreak.advance n, keyAllowed := true } := by
    rw [hlength]
    exact skipToToken_feed hl.inFlow hl.rest hs _
  have hbehind := Cursor.skipBreak_feed hl.rest
  have hstands : ({ l with
      cursor := l.cursor.skipBreak.advance n,
        keyAllowed := true } : Lexer).Stands true n s
      blocks :=
    { hl with
      keyAllowed := rfl
      column := by simp [hbehind]
      rest := by simp [hbehind] }
  exact (h _ hstands).of_run_eq (run_of_skip hskip (by rw [hstands.rest, hs]))
    (by simp [hbehind, hl.rest]; omega) (List.append_nil _).symm

/-- A token further left than the innermost block closes it. -/
theorem Lexes.close {b : ℕ} (hb : column < b) (hs : isSolid s = true)
    (h : Lexes allowed column s blocks more) :
    Lexes allowed column s (b :: blocks) (.blockEnd :: more) := by
  intro l hl
  let closed : Lexer := ({ l with blocks := blocks } : Lexer).emit .blockEnd
  have hstands : closed.Stands allowed column s blocks :=
    { hl with
      blocks := rfl
      slots := fun n hn => hl.slots n (by simpa [closed, emit] using hn) }
  have hclose : l.closeBlocks (fun open_ => decide (open_ ≤ column)) =
      closed.closeBlocks (fun open_ => decide (open_ ≤ column)) := by
    have hmove : ∀ count, List.replicate count (Lexeme.token .blockEnd) ++
        .token .blockEnd :: l.read =
          .token .blockEnd :: (List.replicate count (Lexeme.token .blockEnd) ++
            l.read) := by
      intro count
      rw [List.append_cons, ← List.replicate_succ', List.replicate_succ,
        List.cons_append]
    unfold closeBlocks
    rw [hl.inFlow, hstands.inFlow, hl.blocks]
    simp [closed, emit, Nat.not_le.mpr hb, hmove]
  have hskip : l.skipToToken (l.cursor.rest.length + 1) = l :=
    skipToToken_of_isSolid (by rw [hl.rest, hs]) _
  have hskip' : closed.skipToToken (closed.cursor.rest.length + 1) = closed :=
    skipToToken_of_isSolid (by rw [hstands.rest, hs]) _
  have htokens : closed.tokens = l.tokens ++ [.blockEnd] := tokens_emit _ _
  refine (h closed hstands).of_run_eq (fun fuel => ?_)
    (le_refl l.cursor.rest.length) htokens
  rw [run, run, hskip, hskip', expireKeys_of_none hl.keyStart hl.outer,
    expireKeys_of_none hstands.keyStart hstands.outer]
  simp only [Option.bind_eq_bind, Option.bind_some, hl.column, hstands.column,
    hclose]

theorem tokens_closed (l : Lexer) (count : ℕ) :
    Lexeme.tokens l.filled (l.read.reverse ++
      List.replicate count (.token .blockEnd)) =
      l.tokens ++ List.replicate count .blockEnd := by
  induction count with
  | zero => simp [tokens]
  | succ count ih =>
      rw [List.replicate_succ', List.replicate_succ', ← List.append_assoc,
        ← List.append_assoc, ← ih]
      simp [Lexeme.tokens]

/-- At the end of the text every block is closed. -/
theorem lexes_nil (hblocks : ∀ b ∈ blocks.head?, b ≤ column) :
    Lexes allowed column [] blocks
      (List.replicate blocks.length .blockEnd) := by
  intro l hl
  have hall : blocks.takeWhile (fun _ => true) = blocks := by simp
  have hfinish : ∃ r, l.finish = some r ∧
      r.tokens = l.tokens ++ List.replicate blocks.length .blockEnd := by
    simp [finish, leaveBlocks, closeBlocks, dropKey, allowKey, inFlow, hl.outer,
      hl.keyStart, hl.blocks, tokens, hall]
    exact tokens_closed l _
  obtain ⟨r, hr, htokens⟩ := hfinish
  refine ⟨r, fun fuel hfuel => ?_, htokens⟩
  obtain ⟨fuel, rfl⟩ := Nat.exists_eq_add_one_of_ne_zero
    (Nat.ne_zero_of_lt hfuel)
  rw [hl.run_eq rfl hblocks, List.isEmpty_nil, if_pos rfl, hr]

/-- Where a token is read, the rest of the text is read behind it. -/
theorem Stands.yields (hl : l.Stands allowed column rest blocks)
    (hrest : isSolid rest = true) (hne : rest ≠ [])
    (hblocks : ∀ b ∈ blocks.head?, b ≤ column) (hread : l.readToken = some l')
    (hshort : l'.cursor.rest.length < rest.length)
    (htokens : l'.tokens = l.tokens ++ emitted) (hlater : l'.Yields more) :
    l.Yields (emitted ++ more) := by
  have hrun : ∀ fuel, run (fuel + 1) l = run fuel l' := by
    intro fuel
    rw [hl.run_eq hrest hblocks, List.isEmpty_eq_false_iff.mpr hne,
      if_neg Bool.false_ne_true, hread]
    rfl
  exact hlater.of_steps 1 hrun (by rwa [hl.rest]) htokens

/-! ## Blocks that open -/

/-- Whether a block at this column lies inside the innermost of these. -/
def LiesDeeper (column : ℕ) (blocks : List ℕ) : Prop :=
  ∀ b ∈ blocks.head?, b < column

instance (column : ℕ) (blocks : List ℕ) :
    Decidable (LiesDeeper column blocks) :=
  inferInstanceAs (Decidable (∀ b ∈ blocks.head?, b < column))

/-- The open blocks, with one at this column if it lies inside the others. -/
def opened (column : ℕ) (blocks : List ℕ) : List ℕ :=
  if LiesDeeper column blocks then column :: blocks else blocks

/-- The token with which such a block begins. -/
def opening (start : Token) (column : ℕ) (blocks : List ℕ) : List Token :=
  if LiesDeeper column blocks then [start] else []

theorem opened_of_liesDeeper (h : LiesDeeper column blocks) :
    opened column blocks = column :: blocks := if_pos h

theorem opening_of_liesDeeper (h : LiesDeeper column blocks) (start : Token) :
    opening start column blocks = [start] := if_pos h

theorem opened_cons (column : ℕ) (blocks : List ℕ) :
    opened column (column :: blocks) = column :: blocks := by
  simp [opened, LiesDeeper]

theorem opening_cons (start : Token) (column : ℕ) (blocks : List ℕ) :
    opening start column (column :: blocks) = [] := by
  simp [opening, LiesDeeper]

/-- Behind an entry of a mapping, its column is that of the innermost block. -/
theorem exists_opened (hblocks : ∀ b ∈ blocks.head?, b ≤ column) :
    ∃ outer, opened column blocks = column :: outer := by
  unfold opened
  split
  · exact ⟨blocks, rfl⟩
  · next hdeeper =>
      cases blocks with
      | nil => exact absurd (by simp [LiesDeeper]) hdeeper
      | cons b outer =>
          have hle := hblocks b rfl
          have hge : column ≤ b := by simpa [LiesDeeper] using hdeeper
          exact ⟨outer, by rw [Nat.le_antisymm hle hge]⟩

theorem Stands.isDeeper_eq (h : l.Stands allowed column rest blocks)
    (place : ℕ) :
    l.isDeeper place = decide (LiesDeeper place blocks) := by
  cases blocks with
  | nil => simp [isDeeper, h.inFlow, margin, h.blocks, LiesDeeper]
  | cons b blocks =>
      simp only [isDeeper, h.inFlow, Bool.not_false, margin, h.blocks,
        Nat.succ_le_iff, Bool.true_and, LiesDeeper, List.head?_cons,
        Option.mem_def, Option.some.injEq, forall_eq']

theorem Stands.openBlock (h : l.Stands allowed column rest blocks)
    (start : Token) :
    (l.openBlock start column).Stands allowed column rest
      (opened column blocks) := by
  unfold Lexer.openBlock opened
  rw [h.isDeeper_eq column]
  by_cases hdeeper : LiesDeeper column blocks
  · simp only [hdeeper, decide_true, if_true]
    exact { h with
      blocks := by rw [← h.blocks]; rfl
      slots := fun n hn => h.slots n (by simpa [emit] using hn) }
  · simpa only [hdeeper, decide_false, Bool.false_eq_true, if_false] using h

theorem Stands.tokens_openBlock (h : l.Stands allowed column rest blocks)
    (start : Token) :
    (l.openBlock start column).tokens =
      l.tokens ++ opening start column blocks := by
  unfold Lexer.openBlock opening
  rw [h.isDeeper_eq column]
  by_cases hdeeper : LiesDeeper column blocks
  · simp only [hdeeper, decide_true, if_true]
    exact tokens_emit start _
  · simp [hdeeper]

theorem Stands.emit (h : l.Stands allowed column rest blocks) (token : Token) :
    (l.emit token).Stands allowed column rest blocks :=
  { h with slots := fun n hn => h.slots n (by simpa [Lexer.emit] using hn) }

theorem Stands.advance (h : l.Stands allowed column (s ++ t) blocks) :
    (l.advance s.length).Stands allowed (column + s.length) t blocks :=
  { h with
    column := by simp [Lexer.advance, h.column]
    rest := by simp [Lexer.advance, h.rest] }

theorem Stands.allowKey (h : l.Stands allowed column rest blocks) (b : Bool) :
    (l.allowKey b).Stands b column rest blocks :=
  { h with keyAllowed := rfl }

/-! ## Dashes -/

/-- A dash is no line of dashes if a blank or a line break follows. -/
theorem atDocumentIndicator_dash {c : Cursor} (hrest : c.rest = '-' :: s)
    (hs : endsWord s = true) : c.atDocumentIndicator = false := by
  unfold Cursor.atDocumentIndicator
  rw [hrest]
  split
  · next h =>
      obtain ⟨-, rfl⟩ := List.cons_eq_cons.mp h
      simp [endsWord, Text.isBlank, isBreak] at hs
  · next h => simp at h
  · simp

theorem readToken_dash (hrest : l.cursor.rest = '-' :: s)
    (hs : endsWord s = true) :
    l.readToken = l.readBlockEntry := by
  unfold readToken
  simp [hrest, atDocumentIndicator_dash hrest hs, hs]

/-- A dash begins an item, and a sequence if none is open at its column. -/
theorem Lexes.dash (hs : endsWord s = true)
    (hblocks : ∀ b ∈ blocks.head?, b ≤ column)
    (h : Lexes true (column + 1) s (opened column blocks) more) :
    Lexes true column ('-' :: s) blocks
      (opening .blockSequenceStart column blocks ++ .blockEntry :: more) := by
  intro l hl
  have hopened := hl.openBlock .blockSequenceStart
  let behind : Lexer :=
    (((l.openBlock .blockSequenceStart column).allowKey true).emit
      .blockEntry).advance 1
  have hbehind : behind.Stands true (column + 1) s (opened column blocks) :=
    ((hopened.allowKey true).emit .blockEntry).advance (s := ['-'])
  have hread : l.readToken = some behind := by
    rw [readToken_dash hl.rest hs, readBlockEntry, hl.inFlow, hl.keyAllowed,
      hl.column, dropKey, hopened.keyStart]
    rfl
  have htokens : behind.tokens = l.tokens ++
      (opening .blockSequenceStart column blocks ++ [.blockEntry]) := by
    simp only [behind, tokens_advance, tokens_emit, tokens_allowKey,
      hl.tokens_openBlock, List.append_assoc]
  rw [List.append_cons]
  exact hl.yields rfl (List.cons_ne_nil _ _) hblocks hread
    (by simp [hbehind.rest]) htokens (h behind hbehind)

/-! ## Keys -/

/-- A lexer that remembers that a key may begin here. -/
def marked (l : Lexer) : Lexer :=
  { l with
    keyStart := some {
      required := l.blocks.head? == some l.cursor.column
      slot := l.slots
      line := l.cursor.line
      column := l.cursor.column
      index := l.cursor.index }
    read := .slot l.slots :: l.read
    slots := l.slots + 1 }

theorem Stands.markKey (h : l.Stands true column rest blocks) :
    l.markKey = some l.marked := by
  simp [Lexer.markKey, h.keyAllowed, dropKey, h.keyStart, marked, h.inFlow]

theorem Stands.markKey_of_not (h : l.Stands false column rest blocks) :
    l.markKey = some l := by
  simp [Lexer.markKey, h.keyAllowed]

/-- The tokens that a slot is filled with come in its place. -/
theorem Stands.tokens_fill (h : l.Stands allowed column rest blocks)
    (ts behind : List Token) :
    Lexeme.tokens ((l.slots, ts) :: l.filled)
        (l.read.reverse ++ .slot l.slots :: behind.map .token) =
      l.tokens ++ (ts ++ behind) := by
  have hread : Lexeme.tokens ((l.slots, ts) :: l.filled) l.read.reverse =
      l.tokens := by
    refine List.flatMap_congr fun lexeme hlexeme => ?_
    cases lexeme with
    | token t => rfl
    | slot n =>
        have hn : (n == l.slots) = false :=
          beq_eq_false_iff_ne.mpr (h.slots n (List.mem_reverse.mp hlexeme)).ne
        simp only [List.lookup_cons, hn]
  have hbehind : Lexeme.tokens ((l.slots, ts) :: l.filled) (behind.map .token) =
      behind := by
    simp [Lexeme.tokens, List.flatMap_map]
  rw [← hread, Lexeme.tokens, List.flatMap_append, List.flatMap_cons]
  congr 2
  simp

/-- The scalar that is written so is read up to the colon behind it. -/
def ReadsKey (column : ℕ) (said : Text) (token : Token) : Prop :=
  ∀ (l : Lexer) (t : Text) (blocks : List ℕ),
    l.Stands true column (said ++ ':' :: t) blocks →
    (∀ b ∈ blocks.head?, b ≤ column) → endsWord t = true →
      l.readToken =
        some (((l.marked.allowKey false).emit token).advance said.length)

/-- Where a lexer comes to, from `l`, behind a scalar and before its colon. -/
structure AtColon (m l : Lexer) (said t : Text) (token : Token) : Prop where
  cursor : m.cursor = ⟨':' :: t, l.cursor.line, l.cursor.column + said.length,
    l.cursor.index + Text.byteSize said⟩
  keyStart : m.keyStart = l.marked.keyStart
  read : m.read = .token token :: .slot l.slots :: l.read
  filled : m.filled = l.filled
  slots : m.slots = l.slots + 1
  blocks : m.blocks = l.blocks
  outer : m.outer = l.outer

theorem Stands.exists_atColon {said : Text} {token : Token}
    (hl : l.Stands true column (said ++ ':' :: t) blocks)
    (hkey : ReadsKey column said token)
    (hblocks : ∀ b ∈ blocks.head?, b ≤ column) (ht : endsWord t = true) :
    ∃ m, l.readToken = some m ∧ m.AtColon l said t token :=
  ⟨((l.marked.allowKey false).emit token).advance said.length,
    hkey l t blocks hl hblocks ht, {
    cursor := Cursor.advance_of_append hl.rest
    keyStart := rfl
    read := rfl
    filled := rfl
    slots := rfl
    blocks := rfl
    outer := rfl }⟩

variable {m : Lexer} {said : Text} {token : Token}

/-- A key that is short enough is not given up before its colon. -/
theorem AtColon.expireKeys_eq (hm : m.AtColon l said t token)
    (houter : l.outer = [])
    (hsize : Text.byteSize said ≤ maxKeyLength) : m.expireKeys = some m := by
  have hexpire : expire m.cursor m.keyStart = some m.keyStart := by
    rw [hm.keyStart, hm.cursor, marked, expire, if_neg]
    simp only [lt_self_iff_false, false_or, not_lt]
    omega
  have hnone : m.outer = [] := hm.outer.trans houter
  cases m
  simp only at hexpire hnone
  subst hnone
  simp [expireKeys, hexpire]

theorem readToken_colon (hrest : l.cursor.rest = ':' :: t)
    (ht : endsWord t = true) :
    l.readToken = l.readValue := by
  have hline : l.cursor.atDocumentIndicator = false := by
    simp [Cursor.atDocumentIndicator, hrest]
  unfold readToken
  simp [hrest, hline, ht]

/-- At the colon, the slot of the key is filled.  It was left before the scalar
was read, so the tokens of the key come in front of it. -/
theorem AtColon.exists_readToken (hm : m.AtColon l said t token)
    (hl : l.Stands true column (said ++ ':' :: t) blocks)
    (ht : endsWord t = true) :
    ∃ l', m.readToken = some l' ∧
      l'.Stands false (column + said.length + 1) t (opened column blocks) ∧
      l'.tokens = l.tokens ++
        (opening .blockMappingStart column blocks ++
          [.key, token, .value]) := by
  have hdeeper : m.isDeeper column = decide (LiesDeeper column blocks) := by
    have hflow : m.inFlow = l.inFlow := by rw [inFlow, inFlow, hm.outer]
    have hmargin : m.margin = l.margin := by rw [margin, margin, hm.blocks]
    rw [← hl.isDeeper_eq column, isDeeper, isDeeper, hflow, hmargin]
  have hstart : m.keyStart = some ⟨l.blocks.head? == some column, l.slots,
      l.cursor.line, column, l.cursor.index⟩ := by
    rw [hm.keyStart, marked, hl.column]
  refine ⟨(({ m with
    filled := (l.slots, opening .blockMappingStart column blocks ++ [.key]) ::
      l.filled
    blocks := opened column blocks
    keyStart := none
    keyAllowed := false } : Lexer).emit .value).advance 1, ?_, ?_, ?_⟩
  · rw [readToken_colon (by rw [hm.cursor]) ht]
    unfold readValue opening opened
    simp only [hstart, hm.filled, hm.blocks, hl.blocks]
    by_cases hd : LiesDeeper column blocks
    · simp [hd, hdeeper]
    · simp [hd, hdeeper]
  · exact {
      keyAllowed := rfl
      column := by simp [Lexer.advance, Lexer.emit, hm.cursor, hl.column]
      rest := by simp [Lexer.advance, Lexer.emit, hm.cursor]
      blocks := rfl
      keyStart := rfl
      outer := hm.outer.trans hl.outer
      slots := by
        intro n hn
        simp only [Lexer.advance, Lexer.emit, hm.read, List.mem_cons,
          reduceCtorEq, false_or, Lexeme.slot.injEq] at hn
        simp only [Lexer.advance, Lexer.emit, hm.slots]
        rcases hn with rfl | hn
        · exact Nat.lt_succ_self _
        · exact Nat.lt_succ_of_lt (hl.slots n hn) }
  · have hfill :=
      hl.tokens_fill (opening .blockMappingStart column blocks ++ [.key])
      [token, .value]
    rw [List.append_assoc, List.singleton_append] at hfill
    rw [← hfill]
    simp [tokens, Lexer.advance, Lexer.emit, hm.read]

/-- A key and its colon are read, and a mapping begins if none is open at its
column. -/
theorem Lexes.key (hkey : ReadsKey column said token) (hsaid : said ≠ [])
    (hsolid : isSolid said = true) (hsize : Text.byteSize said ≤ maxKeyLength)
    (ht : endsWord t = true) (hblocks : ∀ b ∈ blocks.head?, b ≤ column)
    (h : Lexes false (column + said.length + 1) t (opened column blocks) more) :
    Lexes true column (said ++ ':' :: t) blocks
      (opening .blockMappingStart column blocks ++ .key :: token :: .value ::
        more) := by
  intro l hl
  obtain ⟨m, hread, hm⟩ := hl.exists_atColon hkey hblocks ht
  obtain ⟨l', hvalue, hstands, htokens⟩ := hm.exists_readToken hl ht
  have hrun : ∀ fuel, run (fuel + 2) l = run fuel l' := by
    intro fuel
    have hinside : ∀ b ∈ m.blocks.head?, b ≤ m.cursor.column := by
      rw [hm.blocks, hl.blocks, hm.cursor, hl.column]
      exact fun b hb => le_trans (hblocks b hb) (Nat.le_add_right _ _)
    have hkeys := hm.expireKeys_eq hl.outer hsize
    rw [hl.run_eq (by rwa [isSolid_append hsaid]) hblocks, hread,
      if_neg (by simp [hsaid])]
    change run (fuel + 1) m = _
    rw [run_of_token (by rw [hm.cursor]; rfl) hkeys hinside, hvalue, hm.cursor]
    rfl
  have hshort : l'.cursor.rest.length + 2 ≤ l.cursor.rest.length := by
    have hpos := List.length_pos_of_ne_nil hsaid
    rw [hstands.rest, hl.rest, List.length_append, List.length_cons]
    omega
  have hlater := (h l' hstands).of_steps 2 hrun hshort htokens
  rwa [List.append_assoc] at hlater

/-! ## Empty brackets -/

/-- Brackets with nothing between them are read as a list. -/
theorem Lexes.emptyFlow (hs : isSolid s = true)
    (hblocks : ∀ b ∈ blocks.head?, b ≤ column)
    (h : Lexes true n s blocks more) :
    Lexes false column ('[' :: ']' :: '\n' :: (List.replicate n ' ' ++ s))
      blocks (.flowSequenceStart :: .flowSequenceEnd :: more) := by
  intro l hl
  let opened : Lexer :=
    { l with outer := [none], keyStart := none, keyAllowed := true }
  let inside : Lexer := (opened.emit .flowSequenceStart).advance 1
  let closed : Lexer := { inside with
    outer := [], keyStart := none, keyAllowed := false }
  let behind : Lexer := (closed.emit .flowSequenceEnd).advance 1
  have hopen : l.readToken = some inside := by
    have hline : l.cursor.atDocumentIndicator = false := by
      simp [Cursor.atDocumentIndicator, hl.rest]
    simp [readToken, hl.rest, hline, readOpening, hl.markKey_of_not,
      hl.keyStart, hl.outer, inside, opened]
  have hrest : inside.cursor.rest = ']' :: '\n' ::
      (List.replicate n ' ' ++ s) := by
    simp [inside, opened, Lexer.advance, Lexer.emit, hl.rest]
  have hclose : inside.readToken = some behind := by
    have hline : inside.cursor.atDocumentIndicator = false := by
      simp [Cursor.atDocumentIndicator, hrest]
    have hbehind : inside.readClosing .flowSequenceEnd = some behind := rfl
    simp [readToken, hrest, hline, hbehind]
  have hkeys : inside.expireKeys = some inside := rfl
  have hstands : behind.Stands false (column + 2)
      ('\n' :: (List.replicate n ' ' ++ s)) blocks :=
    { keyAllowed := rfl
      column := congrArg (· + 2) hl.column
      rest := by simp [behind, closed, Lexer.advance, Lexer.emit, hrest]
      blocks := hl.blocks
      keyStart := rfl
      outer := rfl
      slots := fun k hk => hl.slots k
        (by simpa [behind, closed, inside, opened, Lexer.advance,
          Lexer.emit] using hk) }
  have hinside : ∀ b ∈ inside.blocks.head?, b ≤ inside.cursor.column := by
    intro b hb
    have hle := hblocks b (by rwa [← hl.blocks])
    rw [← hl.column] at hle
    exact Nat.le_succ_of_le hle
  have htokens : behind.tokens = l.tokens ++
      [.flowSequenceStart, .flowSequenceEnd] := by
    simp [behind, closed, inside, opened, tokens, Lexer.advance, Lexer.emit,
      Lexeme.tokens]
  have hrun : ∀ fuel, run (fuel + 2) l = run fuel behind := by
    intro fuel
    rw [hl.run_eq rfl hblocks, hopen]
    change run (fuel + 1) inside = _
    rw [run_of_token (by rw [hrest]; rfl) hkeys hinside, hrest, hclose]
    rfl
  exact (h.feed hs behind hstands).of_steps 2 hrun
    (by simp [hstands.rest, hl.rest]) htokens

/-! ## Values -/

/-- In a block at this column, the scalar that is written so is read as the
value of a key, up to the next line that is not indented further. -/
def ReadsValue (column : ℕ) (said : Text) (token : Token) : Prop :=
  ∀ (place n : ℕ) (s : Text) (blocks : List ℕ) (more : List Token),
    column < place →
    n ≤ column → isSolid s = true → Lexes true n s (column :: blocks) more →
      Lexes false place (said ++ '\n' :: (List.replicate n ' ' ++ s))
        (column :: blocks) (token :: more)

end Lexer
end FormScaffold.Yaml
