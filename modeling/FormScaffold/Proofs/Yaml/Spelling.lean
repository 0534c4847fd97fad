import FormScaffold.Proofs.Yaml.Scalars

/-!
# Scalars behind keys and before them

A spelling is a scalar with the way it is written.  The lexer reads it as one
token, as a key up to its colon and as a value up to the next line.
-/

namespace FormScaffold.Yaml

/-- A scalar as it is written. -/
inductive Spelling where
  /-- Nothing. -/
  | absent
  /-- Words, with blanks before each but the first. -/
  | plain (first : Text) (more : List (Text × Text))
  /-- Quotes around strokes. -/
  | quoted (single : Bool) (strokes : List Stroke)
  /-- Lines that are indented so much deeper than they have to be, each but the
  first with so many empty lines before it. -/
  | block (literal : Bool) (deeper : ℕ) (first : Text) (more : List (ℕ × Text))
  deriving DecidableEq, Repr

namespace Spelling

def word (w : Text) : Spelling := plain w []

/-- How a scalar is written in a block at this column. -/
def source (column : ℕ) : Spelling → Text
  | absent => []
  | plain first more => first ++ Scalar.joined more
  | quoted single strokes =>
      quote single :: (Stroke.sources single strokes ++ [quote single])
  | block literal deeper first more =>
    (if literal then '|' else '>') :: '\n' ::
      (List.replicate (column + 1 + deeper) ' ' ++
        (first ++ blockSource (column + 1 + deeper) more))

def text : Spelling → Text
  | absent => []
  | plain first more => first ++ Scalar.joined more
  | quoted _ strokes => strokes.map Stroke.char
  | block literal _ first more => first ++ blockText literal false more

def style : Spelling → ScalarStyle
  | absent => .plain
  | plain _ _ => .plain
  | quoted single _ => if single then .singleQuoted else .doubleQuoted
  | block literal _ _ _ => if literal then .literal else .folded

def token (s : Spelling) : Token := .scalar s.style s.text

/-- Whether a plain scalar may begin with a word. -/
def BeginsPlain : Text → Prop
  | [] => False
  | c :: more =>
    c ≠ '\ufeff' ∧
      if c = '-' ∨ c = '?' ∨ c = ':' then more ≠ []
      else c ∉ ",[]\x7b\x7d#&*!|>'\"%@`".toList

instance : DecidablePred BeginsPlain
  | [] => inferInstanceAs (Decidable False)
  | c :: more => inferInstanceAs (Decidable (c ≠ '\ufeff' ∧
      if c = '-' ∨ c = '?' ∨ c = ':' then more ≠ []
      else c ∉ ",[]\x7b\x7d#&*!|>'\"%@`".toList))

/-- Whether the parts of a spelling are such as can be written so. -/
def IsSound : Spelling → Prop
  | absent => True
  | plain first more =>
    BeginsPlain first ∧ IsPlainWord first ∧ ∀ p ∈ more, Scalar.IsPlainTail p
  | quoted single strokes => ∀ x ∈ strokes, x.IsWritten single
  | block _ _ first more =>
    IsBlockLine first ∧ beginsBlank first = false ∧ ∀ p ∈ more, IsBlockLine p.2

instance : DecidablePred IsSound
  | absent => inferInstanceAs (Decidable True)
  | plain first more => inferInstanceAs (Decidable
      (BeginsPlain first ∧ IsPlainWord first ∧
        ∀ p ∈ more, Scalar.IsPlainTail p))
  | quoted single strokes =>
      inferInstanceAs (Decidable (∀ x ∈ strokes, x.IsWritten single))
  | block _ _ first more => inferInstanceAs (Decidable
      (IsBlockLine first ∧ beginsBlank first = false ∧
        ∀ p ∈ more, IsBlockLine p.2))

/-- Whether a spelling can be written. -/
structure IsWritten (s : Spelling) : Prop where
  sound : s.IsSound
  allowed : ∀ c ∈ s.source 0, isAllowed c = true

instance : DecidablePred IsWritten := fun s =>
  letI : Decidable (∀ c ∈ s.source 0, isAllowed c = true) :=
    List.decidableBAll _ (s.source 0)
  decidable_of_iff (s.IsSound ∧ ∀ c ∈ s.source 0, isAllowed c = true)
    ⟨fun ⟨hsound, hallowed⟩ => ⟨hsound, hallowed⟩,
      fun ⟨hsound, hallowed⟩ => ⟨hsound, hallowed⟩⟩

/-- Whether a scalar can be written as a key: on one line and short enough. -/
def IsKey : Spelling → Prop
  | absent => False
  | block _ _ _ _ => False
  | s => Text.byteSize (s.source 0) ≤ maxKeyLength

instance : DecidablePred IsKey
  | absent => inferInstanceAs (Decidable False)
  | block _ _ _ _ => inferInstanceAs (Decidable False)
  | plain first more => inferInstanceAs (Decidable
      (Text.byteSize ((plain first more).source 0) ≤ maxKeyLength))
  | quoted single strokes => inferInstanceAs (Decidable
      (Text.byteSize ((quoted single strokes).source 0) ≤ maxKeyLength))

/-- Whether a plain scalar begins like a line that says where a document begins
or ends. -/
def BeginsMark : Spelling → Prop
  | plain first _ => first = "---".toList ∨ first = "...".toList
  | _ => False

instance : DecidablePred BeginsMark
  | plain first _ =>
      inferInstanceAs (Decidable (first = "---".toList ∨ first = "...".toList))
  | absent => inferInstanceAs (Decidable False)
  | quoted _ _ => inferInstanceAs (Decidable False)
  | block _ _ _ _ => inferInstanceAs (Decidable False)

theorem isSolid_of_beginsPlain {w : Text} (hbegin : BeginsPlain w)
    (hw : IsPlainWord w) :
    isSolid w = true := by
  obtain ⟨-, hsolid, hcomment, -⟩ := hw
  cases w with
  | nil => cases hbegin
  | cons c more =>
      have hc := hsolid c List.mem_cons_self
      have hsign : c ≠ '#' := fun h => hcomment (by rw [h]; rfl)
      simp [isSolid, hc, hsign, hbegin.1]

theorem isSolid_source {s : Spelling} (hs : s.IsSound) (column : ℕ) :
    isSolid (s.source column) = true := by
  cases s with
  | absent => rfl
  | plain first more =>
      obtain ⟨hbegin, hfirst, -⟩ := hs
      rw [source, isSolid_append hfirst.1, isSolid_of_beginsPlain hbegin hfirst]
  | quoted single strokes => cases single <;> rfl
  | block literal deeper first more => cases literal <;> rfl

theorem source_ne_nil {s : Spelling} (hs : s.IsSound) (hne : s ≠ absent)
    (column : ℕ) :
    s.source column ≠ [] := by
  cases s with
  | absent => contradiction
  | plain first more => simp [source, hs.2.1.1]
  | quoted single strokes => simp [source]
  | block literal deeper first more => simp [source]

theorem ne_absent_of_isKey {s : Spelling} (hs : s.IsKey) : s ≠ absent := by
  rintro rfl
  exact hs

theorem byteSize_of_isKey {s : Spelling} (hs : s.IsKey) (column : ℕ) :
    Text.byteSize (s.source column) ≤ maxKeyLength := by
  cases s with
  | absent => cases hs
  | block literal deeper first more => cases hs
  | plain first more => exact hs
  | quoted single strokes => exact hs

theorem mem_blockSource {indent indent' : ℕ} {more : List (ℕ × Text)} {c : Char}
    (hc : c ∈ blockSource indent more) :
    c = ' ' ∨ c ∈ blockSource indent' more := by
  simp only [blockSource, List.mem_flatMap, List.mem_append, List.mem_cons,
    List.mem_replicate] at hc ⊢
  obtain ⟨p, hp, (hfeed | hspace) | hline⟩ := hc
  · exact Or.inr ⟨p, hp, Or.inl (Or.inl hfeed)⟩
  · exact Or.inl hspace.2
  · exact Or.inr ⟨p, hp, Or.inr hline⟩

/-- Only the indentation of a block scalar depends on where it is written. -/
theorem mem_source {s : Spelling} {column : ℕ} {c : Char}
    (hc : c ∈ s.source column) :
    c = ' ' ∨ c ∈ s.source 0 := by
  cases s with
  | block literal deeper first more =>
      simp only [source, List.mem_cons, List.mem_append,
        List.mem_replicate] at hc ⊢
      rcases hc with hsign | hfeed | hspace | hfirst | hlines
      · exact Or.inr (Or.inl hsign)
      · exact Or.inr (Or.inr (Or.inl hfeed))
      · exact Or.inl hspace.2
      · exact Or.inr (Or.inr (Or.inr (Or.inr (Or.inl hfirst))))
      · exact (mem_blockSource hlines).imp_right fun h =>
          Or.inr (Or.inr (Or.inr (Or.inr h)))
  | _ => exact Or.inr hc

end Spelling

namespace Lexer

variable {l : Lexer} {w s t : Text} {column n : ℕ}

theorem readToken_plain (hflow : l.inFlow = false)
    (hline : l.cursor.atDocumentIndicator = false)
    (hbegin : Spelling.BeginsPlain w) (hw : IsPlainWord w)
    (hrest : l.cursor.rest = w ++ s) :
    l.readToken = l.readPlain := by
  cases w with
  | nil => cases hbegin
  | cons c more =>
      obtain ⟨-, hbegin⟩ := hbegin
      obtain ⟨-, hsolid, -, -⟩ := hw
      obtain ⟨⟨hblank, hbreak⟩, hmore⟩ := List.forall_mem_cons.mp hsolid
      rw [List.cons_append] at hrest
      simp only [readToken, hrest, hline, hflow]
      split at hbegin
      · next hc =>
          obtain ⟨d, behind, rfl⟩ := List.exists_cons_of_ne_nil hbegin
          have hd := hmore d List.mem_cons_self
          rcases hc with rfl | rfl | rfl
          · simp [endsWord, beginsPlain, hd, hblank, hbreak]
          · simp [endsWord, beginsPlain, hd, hblank, hbreak]
          · simp [endsWord, beginsPlain, hd, hblank, hbreak]
      · next hc =>
          obtain ⟨hdash, hquestion, hcolon⟩ : c ≠ '-' ∧ c ≠ '?' ∧ c ≠ ':' := by
            simpa [not_or] using hc
          simp at hbegin
          simp [beginsPlain, hbegin, hdash, hquestion, hcolon, hblank, hbreak]

theorem Stands.margin_le {allowed : Bool} {blocks : List ℕ}
    (hl : l.Stands allowed column s blocks)
    (hblocks : ∀ b ∈ blocks.head?, b ≤ column) : l.margin ≤ column + 1 := by
  rw [margin, hl.blocks]
  cases blocks with
  | nil => exact Nat.zero_le _
  | cons b blocks => exact Nat.succ_le_succ (hblocks b rfl)

/-- A plain scalar is read as a key. -/
theorem readsKey_plain {first : Text} {more : List (Text × Text)}
    (hbegin : Spelling.BeginsPlain first) (hfirst : IsPlainWord first)
    (hmore : ∀ p ∈ more, Scalar.IsPlainTail p)
    (hline : ∀ (c : Cursor) (t : Text), endsWord t = true →
      c.rest = first ++ (Scalar.joined more ++ ':' :: t) → c.column = column →
        c.atDocumentIndicator = false) :
    ReadsKey column (first ++ Scalar.joined more)
      (Spelling.plain first more).token := by
  intro l t blocks hl hblocks ht
  have hrest : l.cursor.rest = first ++ (Scalar.joined more ++ ':' :: t) := by
    rw [hl.rest, List.append_assoc]
  have hindicator := hline l.cursor t ht hrest hl.column
  have hfuel := Scalar.length_lt_of_joined hmore hrest
  have hread : Scalar.plain false l.margin (l.cursor.rest.length + 1) l.cursor
      [] Gap.none =
      some ([] ++ Gap.none.text ++ (first ++ Scalar.joined more), false,
        l.cursor.advance (first ++ Scalar.joined more).length) :=
    Scalar.plain_words (fun c => (false, c))
      (fun _ _ _ _ _ hline hw hrest => Scalar.plain_colon hline hw ht hrest)
      hindicator hfirst hmore (by rw [hl.column]; exact hl.margin_le hblocks)
        hfuel hrest
  rw [readToken_plain hl.inFlow hindicator hbegin hfirst hrest, readPlain,
    hl.markKey]
  have hflow : (l.marked.allowKey false).inFlow = false := hl.inFlow
  have hcursor : (l.marked.allowKey false).cursor = l.cursor := rfl
  have hmargin : (l.marked.allowKey false).margin = l.margin := rfl
  simp only [Option.bind_eq_bind, Option.bind_some, hflow, hcursor, hmargin,
    hread]
  rfl

/-- A scalar that is read with its line break and the indentation behind it is
read as a value. -/
theorem ReadsValue.of_next {said : Text} {token : Token} (hne : said ≠ [])
    (hsolid : isSolid said = true)
    (hread : ∀ {l : Lexer} {place n : ℕ} {t : Text} {blocks : List ℕ},
      column < place → n ≤ column → isSolid t = true →
        l.Stands false place (said ++ '\n' :: (List.replicate n ' ' ++ t))
          (column :: blocks) → ∃ next : Cursor, l.readToken =
            some { l.emit token with cursor := next, keyAllowed := true } ∧
              next.rest = t ∧ next.column = n) :
    ReadsValue column said token := by
  intro place n t blocks more hplace hn ht h l hl
  obtain ⟨next, htoken, hrest, hcolumn⟩ := hread hplace hn ht hl
  let behind : Lexer := { l.emit token with cursor := next, keyAllowed := true }
  have hstands : behind.Stands true n t (column :: blocks) :=
    { hl.emit token with
      keyAllowed := rfl
      column := hcolumn
      rest := hrest }
  have hblocks : ∀ b ∈ (column :: blocks).head?, b ≤ place := by
    simpa using hplace.le
  have hshort : behind.cursor.rest.length <
      (said ++ '\n' :: (List.replicate n ' ' ++ t)).length := by
    rw [hstands.rest]
    simp
    omega
  have htokens : behind.tokens = l.tokens ++ [token] := tokens_emit token l
  exact hl.yields (by rw [isSolid_append hne, hsolid]) (by simp) hblocks htoken
    hshort htokens (h behind hstands)

/-- A plain scalar is read as a value, up to the next line. -/
theorem readsValue_plain {first : Text} {more : List (Text × Text)}
    (hbegin : Spelling.BeginsPlain first) (hfirst : IsPlainWord first)
    (hmore : ∀ p ∈ more, Scalar.IsPlainTail p)
    (hsolid : isSolid (first ++ Scalar.joined more) = true) :
    ReadsValue column (first ++ Scalar.joined more)
      (Spelling.plain first more).token := by
  refine ReadsValue.of_next (by simp [hfirst.1]) hsolid ?_
  intro l place n t blocks hplace hn ht hl
  have hrest : l.cursor.rest = first ++ (Scalar.joined more ++
      '\n' :: (List.replicate n ' ' ++ t)) := by
    rw [hl.rest, List.append_assoc]
  have hindicator : l.cursor.atDocumentIndicator = false :=
    Cursor.atDocumentIndicator_of_pos (by rw [hl.column]; omega)
  have hmargin : l.margin = column + 1 := by rw [margin, hl.blocks]
  have hfuel := Scalar.length_lt_of_joined hmore hrest
  have hafter : (l.cursor.advance (first ++ Scalar.joined more).length).rest =
      '\n' :: (List.replicate n ' ' ++ t) := by
    rw [Cursor.advance_rest, hl.rest, List.drop_left]
  have hbehind := Cursor.skipBreak_feed hafter
  refine ⟨(l.cursor.advance (first ++
    Scalar.joined more).length).skipBreak.advance n, ?_, ?_, ?_⟩
  · have hread : Scalar.plain false l.margin (l.cursor.rest.length + 1) l.cursor
        [] Gap.none =
        some ([] ++ Gap.none.text ++ (first ++ Scalar.joined more), true,
          (l.cursor.advance (first ++ Scalar.joined
            more).length).skipBreak.advance n) := by
      rw [hmargin]
      exact Scalar.plain_words (fun c => (true, c.skipBreak.advance n))
        (fun _ _ _ _ _ hline hw hrest =>
          Scalar.plain_feed hline hw (EndsGap.of_isSolid ht)
          (Nat.lt_succ_of_le hn) hrest)
        hindicator hfirst hmore (by rw [hl.column]; omega) hfuel hrest
    have hflow : (l.allowKey false).inFlow = false := hl.inFlow
    have hcursor : (l.allowKey false).cursor = l.cursor := rfl
    have hmargin' : (l.allowKey false).margin = l.margin := rfl
    rw [readToken_plain hl.inFlow hindicator hbegin hfirst hrest, readPlain,
      hl.markKey_of_not]
    simp only [Option.bind_eq_bind, Option.bind_some, hflow, hcursor, hmargin',
      hread]
    rfl
  · rw [hbehind]
    simp
  · rw [hbehind]
    simp

/-- What stands between quotes is read whatever follows. -/
theorem readToken_quoted {allowed : Bool} {blocks : List ℕ} {single : Bool}
    {strokes : List Stroke} {m : Lexer}
    (hwritten : ∀ x ∈ strokes, x.IsWritten single) (ht : t.head? ≠ some '\'')
    (hl : l.Stands allowed column ((Spelling.quoted single strokes).source n ++
      t) blocks)
    (hmark : l.markKey = some m) (hcursor : m.cursor = l.cursor) :
    l.readToken =
      some (((m.allowKey false).emit
        (Spelling.quoted single strokes).token).advance
      ((Spelling.quoted single strokes).source n).length) := by
  have hrest : l.cursor.rest = quote single :: (Stroke.sources single strokes ++
      quote single :: t) := by
    rw [hl.rest]
    simp [Spelling.source]
  have hindicator : l.cursor.atDocumentIndicator = false := by
    unfold Cursor.atDocumentIndicator
    rw [hrest]
    cases single <;> simp [quote]
  have hread : Scalar.quoted single ((l.cursor.advance 1).rest.length + 1)
      (l.cursor.advance 1) [] = some ([] ++ strokes.map Stroke.char,
        (l.cursor.advance 1).advance ((Stroke.sources single strokes).length +
          1)) := by
    refine Scalar.quoted_strokes hwritten ht (by simp) (by simp [hrest]) ?_
    have hlength := Stroke.length_le_sources single strokes
    simp [hrest]
    omega
  have htoken : l.readToken = l.readQuoted single := by
    cases single <;> simp [readToken, hrest, hindicator, quote]
  have hlength : ((Spelling.quoted single strokes).source n).length =
      1 + ((Stroke.sources single strokes).length + 1) := by
    simp [Spelling.source]
    omega
  have hcursor' : (m.allowKey false).cursor = l.cursor := hcursor
  rw [htoken, readQuoted, hmark, hlength]
  simp only [Option.bind_eq_bind, Option.bind_some, hcursor', hread,
    Cursor.advance_advance]
  rw [← hcursor]
  rfl

theorem readsKey_quoted {single : Bool} {strokes : List Stroke}
    (hwritten : ∀ x ∈ strokes, x.IsWritten single) :
    ReadsKey column ((Spelling.quoted single strokes).source n)
      (Spelling.quoted single strokes).token := by
  intro l t blocks hl _ _
  exact readToken_quoted hwritten (by simp) hl hl.markKey rfl

/-- A quoted scalar is read as a value, and the line ends behind it. -/
theorem readsValue_quoted {single : Bool} {strokes : List Stroke}
    (hwritten : ∀ x ∈ strokes, x.IsWritten single) :
    ReadsValue column ((Spelling.quoted single strokes).source n)
      (Spelling.quoted single strokes).token := by
  intro place k t blocks more hplace _ ht h l hl
  have htoken := readToken_quoted hwritten (by simp) hl hl.markKey_of_not rfl
  have hstands :=
    ((hl.allowKey false).emit (Spelling.quoted single strokes).token).advance
  have hsolid : isSolid ((Spelling.quoted single strokes).source n ++
      '\n' :: (List.replicate k ' ' ++ t)) = true := by
    cases single <;> rfl
  have hblocks : ∀ b ∈ (column :: blocks).head?, b ≤ place := by
    simpa using hplace.le
  refine hl.yields hsolid (by simp) hblocks htoken ?_ (tokens_emit _ l)
    (h.feed ht _ hstands)
  rw [hstands.rest]
  simp [Spelling.source]
  omega

/-- A block scalar is read as a value, up to a line that is not indented as
far. -/
theorem readsValue_block {literal : Bool} {deeper : ℕ} {first : Text}
    {more : List (ℕ × Text)} (hfirst : IsBlockLine first)
    (hblank : beginsBlank first = false) (hmore : ∀ p ∈ more, IsBlockLine p.2) :
    ReadsValue column ((Spelling.block literal deeper first more).source column)
      (Spelling.block literal deeper first more).token := by
  have hsolid :
      isSolid ((Spelling.block literal deeper first more).source column) =
        true := by
    cases literal <;> rfl
  refine ReadsValue.of_next (by simp [Spelling.source]) hsolid ?_
  intro l place k t blocks hplace hk ht hl
  have hrest : l.cursor.rest = (if literal then '|' else '>') :: '\n' ::
      (List.replicate (column + 1 + deeper) ' ' ++ (first ++
        (blockSource (column + 1 + deeper) more ++ '\n' ::
          (List.replicate k ' ' ++ t)))) := by
    rw [hl.rest]
    simp [Spelling.source]
  have hindicator : l.cursor.atDocumentIndicator = false :=
    Cursor.atDocumentIndicator_of_pos (by rw [hl.column]; omega)
  have hmargin : l.margin = column + 1 := by rw [margin, hl.blocks]
  have hbehind : (l.cursor.advance 1).rest = '\n' ::
      (List.replicate (column + 1 + deeper) ' ' ++ (first ++
        (blockSource (column + 1 + deeper) more ++ '\n' ::
          (List.replicate k ' ' ++ t)))) := by
    rw [Cursor.advance_rest, hrest]
    rfl
  obtain ⟨next, hread, hnext⟩ :
      ∃ next, Scalar.block literal l.margin (l.cursor.advance 1) =
      some (first ++ blockText literal false more, next) ∧ next.rest = t ∧
        next.column = k :=
    Scalar.block_lines hfirst hblank hmore (by omega) (by omega)
      (EndsGap.of_isSolid ht) hbehind
  refine ⟨next, ?_, hnext⟩
  have htoken : l.readToken = l.readBlockScalar literal := by
    cases literal <;> simp [readToken, hrest, hindicator, hl.inFlow]
  have hdrop : l.dropKey = some l := by rw [dropKey, hl.keyStart]
  have hcursor : (l.allowKey true).cursor = l.cursor := rfl
  have hmargin' : (l.allowKey true).margin = l.margin := rfl
  rw [htoken, readBlockScalar, hdrop]
  simp only [Option.bind_eq_bind, Option.bind_some, hcursor, hmargin', hread]
  rfl

theorem eq_of_append_of_mark {mark u : Text}
    (hw : ∀ b ∈ w, Text.isBlank b = false ∧ isBreak b = false)
    (hs : EndsPlain s)
    (hmark : ∀ b ∈ mark, Text.isBlank b = false ∧ isBreak b = false ∧ b ≠ ':')
    (hu : endsWord u = true) (hsplit : w ++ s = mark ++ u) : w = mark := by
  rcases List.append_eq_append_iff.mp hsplit with ⟨more, hmore, rfl⟩ |
    ⟨more, hmore, rfl⟩
  · cases more with
    | nil => rw [hmore, List.append_nil]
    | cons b more =>
        have hb := hmark b (by rw [hmore]; simp)
        rcases hs with hends | ⟨behind, hcolon, -⟩
        · simp [endsWord, hb] at hends
        · exact absurd (List.cons_eq_cons.mp hcolon).1 hb.2.2
  · cases more with
    | nil => rw [hmore, List.append_nil]
    | cons b more =>
        have hb := hw b (by rw [hmore]; simp)
        simp [endsWord, hb] at hu

/-- A word other than three dashes or dots marks no document. -/
theorem atDocumentIndicator_of_ne {c : Cursor}
    (hw : ∀ b ∈ w, Text.isBlank b = false ∧ isBreak b = false)
    (hs : EndsPlain s) (hdashes : w ≠ "---".toList) (hdots : w ≠ "...".toList)
    (hrest : c.rest = w ++ s) :
    c.atDocumentIndicator = false := by
  unfold Cursor.atDocumentIndicator
  rw [hrest, Bool.and_eq_false_iff]
  right
  split
  · next u hsplit =>
      by_contra hu
      have hmark : ∀ b ∈ ['-', '-', '-'],
          Text.isBlank b = false ∧ isBreak b = false ∧ b ≠ ':' := by
        intro b hb
        obtain rfl : b = '-' := by simpa using hb
        decide
      exact hdashes (eq_of_append_of_mark hw hs hmark (Bool.of_not_eq_false hu)
        hsplit)
  · next u hsplit =>
      by_contra hu
      have hmark : ∀ b ∈ ['.', '.', '.'],
          Text.isBlank b = false ∧ isBreak b = false ∧ b ≠ ':' := by
        intro b hb
        obtain rfl : b = '.' := by simpa using hb
        decide
      exact hdots (eq_of_append_of_mark hw hs hmark (Bool.of_not_eq_false hu)
        hsplit)
  · rfl

end Lexer

namespace Spelling

theorem readsKey {s : Spelling} {column : ℕ} (hs : s.IsSound) (hkey : s.IsKey)
    (hmark : column = 0 → ¬ s.BeginsMark) :
    Lexer.ReadsKey column (s.source column) s.token := by
  cases s with
  | absent => cases hkey
  | block literal deeper first more => cases hkey
  | quoted single strokes => exact Lexer.readsKey_quoted hs
  | plain first more =>
      obtain ⟨hbegin, hfirst, hmore⟩ := hs
      refine Lexer.readsKey_plain hbegin hfirst hmore
        fun c t ht hrest hcolumn => ?_
      rcases Nat.eq_zero_or_pos column with hzero | hpos
      · have hne := not_or.mp (hmark hzero)
        exact Lexer.atDocumentIndicator_of_ne hfirst.2.1
          (Scalar.endsPlain_joined hmore ht) hne.1 hne.2 hrest
      · exact Cursor.atDocumentIndicator_of_pos (by omega)

theorem readsValue {s : Spelling} (hs : s.IsSound) (hne : s ≠ absent)
    (column : ℕ) :
    Lexer.ReadsValue column (s.source column) s.token := by
  have hsolid := isSolid_source hs column
  cases s with
  | absent => contradiction
  | plain first more => exact Lexer.readsValue_plain hs.1 hs.2.1 hs.2.2 hsolid
  | quoted single strokes => exact Lexer.readsValue_quoted hs
  | block literal deeper first more =>
      exact Lexer.readsValue_block hs.1 hs.2.1 hs.2.2

end Spelling
end FormScaffold.Yaml
