import FormScaffold.Proofs.Yaml.Spelling

/-!
# Block mappings with lists of mappings

A text of two levels: keys with scalars, and keys with lists, one dash for each
item, where an item is again keys with scalars.  Its rows are indented, and its
tokens are those of its parts, one behind the other.
-/

namespace FormScaffold.Yaml

structure KeyValue where
  key : Spelling
  value : Spelling
  deriving DecidableEq, Repr

/-- What stands on the outer level: a key with its value, or a key with a list
whose dashes stand at a column. -/
inductive Part where
  | entry (e : KeyValue)
  | list (key : Spelling) (indent : ℕ) (items : List (List KeyValue))
  deriving DecidableEq, Repr

/-- A row of a text: how far it is indented, and what it says.  It is one line,
unless a block scalar goes on below it. -/
abbrev Row := ℕ × Text

def textOf (rows : List Row) : Text :=
  rows.flatMap fun row => List.replicate row.1 ' ' ++ (row.2 ++ ['\n'])

namespace Spelling

/-- A value on the row of its key. -/
def behindKey (column : ℕ) (s : Spelling) : Text :=
  if s = absent then [] else ' ' :: s.source column

def tokens (s : Spelling) : List Token := if s = absent then [] else [s.token]

end Spelling

namespace KeyValue

/-- What an entry of a mapping at this column says. -/
def source (column : ℕ) (e : KeyValue) : Text :=
  e.key.source column ++ ':' :: e.value.behindKey column

def tokens (e : KeyValue) : List Token :=
  .key :: e.key.token :: .value :: e.value.tokens

structure IsWritten (e : KeyValue) : Prop where
  key : e.key.IsWritten
  isKey : e.key.IsKey
  value : e.value.IsWritten

instance : DecidablePred IsWritten := fun e =>
  decidable_of_iff (e.key.IsWritten ∧ e.key.IsKey ∧ e.value.IsWritten)
    ⟨fun ⟨hkey, hshort, hvalue⟩ => ⟨hkey, hshort, hvalue⟩,
      fun ⟨hkey, hshort, hvalue⟩ => ⟨hkey, hshort, hvalue⟩⟩

end KeyValue

def entryRows (column : ℕ) (item : List KeyValue) : List Row :=
  item.map fun e => (column, e.source column)

/-- The rows of an item.  Its first entry stands behind the dash. -/
def itemRows (indent : ℕ) : List KeyValue → List Row
  | [] => [(indent, ['-'])]
  | e :: item =>
    (indent, '-' :: ' ' :: e.source (indent + 2)) :: entryRows (indent + 2) item

def itemTokens : List KeyValue → List Token
  | [] => [.blockEntry]
  | item =>
      .blockEntry :: .blockMappingStart ::
        (item.flatMap KeyValue.tokens ++ [.blockEnd])

namespace Part

def key : Part → Spelling
  | entry e => e.key
  | list key _ _ => key

/-- The rows of a part.  An empty list is written in brackets. -/
def rows : Part → List Row
  | entry e => [(0, e.source 0)]
  | list key _ [] => [(0, key.source 0 ++ ": []".toList)]
  | list key indent items =>
      (0, key.source 0 ++ [':']) :: items.flatMap (itemRows indent)

/-- The tokens of the value of a part.  A list at the column of its key is not
opened and not closed. -/
def valueTokens : Part → List Token
  | entry e => e.value.tokens
  | list _ _ [] => [.flowSequenceStart, .flowSequenceEnd]
  | list _ 0 items => items.flatMap itemTokens
  | list _ _ items =>
      .blockSequenceStart :: (items.flatMap itemTokens ++ [.blockEnd])

def tokens (p : Part) : List Token :=
  .key :: p.key.token :: .value :: p.valueTokens

/-- The entries of a part. -/
def entries : Part → List KeyValue
  | entry e => [e]
  | list key _ items => ⟨key, .absent⟩ :: items.flatten

structure IsWritten (p : Part) : Prop where
  entries : ∀ e ∈ p.entries, e.IsWritten
  unmarked : ¬ p.key.BeginsMark

instance : DecidablePred IsWritten := fun p =>
  decidable_of_iff ((∀ e ∈ p.entries, e.IsWritten) ∧ ¬ p.key.BeginsMark)
    ⟨fun ⟨hentries, hmark⟩ => ⟨hentries, hmark⟩,
      fun ⟨hentries, hmark⟩ => ⟨hentries, hmark⟩⟩

end Part

def text (parts : List Part) : Text := textOf (parts.flatMap Part.rows)

namespace Lexer

variable {allowed : Bool} {column place n : ℕ} {blocks : List ℕ}
  {rows : List Row} {more : List Token} {e : KeyValue}

/-- How far the first row is indented. -/
def indentOf : List Row → ℕ
  | [] => 0
  | row :: _ => row.1

/-- The text behind the indentation of the first row. -/
def bodyOf : List Row → Text
  | [] => []
  | row :: rows => row.2 ++ '\n' :: textOf rows

theorem textOf_eq (rows : List Row) :
    textOf rows = List.replicate (indentOf rows) ' ' ++ bodyOf rows := by
  cases rows with
  | nil => rfl
  | cons row rows => simp [textOf, indentOf, bodyOf]

/-- Before these rows, reading on adds these tokens. -/
def LexesRows (rows : List Row) (blocks : List ℕ) (more : List Token) : Prop :=
  Lexes true (indentOf rows) (bodyOf rows) blocks more

/-- Whether a token begins behind the indentation of the first row. -/
def BeginsSolid (rows : List Row) : Prop := isSolid (bodyOf rows) = true

theorem LexesRows.feed (hrows : BeginsSolid rows)
    (h : LexesRows rows blocks more) :
    Lexes allowed place ('\n' :: textOf rows) blocks more := by
  rw [textOf_eq]
  exact Lexes.feed hrows h

/-- A value is read behind its key, up to the next row. -/
theorem LexesRows.value {v : Spelling} (hv : v.IsWritten)
    (hplace : column < place) (hindent : indentOf rows ≤ column)
    (hrows : BeginsSolid rows) (h : LexesRows rows (column :: blocks) more) :
    Lexes false place (v.behindKey column ++ '\n' :: textOf rows)
    (column :: blocks)
      (v.tokens ++ more) := by
  unfold Spelling.behindKey Spelling.tokens
  by_cases habsent : v = .absent
  · rw [if_pos habsent, if_pos habsent]
    exact h.feed hrows
  · have hsolid : isSolid (v.source column ++ '\n' :: textOf rows) = true := by
      rw [isSolid_append (Spelling.source_ne_nil hv.1 habsent column)]
      exact Spelling.isSolid_source hv.1 column
    have hread : Lexes false (place + 1)
        (v.source column ++ '\n' :: textOf rows)
        (column :: blocks) (v.token :: more) := by
      rw [textOf_eq]
      exact Spelling.readsValue hv.1 habsent column _ _ _ _ _ (by omega) hindent
        hrows h
    rw [if_neg habsent, if_neg habsent]
    exact Lexes.spaces (n := 1) hsolid hread

/-- A key is read with its colon, and what stands behind it is read as its
value. -/
theorem Lexes.keyed {key : Spelling} {t : Text} (hkey : key.IsWritten)
    (hshort : key.IsKey) (hmark : column = 0 → ¬ key.BeginsMark)
    (ht : endsWord t = true) (hblocks : ∀ b ∈ blocks.head?, b ≤ column)
    (h : ∀ place, column < place →
      Lexes false place t (opened column blocks) more) :
    Lexes true column (key.source column ++ ':' :: t) blocks
      (opening .blockMappingStart column blocks ++ .key :: key.token ::
        .value :: more) := by
  have hne := Spelling.source_ne_nil hkey.1 (Spelling.ne_absent_of_isKey hshort)
    column
  refine Lexes.key (Spelling.readsKey hkey.1 hshort hmark) hne
    (Spelling.isSolid_source hkey.1 column)
      (Spelling.byteSize_of_isKey hshort column) ht hblocks
    (h _ ?_)
  have hpos := List.length_pos_of_ne_nil hne
  omega

/-- An entry of a mapping is read, and the mapping begins if none is open at its
column. -/
theorem LexesRows.entry (he : e.IsWritten)
    (hmark : column = 0 → ¬ e.key.BeginsMark)
    (hblocks : ∀ b ∈ blocks.head?, b ≤ column)
    (hindent : indentOf rows ≤ column) (hrows : BeginsSolid rows)
    (h : LexesRows rows (opened column blocks) more) :
    Lexes true column (e.source column ++ '\n' :: textOf rows) blocks
      (opening .blockMappingStart column blocks ++ (e.tokens ++ more)) := by
  obtain ⟨hkey, hshort, hvalue⟩ := he
  obtain ⟨outer, houter⟩ := exists_opened hblocks
  rw [KeyValue.source, List.append_assoc, List.cons_append]
  refine Lexes.keyed hkey hshort hmark ?_ hblocks fun place hplace => ?_
  · unfold Spelling.behindKey
    split <;> rfl
  · rw [houter] at h ⊢
    exact h.value hvalue hplace hindent hrows

theorem isSolid_key {key : Spelling} (hkey : key.IsWritten) (hshort : key.IsKey)
    (column : ℕ) (t : Text) : isSolid (key.source column ++ t) = true := by
  rw [isSolid_append (Spelling.source_ne_nil hkey.1
    (Spelling.ne_absent_of_isKey hshort) column)]
  exact Spelling.isSolid_source hkey.1 column

theorem isSolid_source (he : e.IsWritten) (column : ℕ) (t : Text) :
    isSolid (e.source column ++ t) = true := by
  rw [KeyValue.source, List.append_assoc]
  exact isSolid_key he.key he.isKey column _

theorem beginsSolid_entryRows {item : List KeyValue}
    (hitem : ∀ e ∈ item, e.IsWritten) (hrows : BeginsSolid rows) :
    BeginsSolid (entryRows column item ++ rows) := by
  cases item with
  | nil => exact hrows
  | cons e item => exact isSolid_source (hitem e List.mem_cons_self) column _

theorem indentOf_entryRows (item : List KeyValue)
    (hindent : indentOf rows ≤ column) :
    indentOf (entryRows column item ++ rows) ≤ column := by
  cases item with
  | nil => exact hindent
  | cons e item => exact Nat.le_refl column

/-- The entries of a mapping that is open are read one by one. -/
theorem LexesRows.entries {item : List KeyValue}
    (hitem : ∀ e ∈ item, e.IsWritten) (hcolumn : 0 < column)
    (hindent : indentOf rows ≤ column) (hrows : BeginsSolid rows)
    (h : LexesRows rows (column :: blocks) more) :
    LexesRows (entryRows column item ++ rows) (column :: blocks)
      (item.flatMap KeyValue.tokens ++ more) := by
  induction item with
  | nil => exact h
  | cons e item ih =>
      rw [List.forall_mem_cons] at hitem
      have hread : Lexes true column
          (e.source column ++ '\n' :: textOf (entryRows column item ++ rows))
            (column :: blocks)
          (opening .blockMappingStart column (column :: blocks) ++
            (e.tokens ++ (item.flatMap KeyValue.tokens ++ more))) := by
        refine LexesRows.entry hitem.1 (fun hzero => absurd hzero hcolumn.ne')
          (by simp) (indentOf_entryRows item hindent)
          (beginsSolid_entryRows hitem.2 hrows) ?_
        rw [opened_cons]
        exact ih hitem.2
      rw [opening_cons, List.nil_append, ← List.append_assoc] at hread
      exact hread

/-- An item is read from its dash on, and the list begins if none is open at its
column. -/
theorem LexesRows.item {item : List KeyValue} (hitem : ∀ e ∈ item, e.IsWritten)
    (hblocks : ∀ b ∈ blocks.head?, b ≤ column)
    (hindent : indentOf rows ≤ column) (hrows : BeginsSolid rows)
    (h : LexesRows rows (opened column blocks) more) :
    LexesRows (itemRows column item ++ rows) blocks
      (opening .blockSequenceStart column blocks ++
        (itemTokens item ++ more)) := by
  cases item with
  | nil => exact Lexes.dash rfl hblocks (h.feed hrows)
  | cons e item =>
      obtain ⟨outer, houter⟩ := exists_opened hblocks
      rw [List.forall_mem_cons] at hitem
      have hclosed : LexesRows rows ((column + 2) :: column :: outer)
          (.blockEnd :: more) := by
        rw [houter] at h
        exact Lexes.close (by omega) hrows h
      have hentries : LexesRows (entryRows (column + 2) item ++ rows)
          ((column + 2) :: column :: outer) (item.flatMap KeyValue.tokens ++
            .blockEnd :: more) :=
        hclosed.entries hitem.2 (by omega) (by omega) hrows
      have hdeeper : LiesDeeper (column + 2) (column :: outer) := by
        simp [LiesDeeper]
      have hinside : ∀ b ∈ (column :: outer).head?, b ≤ column + 2 := by simp
      have hfirst := LexesRows.entry hitem.1
        (fun hzero => absurd hzero (Nat.succ_ne_zero _))
        hinside (indentOf_entryRows item (by omega))
          (beginsSolid_entryRows hitem.2 hrows)
        (by rwa [opened_of_liesDeeper hdeeper])
      rw [opening_of_liesDeeper hdeeper, List.singleton_append] at hfirst
      have hdash := Lexes.dash (s := ' ' :: (e.source (column + 2) ++
        '\n' :: textOf (entryRows (column + 2) item ++ rows))) rfl hblocks (by
          rw [houter]
          exact Lexes.spaces (n := 1) (isSolid_source hitem.1 _ _) hfirst)
      simpa [LexesRows, itemRows, indentOf, bodyOf, itemTokens] using hdash

theorem beginsSolid_items {items : List (List KeyValue)}
    (hrows : BeginsSolid rows) :
    BeginsSolid (items.flatMap (itemRows column) ++ rows) := by
  rcases items with _ | ⟨_ | ⟨e, item⟩, items⟩
  · exact hrows
  · rfl
  · rfl

theorem indentOf_items (items : List (List KeyValue))
    (hindent : indentOf rows ≤ column) :
    indentOf (items.flatMap (itemRows column) ++ rows) ≤ column := by
  rcases items with _ | ⟨_ | ⟨e, item⟩, items⟩
  · exact hindent
  · exact Nat.le_refl column
  · exact Nat.le_refl column

/-- Further items of a list are read one by one. -/
theorem LexesRows.furtherItems {items : List (List KeyValue)}
    (hitems : ∀ item ∈ items, ∀ e ∈ item, e.IsWritten)
    (hindent : indentOf rows ≤ column) (hrows : BeginsSolid rows)
    (h : LexesRows rows (column :: blocks) more) :
    LexesRows (items.flatMap (itemRows column) ++ rows) (column :: blocks)
      (items.flatMap itemTokens ++ more) := by
  induction items with
  | nil => exact h
  | cons item items ih =>
      rw [List.forall_mem_cons] at hitems
      have hlater : LexesRows (items.flatMap (itemRows column) ++ rows)
          (opened column (column :: blocks))
            (items.flatMap itemTokens ++ more) := by
        rw [opened_cons]
        exact ih hitems.2
      have hread := hlater.item hitems.1 (by simp)
        (indentOf_items items hindent) (beginsSolid_items hrows)
      rw [opening_cons, List.nil_append] at hread
      simpa using hread

/-- The items of a list are read from the first on, and the list begins if none
is open at its column. -/
theorem LexesRows.items {item : List KeyValue} {items : List (List KeyValue)}
    (hitems : ∀ i ∈ item :: items, ∀ e ∈ i, e.IsWritten)
    (hblocks : ∀ b ∈ blocks.head?, b ≤ column)
    (hindent : indentOf rows ≤ column) (hrows : BeginsSolid rows)
    (h : LexesRows rows (opened column blocks) more) :
    LexesRows ((item :: items).flatMap (itemRows column) ++ rows) blocks
      (opening .blockSequenceStart column blocks ++
        ((item :: items).flatMap itemTokens ++ more)) := by
  obtain ⟨outer, houter⟩ := exists_opened hblocks
  rw [List.forall_mem_cons] at hitems
  rw [houter] at h
  have hlater := h.furtherItems hitems.2 hindent hrows
  rw [← houter] at hlater
  have hread := hlater.item hitems.1 hblocks (indentOf_items items hindent)
    (beginsSolid_items hrows)
  simpa using hread

/-- The items of a list are read below its key, with the signs that open and
close it unless its dashes stand at the column of the key. -/
theorem LexesRows.valueTokens {item : List KeyValue}
    {items : List (List KeyValue)} {outer : List ℕ} (key : Spelling)
    (indent : ℕ) (hitems : ∀ i ∈ item :: items, ∀ e ∈ i, e.IsWritten)
    (hindent : indentOf rows = 0) (hrows : BeginsSolid rows)
    (h : LexesRows rows (0 :: outer) more) :
    LexesRows ((item :: items).flatMap (itemRows indent) ++ rows) (0 :: outer)
      ((Part.list key indent (item :: items)).valueTokens ++ more) := by
  have hinside : ∀ b ∈ (0 :: outer).head?, b ≤ indent := by simp
  cases indent with
  | zero =>
      have hread := LexesRows.items hitems hinside hindent.le hrows
        (by rwa [opened_cons])
      rwa [opening_cons, List.nil_append] at hread
  | succ indent =>
      have hdeeper : LiesDeeper (indent + 1) (0 :: outer) := by
        simp [LiesDeeper]
      have hclosed : LexesRows rows ((indent + 1) :: 0 :: outer)
          (.blockEnd :: more) :=
        Lexes.close (by omega) hrows h
      have hread := LexesRows.items hitems hinside (by omega) hrows
        (by rwa [opened_of_liesDeeper hdeeper])
      rw [opening_of_liesDeeper hdeeper] at hread
      simpa [Part.valueTokens] using hread

/-- A part is read, and the mapping begins if none is open. -/
theorem LexesRows.part {p : Part} (hp : p.IsWritten)
    (hblocks : ∀ b ∈ blocks.head?, b ≤ 0) (hindent : indentOf rows = 0)
    (hrows : BeginsSolid rows) (h : LexesRows rows (opened 0 blocks) more) :
    LexesRows (p.rows ++ rows) blocks
      (opening .blockMappingStart 0 blocks ++ (p.tokens ++ more)) := by
  obtain ⟨outer, houter⟩ := exists_opened hblocks
  obtain ⟨hentries, hmark⟩ := hp
  cases p with
  | entry e =>
      exact LexesRows.entry (hentries e List.mem_cons_self) (fun _ => hmark)
        hblocks hindent.le hrows h
  | list key indent items =>
      obtain ⟨⟨hkey, hshort, -⟩, hitems⟩ := List.forall_mem_cons.mp hentries
      rw [List.forall_mem_flatten] at hitems
      rw [houter] at h
      cases items with
      | nil =>
          have hread : Lexes true 0
              (key.source 0 ++ ':' :: ' ' :: '[' :: ']' :: '\n' :: textOf rows)
              blocks
              (opening .blockMappingStart 0 blocks ++
                .key :: key.token :: .value ::
                  (.flowSequenceStart :: .flowSequenceEnd :: more)) := by
            refine Lexes.keyed hkey hshort (fun _ => hmark) rfl hblocks
              fun place hplace => ?_
            rw [houter, textOf_eq]
            exact Lexes.spaces (n := 1) rfl (Lexes.emptyFlow hrows (by simp) h)
          simpa [LexesRows, Part.rows, indentOf, bodyOf, Part.tokens,
            Part.valueTokens, Part.key] using hread
      | cons item items =>
          have hvalue := LexesRows.valueTokens key indent hitems hindent hrows h
          have hread : Lexes true 0
              (key.source 0 ++ ':' :: '\n' ::
                textOf ((item :: items).flatMap (itemRows indent) ++ rows))
              blocks
              (opening .blockMappingStart 0 blocks ++
                .key :: key.token :: .value ::
                  ((Part.list key indent (item :: items)).valueTokens ++
                    more)) := by
            refine Lexes.keyed hkey hshort (fun _ => hmark) rfl hblocks
              fun place hplace => ?_
            rw [houter]
            exact hvalue.feed (beginsSolid_items hrows)
          simpa [LexesRows, Part.rows, indentOf, bodyOf, Part.tokens,
            Part.key] using hread

theorem indentOf_parts (parts : List Part) :
    indentOf (parts.flatMap Part.rows) = 0 := by
  rcases parts with _ | ⟨e | ⟨key, indent, _ | ⟨item, items⟩⟩, parts⟩
  all_goals rfl

theorem beginsSolid_parts {parts : List Part}
    (hparts : ∀ p ∈ parts, p.IsWritten) :
    BeginsSolid (parts.flatMap Part.rows) := by
  cases parts with
  | nil => rfl
  | cons p parts =>
      obtain ⟨hentries, -⟩ := hparts p List.mem_cons_self
      cases p with
      | entry e => exact isSolid_source (hentries e List.mem_cons_self) 0 _
      | list key indent items =>
          obtain ⟨hkey, hshort, -⟩ := hentries _ List.mem_cons_self
          cases items with
          | nil =>
              rw [BeginsSolid, List.flatMap_cons, Part.rows,
                List.singleton_append, bodyOf, List.append_assoc]
              exact isSolid_key hkey hshort 0 _
          | cons item items =>
              simp only [BeginsSolid, List.flatMap_cons, Part.rows,
                List.cons_append, bodyOf, List.append_assoc]
              exact isSolid_key hkey hshort 0 _

/-- The parts of a text are read one by one, and its end closes the mapping. -/
theorem lexesRows_parts {parts : List Part}
    (hparts : ∀ p ∈ parts, p.IsWritten) :
    LexesRows (parts.flatMap Part.rows) [0]
      (parts.flatMap Part.tokens ++ [.blockEnd]) := by
  induction parts with
  | nil => exact lexes_nil (by simp)
  | cons p parts ih =>
      rw [List.forall_mem_cons] at hparts
      have hlater : LexesRows (parts.flatMap Part.rows) (opened 0 [0])
          (parts.flatMap Part.tokens ++ [.blockEnd]) := by
        rw [opened_cons]
        exact ih hparts.2
      have hread := hlater.part hparts.1 (by simp) (indentOf_parts parts)
        (beginsSolid_parts hparts.2)
      rw [opening_cons, List.nil_append] at hread
      simpa using hread

end Lexer

/-! ## The whole text -/

section Characters

variable {c : Char} {row : Row}

theorem Spelling.IsWritten.allowed_of_mem {s : Spelling} {column : ℕ}
    (hs : s.IsWritten) (hc : c ∈ s.source column) : isAllowed c = true := by
  rcases mem_source hc with rfl | hc
  · decide
  · exact hs.2 c hc

theorem KeyValue.IsWritten.allowed_of_mem {e : KeyValue} {column : ℕ}
    (he : e.IsWritten) (hc : c ∈ e.source column) : isAllowed c = true := by
  obtain ⟨hkey, -, hvalue⟩ := he
  rw [source, List.mem_append, List.mem_cons] at hc
  rcases hc with hc | rfl | hc
  · exact hkey.allowed_of_mem hc
  · decide
  · unfold Spelling.behindKey at hc
    split at hc
    · cases hc
    · rcases List.mem_cons.mp hc with rfl | hc
      · decide
      · exact hvalue.allowed_of_mem hc

theorem isAllowed_of_mem_item {item : List KeyValue} {indent : ℕ}
    (hitem : ∀ e ∈ item, e.IsWritten) (hrow : row ∈ itemRows indent item)
    (hc : c ∈ row.2) :
    isAllowed c = true := by
  cases item with
  | nil =>
      obtain rfl : row = (indent, ['-']) := by simpa [itemRows] using hrow
      obtain rfl : c = '-' := by simpa using hc
      decide
  | cons e item =>
      rw [List.forall_mem_cons] at hitem
      rcases List.mem_cons.mp hrow with rfl | hrow
      · rcases List.mem_cons.mp hc with rfl | hc
        · decide
        · rcases List.mem_cons.mp hc with rfl | hc
          · decide
          · exact hitem.1.allowed_of_mem hc
      · obtain ⟨e', he', rfl⟩ := List.mem_map.mp hrow
        exact (hitem.2 _ he').allowed_of_mem hc

theorem Part.IsWritten.allowed_of_mem {p : Part} (hp : p.IsWritten)
    (hrow : row ∈ p.rows) (hc : c ∈ row.2) : isAllowed c = true := by
  obtain ⟨hentries, -⟩ := hp
  cases p with
  | entry e =>
      obtain rfl : row = (0, e.source 0) := by simpa [rows] using hrow
      exact (hentries e List.mem_cons_self).allowed_of_mem hc
  | list key indent items =>
      obtain ⟨⟨hkey, -, -⟩, hitems⟩ := List.forall_mem_cons.mp hentries
      rw [List.forall_mem_flatten] at hitems
      have hkeyed : ∀ behind : Text, (∀ b ∈ behind, isAllowed b = true) →
          c ∈ key.source 0 ++ behind → isAllowed c = true := by
        intro behind hbehind hc
        rcases List.mem_append.mp hc with hc | hc
        · exact hkey.allowed_of_mem hc
        · exact hbehind c hc
      cases items with
      | nil =>
          obtain rfl : row = (0, key.source 0 ++ ": []".toList) := by
            simpa [rows] using hrow
          exact hkeyed _ (List.all_eq_true.mp (by decide)) hc
      | cons item items =>
          rcases List.mem_cons.mp hrow with rfl | hrow
          · exact hkeyed _ (List.all_eq_true.mp (by decide)) hc
          · obtain ⟨i, hi, hrow⟩ := List.mem_flatMap.mp hrow
            exact isAllowed_of_mem_item (hitems i hi) hrow hc

theorem isAllowed_of_mem_text {parts : List Part}
    (hparts : ∀ p ∈ parts, p.IsWritten)
    (hc : c ∈ text parts) : isAllowed c = true := by
  obtain ⟨row, hrow, hc⟩ := List.mem_flatMap.mp hc
  obtain ⟨p, hp, hrow⟩ := List.mem_flatMap.mp hrow
  rcases List.mem_append.mp hc with hc | hc
  · obtain rfl := List.eq_of_mem_replicate hc
    decide
  · rcases List.mem_append.mp hc with hc | hc
    · exact (hparts p hp).allowed_of_mem hrow hc
    · obtain rfl := List.mem_singleton.mp hc
      decide

end Characters

/-- The tokens of a text are those of its parts. -/
theorem tokens?_text {p : Part} {parts : List Part}
    (hparts : ∀ q ∈ p :: parts, q.IsWritten) :
    tokens? (text (p :: parts)) =
      some (.blockMappingStart ::
        ((p :: parts).flatMap Part.tokens ++ [.blockEnd])) := by
  obtain ⟨hp, hlater⟩ := List.forall_mem_cons.mp hparts
  have htext : text (p :: parts) =
      Lexer.bodyOf ((p :: parts).flatMap Part.rows) := by
    rw [text, Lexer.textOf_eq, Lexer.indentOf_parts, List.replicate_zero,
      List.nil_append]
  have hread : Lexer.Lexes true 0 (text (p :: parts)) []
      (.blockMappingStart ::
        ((p :: parts).flatMap Part.tokens ++ [.blockEnd])) := by
    have hopened : Lexer.LexesRows (parts.flatMap Part.rows) (Lexer.opened 0 [])
        (parts.flatMap Part.tokens ++ [.blockEnd]) :=
          Lexer.lexesRows_parts hlater
    have hrows := hopened.part hp (by simp) (Lexer.indentOf_parts parts)
      (Lexer.beginsSolid_parts hlater)
    rw [← List.flatMap_cons, Lexer.LexesRows, Lexer.indentOf_parts,
      ← htext] at hrows
    rw [List.flatMap_cons, List.append_assoc]
    exact hrows
  have hstands : (Lexer.ofText (text (p :: parts))).Stands true 0
      (text (p :: parts)) [] :=
    { keyAllowed := rfl
      column := rfl
      rest := rfl
      blocks := rfl
      keyStart := rfl
      outer := rfl
      slots := by simp [Lexer.ofText] }
  obtain ⟨r, hrun, htokens⟩ := hread _ hstands
  have hallowed : (text (p :: parts)).all isAllowed = true :=
    List.all_eq_true.mpr fun c hc => isAllowed_of_mem_text hparts hc
  have hend : Lexer.run ((text (p :: parts)).length + 1)
      (Lexer.ofText (text (p :: parts))) = some r := hrun _ (Nat.lt_succ_self _)
  rw [tokens?, if_pos hallowed, hend]
  exact congrArg some htokens

end FormScaffold.Yaml
