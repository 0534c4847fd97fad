import FormScaffold.Manifest
import FormScaffold.Proofs.Yaml.Nodes

/-!
# Manifests are read back as written

A file of a template is written as an item with the keys `file`, `variants` and
`client` in any order, and others between them.  The items of a list are read
as the files they were written for; a list whose items do not tell each file
once is no manifest.
-/

namespace FormScaffold.Manifest

open Yaml

variable {key name : Text} {item : List KeyValue} {file : TemplateFile}
  {on : Bool}

/-! ## What is written -/

def isNameChar (c : Char) : Bool :=
  c.isAlphanum || ['_', '/', '.', '-'].contains c

/-- Whether a name can be written as it is: dots and dashes stand only inside
it. -/
structure IsName (name : Text) : Prop where
  nonempty : name ≠ []
  chars : ∀ c ∈ name, isNameChar c = true
  first : ∀ c ∈ name.head?, c ≠ '.' ∧ c ≠ '-'
  last : ∀ c ∈ name.getLast?, c ≠ '.' ∧ c ≠ '-'

instance : DecidablePred IsName := fun name =>
  letI : Decidable (∀ c ∈ name, isNameChar c = true) :=
    List.decidableBAll _ name
  letI (c? : Option Char) : Decidable (∀ c ∈ c?, c ≠ '.' ∧ c ≠ '-') :=
    Option.decidableForallMem c?
  decidable_of_iff (name ≠ [] ∧ (∀ c ∈ name, isNameChar c = true) ∧
    (∀ c ∈ name.head?, c ≠ '.' ∧ c ≠ '-') ∧
    ∀ c ∈ name.getLast?, c ≠ '.' ∧ c ≠ '-')
    ⟨fun ⟨hne, hchars, hfirst, hlast⟩ => ⟨hne, hchars, hfirst, hlast⟩,
      fun ⟨hne, hchars, hfirst, hlast⟩ => ⟨hne, hchars, hfirst, hlast⟩⟩

/-- The keys that mean something in an item. -/
def fileKeys : List Text := ["file".toList, "variants".toList, "client".toList]

def under (key : Text) (item : List KeyValue) : List KeyValue :=
  item.filter fun e => e.key.text = key

def boolWord (on : Bool) : Text := if on then "true".toList else "false".toList

/-- Whether an item states a switch: once by its word or, if it is off, perhaps
not at all. -/
def States (key : Text) (on : Bool) (item : List KeyValue) : Prop :=
  under key item = [⟨.word key, .word (boolWord on)⟩] ∨ on = false ∧
    under key item = []

instance (key : Text) (on : Bool) : DecidablePred (States key on) := fun item =>
  inferInstanceAs (Decidable
    (under key item = [⟨.word key, .word (boolWord on)⟩] ∨ on = false ∧
      under key item = []))

/-- Whether an item is written for a file.  The order of its keys is free, and
other keys may stand anywhere between them. -/
structure Describes (file : TemplateFile) (item : List KeyValue) : Prop where
  isName : IsName file.name
  name : under "file".toList item = [⟨.word "file".toList, .word file.name⟩]
  variants : States "variants".toList file.hasSections item
  client : States "client".toList file.isClient item
  others : ∀ e ∈ item, e.key.text ∉ fileKeys → e.IsWritten

instance (file : TemplateFile) : DecidablePred (Describes file) := fun item =>
  decidable_of_iff (IsName file.name ∧
      under "file".toList item = [⟨.word "file".toList, .word file.name⟩] ∧
      States "variants".toList file.hasSections item ∧
      States "client".toList file.isClient item ∧
      ∀ e ∈ item, e.key.text ∉ fileKeys → e.IsWritten)
    ⟨fun ⟨hname, hfile, hsections, hclient, hothers⟩ =>
        ⟨hname, hfile, hsections, hclient, hothers⟩,
      fun ⟨hname, hfile, hsections, hclient, hothers⟩ =>
        ⟨hname, hfile, hsections, hclient, hothers⟩⟩

/-- Whether an item tells no file: its name is missing, or one of the keys comes
again. -/
def TellsNoFile (item : List KeyValue) : Prop :=
  under "file".toList item = [] ∨ ∃ key ∈ fileKeys, 1 < (under key item).length

instance : DecidablePred TellsNoFile := fun item =>
  inferInstanceAs (Decidable
    (under "file".toList item = [] ∨
      ∃ key ∈ fileKeys, 1 < (under key item).length))

/-! ## Names are plain words -/

theorem toNat_of_isNameChar {c : Char} (hc : isNameChar c = true) :
    0x20 ≤ c.toNat ∧ c.toNat ≤ 0x7E := by
  rcases Bool.or_eq_true_iff.mp hc with hletter | hsign
  · have hrange := Text.toNat_of_isAlphanum hletter
    omega
  · simp only [List.contains_iff_mem, List.mem_cons, List.not_mem_nil,
      or_false] at hsign
    rcases hsign with rfl | rfl | rfl | rfl
    all_goals decide

/-- The characters of names mean nothing by themselves, but for dots and
dashes. -/
theorem isNameChar_plain {c : Char} (hc : isNameChar c = true) :
    (Text.isBlank c = false ∧ isBreak c = false) ∧ isAllowed c = true ∧
      c ≠ '\ufeff' ∧ c ∉ "?:,[]\x7b\x7d#&*!|>'\"%@`".toList := by
  have hrange := toNat_of_isNameChar hc
  have hblank : c ∉ [' ', '\t'] := Text.not_mem_of_all_not hc (by decide)
  have hbreak : c ∉ ['\r', '\n', '\x85', '\u2028', '\u2029'] :=
    Text.not_mem_of_all_not hc (by decide)
  have hmark : c ∉ ['\ufeff'] := Text.not_mem_of_all_not hc (by decide)
  refine ⟨⟨?_, ?_⟩, ?_, by simpa using hmark,
    Text.not_mem_of_all_not hc (by decide)⟩
  · simpa [Text.isBlank] using hblank
  · simpa [isBreak, and_assoc] using hbreak
  · simp [isAllowed, hrange]

theorem source_word (name : Text) (column : ℕ) :
    (Spelling.word name).source column = name := by
  simp [Spelling.word, Spelling.source, Scalar.joined]

theorem IsName.isWritten (h : IsName name) :
    (Spelling.word name).IsWritten := by
  obtain ⟨hne, hchars, hfirst, -⟩ := h
  have hplain := fun c hc => isNameChar_plain (hchars c hc)
  have hword : IsPlainWord name := by
    refine ⟨hne, fun c hc => (hplain c hc).1, fun hsign => ?_, fun hcolon => ?_⟩
    · exact (hplain '#' (List.mem_of_mem_head? hsign)).2.2.2 (by decide)
    · exact (hplain ':' (List.mem_of_getLast? hcolon)).2.2.2 (by decide)
  refine ⟨⟨?_, hword, by simp⟩, fun c hc => ?_⟩
  · cases name with
    | nil => contradiction
    | cons c more =>
        obtain ⟨-, -, hmark, hsigns⟩ := hplain c List.mem_cons_self
        refine ⟨hmark, ?_⟩
        rw [if_neg]
        · exact fun hmem => hsigns
            (List.mem_cons_of_mem _ (List.mem_cons_of_mem _ hmem))
        · rintro (rfl | rfl | rfl)
          · exact (hfirst '-' rfl).2 rfl
          · exact hsigns (by decide)
          · exact hsigns (by decide)
  · exact (hplain c (by rwa [source_word] at hc)).2.1

/-- A name is a key if it is short enough. -/
theorem IsName.isKey (hshort : Text.byteSize name ≤ maxKeyLength) :
    (Spelling.word name).IsKey := by
  rw [← source_word name 0] at hshort
  exact hshort

/-! ## Fields -/

def field (e : KeyValue) : Text × Node := (e.key.text, e.value.node)

def partField (p : Part) : Text × Node := (p.key.text, p.valueNode)

theorem entries?_parts (parts : List Part) :
    entries? Anchors.empty (.mapping (parts.map Part.node)) =
      some (parts.map partField) := by
  change (parts.map Part.node).mapM _ = _
  induction parts with
  | nil => rfl
  | cons p parts ih =>
      rw [List.map_cons, List.mapM_cons, ih]
      rfl

theorem entries?_item (item : List KeyValue) :
    entries? Anchors.empty (itemNode item) = some (item.map field) := by
  cases item with
  | nil => rfl
  | cons e item =>
      rw [itemNode_cons, entries?_parts, List.map_map]
      rfl

theorem filter_field (key : Text) (item : List KeyValue) :
    (item.map field).filter (fun f => f.1 = key) = (under key item).map field :=
  List.filter_map ..

theorem value?_of_under_nil (h : under key item = []) :
    value? key (item.map field) = some none := by
  rw [value?, filter_field, h, List.map_nil]

theorem value?_of_under {e : KeyValue} (h : under key item = [e]) :
    value? key (item.map field) = some (some e.value.node) := by
  rw [value?, filter_field, h]
  rfl

theorem value?_of_again {entries : List (Text × Node)}
    (h : 1 < (entries.filter fun f => f.1 = key).length) :
    value? key entries = none := by
  unfold value?
  split
  · next hnil => simp [hnil] at h
  · next f hone => simp [hone] at h
  · rfl

/-- A key that is there has its value, unless it comes again. -/
theorem value?_of_mem {entries : List (Text × Node)} {n : Node}
    (h : (key, n) ∈ entries) :
    value? key entries = none ∨ value? key entries = some (some n) := by
  have hmem : (key, n) ∈ entries.filter fun f => f.1 = key :=
    List.mem_filter.mpr ⟨h, by simp⟩
  unfold value?
  split
  · next hnil =>
      rw [hnil] at hmem
      cases hmem
  · next f hone =>
      rw [hone, List.mem_singleton] at hmem
      rw [← hmem]
      exact Or.inr rfl
  · exact Or.inl rfl

theorem bool?_word (on : Bool) :
    bool? Anchors.empty (Spelling.word (boolWord on)).node = some on := by
  cases on <;> decide

theorem switch?_of_states (h : States key on item) :
    switch? Anchors.empty key (item.map field) = some on := by
  rcases h with hword | ⟨rfl, hnil⟩
  · rw [switch?, value?_of_under hword]
    exact bool?_word on
  · rw [switch?, value?_of_under_nil hnil]
    rfl

/-! ## Items -/

/-- An item is a file if it names one and its switches can be read. -/
theorem file?_itemNode_eq_some_iff :
    file? Anchors.empty (itemNode item) = some file ↔
      (∃ n, value? "file".toList (item.map field) = some (some n) ∧
        text? Anchors.empty n = some file.name) ∧
      switch? Anchors.empty "variants".toList (item.map field) =
        some file.hasSections ∧
      switch? Anchors.empty "client".toList (item.map field) =
        some file.isClient := by
  rw [file?, entries?_item]
  simp only [Option.bind_eq_bind, Option.bind_some, Option.bind_eq_some_iff]
  constructor
  · rintro ⟨n?, hn, name, ⟨n, rfl, hname⟩, hasSections, hsections, isClient,
      hclient, hfile⟩
    obtain rfl : TemplateFile.mk name hasSections isClient = file := by
      simpa using hfile
    exact ⟨⟨n, hn, hname⟩, hsections, hclient⟩
  · rintro ⟨⟨n, hn, hname⟩, hsections, hclient⟩
    exact ⟨some n, hn, file.name, ⟨n, rfl, hname⟩, _, hsections, _, hclient,
      rfl⟩

/-- An item is read as the file it is written for. -/
theorem file?_of_describes (h : Describes file item) :
    file? Anchors.empty (itemNode item) = some file := by
  have hname : text? Anchors.empty (Spelling.word file.name).node =
      some file.name := by
    simp [text?, Anchors.follow, Spelling.node, Spelling.word, Spelling.text,
      Scalar.joined]
  exact file?_itemNode_eq_some_iff.mpr ⟨⟨_, value?_of_under h.name, hname⟩,
    switch?_of_states h.variants, switch?_of_states h.client⟩

/-- An item that tells no file is none. -/
theorem file?_of_tellsNoFile (h : TellsNoFile item) :
    file? Anchors.empty (itemNode item) = none := by
  rw [Option.eq_none_iff_forall_ne_some]
  intro file hfile
  obtain ⟨⟨n, hn, -⟩, hsections, hclient⟩ := file?_itemNode_eq_some_iff.mp hfile
  rcases h with hnil | ⟨key, hkey, hagain⟩
  · rw [value?_of_under_nil hnil] at hn
    cases hn
  · have hnone : value? key (item.map field) = none := by
      refine value?_of_again ?_
      rwa [filter_field, List.length_map]
    simp only [fileKeys, List.mem_cons, List.not_mem_nil, or_false] at hkey
    rcases hkey with rfl | rfl | rfl
    · rw [hnone] at hn
      cases hn
    · rw [switch?, hnone] at hsections
      cases hsections
    · rw [switch?, hnone] at hclient
      cases hclient

/-- The keys of an item can be written, and so can names behind them. -/
theorem isWritten_word (hkey : key ∈ fileKeys) (h : IsName name) :
    KeyValue.IsWritten ⟨.word key, .word name⟩ := by
  have hkeys : ∀ key ∈ fileKeys, IsName key ∧
      Text.byteSize key ≤ maxKeyLength := by
    decide
  obtain ⟨hname, hshort⟩ := hkeys key hkey
  exact ⟨hname.isWritten, IsName.isKey hshort, h.isWritten⟩

theorem isName_boolWord (on : Bool) : IsName (boolWord on) := by
  cases on <;> decide

/-- An item that states a switch can be written there. -/
theorem isWritten_of_states (hkey : key ∈ fileKeys) (h : States key on item) :
    ∀ e ∈ under key item, e.IsWritten := by
  intro e he
  rcases h with hword | ⟨-, hnil⟩
  · rw [hword, List.mem_singleton] at he
    rw [he]
    exact isWritten_word hkey (isName_boolWord on)
  · rw [hnil] at he
    cases he

/-- An item that is written for a file can be written. -/
theorem Describes.isWritten (h : Describes file item) :
    ∀ e ∈ item, e.IsWritten := by
  intro e he
  have hunder : e ∈ under e.key.text item := List.mem_filter.mpr ⟨he, by simp⟩
  by_cases hkey : e.key.text ∈ fileKeys
  · simp only [fileKeys, List.mem_cons, List.not_mem_nil, or_false] at hkey
    rcases hkey with hkey | hkey | hkey
    · rw [hkey, h.name, List.mem_singleton] at hunder
      rw [hunder]
      exact isWritten_word (by decide) h.isName
    · rw [hkey] at hunder
      exact isWritten_of_states (by decide) h.variants e hunder
    · rw [hkey] at hunder
      exact isWritten_of_states (by decide) h.client e hunder
  · exact h.others e he hkey

/-! ## Aliases -/

theorem aliasCount_scalars {α : Type} (l : List α) (spelling : α → Spelling) :
    aliasCount (l.map fun x => (spelling x).node) = 0 := by
  rw [aliasCount, List.countP_map, List.countP_eq_zero]
  intro x _ halias
  cases halias

/-- No alias is followed on the way to the entries of a text. -/
theorem entrySteps_parts (parts : List Part) :
    entrySteps Anchors.empty (.mapping (parts.map Part.node)) = 0 := by
  have hkeys : (parts.map Part.node).map (·.1) =
      parts.map fun p => p.key.node :=
    List.map_map ..
  change 0 + aliasCount ((parts.map Part.node).map (·.1)) = 0
  rw [hkeys, aliasCount_scalars]

theorem entrySteps_item (item : List KeyValue) :
    entrySteps Anchors.empty (itemNode item) = 0 := by
  cases item with
  | nil => rfl
  | cons e item => rw [itemNode_cons, entrySteps_parts]

theorem fileSteps_item (item : List KeyValue) :
    fileSteps Anchors.empty (itemNode item) = 0 := by
  rw [fileSteps, entrySteps_item, entries?_item, Option.getD_some,
    List.filter_map, List.map_map, Nat.zero_add]
  exact aliasCount_scalars _ KeyValue.value

theorem filesSteps_valueNode (p : Part) :
    filesSteps Anchors.empty p.valueNode = 0 := by
  cases p with
  | entry e => rfl
  | list key indent items =>
      change 0 + (items.map itemNode).foldl
        (fun n item => n + fileSteps Anchors.empty item) 0 = 0
      simp [List.foldl_map, fileSteps_item]

/-! ## The whole text -/

/-- The value under a key of a text is that of one of its parts. -/
theorem exists_part_of_value? {parts : List Part} {n : Node}
    (h : value? key (parts.map partField) = some (some n)) :
    ∃ p ∈ parts, p.valueNode = n := by
  unfold value? at h
  split at h
  · cases h
  · next f hone =>
      obtain rfl : f.2 = n := by simpa using h
      have hmem : f ∈ (parts.map partField).filter fun f => f.1 = key := by
        simp [hone]
      obtain ⟨p, hp, rfl⟩ := List.mem_map.mp (List.mem_filter.mp hmem).1
      exact ⟨p, hp, rfl⟩
  · cases h

/-- A written text is the manifest of what stands under its key `files`. -/
theorem parse?_parts {parts : List Part} (hparts : ∀ p ∈ parts, p.IsWritten) :
    parse? (text parts) =
      (value? "files".toList (parts.map partField) >>= fun list =>
        (list >>= files? Anchors.empty).map Manifest.mk) := by
  cases parts with
  | nil =>
      rw [parse?, document?_nil]
      rfl
  | cons p parts =>
      rw [parse?, document?_text hparts, Option.bind_eq_bind, Option.bind_some,
        ofDocument?, entries?_parts, entrySteps_parts]
      simp only [Option.bind_eq_bind, Option.bind_some]
      refine Option.bind_congr fun list? hlist => ?_
      cases list? with
      | none => rfl
      | some n =>
          obtain ⟨q, -, rfl⟩ := exists_part_of_value? hlist
          cases hfiles : files? Anchors.empty q.valueNode with
          | none => simp [hfiles]
          | some files => simp [hfiles, filesSteps_valueNode]

theorem mapM_eq_none_of_mem {α β : Type} {f : α → Option β} {l : List α} {x : α}
    (hx : x ∈ l) (hf : f x = none) : l.mapM f = none := by
  induction l with
  | nil => cases hx
  | cons y l ih =>
      rw [List.mapM_cons]
      rcases List.mem_cons.mp hx with rfl | hx
      · rw [hf]
        rfl
      · rw [ih hx]
        cases f y <;> rfl

/-- Items are read as the files they are written for. -/
theorem mapM_file?_items {files : List TemplateFile}
    {items : List (List KeyValue)} (h : List.Forall₂ Describes files items) :
    (items.map itemNode).mapM (file? Anchors.empty) = some files := by
  induction h with
  | nil => rfl
  | cons hitem _ ih =>
      rw [List.map_cons, List.mapM_cons, file?_of_describes hitem, ih]
      rfl

theorem isWritten_items {files : List TemplateFile}
    {items : List (List KeyValue)} (h : List.Forall₂ Describes files items) :
    ∀ item ∈ items, ∀ e ∈ item, e.IsWritten := by
  induction h with
  | nil => simp
  | cons hitem _ ih => exact List.forall_mem_cons.mpr ⟨hitem.isWritten, ih⟩

/-- The part under the key `files` can be written if its items are written for
files. -/
theorem isWritten_files {files : List TemplateFile}
    {items : List (List KeyValue)} (h : List.Forall₂ Describes files items)
    (indent : ℕ) :
    (Part.list (.word "files".toList) indent items).IsWritten := by
  have hname : IsName "files".toList := by decide
  have hkey : KeyValue.IsWritten ⟨.word "files".toList, .absent⟩ :=
    ⟨hname.isWritten, IsName.isKey (by decide), by decide⟩
  have hmark : ¬ (Spelling.word "files".toList).BeginsMark := by decide
  exact ⟨List.forall_mem_cons.mpr ⟨hkey,
    List.forall_mem_flatten.mpr (isWritten_items h)⟩, hmark⟩

theorem filter_partField {parts : List Part}
    (h : ∀ p ∈ parts, p.key.text ≠ key) :
    (parts.map partField).filter (fun f => f.1 = key) = [] := by
  simpa [List.filter_eq_nil_iff, partField] using h

/-- The value of a key that no other part has is that of its part. -/
theorem value?_parts {before after : List Part} {p : Part}
    (h : ∀ q ∈ before ++ after, q.key.text ≠ p.key.text) :
    value? p.key.text ((before ++ p :: after).map partField) =
      some (some p.valueNode) := by
  obtain ⟨hbefore, hafter⟩ := List.forall_mem_append.mp h
  have hone : ((before ++ p :: after).map partField).filter
      (fun f => f.1 = p.key.text) = [partField p] := by
    rw [List.map_append, List.map_cons, List.filter_append,
      filter_partField hbefore, List.filter_cons_of_pos (by simp [partField]),
      filter_partField hafter, List.nil_append]
  rw [value?, hone]
  rfl

/-- The first sectioned file has only others before it. -/
theorem sectioned?_eq_some_iff {m : Manifest} :
    m.sectioned? = some file ↔
      ∃ earlier later, m.files = earlier ++ file :: later ∧
      file.hasSections = true ∧ ∀ f ∈ earlier, f.hasSections = false := by
  rw [sectioned?, List.find?_eq_some_iff_append]
  constructor
  · rintro ⟨hsections, earlier, later, hfiles, hearlier⟩
    exact ⟨earlier, later, hfiles, hsections, by simpa using hearlier⟩
  · rintro ⟨earlier, later, hfiles, hsections, hearlier⟩
    exact ⟨hsections, earlier, later, hfiles, by simpa using hearlier⟩

/-- A list of files is read back from a text with their items. -/
theorem parse?_of_describes {files : List TemplateFile}
    {items : List (List KeyValue)} {indent : ℕ} {before after : List Part}
    (hitems : List.Forall₂ Describes files items)
    (hothers : ∀ p ∈ before ++ after, p.IsWritten ∧
      p.key.text ≠ "files".toList) :
    parse? (text (before ++ .list (.word "files".toList) indent items ::
      after)) = some ⟨files⟩ := by
  have hparts : ∀ p ∈ before ++ .list (.word "files".toList) indent items ::
      after, p.IsWritten := by
    intro p hp
    rcases List.mem_append.mp hp with hp | hp
    · exact (hothers p (List.mem_append_left after hp)).1
    · rcases List.mem_cons.mp hp with rfl | hp
      · exact isWritten_files hitems indent
      · exact (hothers p (List.mem_append_right before hp)).1
  have hkey : (Part.list (.word "files".toList) indent items).key.text =
      "files".toList := by
    simp [Part.key, Spelling.word, Spelling.text, Scalar.joined]
  have hvalue : value? "files".toList
      ((before ++ .list (.word "files".toList) indent items :: after).map
        partField) =
        some (some (Part.list (.word "files".toList) indent
          items).valueNode) := by
    rw [← hkey]
    refine value?_parts fun p hp => ?_
    rw [hkey]
    exact (hothers p hp).2
  have hfiles : files? Anchors.empty
      (Part.list (.word "files".toList) indent items).valueNode = some files :=
    mapM_file?_items hitems
  rw [parse?_parts hparts, hvalue, Option.bind_eq_bind, Option.bind_some,
    Option.bind_eq_bind, Option.bind_some, hfiles, Option.map_some]

/-- An item that tells no file spoils the whole text. -/
theorem parse?_of_tellsNoFile {parts : List Part} {key : Spelling} {indent : ℕ}
    {items : List (List KeyValue)} (hparts : ∀ p ∈ parts, p.IsWritten)
    (hlist : .list key indent items ∈ parts) (hkey : key.text = "files".toList)
    (hitem : item ∈ items) (hnone : TellsNoFile item) :
    parse? (text parts) = none := by
  have hfiles : files? Anchors.empty (Part.list key indent items).valueNode =
      none :=
    mapM_eq_none_of_mem (List.mem_map_of_mem hitem) (file?_of_tellsNoFile hnone)
  have hmem : ("files".toList, (Part.list key indent items).valueNode) ∈
      parts.map partField := by
    rw [← hkey]
    exact List.mem_map_of_mem hlist
  rw [parse?_parts hparts]
  rcases value?_of_mem hmem with hvalue | hvalue
  · rw [hvalue]
    rfl
  · rw [hvalue, Option.bind_eq_bind, Option.bind_some, Option.bind_eq_bind,
      Option.bind_some, hfiles, Option.map_none]

/-- A text without the key `files` is no manifest. -/
theorem parse?_of_not_listed {parts : List Part}
    (hparts : ∀ p ∈ parts, p.IsWritten)
    (hothers : ∀ p ∈ parts, p.key.text ≠ "files".toList) :
    parse? (text parts) = none := by
  rw [parse?_parts hparts, value?, filter_partField hothers]
  rfl

/-- A list of files whose items are written in any of the ways to do so is read
back in order, and the sectioned file is the first of those with sections.  A
text with an item that tells no file, or with no key `files`, is no manifest. -/
theorem read_back_as_written :
    (∀ (files : List TemplateFile) (items : List (List KeyValue)) (indent : ℕ)
        (before after : List Part), List.Forall₂ Describes files items →
      (∀ p ∈ before ++ after, p.IsWritten ∧ p.key.text ≠ "files".toList) →
        ∃ m,
          parse? (text (before ++ .list (.word "files".toList) indent items ::
            after)) = some m ∧
          m.files = files ∧
          ∀ file, m.sectioned? = some file ↔
            ∃ earlier later, files = earlier ++ file :: later ∧
            file.hasSections = true ∧ ∀ f ∈ earlier, f.hasSections = false) ∧
    (∀ (parts : List Part) (key : Spelling) (indent : ℕ)
      (items : List (List KeyValue)),
      (∀ p ∈ parts, p.IsWritten) → .list key indent items ∈ parts →
        key.text = "files".toList →
        (∃ item ∈ items, TellsNoFile item) → parse? (text parts) = none) ∧
    ∀ parts : List Part, (∀ p ∈ parts, p.IsWritten) →
      (∀ p ∈ parts, p.key.text ≠ "files".toList) →
      parse? (text parts) = none := by
  refine ⟨?_, ?_, ?_⟩
  · intro files items indent before after hitems hothers
    exact ⟨⟨files⟩, parse?_of_describes hitems hothers, rfl,
      fun _ => sectioned?_eq_some_iff⟩
  · rintro parts key indent items hparts hlist hkey ⟨item, hitem, hnone⟩
    exact parse?_of_tellsNoFile hparts hlist hkey hitem hnone
  · intro parts hparts hothers
    exact parse?_of_not_listed hparts hothers

/-- Words that look like truth values or numbers are names; notes stand between
the keys. -/
theorem read_back_lookalikes :
    (∃ m,
      parse? ("version: '1'\nfiles:\n  - client: true\n    note: \"a \\n b\"\n" ++
          "    file: true\n    variants: true\n  - file: 12\n    about: |\n      one\n" ++
          "      two\n    empty:\n    variants: false\n").toList = some m ∧
        m.files = [⟨"true".toList, true, true⟩, ⟨"12".toList, false, false⟩] ∧
        m.sectioned? = some ⟨"true".toList, true, true⟩) ∧
      (∃ m, parse? "files: []\n".toList = some m ∧ m.files = []) ∧
      parse? "files:\n- variants: true\n".toList = none ∧
      parse? "files:\n- file: a\n- file: b\n  client: true\n  client: true\n".toList = none ∧
      parse? "version: '1'\n".toList = none := by
  let version : Part := .entry ⟨.word "version".toList, .quoted true [.raw '1']⟩
  let noted : List KeyValue :=
    [⟨.word "client".toList, .word "true".toList⟩,
      ⟨.word "note".toList, .quoted false
        [.raw 'a', .raw ' ', .escaped 'n' '\n', .raw ' ', .raw 'b']⟩,
      ⟨.word "file".toList, .word "true".toList⟩,
      ⟨.word "variants".toList, .word "true".toList⟩]
  let numbered : List KeyValue :=
    [⟨.word "file".toList, .word "12".toList⟩,
      ⟨.word "about".toList, .block true 1 "one".toList [(0, "two".toList)]⟩,
      ⟨.word "empty".toList, .absent⟩,
      ⟨.word "variants".toList, .word "false".toList⟩]
  have htext :
      text [version, .list (.word "files".toList) 2 [noted, numbered]] =
      ("version: '1'\nfiles:\n  - client: true\n    note: \"a \\n b\"\n" ++
        "    file: true\n    variants: true\n  - file: 12\n    about: |\n      one\n" ++
        "      two\n    empty:\n    variants: false\n").toList := by
          decide +kernel
  obtain ⟨m, hm, hfiles, hsectioned⟩ := read_back_as_written.1
    [⟨"true".toList, true, true⟩, ⟨"12".toList, false, false⟩] [noted, numbered]
      2 [version] []
    (by decide +kernel) (by decide +kernel)
  obtain ⟨m', hm', hfiles', -⟩ :=
    read_back_as_written.1 [] [] 0 [] [] .nil (by decide)
  have hunnamed := read_back_as_written.2.1
    [.list (.word "files".toList) 0
      [[⟨.word "variants".toList, .word "true".toList⟩]]] _ _ _
    (by decide +kernel) List.mem_cons_self (by decide) (by decide +kernel)
  have hagain := read_back_as_written.2.1
    [.list (.word "files".toList) 0 [[⟨.word "file".toList, .word "a".toList⟩],
      [⟨.word "file".toList, .word "b".toList⟩,
        ⟨.word "client".toList, .word "true".toList⟩,
        ⟨.word "client".toList, .word "true".toList⟩]]] _ _ _
    (by decide +kernel) List.mem_cons_self (by decide) (by decide +kernel)
  have hunlisted := read_back_as_written.2.2 [version] (by decide +kernel)
    (by decide +kernel)
  refine ⟨⟨m, ?_, hfiles, (hsectioned _).mpr ⟨[], _, rfl, rfl, by simp⟩⟩,
    ⟨m', hm', hfiles'⟩, hunnamed, hagain, hunlisted⟩
  rw [← htext]
  exact hm

end FormScaffold.Manifest
