import FormScaffold.Yaml.Node
import FormScaffold.Proofs.Yaml.Layout

/-!
# The nodes of a layout

The tokens of a layout are read as the nodes that its parts stand for: a mapping
whose values are scalars and sequences of mappings.  No anchor is met on the
way.  A reader with fuel left is, by reduction, its first step and what follows,
so that the steps of a reading are put together by `Reads.bind`.
-/

namespace FormScaffold.Yaml

def Spelling.node (s : Spelling) : Node := .scalar s.style none s.text

def KeyValue.node (e : KeyValue) : Node × Node := (e.key.node, e.value.node)

/-- The node of an item.  Nothing behind a dash is an absent scalar. -/
def itemNode : List KeyValue → Node
  | [] => .absent
  | item => .mapping (item.map KeyValue.node)

namespace Part

def valueNode : Part → Node
  | entry e => e.value.node
  | list _ _ items => .sequence (items.map itemNode)

def node (p : Part) : Node × Node := (p.key.node, p.valueNode)

end Part

/-- An item is a mapping like the text around it. -/
theorem itemNode_cons (e : KeyValue) (item : List KeyValue) :
    itemNode (e :: item) =
      .mapping (((e :: item).map Part.entry).map Part.node) := by
  rw [List.map_map]
  rfl

namespace Read

variable {α β : Type} {r : Read α} {f : α → Read β} {x : α} {y : β}
  {before between after more : List Token} {t : Token} {handles : Handles}
  {fuel : ℕ} {context : Context}

/-- Before these tokens, a value is read up to those, and the anchors stay. -/
def Reads (r : Read α) (before : List Token) (x : α)
    (after : List Token) : Prop :=
  ∀ anchors, r ⟨before, anchors⟩ = some (x, ⟨after, anchors⟩)

theorem Reads.bind (hr : Reads r before x between)
    (hf : Reads (f x) between y after) :
    Reads (r >>= f) before y after := by
  intro anchors
  change (r ⟨before, anchors⟩ >>= fun p => f p.1 p.2) = _
  rw [hr anchors]
  exact hf anchors

theorem reads_pure (x : α) (before : List Token) :
    Reads (pure x) before x before :=
  fun _ => rfl

theorem reads_peek (before : List Token) :
    Reads peek before before.head? before :=
  fun _ => rfl

theorem reads_skip (t : Token) (after : List Token) :
    Reads skip (t :: after) () after :=
  fun _ => rfl

theorem reads_expect (t : Token) (after : List Token) :
    Reads (expect t) (t :: after) () after := by
  refine (reads_peek _).bind ?_
  rw [List.head?_cons, if_pos rfl]
  exact reads_skip t after

theorem reads_accept (t : Token) (after : List Token) :
    Reads (accept t) (t :: after) true after := by
  refine (reads_peek _).bind ?_
  rw [List.head?_cons, if_pos rfl]
  exact (reads_skip t after).bind (reads_pure true after)

theorem reads_accept_of_ne (h : before.head? ≠ some t) :
    Reads (accept t) before false before := by
  refine (reads_peek _).bind ?_
  rw [if_neg h]
  exact reads_pure false before

/-- Before a token that is no anchor and no tag there are no properties. -/
theorem reads_properties (handles : Handles)
    (h : ∀ t ∈ before.head?, (∀ name, t ≠ .anchor name) ∧
      ∀ handle suffix, t ≠ .tag handle suffix) :
    Reads (properties handles) before (none, none) before := by
  refine (reads_peek _).bind ?_
  split
  · next name hhead => exact absurd rfl ((h _ hhead).1 name)
  · next handle suffix hhead => exact absurd rfl ((h _ hhead).2 handle suffix)
  · exact reads_pure _ before

/-- Whether a token begins a node by itself. -/
def BeginsNode : Token → Prop
  | .alias _ => False
  | .anchor _ => False
  | .tag _ _ => False
  | _ => True

/-- A node without properties is its content. -/
theorem reads_node {n : Node} (ht : BeginsNode t)
    (hcontent : Reads (content handles fuel context none false) (t :: before) n
      after) :
    Reads (node handles (fuel + 1) context) (t :: before) n after := by
  refine (reads_peek _).bind ?_
  rw [List.head?_cons]
  split
  · next name hhead =>
      obtain rfl := Option.some.inj hhead
      cases ht
  · refine (reads_properties handles ?_).bind hcontent
    intro t' ht'
    obtain rfl : t = t' := by simpa using ht'
    refine ⟨?_, ?_⟩
    · rintro name rfl
      exact ht
    · rintro handle suffix rfl
      exact ht

/-- Where nothing stands the node is absent. -/
theorem reads_absent (h : context.isVacant before.head? = true) :
    Reads (optionalNode handles (fuel + 1) context) before Node.absent
      before := by
  refine (reads_peek _).bind ?_
  rw [if_pos h]
  exact reads_pure _ before

/-- Where a token begins a node, the node is its content. -/
theorem reads_present {n : Node} (ht : BeginsNode t)
    (h : context.isVacant (some t) = false)
    (hcontent : Reads (content handles fuel context none false) (t :: before) n
      after) :
    Reads (optionalNode handles (fuel + 2) context) (t :: before) n after := by
  refine (reads_peek _).bind ?_
  rw [List.head?_cons, if_neg (Bool.eq_false_iff.mp h)]
  exact reads_node ht hcontent

theorem reads_scalar (style : ScalarStyle) (s : Text) :
    Reads (content handles (fuel + 1) context none false)
      (.scalar style s :: after) (.scalar style none s) after := by
  exact (reads_peek _).bind ((reads_skip _ after).bind (reads_pure _ after))

theorem reads_mapping {entries : List (Node × Node)}
    (h : context.allowsBlock = true)
    (hentries : Reads (blockEntries handles fuel) before entries after) :
    Reads (content handles (fuel + 1) context none false)
      (.blockMappingStart :: before) (.mapping entries) after := by
  refine (reads_peek _).bind ?_
  simp only [List.head?_cons, h]
  exact (reads_skip _ before).bind (hentries.bind (reads_pure _ after))

theorem reads_sequence {items : List Node} (h : context.allowsBlock = true)
    (hitems : Reads (blockItems handles fuel) before items after) :
    Reads (content handles (fuel + 1) context none false)
      (.blockSequenceStart :: before) (.sequence items) after := by
  refine (reads_peek _).bind ?_
  simp only [List.head?_cons, h]
  exact (reads_skip _ before).bind (hitems.bind (reads_pure _ after))

theorem reads_hangingSequence {items : List Node}
    (h : context.allowsHanging = true)
    (hitems : Reads (hangingItems handles fuel) (.blockEntry :: before) items
      after) :
    Reads (content handles (fuel + 1) context none false)
      (.blockEntry :: before) (.sequence items) after := by
  refine (reads_peek _).bind ?_
  simp only [List.head?_cons, h]
  exact hitems.bind (reads_pure _ after)

theorem reads_emptyFlow (hfuel : 0 < fuel) :
    Reads (content handles (fuel + 1) context none false)
      (.flowSequenceStart :: .flowSequenceEnd :: after) (.sequence [])
        after := by
  obtain ⟨fuel, rfl⟩ := Nat.exists_eq_succ_of_ne_zero hfuel.ne'
  refine (reads_peek _).bind ((reads_skip _ _).bind ?_)
  exact ((reads_accept _ after).bind (reads_pure [] after)).bind
    (reads_pure _ after)

/-- Whether these tokens are read as a node where something optional stands. -/
def ReadsAs (context : Context) (tokens : List Token) (n : Node) : Prop :=
  ∀ handles fuel after, 4 * tokens.length + 3 ≤ fuel →
    context.isVacant after.head? = true →
    Reads (optionalNode handles fuel context) (tokens ++ after) n after

theorem readsAs_nil (context : Context) : ReadsAs context [] Node.absent := by
  intro handles fuel after hfuel hvacant
  obtain ⟨fuel, rfl⟩ := Nat.exists_eq_add_of_le' hfuel
  exact reads_absent hvacant

/-- A node is read as its content, if that is read with the fuel that is
left. -/
theorem readsAs_of_content {tokens : List Token} {n : Node} (ht : BeginsNode t)
    (h : context.isVacant (some t) = false)
    (hcontent : ∀ handles fuel after, 4 * (tokens.length + 1) ≤ fuel →
      context.isVacant after.head? = true →
        Reads (content handles (fuel + 1) context none false)
          (t :: (tokens ++ after)) n after) :
    ReadsAs context (t :: tokens) n := by
  intro handles fuel after hfuel hvacant
  rw [List.length_cons] at hfuel
  obtain ⟨fuel, rfl⟩ := Nat.exists_eq_add_of_le' (Nat.le_of_add_left_le hfuel)
  exact reads_present ht h (hcontent handles fuel after (by omega) hvacant)

theorem readsAs_token (s : Spelling) : ReadsAs .blockEntry [s.token] s.node :=
  readsAs_of_content trivial rfl fun _ _ _ _ _ => reads_scalar s.style s.text

theorem readsAs_tokens (s : Spelling) :
    ReadsAs .blockEntry s.tokens s.node := by
  unfold Spelling.tokens
  split
  · next habsent =>
      rw [habsent]
      exact readsAs_nil _
  · exact readsAs_token s

/-! ## Mappings -/

/-- What stands behind a part begins another one or ends the mapping. -/
theorem isVacant_parts (parts : List Part) :
    Context.isVacant .blockEntry (parts.flatMap Part.tokens ++ .blockEnd ::
      after).head? = true := by
  cases parts with
  | nil => rfl
  | cons p parts => rfl

/-- Parts are read one by one, up to the end of the mapping. -/
theorem reads_blockEntries {parts : List Part}
    (hparts : ∀ p ∈ parts, ReadsAs .blockEntry p.valueTokens p.valueNode)
    (hfuel : 4 * (parts.flatMap Part.tokens).length < fuel) :
    Reads (blockEntries handles fuel)
      (parts.flatMap Part.tokens ++ .blockEnd :: after)
      (parts.map Part.node) after := by
  induction parts generalizing fuel with
  | nil =>
      obtain ⟨fuel, rfl⟩ := Nat.exists_eq_add_of_lt hfuel
      exact (reads_accept _ after).bind (reads_pure _ after)
  | cons p parts ih =>
      rw [List.forall_mem_cons] at hparts
      obtain ⟨fuel, rfl⟩ := Nat.exists_eq_succ_of_ne_zero
        (Nat.ne_zero_of_lt hfuel)
      rw [List.flatMap_cons, Part.tokens, List.length_append, List.length_cons,
        List.length_cons, List.length_cons] at hfuel
      have hkey : Reads (optionalNode handles fuel .blockEntry)
          (p.key.token :: .value ::
            (p.valueTokens ++ (parts.flatMap Part.tokens ++
              .blockEnd :: after)))
          p.key.node
          (.value ::
            (p.valueTokens ++ (parts.flatMap Part.tokens ++
              .blockEnd :: after))) :=
        readsAs_token p.key handles fuel _ (by simp; omega) rfl
      have hvalue : Reads (optionalNode handles fuel .blockEntry)
          (p.valueTokens ++ (parts.flatMap Part.tokens ++ .blockEnd :: after))
          p.valueNode
          (parts.flatMap Part.tokens ++ .blockEnd :: after) :=
        hparts.1 handles fuel _ (by omega) (isVacant_parts parts)
      have hlater : Reads (blockEntries handles fuel)
          (parts.flatMap Part.tokens ++ .blockEnd :: after)
            (parts.map Part.node) after :=
        ih hparts.2 (by omega)
      rw [List.flatMap_cons, Part.tokens, List.append_assoc]
      refine (reads_accept_of_ne (by simp)).bind
        ((reads_expect .key _).bind (hkey.bind ?_))
      exact (reads_accept .value _).bind
        (hvalue.bind (hlater.bind (reads_pure _ after)))

/-! ## Lists -/

/-- An item of a list is read in its place, whatever is allowed to follow. -/
theorem readsAs_item {item : List KeyValue}
    (hblock : context.allowsBlock = true)
    (hpresent : context.isVacant (some .blockMappingStart) = false) :
    ReadsAs context (itemTokens item).tail (itemNode item) := by
  cases item with
  | nil => exact readsAs_nil context
  | cons e item =>
      have htokens : ((e :: item).map Part.entry).flatMap Part.tokens =
          (e :: item).flatMap KeyValue.tokens := List.flatMap_map ..
      have hparts : ∀ p ∈ (e :: item).map Part.entry,
          ReadsAs .blockEntry p.valueTokens p.valueNode := by
        intro p hp
        obtain ⟨e', -, rfl⟩ := List.mem_map.mp hp
        exact readsAs_tokens e'.value
      refine readsAs_of_content trivial hpresent
        fun handles fuel after hfuel _ => ?_
      rw [itemNode_cons]
      refine reads_mapping hblock ?_
      rw [List.append_assoc, ← htokens]
      refine reads_blockEntries hparts ?_
      rw [htokens]
      rw [List.length_append] at hfuel
      omega

theorem itemTokens_eq (item : List KeyValue) :
    itemTokens item = .blockEntry :: (itemTokens item).tail := by
  cases item with
  | nil => rfl
  | cons e item => rfl

/-- What stands behind an item begins another one or ends the list. -/
theorem isVacant_items (items : List (List KeyValue))
    (hitem : context.isVacant (some .blockEntry) = true)
    (hvacant : context.isVacant after.head? = true) :
    context.isVacant (items.flatMap itemTokens ++ after).head? = true := by
  cases items with
  | nil => exact hvacant
  | cons item items =>
      rw [List.flatMap_cons, itemTokens_eq]
      exact hitem

/-- The items of a list are read one by one, up to its end. -/
theorem reads_blockItems (items : List (List KeyValue))
    (hfuel : 4 * (items.flatMap itemTokens).length < fuel) :
    Reads (blockItems handles fuel)
      (items.flatMap itemTokens ++ .blockEnd :: after)
      (items.map itemNode) after := by
  induction items generalizing fuel with
  | nil =>
      obtain ⟨fuel, rfl⟩ := Nat.exists_eq_add_of_lt hfuel
      exact (reads_accept _ after).bind (reads_pure _ after)
  | cons item items ih =>
      obtain ⟨fuel, rfl⟩ := Nat.exists_eq_succ_of_ne_zero
        (Nat.ne_zero_of_lt hfuel)
      rw [List.flatMap_cons, itemTokens_eq, List.length_append,
        List.length_cons] at hfuel
      have hvacant : Context.isVacant .blockItem
          (items.flatMap itemTokens ++ .blockEnd :: after).head? = true :=
        isVacant_items items rfl rfl
      have hitem : ReadsAs .blockItem (itemTokens item).tail (itemNode item) :=
        readsAs_item rfl rfl
      rw [List.flatMap_cons, itemTokens_eq, List.append_assoc]
      refine (reads_accept_of_ne (by simp)).bind
        ((reads_expect .blockEntry _).bind ?_)
      refine (hitem handles fuel _ (by omega) hvacant).bind ?_
      exact (ih (by omega)).bind (reads_pure _ after)

/-- What may follow a value of a mapping is no item, and may follow one. -/
theorem hanging_of_vacant {t? : Option Token}
    (h : Context.isVacant .blockEntry t? = true) :
    t? ≠ some .blockEntry ∧ Context.isVacant .hangingItem t? = true := by
  cases t? with
  | none => cases h
  | some t =>
      cases t with
      | key => exact ⟨nofun, rfl⟩
      | value => exact ⟨nofun, rfl⟩
      | blockEnd => exact ⟨nofun, rfl⟩
      | _ => cases h

/-- The items of a list at the column of its key are read one by one, up to what
follows the value of the key. -/
theorem reads_hangingItems (items : List (List KeyValue))
    (hvacant : Context.isVacant .blockEntry after.head? = true)
    (hpos : 0 < fuel) (hfuel : 4 * (items.flatMap itemTokens).length ≤ fuel) :
    Reads (hangingItems handles fuel) (items.flatMap itemTokens ++ after)
      (items.map itemNode) after := by
  obtain ⟨hend, hvacant⟩ := hanging_of_vacant hvacant
  obtain ⟨fuel, rfl⟩ := Nat.exists_eq_succ_of_ne_zero hpos.ne'
  induction items generalizing fuel with
  | nil =>
      exact (reads_accept_of_ne hend).bind (reads_pure _ after)
  | cons item items ih =>
      rw [List.flatMap_cons, itemTokens_eq, List.length_append,
        List.length_cons] at hfuel
      have hlater : Context.isVacant .hangingItem
          (items.flatMap itemTokens ++ after).head? = true :=
            isVacant_items items rfl hvacant
      have hitem : ReadsAs .hangingItem (itemTokens item).tail
          (itemNode item) :=
        readsAs_item rfl rfl
      rw [List.flatMap_cons, itemTokens_eq, List.append_assoc]
      refine (reads_accept .blockEntry _).bind ?_
      refine (hitem handles fuel _ (by omega) hlater).bind ?_
      obtain ⟨fuel, rfl⟩ := Nat.exists_eq_succ_of_ne_zero
        (show fuel ≠ 0 by omega)
      exact (ih fuel (Nat.succ_pos fuel) (by omega)).bind (reads_pure _ after)

/-- The value of a part is read as its node. -/
theorem readsAs_valueTokens (p : Part) :
    ReadsAs .blockEntry p.valueTokens p.valueNode := by
  cases p with
  | entry e => exact readsAs_tokens e.value
  | list key indent items =>
      cases items with
      | nil =>
          refine readsAs_of_content trivial rfl
            fun handles fuel after hfuel _ => ?_
          exact reads_emptyFlow (by omega)
      | cons item items =>
          cases indent with
          | zero =>
              have htokens : (Part.list key 0 (item :: items)).valueTokens =
                  (item :: items).flatMap itemTokens := rfl
              rw [htokens, List.flatMap_cons, itemTokens_eq, List.cons_append]
              refine readsAs_of_content trivial rfl
                fun handles fuel after hfuel hvacant => ?_
              refine reads_hangingSequence rfl ?_
              rw [← List.cons_append, ← List.cons_append, ← itemTokens_eq,
                ← List.flatMap_cons]
              refine reads_hangingItems (item :: items) hvacant (by omega) ?_
              rwa [List.flatMap_cons, itemTokens_eq]
          | succ indent =>
              refine readsAs_of_content trivial rfl
                fun handles fuel after hfuel _ => ?_
              refine reads_sequence rfl ?_
              rw [List.append_assoc]
              rw [List.length_append] at hfuel
              exact reads_blockItems (item :: items) (by omega)

/-- The tokens of a text are read as a mapping of its parts. -/
theorem reads_document (parts : List Part)
    (hfuel : 4 * ((parts.flatMap Part.tokens).length + 2) ≤ fuel) :
    Reads (document fuel)
      (.blockMappingStart :: (parts.flatMap Part.tokens ++ [.blockEnd]))
      (.mapping (parts.map Part.node)) [] := by
  obtain ⟨fuel, rfl⟩ := Nat.exists_eq_add_of_le' (show 3 ≤ fuel by omega)
  have hdirectives : Reads (directives (fuel + 3) false [])
      (.blockMappingStart :: (parts.flatMap Part.tokens ++ [.blockEnd]))
      ([], false)
      (.blockMappingStart :: (parts.flatMap Part.tokens ++ [.blockEnd])) := by
    exact (reads_peek _).bind (reads_pure _ _)
  have hroot : Reads (node defaultHandles (fuel + 3) .root)
      (.blockMappingStart :: (parts.flatMap Part.tokens ++ [.blockEnd]))
      (.mapping (parts.map Part.node)) [] :=
    reads_node trivial (reads_mapping rfl
      (reads_blockEntries (fun p _ => readsAs_valueTokens p) (by omega)))
  exact hdirectives.bind ((reads_accept_of_ne (by simp)).bind hroot)

theorem reads_endings (hfuel : 0 < fuel) : Reads (endings fuel) [] () [] := by
  obtain ⟨fuel, rfl⟩ := Nat.exists_eq_succ_of_ne_zero hfuel.ne'
  exact (reads_accept_of_ne (by simp)).bind (reads_pure () [])

end Read

/-- A text holds the document that its tokens are read as. -/
theorem document?_of_reads {s : Text} {tokens : List Token} {root : Node}
    (htokens : tokens? s = some tokens) (hne : tokens ≠ [])
    (hread : Read.Reads (Read.document (4 * tokens.length + 4)) tokens root
      []) :
    document? s = some ⟨root, Anchors.empty⟩ := by
  have hrun : (do
      let root ← Read.document (4 * tokens.length + 4)
      Read.endings (4 * tokens.length + 4)
      return root : Read Node) ⟨tokens, Anchors.empty⟩ =
        some (root, ⟨[], Anchors.empty⟩) :=
    hread.bind ((Read.reads_endings (Nat.succ_pos _)).bind
      (Read.reads_pure root [])) Anchors.empty
  simp only [document?, htokens, Option.bind_eq_bind, Option.bind_some,
    if_neg hne, StateT.run, hrun]
  rfl

/-- A text with parts is read as a mapping of these, and names no anchor. -/
theorem document?_text {p : Part} {parts : List Part}
    (hparts : ∀ q ∈ p :: parts, q.IsWritten) :
    document? (text (p :: parts)) =
      some ⟨.mapping ((p :: parts).map Part.node), Anchors.empty⟩ := by
  refine document?_of_reads (tokens?_text hparts) (List.cons_ne_nil _ _) ?_
  refine Read.reads_document (p :: parts) ?_
  rw [List.length_cons, List.length_append, List.length_singleton]
  omega

/-- A text without parts holds no document. -/
theorem document?_nil : document? (text []) = none := by
  rfl

end FormScaffold.Yaml
