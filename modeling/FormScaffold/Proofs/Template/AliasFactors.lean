import FormScaffold.Template.Emission
import FormScaffold.Proofs.Template.AliasLines

/-!
# Aliases as factors of a text

A default alias begins with the one sign `@` that it holds, so no two places
where aliases stand overlap, and a text is in one way only a sequence of other
texts with aliases between them.  Replacing writes the same sequence with other
words for the aliases.  What the words are made of plays no part in it, so the
aliases of a project may be put in at the very end of the emission.
-/

namespace FormScaffold.Alias

inductive Role where
  | components
  | utils
  deriving DecidableEq, Repr

namespace Role

/-- The word for each role, when there are these two. -/
def word (components utils : Text) : Role → Text
  | .components => components
  | .utils => utils

def default : Role → Text := word defaultComponents defaultUtils

/-- The default alias of the role stands in the text behind its first `i`
characters. -/
def OccursAt (role : Role) (i : ℕ) (s : Text) : Prop :=
  role.default <+: s.drop i

instance (role : Role) (i : ℕ) (s : Text) : Decidable (role.OccursAt i s) :=
  inferInstanceAs (Decidable (_ <+: _))

end Role

/-- What stands before the first alias, and the aliases, each with what stands
between it and the next one. -/
structure Factors where
  first : Text
  later : List (Role × Text)
  deriving DecidableEq, Repr

namespace Factors

/-- The text of the factors, with a word for each role. -/
def text (word : Role → Text) (f : Factors) : Text :=
  f.first ++ f.later.flatMap fun p => word p.1 ++ p.2

/-- Where aliases stand, if the first of them begins at `start`. -/
def placesFrom (start : ℕ) : List (Role × Text) → List (ℕ × Role)
  | [] => []
  | (role, behind) :: later =>
    (start, role) :: placesFrom (start + role.default.length + behind.length)
      later

def places (f : Factors) : List (ℕ × Role) := placesFrom f.first.length f.later

/-- The factors give the text, and its default aliases are factored wherever
they stand. -/
structure Of (f : Factors) (s : Text) : Prop where
  text_eq : f.text Role.default = s
  mem_places_iff : ∀ i role, (i, role) ∈ f.places ↔ role.OccursAt i s

end Factors

/-! ## Where aliases stand -/

namespace Role

variable {a b : Role} {i j : ℕ} {s : Text}

theorem exists_default_eq (role : Role) :
    ∃ tail, role.default = '@' :: tail ∧ '@' ∉ tail := by
  cases role
  · exact ⟨"/components".toList, rfl, by decide⟩
  · exact ⟨"/lib/utils".toList, rfl, by decide⟩

theorem default_ne_nil (role : Role) : role.default ≠ [] := by
  rcases role.exists_default_eq with ⟨tail, heq, -⟩
  rw [heq]
  exact List.cons_ne_nil _ _

theorem OccursAt.getElem?_eq (ha : a.OccursAt i s) : s[i]? = some '@' := by
  rcases a.exists_default_eq with ⟨tail, heq, -⟩
  rcases ha with ⟨rest, hrest⟩
  rw [← Nat.add_zero i, ← List.getElem?_drop, ← hrest, heq]
  rfl

theorem OccursAt.lt_length (ha : a.OccursAt i s) : i < s.length :=
  (List.getElem?_eq_some_iff.mp ha.getElem?_eq).1

/-- No alias begins within another. -/
theorem OccursAt.getElem?_ne (ha : a.OccursAt i s) (hij : i < j)
    (hj : j < i + a.default.length) : s[j]? ≠ some '@' := by
  rcases a.exists_default_eq with ⟨tail, heq, htail⟩
  rcases ha with ⟨rest, hrest⟩
  obtain ⟨k, rfl⟩ : ∃ k, j = i + (k + 1) := ⟨j - i - 1, by omega⟩
  have hk : k < tail.length := by
    rw [heq, List.length_cons] at hj
    omega
  rw [← List.getElem?_drop, ← hrest, heq, List.cons_append,
    List.getElem?_cons_succ, List.getElem?_append_left hk]
  intro hsign
  exact htail (List.mem_of_getElem? hsign)

theorem OccursAt.eq (ha : a.OccursAt i s) (hb : b.OccursAt i s) : a = b := by
  rcases List.prefix_or_prefix_of_prefix ha hb with hab | hba
  · revert hab
    cases a <;> cases b <;> decide
  · revert hba
    cases a <;> cases b <;> decide

/-- Two aliases stand at the same place and are the same, or one ends where the
other has not begun. -/
theorem OccursAt.apart (ha : a.OccursAt i s) (hb : b.OccursAt j s) :
    (i = j ∧ a = b) ∨ i + a.default.length ≤ j ∨ j + b.default.length ≤ i := by
  rcases Nat.lt_trichotomy i j with hlt | rfl | hlt
  · right; left
    by_contra hover
    exact ha.getElem?_ne hlt (by omega) hb.getElem?_eq
  · exact Or.inl ⟨rfl, ha.eq hb⟩
  · right; right
    by_contra hover
    exact hb.getElem?_ne hlt (by omega) ha.getElem?_eq

theorem not_occursAt_nil (role : Role) (i : ℕ) : ¬ role.OccursAt i [] := by
  unfold OccursAt
  rw [List.drop_nil, List.prefix_nil]
  exact role.default_ne_nil

theorem occursAt_default_append (role : Role) (s : Text) :
    role.OccursAt 0 (role.default ++ s) :=
  List.prefix_append _ _

theorem occursAt_length_add_iff (front : Text) :
    a.OccursAt (front.length + i) (front ++ s) ↔ a.OccursAt i s := by
  unfold OccursAt
  rw [List.drop_length_add_append]

end Role

/-! ## What the walk factors out -/

namespace Factors

variable {f g : Factors} {s : Text} {start i k : ℕ} {role : Role}
  {later : List (Role × Text)}

theorem placesFrom_add (k start : ℕ) (later : List (Role × Text)) :
    placesFrom (k + start) later =
      (placesFrom start later).map fun p => (k + p.1, p.2) := by
  induction later generalizing start with
  | nil => rfl
  | cons p later ih =>
      have hnext : k + start + p.1.default.length + p.2.length =
          k + (start + p.1.default.length + p.2.length) := by omega
      simp only [placesFrom, List.map_cons, hnext, ih]

theorem mem_placesFrom_add :
    (i, role) ∈ placesFrom (k + start) later ↔
      ∃ j, k + j = i ∧ (j, role) ∈ placesFrom start later := by
  rw [placesFrom_add, List.mem_map]
  constructor
  · rintro ⟨⟨j, _⟩, hj, heq⟩
    obtain ⟨rfl, rfl⟩ := Prod.mk.inj heq
    exact ⟨j, rfl, hj⟩
  · rintro ⟨j, rfl, hj⟩
    exact ⟨(j, role), hj, rfl⟩

theorem le_of_mem_placesFrom (hmem : (i, role) ∈ placesFrom start later) :
    start ≤ i := by
  rw [← Nat.add_zero start, mem_placesFrom_add] at hmem
  rcases hmem with ⟨j, rfl, -⟩
  exact Nat.le_add_right start j

theorem of_nil : Of ⟨[], []⟩ [] where
  text_eq := rfl
  mem_places_iff i role := by simp [places, placesFrom, role.not_occursAt_nil i]

/-- Where aliases stand in a text that is put in front of another. -/
theorem Of.occursAt_append_iff (hf : f.Of s) {front : Text} :
    role.OccursAt i (front ++ s) ↔
      (i < front.length ∧ role.OccursAt i (front ++ s)) ∨
        (i, role) ∈ placesFrom (front.length + f.first.length) f.later := by
  rw [mem_placesFrom_add]
  constructor
  · intro hrole
    rcases Nat.lt_or_ge i front.length with hlt | hge
    · exact Or.inl ⟨hlt, hrole⟩
    · obtain ⟨j, rfl⟩ := Nat.exists_eq_add_of_le hge
      rw [Role.occursAt_length_add_iff] at hrole
      exact Or.inr ⟨j, rfl, (hf.mem_places_iff j role).mpr hrole⟩
  · rintro (⟨-, hrole⟩ | ⟨j, rfl, hmem⟩)
    · exact hrole
    · rw [Role.occursAt_length_add_iff]
      exact (hf.mem_places_iff j role).mp hmem

theorem Of.cons_letter {c : Char} (hf : f.Of s)
    (hnone : ∀ role : Role, ¬ role.OccursAt 0 (c :: s)) :
    Of ⟨c :: f.first, f.later⟩ (c :: s) where
  text_eq := congrArg (c :: ·) hf.text_eq
  mem_places_iff i role := by
    have hplaces : places ⟨c :: f.first, f.later⟩ =
        placesFrom ([c].length + f.first.length) f.later := by
      rw [Nat.add_comm]
      rfl
    have hhead : ¬ (i < [c].length ∧ role.OccursAt i ([c] ++ s)) := by
      rintro ⟨hlt, hrole⟩
      obtain rfl : i = 0 := Nat.lt_one_iff.mp hlt
      exact hnone role hrole
    have hiff : role.OccursAt i ([c] ++ s) ↔ _ := hf.occursAt_append_iff
    rw [hplaces]
    exact (hiff.trans (or_iff_right hhead)).symm

theorem Of.cons_alias (hf : f.Of s) (word : Role) :
    Of ⟨[], (word, f.first) :: f.later⟩ (word.default ++ s) where
  text_eq := by
    rw [← hf.text_eq]
    simp [text]
  mem_places_iff i role := by
    have hword := word.occursAt_default_append s
    have hhead : (i < word.default.length ∧
        role.OccursAt i (word.default ++ s)) ↔ (i, role) = (0, word) := by
      rw [Prod.mk.injEq]
      constructor
      · rintro ⟨hlt, hrole⟩
        rcases hrole.apart hword with heq | hbehind | hbefore
        · exact heq
        · have hpos := List.length_pos_of_ne_nil role.default_ne_nil
          omega
        · omega
      · rintro ⟨rfl, rfl⟩
        exact ⟨List.length_pos_of_ne_nil role.default_ne_nil, hword⟩
    rw [hf.occursAt_append_iff, hhead, places, placesFrom, List.mem_cons]
    simp

/-! ## One way only -/

theorem not_mem_placesFrom_behind (word : Role) (start length : ℕ) :
    (start, role) ∉ placesFrom (start + word.default.length + length)
      later := by
  intro hmem
  have hle := le_of_mem_placesFrom hmem
  have hpos := List.length_pos_of_ne_nil word.default_ne_nil
  omega

theorem mem_iff_of_mem_cons_iff {α : Type} {a : α} {l l' : List α} (ha : a ∉ l)
    (ha' : a ∉ l') (h : ∀ p, p ∈ a :: l ↔ p ∈ a :: l') (p : α) :
    p ∈ l ↔ p ∈ l' := by
  by_cases hp : p = a
  · rw [hp]
    exact iff_of_false ha ha'
  · simpa [hp] using h p

/-- Factors with the same text and the same places are the same. -/
theorem eq_of_places {later' : List (Role × Text)} {first first' : Text}
    (htext : text Role.default ⟨first, later⟩ =
      text Role.default ⟨first', later'⟩)
    (hplaces : ∀ p, p ∈ placesFrom (start + first.length) later ↔
      p ∈ placesFrom (start + first'.length) later') :
    first = first' ∧ later = later' := by
  induction later generalizing start first first' later' with
  | nil =>
      cases later' with
      | nil => simpa [text] using htext
      | cons q later' =>
          simpa [placesFrom] using (hplaces (_, q.1)).mpr List.mem_cons_self
  | cons p later ih =>
      cases later' with
      | nil => simpa [placesFrom] using (hplaces (_, p.1)).mp List.mem_cons_self
      | cons q later' =>
          obtain ⟨a, behind⟩ := p
          obtain ⟨b, behind'⟩ := q
          have hle :=
            le_of_mem_placesFrom ((hplaces (_, a)).mp List.mem_cons_self)
          have hge :=
            le_of_mem_placesFrom ((hplaces (_, b)).mpr List.mem_cons_self)
          have hlength : first.length = first'.length := by omega
          simp only [text, List.flatMap_cons, List.append_assoc] at htext
          obtain ⟨rfl, hrest⟩ := List.append_inj htext hlength
          obtain rfl : a = b := by
            rcases List.mem_cons.mp
              ((hplaces (_, a)).mp List.mem_cons_self) with heq | hlater
            · exact (Prod.mk.inj heq).2
            · exact absurd hlater (not_mem_placesFrom_behind b _ _)
          have hsame := mem_iff_of_mem_cons_iff
            (not_mem_placesFrom_behind a _ behind.length)
            (not_mem_placesFrom_behind a _ behind'.length) hplaces
          obtain ⟨rfl, rfl⟩ := ih (List.append_cancel_left hrest) hsame
          exact ⟨rfl, rfl⟩

instance (f : Factors) (s : Text) : Decidable (f.Of s) :=
  decidable_of_iff
    (f.text Role.default = s ∧ (∀ p ∈ f.places, p.2.OccursAt p.1 s) ∧
      ∀ i < s.length, ∀ role ∈ [Role.components, Role.utils],
        role.OccursAt i s → (i, role) ∈ f.places)
    ⟨fun h => ⟨h.1, fun i role => ⟨fun hmem => h.2.1 _ hmem, fun hrole =>
        h.2.2 i hrole.lt_length role (by cases role <;> decide) hrole⟩⟩,
      fun h => ⟨h.text_eq, fun p hp => (h.mem_places_iff p.1 p.2).mp hp,
        fun i _ role _ hrole => (h.mem_places_iff i role).mpr hrole⟩⟩

theorem Of.unique (hf : f.Of s) (hg : g.Of s) : g = f := by
  have hplaces : ∀ p, p ∈ placesFrom (0 + g.first.length) g.later ↔
      p ∈ placesFrom (0 + f.first.length) f.later := by
    intro p
    rw [Nat.zero_add, Nat.zero_add]
    exact (hg.mem_places_iff p.1 p.2).trans (hf.mem_places_iff p.1 p.2).symm
  obtain ⟨hfirst, hlater⟩ :=
    eq_of_places (hg.text_eq.trans hf.text_eq.symm) hplaces
  cases f
  cases g
  rw [mk.injEq]
  exact ⟨hfirst, hlater⟩

end Factors

/-! ## Replacing -/

theorem not_occursAt_of_pattern {lineStart : Bool} {s : Text}
    (hnone : pattern lineStart s = none) (role : Role) :
    ¬ role.OccursAt 0 s := by
  rintro ⟨rest, rfl⟩
  unfold pattern at hnone
  rw [Option.orElse_eq_orElse, Option.orElse_eq_or,
    Option.or_eq_none_iff] at hnone
  cases role
  · simp [Role.default, Role.word] at hnone
  · simp [Role.default, Role.word] at hnone

theorem exists_role_of_pattern {lineStart : Bool} {span rest : Text}
    (hfound : pattern lineStart (span ++ rest) = some rest) :
    ∃ role : Role, span = role.default ∧ ∀ components utils : Text,
      (if span = defaultComponents then components else utils) =
        role.word components utils := by
  rcases span_eq_of_pattern hfound with rfl | rfl
  · exact ⟨.components, rfl, fun _ _ => if_pos rfl⟩
  · exact ⟨.utils, rfl, fun _ _ => if_neg (by decide)⟩

theorem exists_factors (lineStart : Bool) (s : Text) :
    ∃ f : Factors, f.Of s ∧ ∀ components utils,
      Pattern.replaceFrom pattern
        (fun found => if found = defaultComponents then components else utils)
        lineStart s = f.text (Role.word components utils) := by
  induction lineStart, s using pattern_findsSpans.walk with
  | nil lineStart =>
      exact ⟨⟨[], []⟩, Factors.of_nil, fun _ _ => by simp [Factors.text]⟩
  | kept lineStart c s hnone ih =>
      obtain ⟨f, hf, hreplace⟩ := ih
      refine ⟨⟨c :: f.first, f.later⟩,
        hf.cons_letter (not_occursAt_of_pattern hnone), ?_⟩
      intro components utils
      rw [Pattern.replaceFrom_cons_of_none hnone, hreplace]
      rfl
  | span lineStart span rest hne hsome ih =>
      obtain ⟨f, hf, hreplace⟩ := ih
      obtain ⟨role, hspan, hword⟩ := exists_role_of_pattern hsome
      refine ⟨⟨[], (role, f.first) :: f.later⟩, hspan ▸ hf.cons_alias role, ?_⟩
      intro components utils
      rw [Pattern.replaceFrom_append_of_some hne hsome, hreplace, hword]
      simp [Factors.text]

/-- The default aliases in a text stand apart from each other, and the text has
one factorisation in which they are the factors.  Replacing writes the same
factors with the words of the project in place of the aliases, whatever these
words are.  So to emit a file for a project is to emit it with the template's
own aliases and to replace them in the result. -/
theorem replace_eq_text_of_factors (source : Text) :
    (∀ (a b : Role) (i j : ℕ), a.OccursAt i source → b.OccursAt j source →
      (i = j ∧ a = b) ∨ i + a.default.length ≤ j ∨ j + b.default.length ≤ i) ∧
    (∃ f : Factors, f.Of source ∧ (∀ g : Factors, g.Of source → g = f) ∧
      ∀ components utils,
        replace components utils source = f.text (Role.word components utils)) ∧
    ∀ (file : TemplateFile) (choices : Choices),
      file.emit choices source =
        replace choices.components choices.utils
          (file.emit
            { choices with
              components := defaultComponents, utils := defaultUtils }
            source) := by
  refine ⟨fun a b i j ha hb => ha.apart hb, ?_, ?_⟩
  · obtain ⟨f, hf, hreplace⟩ := exists_factors true source
    exact ⟨f, hf, fun g hg => hf.unique hg, hreplace⟩
  · intro file choices
    change _ = replace choices.components choices.utils
      (replace defaultComponents defaultUtils _)
    rw [replace_defaults]
    rfl

/-- Two aliases that touch each other give way to words that, put together, hold
both aliases again. -/
theorem replace_eq_text_of_touching_factors :
    let source := "a@/components@/lib/utils/@/lib".toList
    let f : Factors :=
      ⟨"a".toList, [(.components, []), (.utils, "/@/lib".toList)]⟩
    Role.components.OccursAt 1 source ∧ Role.utils.OccursAt 13 source ∧
      1 + Role.components.default.length ≤ 13 ∧ f.Of source ∧
      replace "@/lib".toList "/utils@/components".toList source =
        "a@/lib/utils@/components/@/lib".toList := by
  intro source f
  have hcomponents : Role.components.OccursAt 1 source := by decide
  have hutils : Role.utils.OccursAt 13 source := by decide
  have hf : f.Of source := by decide +kernel
  obtain ⟨hapart, ⟨g, -, hunique, hreplace⟩, -⟩ :=
    replace_eq_text_of_factors source
  have hbehind := hapart .components .utils 1 13 hcomponents hutils
  refine ⟨hcomponents, hutils, ?_, hf, ?_⟩
  · rcases hbehind with ⟨hsame, -⟩ | hbehind | hbefore
    · cases hsame
    · exact hbehind
    · exact absurd hbefore (by decide)
  · rw [hreplace, ← hunique f hf]
    decide

end FormScaffold.Alias
