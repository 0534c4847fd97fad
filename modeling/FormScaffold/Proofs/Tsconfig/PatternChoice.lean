import FormScaffold.Proofs.Text.Slice
import FormScaffold.Proofs.Tsconfig.Destination
import Mathlib.Data.Char
import Mathlib.Data.List.Lex
import Mathlib.Data.List.Nodup

/-!
# Which pattern an alias is mapped by

A pattern that is the alias itself is chosen first, and else the one with the
longest text before its star of those that can be put around a part of the
alias.  The search goes through the patterns in their order with the best so
far, measures texts in bytes, and cuts the part out of the alias at its bytes;
the cut never fails.
-/

namespace FormScaffold.Tsconfig

/-! ## The order of the patterns -/

namespace AliasPaths

/-- The patterns ascend, and so no pattern is there twice. -/
def Ordered (paths : AliasPaths) : Prop := paths.Pairwise fun a b => a.1 < b.1

instance (paths : AliasPaths) : Decidable paths.Ordered :=
  inferInstanceAs (Decidable (paths.Pairwise fun a b => a.1 < b.1))

theorem eq_or_mem_of_mem_insert {pattern : Text} {targets : List Text}
    {paths : AliasPaths} {entry : Text × List Text}
    (hmem : entry ∈ insert pattern targets paths) :
    entry = (pattern, targets) ∨ entry ∈ paths := by
  fun_induction insert pattern targets paths with
  | case1 => simpa using hmem
  | case2 p ts rest hlt => simpa using hmem
  | case3 ts rest hnot =>
      rcases List.mem_cons.mp hmem with hentry | hrest
      · exact Or.inl hentry
      · exact Or.inr (List.mem_cons_of_mem _ hrest)
  | case4 p ts rest hnot hne ih =>
      rcases List.mem_cons.mp hmem with hentry | hrest
      · exact Or.inr (hentry ▸ List.mem_cons_self)
      · exact (ih hrest).imp_right (List.mem_cons_of_mem _)

theorem Ordered.insert {paths : AliasPaths} (hpaths : paths.Ordered)
    (pattern : Text)
    (targets : List Text) : (paths.insert pattern targets).Ordered := by
  unfold Ordered at hpaths ⊢
  fun_induction AliasPaths.insert pattern targets paths with
  | case1 => exact List.pairwise_singleton _ _
  | case2 p ts rest hlt =>
      refine List.pairwise_cons.mpr ⟨?_, hpaths⟩
      intro entry hentry
      rcases List.mem_cons.mp hentry with rfl | hrest
      · exact hlt
      · exact hlt.trans ((List.pairwise_cons.mp hpaths).1 entry hrest)
  | case3 ts rest hnot =>
      exact List.pairwise_cons.mpr (List.pairwise_cons.mp hpaths)
  | case4 p ts rest hnot hne ih =>
      obtain ⟨hfirst, hrest⟩ := List.pairwise_cons.mp hpaths
      refine List.pairwise_cons.mpr ⟨?_, ih hrest⟩
      intro entry hentry
      rcases eq_or_mem_of_mem_insert hentry with rfl | hmem
      · exact lt_of_le_of_ne (not_lt.mp hnot) (Ne.symm hne)
      · exact hfirst entry hmem

theorem ordered_ofList (entries : List (Text × List Text)) :
    (ofList entries).Ordered := by
  unfold ofList
  have hfrom : ∀ paths : AliasPaths, paths.Ordered →
      Ordered (entries.foldl (fun paths e => insert e.1 e.2 paths) paths) := by
    induction entries with
    | nil => exact fun _ hpaths => hpaths
    | cons e entries ih =>
        exact fun paths hpaths => ih _ (hpaths.insert e.1 e.2)
  exact hfrom [] List.Pairwise.nil

theorem Ordered.targets_eq {paths : AliasPaths} (hpaths : paths.Ordered)
    {pattern : Text} {targets targets' : List Text}
    (h : (pattern, targets) ∈ paths) (h' : (pattern, targets') ∈ paths) :
    targets = targets' := by
  have hnodup : (paths.map Prod.fst).Nodup :=
    List.pairwise_map.mpr (hpaths.imp fun hlt => hlt.ne)
  exact congrArg Prod.snd (List.inj_on_of_nodup_map hnodup h h' rfl)

end AliasPaths

theorem ordered_of_parse? {s : Text} {options : Options} {paths : AliasPaths}
    (hparse : Options.parse? s = some options)
    (hpaths : options.paths = some paths) :
    paths.Ordered := by
  obtain ⟨v, -, hvalue⟩ := Option.bind_eq_some_iff.mp hparse
  unfold Options.ofValue? at hvalue
  obtain ⟨⟨parents, compiler⟩, -, hvalue⟩ := Option.bind_eq_some_iff.mp hvalue
  obtain ⟨parents', -, hvalue⟩ := Option.bind_eq_some_iff.mp hvalue
  obtain ⟨⟨baseUrl, stated⟩, himports, hvalue⟩ :=
    Option.bind_eq_some_iff.mp hvalue
  cases hvalue
  obtain rfl : stated = some paths := hpaths
  unfold Options.imports? at himports
  obtain ⟨⟨base, written⟩, -, himports⟩ := Option.bind_eq_some_iff.mp himports
  obtain ⟨base', -, himports⟩ := Option.bind_eq_some_iff.mp himports
  obtain ⟨stated, hread, himports⟩ := Option.bind_eq_some_iff.mp himports
  cases himports
  unfold Json.Value.optional? at hread
  split at hread
  next => cases hread
  next =>
    obtain ⟨read, hread, hsome⟩ := Option.map_eq_some_iff.mp hread
    cases hsome
    unfold Options.aliasPaths? at hread
    split at hread
    next =>
      obtain ⟨keyed, -, hread⟩ := Option.bind_eq_some_iff.mp hread
      obtain ⟨entries, -, hread⟩ := Option.bind_eq_some_iff.mp hread
      cases hread
      exact AliasPaths.ordered_ofList entries
    next => cases hread

theorem ordered_of_readConfig {w : Workspace} {config : Path}
    {options : Options} {paths : AliasPaths}
    (hread : readConfig w config = .ok options)
    (hpaths : options.paths = some paths) : paths.Ordered := by
  unfold readConfig at hread
  split at hread
  next => cases hread
  next =>
    split at hread
    next o hparse =>
      cases hread
      exact ordered_of_parse? hparse hpaths
    next => cases hread

theorem ordered_of_mem_chain {w : Workspace} {fuel : ℕ} {config : Path}
    {configs : List (Path × Options)}
    (hchain : chain w fuel config = .ok configs) :
    ∀ c ∈ configs, ∀ paths, c.2.paths = some paths → paths.Ordered :=
  forall_mem_of_chain (P := fun _ => True)
    (fun _ _ _ hread _ hpaths => ordered_of_readConfig hread hpaths)
    (fun _ _ _ _ _ _ => trivial) trivial hchain

theorem Mapping.ordered_of_load {w : Workspace} {project : Path} {m : Mapping}
    (hload : load w project = .ok m) : m.paths.Ordered := by
  obtain ⟨configs, hchain, -, hset⟩ := exists_chain_of_load hload
  cases hpaths : nearestPaths? configs with
  | none =>
      rw [hpaths] at hset
      have hnone : m.paths = [] := congrArg Prod.snd hset
      exact hnone ▸ List.Pairwise.nil
  | some found =>
      rw [hpaths] at hset
      obtain ⟨c, hmem, hsets⟩ := List.exists_of_findSome?_eq_some hpaths
      obtain ⟨paths, hstated, rfl⟩ := Option.map_eq_some_iff.mp hsets
      have hsame : m.paths = paths := congrArg Prod.snd hset
      exact hsame ▸ ordered_of_mem_chain hchain c hmem paths hstated

namespace Mapping

/-! ## Patterns around a part of the alias -/

/-- The pattern has its first star between `lead` and `tail`, and with
`captured` in the place of the star it is the alias. -/
structure Spells (pattern importAlias lead captured tail : Text) : Prop where
  pattern_eq : pattern = lead ++ '*' :: tail
  first : '*' ∉ lead
  alias_eq : importAlias = lead ++ captured ++ tail

/-- The two halves of a pattern fit without overlap: the text in front of the
tail has as many bytes as the lead, so it begins with it. -/
theorem fits_iff {lead tail importAlias : Text} :
    fits lead tail importAlias = true ↔
      ∃ captured, importAlias = lead ++ captured ++ tail := by
  unfold fits
  rw [Bool.and_eq_true, Bool.and_eq_true, decide_eq_true_eq,
    List.isPrefixOf_iff_prefix, List.isSuffixOf_iff_suffix]
  constructor
  · rintro ⟨⟨hsize, hlead⟩, front, rfl⟩
    have hfront : front <+: front ++ tail := List.prefix_append front tail
    rw [Text.byteSize_append] at hsize
    obtain ⟨captured, rfl⟩ :=
      Text.prefix_of_byteSize_le hlead hfront (by omega)
    exact ⟨captured, rfl⟩
  · rintro ⟨captured, rfl⟩
    refine ⟨⟨?_, ?_⟩, List.suffix_append _ tail⟩
    · rw [Text.byteSize_append, Text.byteSize_append]
      omega
    · rw [List.append_assoc]
      exact List.prefix_append lead _

theorem captured?_append (lead captured tail : Text) :
    captured? lead tail (lead ++ captured ++ tail) = some captured := by
  have hsize := Text.byteSize_append (lead ++ captured) tail
  have hstop : Text.byteSize (lead ++ captured ++ tail) - tail.byteSize =
      Text.byteSize (lead ++ captured) := by
    omega
  unfold captured?
  rw [hstop, Text.slice?_append, guard, if_pos (by omega)]
  rfl

/-- Where a lead and a tail fit, the cut between them is in order, in the alias
and between its characters. -/
theorem exists_captured_of_fits {lead tail importAlias : Text}
    (hfits : fits lead tail importAlias = true) :
    lead.byteSize ≤ importAlias.byteSize - tail.byteSize ∧
      tail.byteSize ≤ importAlias.byteSize ∧
      ∃ captured, captured? lead tail importAlias = some captured ∧
        importAlias = lead ++ captured ++ tail := by
  obtain ⟨captured, rfl⟩ := fits_iff.mp hfits
  refine ⟨?_, ?_, captured, captured?_append lead captured tail, rfl⟩
  · simp only [Text.byteSize_append]
    omega
  · rw [Text.byteSize_append]
    omega

theorem spells_of_split {pattern importAlias lead captured tail : Text}
    (hsplit : pattern.splitOnce? '*' = some (lead, tail))
    (halias : importAlias = lead ++ captured ++ tail) :
    Spells pattern importAlias lead captured tail :=
  ⟨(Text.splitOnce?_eq_some_iff.mp hsplit).1,
    (Text.splitOnce?_eq_some_iff.mp hsplit).2, halias⟩

theorem Spells.split {pattern importAlias lead captured tail : Text}
    (hspells : Spells pattern importAlias lead captured tail) :
    pattern.splitOnce? '*' = some (lead, tail) :=
  Text.splitOnce?_eq_some_iff.mpr ⟨hspells.pattern_eq, hspells.first⟩

theorem Spells.parts_eq {pattern importAlias lead captured tail lead' captured'
    tail' : Text} (hspells : Spells pattern importAlias lead captured tail)
    (hspells' : Spells pattern importAlias lead' captured' tail') :
    lead = lead' ∧ tail = tail' :=
  Prod.mk.inj (Option.some.inj (hspells.split.symm.trans hspells'.split))

theorem Spells.lead_prefix {pattern importAlias lead captured tail : Text}
    (hspells : Spells pattern importAlias lead captured tail) :
    lead <+: importAlias := by
  rw [hspells.alias_eq, List.append_assoc]
  exact List.prefix_append lead _

/-! ## The choice -/

variable {importAlias : Text} {paths seen rest : AliasPaths} {fit : Fit}
  {best : Option (Fit × ℕ)}

/-- No pattern is the alias, unless the alias has a star. -/
def Unnamed (importAlias : Text) (paths : AliasPaths) : Prop :=
  '*' ∉ importAlias → ∀ targets, (importAlias, targets) ∉ paths

/-- No pattern can be put around a part of the alias. -/
def NoneSpells (importAlias : Text) (paths : AliasPaths) : Prop :=
  ∀ entry ∈ paths, ∀ lead captured tail,
    ¬ Spells entry.1 importAlias lead captured tail

/-- Of the patterns that can be put around a part of the alias this one has the
longest lead, and it is the least of those with the same lead. -/
structure IsLongest (importAlias : Text) (paths : AliasPaths) (lead : Text)
    (fit : Fit) : Prop where
  mem : (fit.pattern, fit.targets) ∈ paths
  spells : ∃ tail, Spells fit.pattern importAlias lead fit.captured tail
  longest : ∀ entry ∈ paths, ∀ lead' captured tail,
    Spells entry.1 importAlias lead' captured tail →
      lead' <+: lead ∧ (lead' = lead → fit.pattern ≤ entry.1)

/-- The choice for an alias: the pattern that is the alias, and if there is
none, the one with the longest lead. -/
inductive Chooses (importAlias : Text) (paths : AliasPaths) : Fit → Prop
  | named {targets : List Text} (hstar : '*' ∉ importAlias)
      (hmem : (importAlias, targets) ∈ paths) :
      Chooses importAlias paths ⟨importAlias, [], targets⟩
  | longest {lead : Text} {fit : Fit} (hunnamed : Unnamed importAlias paths)
      (hlongest : IsLongest importAlias paths lead fit) :
      Chooses importAlias paths fit

/-- There is one choice at most.  Of two, each lead begins the other, and then
each pattern is the lesser one. -/
theorem Chooses.eq (hordered : paths.Ordered) {fit' : Fit}
    (hfit : Chooses importAlias paths fit)
    (hfit' : Chooses importAlias paths fit') :
    fit = fit' := by
  cases hfit with
  | named hstar hmem =>
      cases hfit' with
      | named hstar' hmem' => rw [hordered.targets_eq hmem hmem']
      | longest hunnamed _ => exact absurd hmem (hunnamed hstar _)
  | longest hunnamed hlongest =>
      cases hfit' with
      | named hstar hmem => exact absurd hmem (hunnamed hstar _)
      | longest _ hlongest' =>
          obtain ⟨tail, hspells⟩ := hlongest.spells
          obtain ⟨tail', hspells'⟩ := hlongest'.spells
          have hthis := hlongest.longest _ hlongest'.mem _ _ _ hspells'
          have hthat := hlongest'.longest _ hlongest.mem _ _ _ hspells
          have hlead := hthis.1.eq_of_length_le hthat.1.length_le
          have hpattern := le_antisymm (hthis.2 hlead) (hthat.2 hlead.symm)
          rw [hpattern] at hspells
          obtain ⟨-, rfl⟩ := hspells.parts_eq hspells'
          have hsame := hspells.alias_eq.symm.trans hspells'.alias_eq
          rw [hlead] at hsame
          have hcaptured :=
            List.append_cancel_left (List.append_cancel_right hsame)
          have htargets :=
            hordered.targets_eq (hpattern ▸ hlongest.mem) hlongest'.mem
          change Fit.mk fit.pattern fit.captured fit.targets =
            Fit.mk fit'.pattern fit'.captured fit'.targets
          rw [hpattern, hcaptured, htargets]

/-! ## The search -/

/-- The best so far is the best of the patterns seen, with the size of its
lead. -/
def BestOf (importAlias : Text) (seen : AliasPaths) : Option (Fit × ℕ) → Prop
  | none => NoneSpells importAlias seen
  | some (fit, size) =>
    ∃ lead, size = lead.byteSize ∧ IsLongest importAlias seen lead fit

/-- A pattern that cannot be put around a part of the alias leaves the best. -/
theorem BestOf.pass (hbest : BestOf importAlias seen best)
    {entry : Text × List Text}
    (hpass : ∀ lead captured tail,
      ¬ Spells entry.1 importAlias lead captured tail) :
    BestOf importAlias (seen ++ [entry]) best := by
  cases best with
  | none => exact List.forall_mem_append.mpr ⟨hbest, by simpa using hpass⟩
  | some found =>
      obtain ⟨lead, hsize, hlongest⟩ := hbest
      refine ⟨lead, hsize, List.mem_append_left _ hlongest.mem, hlongest.spells,
        ?_⟩
      refine List.forall_mem_append.mpr ⟨hlongest.longest, ?_⟩
      rw [List.forall_mem_singleton]
      intro lead' captured tail hspells
      exact absurd hspells (hpass lead' captured tail)

theorem BestOf.keep {size : ℕ}
    (hbest : BestOf importAlias seen (some (fit, size)))
    {entry : Text × List Text} {lead captured tail : Text}
    (hspells : Spells entry.1 importAlias lead captured tail)
    (hle : lead.byteSize ≤ size) (hlater : ∀ e ∈ seen, e.1 < entry.1) :
    BestOf importAlias (seen ++ [entry]) (some (fit, size)) := by
  obtain ⟨longest, rfl, hlongest⟩ := hbest
  obtain ⟨tail', hfit⟩ := hlongest.spells
  refine ⟨longest, rfl, List.mem_append_left _ hlongest.mem, hlongest.spells,
    ?_⟩
  refine List.forall_mem_append.mpr ⟨hlongest.longest, ?_⟩
  rw [List.forall_mem_singleton]
  intro lead' captured' tail'' hspells'
  obtain ⟨rfl, -⟩ := hspells'.parts_eq hspells
  exact ⟨Text.prefix_of_byteSize_le hspells.lead_prefix hfit.lead_prefix hle,
    fun _ => (hlater _ hlongest.mem).le⟩

/-- A pattern with a longer lead than the best before it is the best: that one
had the longest lead seen. -/
theorem BestOf.take (hbest : BestOf importAlias seen best)
    {entry : Text × List Text} {lead captured tail : Text}
    (hspells : Spells entry.1 importAlias lead captured tail)
    (hlonger : best.all (·.2 < lead.byteSize) = true) :
    BestOf importAlias (seen ++ [entry])
      (some (⟨entry.1, captured, entry.2⟩, lead.byteSize)) := by
  have hshorter : ∀ e ∈ seen, ∀ lead' captured' tail',
      Spells e.1 importAlias lead' captured' tail' →
        lead'.byteSize < lead.byteSize := by
    intro e he lead' captured' tail' hspells'
    cases best with
    | none => exact absurd hspells' (hbest e he lead' captured' tail')
    | some found =>
        obtain ⟨longest, hsize, hlongest⟩ := hbest
        have hlt : found.2 < lead.byteSize := by simpa using hlonger
        have hle := Text.byteSize_le_of_prefix
          (hlongest.longest e he lead' captured' tail' hspells').1
        omega
  refine ⟨lead, rfl, List.mem_append_right _ (List.mem_singleton_self _),
    ⟨tail, hspells⟩, ?_⟩
  refine List.forall_mem_append.mpr ⟨?_, ?_⟩
  · intro e he lead' captured' tail' hspells'
    have hlt := hshorter e he lead' captured' tail' hspells'
    refine ⟨Text.prefix_of_byteSize_le hspells'.lead_prefix hspells.lead_prefix
      hlt.le, ?_⟩
    rintro rfl
    omega
  · rw [List.forall_mem_singleton]
    intro lead' captured' tail' hspells'
    obtain ⟨rfl, -⟩ := hspells'.parts_eq hspells
    exact ⟨List.prefix_rfl, fun _ => le_rfl⟩

theorem Unnamed.concat (hunnamed : Unnamed importAlias seen)
    {entry : Text × List Text}
    (hentry : '*' ∉ entry.1 → entry.1 ≠ importAlias) :
    Unnamed importAlias (seen ++ [entry]) := by
  intro hstar targets hmem
  rcases List.mem_append.mp hmem with hseen | hlast
  · exact hunnamed hstar targets hseen
  · obtain rfl := List.mem_singleton.mp hlast
    exact hentry hstar rfl

def Answers (importAlias : Text) (paths : AliasPaths) : Option Fit → Prop
  | none => Unnamed importAlias paths ∧ NoneSpells importAlias paths
  | some fit => Chooses importAlias paths fit

theorem answers_of_bestOf (hunnamed : Unnamed importAlias paths)
    (hbest : BestOf importAlias paths best) :
    Answers importAlias paths (best.map Prod.fst) := by
  cases best with
  | none => exact ⟨hunnamed, hbest⟩
  | some found =>
      obtain ⟨lead, -, hlongest⟩ := hbest
      exact Chooses.longest hunnamed hlongest

/-- One pattern is looked at: it ends the search, or the search goes on with the
best of the patterns up to it.  A pattern with a star does not count as the
alias, even if it is the same text. -/
theorem search?_cons {entry : Text × List Text}
    (hlater : ∀ e ∈ seen, e.1 < entry.1) (hunnamed : Unnamed importAlias seen)
    (hbest : BestOf importAlias seen best) :
    ('*' ∉ importAlias ∧ entry.1 = importAlias ∧
      search? importAlias (entry :: rest) best =
        some (some ⟨entry.1, [], entry.2⟩)) ∨
    ∃ best', search? importAlias (entry :: rest) best =
      search? importAlias rest best' ∧ Unnamed importAlias (seen ++ [entry]) ∧
      BestOf importAlias (seen ++ [entry]) best' := by
  obtain ⟨pattern, targets⟩ := entry
  cases hsplit : pattern.splitOnce? '*' with
  | none =>
      have hstar := Text.splitOnce?_eq_none_iff.mp hsplit
      by_cases hnamed : pattern = importAlias
      · refine Or.inl ⟨hnamed ▸ hstar, hnamed, ?_⟩
        simp only [search?, hsplit, if_pos hnamed]
      · refine Or.inr ⟨best, ?_, hunnamed.concat fun _ => hnamed, hbest.pass ?_⟩
        · simp only [search?, hsplit, if_neg hnamed]
        · intro lead captured tail hspells
          rw [hspells.split] at hsplit
          cases hsplit
  | some parts =>
      obtain ⟨lead, tail⟩ := parts
      have hpattern := (Text.splitOnce?_eq_some_iff.mp hsplit).1
      have hunnamed' : Unnamed importAlias (seen ++ [(pattern, targets)]) :=
        hunnamed.concat fun hstar => absurd (by simp [hpattern]) hstar
      by_cases hfits : fits lead tail importAlias = true
      · obtain ⟨-, -, captured, hcaptured, halias⟩ :=
          exists_captured_of_fits hfits
        have hspells := spells_of_split hsplit halias
        by_cases hlonger : best.all (·.2 < lead.byteSize) = true
        · refine Or.inr ⟨_, ?_, hunnamed', hbest.take hspells hlonger⟩
          simp only [search?, hsplit, hfits, hlonger, hcaptured]
          rfl
        · cases best with
          | none => exact absurd rfl hlonger
          | some found =>
              have hle : lead.byteSize ≤ found.2 := by simpa using hlonger
              refine Or.inr ⟨some found, ?_, hunnamed',
                hbest.keep hspells hle hlater⟩
              simp [search?, hsplit, hle]
      · refine Or.inr ⟨best, ?_, hunnamed', hbest.pass ?_⟩
        · simp [search?, hsplit, hfits]
        · intro lead' captured tail' hspells
          obtain ⟨rfl, rfl⟩ :=
            Prod.mk.inj (Option.some.inj (hspells.split.symm.trans hsplit))
          exact hfits (fits_iff.mpr ⟨captured, hspells.alias_eq⟩)

/-- The search comes to an answer, and never cuts the alias where it cannot
be. -/
theorem search?_answers (hordered : AliasPaths.Ordered (seen ++ rest))
    (hunnamed : Unnamed importAlias seen)
    (hbest : BestOf importAlias seen best) :
    ∃ found, search? importAlias rest best = some found ∧
      Answers importAlias (seen ++ rest) found := by
  induction rest generalizing seen best with
  | nil =>
      rw [List.append_nil]
      exact ⟨_, rfl, answers_of_bestOf hunnamed hbest⟩
  | cons entry rest ih =>
      have hlater : ∀ e ∈ seen, e.1 < entry.1 := fun e he =>
        (List.pairwise_append.mp hordered).2.2 e he entry List.mem_cons_self
      rcases search?_cons hlater hunnamed hbest with
        ⟨hstar, hnamed, hfound⟩ | ⟨best', hnext, hunnamed', hbest'⟩
      · refine ⟨_, hfound, ?_⟩
        rw [hnamed]
        apply Chooses.named hstar
        rw [← hnamed]
        exact List.mem_append_right seen List.mem_cons_self
      · rw [hnext, List.append_cons]
        rw [List.append_cons] at hordered
        exact ih hordered hunnamed' hbest'

theorem exists_answer (hordered : paths.Ordered) (importAlias : Text) :
    search? importAlias paths none = some (bestFit? paths importAlias) ∧
      Answers importAlias paths (bestFit? paths importAlias) := by
  have hstart : BestOf importAlias [] none := by
    simp [BestOf, NoneSpells]
  have hanswer : ∃ found, search? importAlias paths none = some found ∧
      Answers importAlias ([] ++ paths) found :=
    search?_answers hordered (by simp [Unnamed]) hstart
  obtain ⟨found, hfound, hanswer⟩ := hanswer
  have hbest : bestFit? paths importAlias = found := by
    unfold bestFit?
    rw [hfound]
    rfl
  rw [hbest]
  exact ⟨hfound, hanswer⟩

theorem not_chooses (hunnamed : Unnamed importAlias paths)
    (hnone : NoneSpells importAlias paths) :
    ¬ Chooses importAlias paths fit := by
  rintro (⟨hstar, hmem⟩ | ⟨-, hlongest⟩)
  · exact hunnamed hstar _ hmem
  · obtain ⟨tail, hspells⟩ := hlongest.spells
    exact hnone _ hlongest.mem _ _ _ hspells

theorem bestFit?_eq_some_iff (hordered : paths.Ordered) :
    bestFit? paths importAlias = some fit ↔ Chooses importAlias paths fit := by
  have hanswer := (exists_answer hordered importAlias).2
  constructor
  · intro hfit
    rw [hfit] at hanswer
    exact hanswer
  · intro hchooses
    cases hbest : bestFit? paths importAlias with
    | none =>
        rw [hbest] at hanswer
        exact absurd hchooses (not_chooses hanswer.1 hanswer.2)
    | some found =>
        rw [hbest] at hanswer
        rw [Chooses.eq hordered hanswer hchooses]

theorem bestFit?_eq_none_iff (hordered : paths.Ordered) :
    bestFit? paths importAlias = none ↔
      Unnamed importAlias paths ∧ NoneSpells importAlias paths := by
  have hanswer := (exists_answer hordered importAlias).2
  constructor
  · intro hnone
    rw [hnone] at hanswer
    exact hanswer
  · rintro ⟨hunnamed, hnone⟩
    cases hbest : bestFit? paths importAlias with
    | none => rfl
    | some fit =>
        rw [hbest] at hanswer
        exact absurd hanswer (not_chooses hunnamed hnone)

/-! ## Where the choice leads -/

/-- The target with its first star, if it has one, replaced. -/
inductive Replaces (captured target : Text) : Text → Prop
  | unstarred (hstar : '*' ∉ target) : Replaces captured target target
  | first {lead tail : Text} (htarget : target = lead ++ '*' :: tail)
      (hfirst : '*' ∉ lead) :
        Replaces captured target (lead ++ captured ++ tail)

theorem replaces_iff {captured target text : Text} :
    Replaces captured target text ↔ substitute captured target = text := by
  unfold substitute
  constructor
  · rintro (hstar | ⟨htarget, hfirst⟩)
    · rw [Text.splitOnce?_eq_none_iff.mpr hstar]
    · rw [Text.splitOnce?_eq_some_iff.mpr ⟨htarget, hfirst⟩]
  · rintro rfl
    cases hsplit : target.splitOnce? '*' with
    | none => exact .unstarred (Text.splitOnce?_eq_none_iff.mp hsplit)
    | some parts =>
        obtain ⟨htarget, hfirst⟩ := Text.splitOnce?_eq_some_iff.mp hsplit
        exact .first htarget hfirst

theorem resolve_eq_some_iff {m : Mapping} (hordered : m.paths.Ordered)
    {path : Path} :
    m.resolve importAlias = some path ↔
      ∃ fit target text, Chooses importAlias m.paths fit ∧
        fit.targets.head? = some target ∧ Replaces fit.captured target text ∧
        path = (m.base.join ⟨text⟩).clean := by
  constructor
  · intro hresolve
    obtain ⟨fit, target, hfit, htarget, hpath⟩ :=
      exists_named_of_resolve hresolve
    exact ⟨fit, target, _, (bestFit?_eq_some_iff hordered).mp hfit, htarget,
      replaces_iff.mpr rfl, hpath⟩
  · rintro ⟨fit, target, text, hchooses, htarget, hreplaces, rfl⟩
    have hfit := (bestFit?_eq_some_iff hordered).mpr hchooses
    rw [resolve_eq_map_clean]
    simp only [named?, hfit, Option.bind_some, htarget, Option.map_some,
      replaces_iff.mp hreplaces]

theorem resolve_eq_none_iff {m : Mapping} (hordered : m.paths.Ordered) :
    m.resolve importAlias = none ↔
      ∀ fit, Chooses importAlias m.paths fit → fit.targets = [] := by
  rw [resolve_eq_map_clean, Option.map_eq_none_iff]
  unfold named?
  constructor
  · intro hnone fit hchooses
    rw [(bestFit?_eq_some_iff hordered).mpr hchooses] at hnone
    exact List.head?_eq_none_iff.mp (Option.map_eq_none_iff.mp hnone)
  · intro hempty
    cases hbest : bestFit? m.paths importAlias with
    | none => rfl
    | some fit =>
        rw [Option.bind_some,
          hempty fit ((bestFit?_eq_some_iff hordered).mp hbest)]
        rfl

/-- An alias is mapped by the pattern that is chosen for it, to the first target
of the pattern, and the search for it never cuts the alias behind its end,
backwards or inside a character. -/
theorem resolve_chooses (m : Mapping) (hordered : m.paths.Ordered)
    (importAlias : Text) :
    search? importAlias m.paths none = some (bestFit? m.paths importAlias) ∧
    (∀ lead tail, fits lead tail importAlias = true →
      lead.byteSize ≤ importAlias.byteSize - tail.byteSize ∧
        tail.byteSize ≤ importAlias.byteSize ∧
        ∃ captured, captured? lead tail importAlias = some captured ∧
          importAlias = lead ++ captured ++ tail) ∧
    (∀ fit, bestFit? m.paths importAlias = some fit ↔
      Chooses importAlias m.paths fit) ∧
    (bestFit? m.paths importAlias = none ↔
      Unnamed importAlias m.paths ∧ NoneSpells importAlias m.paths) ∧
    (∀ path, m.resolve importAlias = some path ↔
      ∃ fit target text, Chooses importAlias m.paths fit ∧
        fit.targets.head? = some target ∧ Replaces fit.captured target text ∧
        path = (m.base.join ⟨text⟩).clean) ∧
    (m.resolve importAlias = none ↔
      ∀ fit, Chooses importAlias m.paths fit → fit.targets = []) := by
  exact ⟨(exists_answer hordered importAlias).1,
    fun lead tail => exists_captured_of_fits,
    fun fit => bestFit?_eq_some_iff hordered, bestFit?_eq_none_iff hordered,
    fun path => resolve_eq_some_iff hordered, resolve_eq_none_iff hordered⟩

/-- Patterns that fit one alias in several ways. -/
def starred : Mapping where
  config := ⟨"/app/tsconfig.json".toList⟩
  baseUrl := none
  pathsDir := ⟨"/app".toList⟩
  paths :=
    [("*".toList, ["lib/*".toList]), ("@/*".toList, ["./src/*".toList]),
      ("@/z".toList, ["one/*".toList, "two".toList]),
      ("@/é*".toList, ["../*/*".toList]), ("@/é*é".toList, ["never".toList]),
      ("@/éé*é".toList, ["overlap".toList])]

/-- Of two patterns with the longest lead the first in order counts, a third
would overlap itself, and a pattern without a star comes before all that fit as
well. -/
theorem resolve_chooses_starred :
    starred.resolve "@/éé".toList = some ⟨"/é/*".toList⟩ ∧
    Chooses "@/éé".toList starred.paths
      ⟨"@/é*".toList, "é".toList, ["../*/*".toList]⟩ ∧
    starred.resolve "@/z".toList = some ⟨"/app/one".toList⟩ ∧
    Chooses "@/z".toList starred.paths
      ⟨"@/z".toList, [], ["one/*".toList, "two".toList]⟩ := by
  have hordered : starred.paths.Ordered := by decide
  have hpart := resolve_chooses starred hordered "@/éé".toList
  have hwhole := resolve_chooses starred hordered "@/z".toList
  exact ⟨by decide +kernel, (hpart.2.2.1 _).mp (by decide +kernel),
    by decide +kernel, (hwhole.2.2.1 _).mp (by decide +kernel)⟩

end Mapping

end FormScaffold.Tsconfig
