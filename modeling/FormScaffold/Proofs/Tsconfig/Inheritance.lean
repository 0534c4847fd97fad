import FormScaffold.Proofs.Tsconfig.Destination
import FormScaffold.Footprint

/-!
# What a project inherits

The configurations that a project extends form a chain: behind each one that can
be read stands the one that it names last, if that is there.  At most eight of
them are read, also where they go round in a circle.  A fault of any of them is
the result; if there is none, each option is that of the nearest one that states
it, and different options may come from different ones.
-/

namespace FormScaffold.Tsconfig

/-! ## The chain, place by place -/

def directoryOf (config : Path) : Path := config.parent?.getD Path.empty

/-- The configuration that another extends: the last that it names, if this is
there. -/
def extended? (w : Workspace) (config : Path) : Option Path := do
  let options ← (readConfig w config).toOption
  let parent ← options.parents.getLast?
  parentConfig? w (directoryOf config) parent

/-- The configuration at a place of the chain that begins with the given one. -/
def link? (w : Workspace) (config : Path) : ℕ → Option Path
  | 0 => some config
  | i + 1 => link? w config i >>= extended? w

/-- What a configuration says, with the directory that it stands in. -/
def entry? (w : Workspace) (config : Path) : Option (Path × Options) :=
  (readConfig w config).toOption.map (directoryOf config, ·)

variable {w w' : Workspace} {config next : Path} {fuel i : ℕ}
  {options : Options} {e : ResolveError} {configs : List (Path × Options)}

@[simp]
theorem link?_zero (w : Workspace) (config : Path) :
    link? w config 0 = some config :=
  rfl

theorem link?_succ (w : Workspace) (config : Path) (i : ℕ) :
    link? w config (i + 1) = extended? w config >>= (link? w · i) := by
  induction i with
  | zero =>
      change extended? w config = extended? w config >>= some
      simp
  | succ i ih =>
      rw [link?, ih, bind_assoc]
      rfl

theorem extended?_of_error (hread : readConfig w config = .error e) :
    extended? w config = none := by
  unfold extended?
  rw [hread]
  rfl

theorem extended?_of_ok (hread : readConfig w config = .ok options) :
    extended? w config =
      (options.parents.getLast? >>= parentConfig? w (directoryOf config)) := by
  unfold extended?
  rw [hread]
  rfl

theorem entry?_of_ok (hread : readConfig w config = .ok options) :
    entry? w config = some (directoryOf config, options) := by
  unfold entry?
  rw [hread]
  rfl

/-- A place of the chain is reached only if all configurations before it are
read. -/
theorem exists_readConfig_of_link? {c : Path}
    (hlink : link? w config i = some c) :
    ∀ j < i, ∃ c' options, link? w config j = some c' ∧
      readConfig w c' = .ok options := by
  induction i generalizing c with
  | zero => simp
  | succ i ih =>
      obtain ⟨before, hbefore, hnext⟩ := Option.bind_eq_some_iff.mp hlink
      rw [Nat.forall_lt_succ_right]
      refine ⟨ih hbefore, before, ?_⟩
      cases hread : readConfig w before with
      | error e =>
          rw [extended?_of_error hread] at hnext
          cases hnext
      | ok options => exact ⟨options, hbefore, rfl⟩

/-! ## The chain as it is read -/

/-- The step of the chain: a configuration is read, and the one that it extends
continues the chain. -/
theorem chain_succ (w : Workspace) (fuel : ℕ) (config : Path) :
    chain w (fuel + 1) config = readConfig w config >>= fun options =>
      match extended? w config with
      | some next =>
          (chain w fuel next).map ((directoryOf config, options) :: ·)
      | none => .ok [(directoryOf config, options)] := by
  rw [chain]
  apply bind_congr_of_ok
  intro options hread
  rw [extended?_of_ok hread]
  unfold directoryOf
  simp only
  cases options.parents.getLast? >>=
    parentConfig? w (config.parent?.getD Path.empty) with
  | none => rfl
  | some next => cases hrest : chain w fuel next <;> simp only [hrest] <;> rfl

theorem chain_of_error (hread : readConfig w config = .error e) (fuel : ℕ) :
    chain w (fuel + 1) config = .error e := by
  rw [chain_succ, hread]
  rfl

theorem chain_of_last (hread : readConfig w config = .ok options)
    (hlast : extended? w config = none) (fuel : ℕ) :
    chain w (fuel + 1) config = .ok [(directoryOf config, options)] := by
  rw [chain_succ, hread, hlast]
  rfl

theorem chain_of_extended (hread : readConfig w config = .ok options)
    (hnext : extended? w config = some next) (fuel : ℕ) :
    chain w (fuel + 1) config =
      (chain w fuel next).map ((directoryOf config, options) :: ·) := by
  rw [chain_succ, hread, hnext]
  rfl

/-- Two configurations that extend each other are read by turns, for as long as
any are. -/
theorem chain_of_circle {options' : Options}
    (hread : readConfig w config = .ok options)
    (hnext : extended? w config = some next)
    (hread' : readConfig w next = .ok options')
    (hback : extended? w next = some config) (n : ℕ) :
    chain w (2 * n) config = .ok (List.replicate n
      [(directoryOf config, options),
        (directoryOf next, options')]).flatten := by
  induction n with
  | zero => rfl
  | succ n ih =>
      rw [Nat.mul_succ, chain_of_extended hread hnext,
        chain_of_extended hread' hback, ih]
      rfl

/-- The fault of a chain is that of the first configuration that is not read. -/
theorem chain_eq_error_iff :
    chain w fuel config = .error e ↔
      ∃ i < fuel, ∃ c, link? w config i = some c ∧
        readConfig w c = .error e := by
  induction fuel generalizing config with
  | zero => simp [chain]
  | succ fuel ih =>
      rw [Nat.exists_lt_succ_left]
      cases hread : readConfig w config with
      | error e' =>
          simp [chain_of_error hread, link?_succ, extended?_of_error hread,
            hread]
      | ok options =>
          cases hnext : extended? w config with
          | none => simp [chain_of_last hread hnext, link?_succ, hnext, hread]
          | some next =>
              have hmap : (chain w fuel next).map
                  ((directoryOf config, options) :: ·) =
                  .error e ↔ chain w fuel next = .error e := by
                cases chain w fuel next <;> simp [Except.map]
              rw [chain_of_extended hread hnext, hmap, ih]
              simp [link?_succ, hnext, hread]

/-- What the chain holds at its places. -/
theorem getElem?_of_chain (hchain : chain w fuel config = .ok configs) (i : ℕ) :
    configs[i]? = if i < fuel then link? w config i >>= entry? w else none := by
  induction fuel generalizing config configs i with
  | zero =>
      cases hchain
      simp
  | succ fuel ih =>
      cases hread : readConfig w config with
      | error e =>
          rw [chain_of_error hread] at hchain
          cases hchain
      | ok options =>
          cases hnext : extended? w config with
          | none =>
              rw [chain_of_last hread hnext] at hchain
              cases hchain
              cases i with
              | zero => simp [entry?_of_ok hread]
              | succ i => simp [link?_succ, hnext]
          | some next =>
              rw [chain_of_extended hread hnext] at hchain
              cases hrest : chain w fuel next with
              | error e =>
                  rw [hrest] at hchain
                  cases hchain
              | ok rest =>
                  rw [hrest] at hchain
                  cases hchain
                  cases i with
                  | zero => simp [entry?_of_ok hread]
                  | succ i => simp [ih hrest, link?_succ, hnext]

/-! ## The nearest that states something -/

theorem findSome?_eq_some_iff_getElem? {α β : Type} {f : α → Option β}
    {l : List α} {b : β} :
    l.findSome? f = some b ↔
      ∃ i : ℕ, l[i]? >>= f = some b ∧ ∀ j < i, l[j]? >>= f = none := by
  induction l with
  | nil => simp
  | cons a l ih =>
      have hbehind (i : ℕ) : (∀ j < i + 1, (a :: l)[j]? >>= f = none) ↔
          f a = none ∧ ∀ j < i, l[j]? >>= f = none := by
        rw [Nat.forall_lt_succ_left]
        rfl
      rw [← Nat.or_exists_add_one]
      simp only [hbehind, List.getElem?_cons_zero, List.getElem?_cons_succ]
      cases ha : f a with
      | none => simp [ha, ih]
      | some a' => simp [ha]

theorem findSome?_eq_none_iff_getElem? {α β : Type} {f : α → Option β}
    {l : List α} :
    l.findSome? f = none ↔ ∀ i : ℕ, l[i]? >>= f = none := by
  rw [List.findSome?_eq_none_iff]
  constructor
  · intro h i
    cases hi : l[i]? with
    | none => rfl
    | some a => exact h a (List.mem_of_getElem? hi)
  · intro h a ha
    obtain ⟨i, hi⟩ := List.getElem?_of_mem ha
    simpa [hi] using h i

/-- What the configuration at a place of the chain states. -/
def stated? {α : Type} (w : Workspace) (config : Path)
    (f : Path × Options → Option α) (i : ℕ) : Option α :=
  link? w config i >>= entry? w >>= f

/-- This is what the nearest configuration states that states anything, among as
many as are read; or none of them does. -/
def IsNearest {α : Type} (w : Workspace) (config : Path)
    (f : Path × Options → Option α) : Option α → Prop
  | some a => ∃ i < maxChain, stated? w config f i = some a ∧
      ∀ j < i, stated? w config f j = none
  | none => ∀ i < maxChain, stated? w config f i = none

theorem getElem?_bind_of_chain {α : Type}
    (hchain : chain w fuel config = .ok configs) (f : Path × Options → Option α)
    (i : ℕ) :
    configs[i]? >>= f = if i < fuel then stated? w config f i else none := by
  rw [getElem?_of_chain hchain]
  split <;> rfl

theorem findSome?_eq_iff_isNearest {α : Type}
    (hchain : chain w maxChain config = .ok configs)
    {f : Path × Options → Option α}
    {found : Option α} : configs.findSome? f = found ↔
      IsNearest w config f found := by
  have hplace (i : ℕ) := getElem?_bind_of_chain hchain f i
  cases found with
  | none =>
      rw [findSome?_eq_none_iff_getElem?]
      simp only [hplace, ite_eq_right_iff, IsNearest]
  | some a =>
      rw [findSome?_eq_some_iff_getElem?]
      simp only [hplace, Option.ite_none_right_eq_some, ite_eq_right_iff,
        IsNearest]
      constructor
      · rintro ⟨i, ⟨hi, hstated⟩, hbefore⟩
        exact ⟨i, hi, hstated, fun j hj => hbefore j hj (hj.trans hi)⟩
      · rintro ⟨i, hi, hstated, hbefore⟩
        exact ⟨i, ⟨hi, hstated⟩, fun j hj _ => hbefore j hj⟩

def baseUrlOf (entry : Path × Options) : Option Path :=
  entry.2.baseUrl.map fun base => (entry.1.join ⟨base⟩).clean

def pathsOf (entry : Path × Options) : Option (Path × AliasPaths) :=
  entry.2.paths.map (entry.1, ·)

/-! ## What is read -/

/-- The workspaces agree on what is looked at of a file. -/
def Agree (w w' : Workspace) (config : Path) : Prop :=
  w'.isFile config = w.isFile config ∧ w'.readText config = w.readText config

theorem readConfig_congr (hsame : w'.readText config = w.readText config) :
    readConfig w' config = readConfig w config := by
  unfold readConfig
  rw [hsame]

theorem extended?_eq_filter (hread : readConfig w config = .ok options) :
    extended? w config =
      (options.parents.getLast? >>= namedConfig? (directoryOf config)).filter
        w.isFile := by
  rw [extended?_of_ok hread]
  cases options.parents.getLast? <;> rfl

/-- A chain depends on nothing but the files that it looks at, and on nothing
behind the last that may be read. -/
theorem chain_congr (hsame : ∀ c ∈ footprint w fuel config, Agree w w' c) :
    chain w' fuel config = chain w fuel config := by
  induction fuel generalizing config with
  | zero => rfl
  | succ fuel ih =>
      rw [footprint, List.forall_mem_cons] at hsame
      obtain ⟨⟨-, htext⟩, hrest⟩ := hsame
      rw [chain_succ, chain_succ, readConfig_congr htext]
      apply bind_congr_of_ok
      intro options hread
      rw [extended?_eq_filter hread,
        extended?_eq_filter ((readConfig_congr htext).trans hread)]
      rw [hread] at hrest
      unfold directoryOf at *
      simp only at hrest
      cases hnamed : options.parents.getLast? >>=
          namedConfig? (config.parent?.getD Path.empty) with
      | none => rfl
      | some named =>
          rw [hnamed] at hrest
          replace hrest : ∀ c ∈ footprint w fuel named, Agree w w' c := hrest
          cases fuel with
          | zero =>
              simp only [chain, Except.map]
              split <;> split <;> rfl
          | succ fuel =>
              have hfile : w'.isFile named = w.isFile named :=
                (hrest named List.mem_cons_self).1
              simp only [Option.filter_some, hfile]
              cases w.isFile named with
              | false => rfl
              | true => simp only [if_true, ih hrest]

/-! ## The mapping of a project -/

/-- The first configuration of a chain that is not read, among as many as are
read, has this fault. -/
def Faults (w : Workspace) (config : Path) (e : ResolveError) : Prop :=
  ∃ i < maxChain,
    (∃ c, link? w config i = some c ∧ readConfig w c = .error e) ∧
      ∀ j < i, ∃ c options, link? w config j = some c ∧
      readConfig w c = .ok options

theorem chain_eq_error_iff_faults :
    chain w maxChain config = .error e ↔ Faults w config e := by
  rw [chain_eq_error_iff]
  constructor
  · rintro ⟨i, hi, c, hlink, hread⟩
    exact ⟨i, hi, ⟨c, hlink, hread⟩, exists_readConfig_of_link? hlink⟩
  · rintro ⟨i, hi, ⟨c, hlink, hread⟩, -⟩
    exact ⟨i, hi, c, hlink, hread⟩

namespace Mapping

variable {project : Path} {m : Mapping}

theorem load_of_not_isFile
    (hconfig : w.isFile (project.join fileName) = false) :
    load w project = .error (.noConfig project) := by
  unfold load
  rw [if_neg (by simp [hconfig])]

theorem load_eq_error_iff (hconfig : w.isFile (project.join fileName) = true) :
    load w project = .error e ↔ Faults w (project.join fileName) e := by
  rw [← chain_eq_error_iff_faults]
  unfold load
  rw [if_pos hconfig]
  cases chain w maxChain (project.join fileName) <;>
    simp [bind, Except.bind, pure, Except.pure]

theorem load_eq_ok_iff (hconfig : w.isFile (project.join fileName) = true) :
    load w project = .ok m ↔
      ∃ configs, chain w maxChain (project.join fileName) = .ok configs ∧
        m.config = project.join fileName ∧
        configs.findSome? baseUrlOf = m.baseUrl ∧
        (configs.findSome? pathsOf).getD (project, []) =
          (m.pathsDir, m.paths) := by
  unfold load
  rw [if_pos hconfig, bind_eq_ok_iff]
  apply exists_congr
  intro configs
  apply and_congr_right
  intro _
  obtain ⟨config, baseUrl, pathsDir, paths⟩ := m
  change Except.ok _ = Except.ok _ ↔ _
  rw [Except.ok.injEq, Mapping.mk.injEq, Prod.ext_iff]
  exact and_congr_left fun _ => eq_comm

/-- Base directory and patterns are each those of the nearest that states
them. -/
theorem load_eq_ok_iff_isNearest
    (hconfig : w.isFile (project.join fileName) = true) :
    load w project = .ok m ↔
      (∀ e, ¬ Faults w (project.join fileName) e) ∧
      m.config = project.join fileName ∧
      IsNearest w (project.join fileName) baseUrlOf m.baseUrl ∧
      ∃ found, IsNearest w (project.join fileName) pathsOf found ∧
        (m.pathsDir, m.paths) = found.getD (project, []) := by
  rw [load_eq_ok_iff hconfig]
  constructor
  · rintro ⟨configs, hchain, hm, hbase, hpaths⟩
    refine ⟨?_, hm, (findSome?_eq_iff_isNearest hchain).mp hbase, _,
      (findSome?_eq_iff_isNearest hchain).mp rfl, hpaths.symm⟩
    intro e hfault
    rw [chain_eq_error_iff_faults.mpr hfault] at hchain
    cases hchain
  · rintro ⟨hfaults, hm, hbase, found, hfound, hpaths⟩
    cases hchain : chain w maxChain (project.join fileName) with
    | error e => exact absurd (chain_eq_error_iff_faults.mp hchain) (hfaults e)
    | ok configs =>
        refine ⟨configs, rfl, hm, (findSome?_eq_iff_isNearest hchain).mpr hbase,
          ?_⟩
        rw [(findSome?_eq_iff_isNearest hchain).mpr hfound, hpaths]

theorem load_congr
    (hsame : ∀ c ∈ footprint w maxChain (project.join fileName), Agree w w' c) :
    load w' project = load w project := by
  have hfile : w'.isFile (project.join fileName) =
      w.isFile (project.join fileName) :=
    (hsame _ List.mem_cons_self).1
  simp only [load]
  rw [hfile, chain_congr hsame]

/-- The mapping of a project is that of its configuration and those that it
inherits from.  The first fault among them is the result; else the base
directory and the patterns are each those of the nearest that states them.  No
more than eight files are looked at, and on nothing else does the mapping
depend. -/
theorem load_eq_nearest (w : Workspace) (project : Path) :
    let config := project.join fileName
    (w.isFile config = false → load w project = .error (.noConfig project)) ∧
    (w.isFile config = true →
      (∀ e, load w project = .error e ↔ Faults w config e) ∧
      ∀ m, load w project = .ok m ↔
        (∀ e, ¬ Faults w config e) ∧
        m.config = config ∧
        IsNearest w config baseUrlOf m.baseUrl ∧
        ∃ found, IsNearest w config pathsOf found ∧
          (m.pathsDir, m.paths) = found.getD (project, [])) ∧
    (footprint w maxChain config).length ≤ 8 ∧
    ∀ w', (∀ c ∈ footprint w maxChain config, Agree w w' c) →
      load w' project = load w project := by
  intro config
  refine ⟨load_of_not_isFile, ?_, length_footprint_le w maxChain config, ?_⟩
  · intro hconfig
    exact ⟨fun _ => load_eq_error_iff hconfig,
      fun _ => load_eq_ok_iff_isNearest hconfig⟩
  · intro w' hsame
    exact load_congr hsame

/-- A project whose configuration and the one that it extends extend each
other. -/
def circular : Workspace where
  tree := ⟨[(["app".toList], .directory),
    (["app".toList, "tsconfig.json".toList], .file (.text
      "\x7b\"extends\": \"./base\", \"compilerOptions\": \x7b\"paths\": \x7b\x7d\x7d\x7d".toList)),
    (["app".toList, "base.json".toList], .file (.text
      "\x7b\"extends\": \"./tsconfig.json\",
        \"compilerOptions\": \x7b\"baseUrl\": \"src\", \"paths\": \x7b\"@/*\": []\x7d\x7d\x7d".toList))]⟩
  current := []

/-- Each option comes from the nearest that states it, and an empty set of
patterns is one. -/
theorem load_eq_nearest_of_circle :
    let project : Path := ⟨"app".toList⟩
    let config := project.join fileName
    circular.isFile config = true ∧
      load circular project =
        .ok ⟨config, some ⟨"app/src".toList⟩, project, []⟩ ∧
      (∀ e, ¬ Faults circular config e) ∧
      IsNearest circular config baseUrlOf (some ⟨"app/src".toList⟩) := by
  intro project config
  let own : Options := ⟨["./base".toList], none, some []⟩
  let inherited : Options :=
    ⟨["./tsconfig.json".toList], some "src".toList, some [("@/*".toList, [])]⟩
  let base : Path := ⟨"app/./base.json".toList⟩
  let back : Path := ⟨"app/./tsconfig.json".toList⟩
  have hconfig : circular.isFile config = true := by decide +kernel
  have hown : readConfig circular config = .ok own := by decide +kernel
  have hinherited : readConfig circular base = .ok inherited := by
    decide +kernel
  have hagain : readConfig circular back = .ok own := by decide +kernel
  have hbase : extended? circular config = some base := by
    rw [extended?_of_ok hown]
    decide +kernel
  have hback : extended? circular base = some back := by
    rw [extended?_of_ok hinherited]
    decide +kernel
  have hround : extended? circular back = some base := by
    rw [extended?_of_ok hagain]
    decide +kernel
  have hcircle := chain_of_circle hagain hround hinherited hback 3
  have hchain : chain circular maxChain config =
      .ok ((directoryOf config, own) ::
      (directoryOf base, inherited) :: (List.replicate 3
        [(directoryOf back, own), (directoryOf base, inherited)]).flatten) := by
    rw [show maxChain = 2 * 3 + 1 + 1 from rfl, chain_of_extended hown hbase,
      chain_of_extended hinherited hback, hcircle]
    rfl
  have hload : load circular project =
      .ok ⟨config, some ⟨"app/src".toList⟩, project, []⟩ := by
    rw [load_eq_ok_iff hconfig]
    refine ⟨_, hchain, rfl, ?_, ?_⟩ <;> decide +kernel
  obtain ⟨-, hfile, -, -⟩ := load_eq_nearest circular project
  obtain ⟨hfaults, -, hnearest, -⟩ := ((hfile hconfig).2 _).mp hload
  exact ⟨hconfig, hload, hfaults, hnearest⟩

end Mapping

end FormScaffold.Tsconfig
