import FormScaffold.Proofs.FileTree.Walking
import FormScaffold.Installation

/-!
# Where an import alias leads

The path for an alias is written as its configuration names it and then cleaned.
If the project is absolute, so is every directory along the chain of
configurations, and what is named is cleaned to the same place.  A relative name
loses its climbs in pairs, so it leads elsewhere as soon as it climbs two
levels.
-/

namespace FormScaffold

/-! ## Absolute paths that hold something -/

namespace Workspace

theorem walk_of_silent {tree : FileTree} {here : Location}
    {segments : List Text} (hhere : tree.find? here = some .directory)
    (hsilent : segments.filterMap Component.ofSegment? = []) :
    walk tree here segments = .ok here := by
  induction segments with
  | nil => rfl
  | cons s segments ih =>
      have hs : Component.ofSegment? s = none :=
        List.filterMap_eq_nil_iff.mp hsilent s List.mem_cons_self
      rw [List.filterMap_cons_none hs] at hsilent
      simp only [walk, hhere, hs]
      exact ih hsilent

/-- The root holds no text, so a path to a text says a step. -/
theorem steps_ne_nil_of_readText {w : Workspace} {p : Path} {s : Text}
    (hp : p.isAbsolute = true) (hread : w.readText p = .ok s) :
    p.steps ≠ [] := by
  intro hsteps
  have hwalk : walk w.tree (w.start p) p.segments = .ok [] := by
    have hstart : w.start p = [] := by
      unfold start
      rw [if_pos hp]
    rw [hstart]
    exact walk_of_silent rfl hsteps
  unfold readText entryAt locate at hread
  cases hrefused : refused p with
  | some e =>
      rw [hrefused] at hread
      cases hread
  | none =>
      simp only [hrefused, hwalk] at hread
      cases hread

end Workspace

namespace Tsconfig

theorem isAbsolute_parent {w : Workspace} {config : Path} {s : Text}
    (hconfig : config.isAbsolute = true) (hread : w.readText config = .ok s) :
    (config.parent?.getD Path.empty).isAbsolute = true := by
  have hne := Workspace.steps_ne_nil_of_readText hconfig hread
  rcases List.eq_nil_or_concat config.steps with hnil | ⟨cs, c, hsteps⟩
  · exact absurd hnil hne
  · rw [List.concat_eq_append] at hsteps
    obtain ⟨above, hparent, habove⟩ := Path.exists_parent hsteps
    rw [hparent, Option.getD_some, habove.isAbsolute, hconfig]

theorem isAbsolute_addExtension {p : Path} (hp : p.isAbsolute = true)
    (extension : Text) : (p.addExtension extension).isAbsolute = true := by
  unfold Path.addExtension
  split
  · have hanchor := Path.anchor_of_isAbsolute hp
    simp [Path.ofBody, Path.isAbsolute, hanchor]
  · exact hp

theorem isAbsolute_namedConfig {directory named : Path} {parent : Text}
    (hdirectory : directory.isAbsolute = true)
    (hnamed : namedConfig? directory parent = some named) :
    named.isAbsolute = true := by
  have hjoin := Path.isAbsolute_join_of_isAbsolute hdirectory ⟨parent⟩
  simp only [namedConfig?] at hnamed
  split at hnamed
  · rw [← Option.some.inj hnamed]
    split
    · exact hjoin
    · exact isAbsolute_addExtension hjoin _
  · cases hnamed

theorem exists_readText_of_readConfig {w : Workspace} {config : Path}
    {options : Options} (hread : readConfig w config = .ok options) :
    ∃ s, w.readText config = .ok s := by
  unfold readConfig at hread
  split at hread
  next => cases hread
  next s hs => exact ⟨s, hs⟩

theorem exists_of_chain {w : Workspace} {fuel : ℕ} {config : Path}
    {configs : List (Path × Options)}
    (hchain : chain w (fuel + 1) config = .ok configs) :
    ∃ options, readConfig w config = .ok options ∧
      (configs = [(config.parent?.getD Path.empty, options)] ∨
        ∃ parent named rest,
          namedConfig? (config.parent?.getD Path.empty) parent = some named ∧
          chain w fuel named = .ok rest ∧
          configs = (config.parent?.getD Path.empty, options) :: rest) := by
  unfold chain at hchain
  obtain ⟨options, hread, hrest⟩ := bind_eq_ok_iff.mp hchain
  refine ⟨options, hread, ?_⟩
  simp only at hrest
  split at hrest
  next named hnamed =>
    obtain ⟨parent, -, hparent⟩ := Option.bind_eq_some_iff.mp hnamed
    obtain ⟨rest, hmore, hconfigs⟩ := bind_eq_ok_iff.mp hrest
    cases hconfigs
    have hfound := (Option.filter_eq_some_iff.mp hparent).1
    exact Or.inr ⟨parent, named, rest, hfound, hmore, rfl⟩
  next =>
    cases hrest
    exact Or.inl rfl

/-- What holds of each configuration that is read and passes on to those that it
names holds along the whole chain. -/
theorem forall_mem_of_chain {w : Workspace} {fuel : ℕ} {config : Path}
    {configs : List (Path × Options)} {P : Path → Prop}
    {Q : Path × Options → Prop}
    (hread : ∀ c options, P c → readConfig w c = .ok options →
      Q (c.parent?.getD Path.empty, options))
    (hnamed : ∀ directory options parent named, Q (directory, options) →
      namedConfig? directory parent = some named → P named)
    (hconfig : P config) (hchain : chain w fuel config = .ok configs) :
    ∀ c ∈ configs, Q c := by
  induction fuel generalizing config configs with
  | zero =>
      cases hchain
      simp
  | succ fuel ih =>
      obtain ⟨options, hoptions, hconfigs⟩ := exists_of_chain hchain
      have hfirst := hread config options hconfig hoptions
      rcases hconfigs with hlast | ⟨parent, named, rest, hparent, hrest, hmore⟩
      · rw [hlast]
        exact List.forall_mem_singleton.mpr hfirst
      · rw [hmore, List.forall_mem_cons]
        exact ⟨hfirst, ih (hnamed _ options parent named hfirst hparent) hrest⟩

theorem isAbsolute_of_mem_chain {w : Workspace} {fuel : ℕ} {config : Path}
    {configs : List (Path × Options)} (hconfig : config.isAbsolute = true)
    (hchain : chain w fuel config = .ok configs) :
    ∀ c ∈ configs, c.1.isAbsolute = true := by
  refine forall_mem_of_chain (P := fun c => c.isAbsolute = true) ?_ ?_ hconfig
    hchain
  · intro c options hc hread
    obtain ⟨s, hs⟩ := exists_readText_of_readConfig hread
    exact isAbsolute_parent hc hs
  · exact fun directory options parent named hdirectory =>
      isAbsolute_namedConfig hdirectory

/-! ## The mapping of an absolute project -/

theorem isAbsolute_nearestBaseUrl {configs : List (Path × Options)}
    {base : Path} (hconfigs : ∀ c ∈ configs, c.1.isAbsolute = true)
    (hbase : nearestBaseUrl? configs = some base) : base.isAbsolute = true := by
  obtain ⟨⟨directory, options⟩, hmem, hsets⟩ :=
    List.exists_of_findSome?_eq_some hbase
  obtain ⟨written, -, hclean⟩ := Option.map_eq_some_iff.mp hsets
  rw [← hclean, Path.isAbsolute_clean]
  exact Path.isAbsolute_join_of_isAbsolute (hconfigs _ hmem) _

theorem isAbsolute_nearestPaths {configs : List (Path × Options)}
    {directory : Path} {paths : AliasPaths}
    (hconfigs : ∀ c ∈ configs, c.1.isAbsolute = true)
    (hpaths : nearestPaths? configs = some (directory, paths)) :
    directory.isAbsolute = true := by
  obtain ⟨⟨d, options⟩, hmem, hsets⟩ := List.exists_of_findSome?_eq_some hpaths
  obtain ⟨found, -, hpair⟩ := Option.map_eq_some_iff.mp hsets
  have hdirectory : d = directory := congrArg Prod.fst hpair
  rw [← hdirectory]
  exact hconfigs _ hmem

namespace Mapping

/-- The directory that targets are seen from. -/
def base (m : Mapping) : Path := m.baseUrl.getD m.pathsDir

/-- What the mapping names for an alias, as it is written. -/
def named? (m : Mapping) (importAlias : Text) : Option Path :=
  (bestFit? m.paths importAlias).bind fun fit =>
    fit.targets.head?.map fun target =>
      m.base.join ⟨substitute fit.captured target⟩

theorem resolve_eq_map_clean (m : Mapping) (importAlias : Text) :
    m.resolve importAlias = (m.named? importAlias).map Path.clean := by
  unfold resolve named? base
  cases bestFit? m.paths importAlias with
  | none => rfl
  | some fit => cases hhead : fit.targets.head? <;> simp [hhead]

theorem exists_chain_of_load {w : Workspace} {project : Path} {m : Mapping}
    (hload : load w project = .ok m) :
    ∃ configs, chain w maxChain (project.join fileName) = .ok configs ∧
      m.baseUrl = nearestBaseUrl? configs ∧
      (m.pathsDir, m.paths) = (nearestPaths? configs).getD (project, []) := by
  simp only [load] at hload
  split at hload
  next =>
    obtain ⟨configs, hchain, hfound⟩ := bind_eq_ok_iff.mp hload
    cases hfound
    exact ⟨configs, hchain, rfl, rfl⟩
  next => cases hload

theorem isAbsolute_base_of_load {w : Workspace} {project : Path} {m : Mapping}
    (hproject : project.isAbsolute = true) (hload : load w project = .ok m) :
    m.base.isAbsolute = true := by
  obtain ⟨configs, hchain, hbaseUrl, hpathsDir⟩ := exists_chain_of_load hload
  have hconfigs := isAbsolute_of_mem_chain
    (Path.isAbsolute_join_of_isAbsolute hproject fileName) hchain
  unfold base
  rw [hbaseUrl]
  cases hbase : nearestBaseUrl? configs with
  | some base => exact isAbsolute_nearestBaseUrl hconfigs hbase
  | none =>
      cases hpaths : nearestPaths? configs with
      | none =>
          rw [hpaths] at hpathsDir
          have hdirectory : m.pathsDir = project := congrArg Prod.fst hpathsDir
          rwa [Option.getD_none, hdirectory]
      | some found =>
          rw [hpaths] at hpathsDir
          obtain rfl : (m.pathsDir, m.paths) = found := hpathsDir
          exact isAbsolute_nearestPaths hconfigs hpaths

theorem exists_named_of_resolve {m : Mapping} {importAlias : Text} {path : Path}
    (hresolve : m.resolve importAlias = some path) :
    ∃ fit target, bestFit? m.paths importAlias = some fit ∧
      fit.targets.head? = some target ∧
      path = (m.base.join ⟨substitute fit.captured target⟩).clean := by
  rw [resolve_eq_map_clean] at hresolve
  obtain ⟨named, hnamed, hclean⟩ := Option.map_eq_some_iff.mp hresolve
  obtain ⟨fit, hfit, htarget⟩ := Option.bind_eq_some_iff.mp hnamed
  obtain ⟨target, hhead, hjoin⟩ := Option.map_eq_some_iff.mp htarget
  exact ⟨fit, target, hfit, hhead, by rw [← hclean, hjoin]⟩

end Mapping

theorem exists_mapping_of_resolveAlias {w : Workspace} {project path : Path}
    {importAlias : Text}
    (hresolve : resolveAlias w project importAlias = .ok path) :
    ∃ mapping, Mapping.load w project = .ok mapping ∧
      mapping.resolve importAlias = some path := by
  unfold resolveAlias at hresolve
  split at hresolve
  next =>
    obtain ⟨mapping, hload, hfound⟩ := bind_eq_ok_iff.mp hresolve
    split at hfound
    next found hpath =>
      cases hfound
      exact ⟨mapping, hload, hpath⟩
    next => cases hfound
  next => cases hresolve

/-! ## Destinations -/

/-- A project is seen from the root.  The destination of an alias in it is
absolute, climbs at most once and only from the root, and lies where the target
of the pattern lies that the alias is mapped by. -/
theorem resolveAlias_isAbsolute_and_locationFrom :
    (∀ (r : Request) (w : Workspace), (r.project w).isAbsolute = true) ∧
    ∀ (w : Workspace) (project : Path) (importAlias : Text) (path : Path),
      project.isAbsolute = true →
      resolveAlias w project importAlias = .ok path →
      ∃ mapping fit target,
        Mapping.load w project = .ok mapping ∧
        Mapping.bestFit? mapping.paths importAlias = some fit ∧
        fit.targets.head? = some target ∧
        path.isAbsolute = true ∧
        ['.'] ∉ path.segments ∧
        (∃ (climbs : ℕ) (names : List Text), climbs ≤ 1 ∧
          path.components =
            .root :: (List.replicate climbs .up ++ names.map .name)) ∧
        ∀ here, path.locationFrom here =
          (mapping.base.join
            ⟨Mapping.substitute fit.captured target⟩).locationFrom here := by
  constructor
  · intro r w
    have hcurrent : w.currentPath.isAbsolute = true := rfl
    unfold Request.project
    split
    next directory _ =>
      exact Path.isAbsolute_join_of_isAbsolute hcurrent directory
    next => exact hcurrent
  · intro w project importAlias path hproject hresolve
    obtain ⟨mapping, hload, hmapped⟩ := exists_mapping_of_resolveAlias hresolve
    obtain ⟨fit, target, hfit, htarget, rfl⟩ :=
      Mapping.exists_named_of_resolve hmapped
    have hnamed := Path.isAbsolute_join_of_isAbsolute
      (Mapping.isAbsolute_base_of_load hproject hload)
      ⟨Mapping.substitute fit.captured target⟩
    refine ⟨mapping, fit, target, hload, hfit, htarget, ?_, ?_, ?_, ?_⟩
    · rw [Path.isAbsolute_clean, hnamed]
    · exact Path.dot_not_mem_segments_clean hnamed
    · refine ⟨_, _, ?_, by rw [Path.components_clean, if_pos hnamed]; rfl⟩
      exact Nat.le_of_lt_succ (Nat.mod_lt _ (by decide))
    · exact Path.locationFrom_clean hnamed

/-- The project in `app`, with this configuration. -/
def configured (config : Text) : Workspace where
  tree := ⟨[(["app".toList], .directory),
    (["app".toList, "tsconfig.json".toList], .file (.text config))]⟩
  current := ["app".toList]

/-- Base, target and captured text climb above the root together. -/
theorem resolveAlias_above_root :
    let w := configured
      "\x7b\"compilerOptions\": \x7b
        \"baseUrl\": \"../../..\", \"paths\": \x7b\"@/*\": [\"../../*\"]\x7d\x7d\x7d".toList
    let path : Path := ⟨"/../y".toList⟩
    resolveAlias w ⟨"/app".toList⟩ "@/x/../../y".toList = .ok path ∧
      ∃ mapping fit target,
        Mapping.load w ⟨"/app".toList⟩ = .ok mapping ∧
        Mapping.bestFit? mapping.paths "@/x/../../y".toList = some fit ∧
        fit.targets.head? = some target ∧
        ∀ here, path.locationFrom here =
          (mapping.base.join
            ⟨Mapping.substitute fit.captured target⟩).locationFrom here := by
  intro w path
  have hproject : Path.isAbsolute ⟨"/app".toList⟩ = true := by decide
  have hresolve : resolveAlias w ⟨"/app".toList⟩ "@/x/../../y".toList =
      .ok path := by
    decide +kernel
  obtain ⟨mapping, fit, target, hload, hfit, htarget, -, -, -, hlocation⟩ :=
    resolveAlias_isAbsolute_and_locationFrom.2 w _ _ path hproject hresolve
  exact ⟨hresolve, mapping, fit, target, hload, hfit, htarget, hlocation⟩

/-! ## Relative destinations -/

/-- A relative name is cleaned to its names behind the parity of its climbs, so
it leads where it led only if it climbs one level at most.  This is what becomes
of the base directory that a configuration names, and of what a mapping names
for an alias. -/
theorem clean_relative_eq_steps_iff (named : Path)
    (hrelative : named.isAbsolute = false) :
    named.clean.components =
        List.replicate (named.course.climbs % 2) .up ++
          named.course.names.map .name ∧
      (named.clean.components = named.course.steps ↔ named.course.climbs ≤ 1) ∧
      ((∀ here, named.clean.locationFrom here = named.locationFrom here) ↔
        named.course.climbs ≤ 1) ∧
      (∀ (directory : Path) (options : Options) (written : Text)
        (rest : List (Path × Options)), options.baseUrl = some written →
        directory.join ⟨written⟩ = named →
        nearestBaseUrl? ((directory, options) :: rest) = some named.clean) ∧
      ∀ (m : Mapping) (importAlias : Text), m.named? importAlias = some named →
        m.resolve importAlias = some named.clean := by
  refine ⟨Path.components_clean_of_relative hrelative,
    Path.components_clean_eq_steps_iff hrelative,
    Path.locationFrom_clean_eq_iff hrelative, ?_, ?_⟩
  · intro directory options written rest hwritten hjoin
    unfold nearestBaseUrl?
    rw [List.findSome?_cons_of_isSome (by simp [hwritten])]
    simp [hwritten, hjoin]
  · intro m importAlias hnamed
    rw [Mapping.resolve_eq_map_clean, hnamed]
    rfl

/-- One level above, by a detour, is one level above. -/
theorem clean_one_level_up :
    Path.isAbsolute ⟨"./a/../../b".toList⟩ = false ∧
      Path.clean ⟨"./a/../../b".toList⟩ = ⟨"../b".toList⟩ ∧
      ∀ here, Path.locationFrom here (Path.clean ⟨"./a/../../b".toList⟩) =
        Path.locationFrom here ⟨"./a/../../b".toList⟩ := by
  have hrelative : Path.isAbsolute ⟨"./a/../../b".toList⟩ = false := by
    decide +kernel
  obtain ⟨-, -, hplace, -⟩ := clean_relative_eq_steps_iff _ hrelative
  exact ⟨hrelative, by decide +kernel, hplace.mpr (by decide +kernel)⟩

/-- Two levels above are cleaned away, so the alias leads into the place that
the configuration is seen from. -/
theorem resolve_two_levels_up :
    let m : Mapping := ⟨⟨"tsconfig.json".toList⟩, none, .empty,
      [("@/*".toList, ["../../*".toList])]⟩
    m.named? "@/x".toList = some ⟨"../../x".toList⟩ ∧
      Path.course ⟨"../../x".toList⟩ = ⟨2, ["x".toList]⟩ ∧
      m.resolve "@/x".toList = some ⟨"x".toList⟩ ∧
      Path.components ⟨"x".toList⟩ ≠
        (Path.course ⟨"../../x".toList⟩).steps := by
  decide +kernel

end Tsconfig
end FormScaffold
