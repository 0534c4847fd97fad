import FormScaffold.Proofs.Tsconfig.Inheritance
import FormScaffold.Proofs.Generation.Schedule

/-!
# Failing before anything is written

An installation settles where its files go, where its templates come from and
which files there are before it says or writes anything.  A fault up to there is
the result, and leaves the workspace as it was.  Once the output directory is
made, every file of the manifest is tried, whatever becomes of the others.
-/

namespace FormScaffold

theorem map_mapError_eq_error_iff {ε ε' α β : Type} {x : Except ε α}
    {f : ε → ε'} {g : α → β} {e' : ε'} :
    (x.mapError f).map g = .error e' ↔ ∃ e, x = .error e ∧ f e = e' := by
  cases x <;> simp [Except.mapError, Except.map]

/-! ## The stages -/

namespace Tsconfig

variable {w : Workspace} {project : Path} {importAlias : Text}
  {e : ResolveError}

/-- Why an alias is not resolved: the first of these that is the case. -/
inductive Unresolved (w : Workspace) (project : Path) (importAlias : Text) :
    ResolveError → Prop
  | noDirectory (hproject : w.isDirectory project = false) :
      Unresolved w project importAlias (.noDirectory project)
  | noConfig (hproject : w.isDirectory project = true)
      (hconfig : w.isFile (project.join fileName) = false) :
      Unresolved w project importAlias (.noConfig project)
  | fault {e : ResolveError} (hproject : w.isDirectory project = true)
      (hconfig : w.isFile (project.join fileName) = true)
      (hfault : Faults w (project.join fileName) e) :
        Unresolved w project importAlias e
  | unmapped {m : Mapping} (hproject : w.isDirectory project = true)
      (hload : Mapping.load w project = .ok m)
        (hmap : m.resolve importAlias = none) :
      Unresolved w project importAlias (.unmapped importAlias m.config)

theorem resolveAlias_of_load {m : Mapping}
    (hproject : w.isDirectory project = true)
    (hload : Mapping.load w project = .ok m) :
    resolveAlias w project importAlias =
      match m.resolve importAlias with
      | some path => .ok path
      | none => .error (.unmapped importAlias m.config) := by
  unfold resolveAlias
  rw [if_pos hproject, hload]
  rfl

theorem resolveAlias_of_load_error (hproject : w.isDirectory project = true)
    (hload : Mapping.load w project = .error e) :
    resolveAlias w project importAlias = .error e := by
  unfold resolveAlias
  rw [if_pos hproject, hload]
  rfl

theorem unresolved_of_load_error (hproject : w.isDirectory project = true)
    (hload : Mapping.load w project = .error e) :
    Unresolved w project importAlias e := by
  cases hconfig : w.isFile (project.join fileName) with
  | false =>
      rw [Mapping.load_of_not_isFile hconfig] at hload
      cases hload
      exact .noConfig hproject hconfig
  | true =>
      exact .fault hproject hconfig
        ((Mapping.load_eq_error_iff hconfig).mp hload)

theorem resolveAlias_eq_error_iff :
    resolveAlias w project importAlias = .error e ↔
      Unresolved w project importAlias e := by
  constructor
  · intro h
    cases hproject : w.isDirectory project with
    | false =>
        unfold resolveAlias at h
        rw [if_neg (by simp [hproject])] at h
        cases h
        exact .noDirectory hproject
    | true =>
        cases hload : Mapping.load w project with
        | error e' =>
            rw [resolveAlias_of_load_error hproject hload] at h
            cases h
            exact unresolved_of_load_error hproject hload
        | ok m =>
            rw [resolveAlias_of_load hproject hload] at h
            split at h
            next => cases h
            next hmap =>
              cases h
              exact .unmapped hproject hload hmap
  · intro h
    cases h with
    | noDirectory hproject =>
        unfold resolveAlias
        rw [if_neg (by simp [hproject])]
    | noConfig hproject hconfig =>
        exact resolveAlias_of_load_error hproject
          (Mapping.load_of_not_isFile hconfig)
    | fault hproject hconfig hfault =>
        exact resolveAlias_of_load_error hproject
          ((Mapping.load_eq_error_iff hconfig).mpr hfault)
    | unmapped hproject hload hmap =>
        rw [resolveAlias_of_load hproject hload, hmap]

end Tsconfig

namespace TemplateSource

/-- Why the manifest that a directory of templates brings is not had. -/
inductive LacksManifest (w : Workspace) (directory : Path) :
    ManifestError → Prop
  | unreadable {e : IoError}
      (hexists : w.exists? (directory.join manifestName) = true)
      (hread : w.readText (directory.join manifestName) = .error e) :
      LacksManifest w directory (.unreadable (directory.join manifestName) e)
  | malformed {s : Text}
      (hexists : w.exists? (directory.join manifestName) = true)
      (hread : w.readText (directory.join manifestName) = .ok s)
      (hparse : Manifest.parse? s = none) :
      LacksManifest w directory (.malformed (directory.join manifestName))

theorem manifest_eq_error_iff {w : Workspace} {path : Path}
    {otherwise : Manifest} {e : ManifestError} :
    manifest w (.directory path) otherwise = .error e ↔
      LacksManifest w path e := by
  simp only [manifest]
  constructor
  · intro h
    split at h
    next hexists =>
      split at h
      next hread =>
        cases h
        exact .unreadable hexists hread
      next hread =>
        split at h
        next => cases h
        next hparse =>
          cases h
          exact .malformed hexists hread hparse
    next => cases h
  · intro h
    cases h with
    | unreadable hexists hread => rw [if_pos hexists, hread]
    | malformed hexists hread hparse =>
        rw [if_pos hexists, hread]
        simp only [hparse]

end TemplateSource

namespace Installation

open Tsconfig

variable {i : Installation} {w : Workspace} {e : InstallError}

/-- The URL that templates are taken from if there is no directory of them. -/
def templateUrl (i : Installation) : Text :=
  i.templateUrl?.getD i.product.templateUrl

/-- Why nothing is settled: the first of these that is the case. -/
inductive EarlyFault (i : Installation) (w : Workspace) : InstallError → Prop
  | unresolved {e : ResolveError}
      (h : Unresolved w i.project i.choices.components e) :
      EarlyFault i w (.resolve e)
  | badTemplateUrl {path : Path}
      (hresolve : resolveAlias w i.project i.choices.components = .ok path)
      (htemplates : i.templates = none)
      (hurl : Url.parse? i.templateUrl = none) :
      EarlyFault i w (.badTemplateUrl i.templateUrl)
  | manifest {path directory : Path} {e : ManifestError}
      (hresolve : resolveAlias w i.project i.choices.components = .ok path)
      (htemplates : i.templates = some directory)
      (h : TemplateSource.LacksManifest w directory e) :
        EarlyFault i w (.manifest e)

theorem source_of_directory {directory : Path}
    (h : i.templates = some directory) :
    i.source = .ok (.directory directory) := by
  unfold source
  rw [h]

theorem source_of_none (h : i.templates = none) :
    i.source = match Url.parse? i.templateUrl with
      | some u => .ok (.remote u)
      | none => .error (.badTemplateUrl i.templateUrl) := by
  unfold source
  rw [h]
  rfl

theorem source_eq_error_iff :
    i.source = .error e ↔
      i.templates = none ∧ Url.parse? i.templateUrl = none ∧
        e = .badTemplateUrl i.templateUrl := by
  cases htemplates : i.templates with
  | some directory => simp [source_of_directory htemplates]
  | none =>
      rw [source_of_none htemplates]
      cases Url.parse? i.templateUrl <;> simp [eq_comm]

theorem plan_of_unresolved {e : ResolveError}
    (hresolve : resolveAlias w i.project i.choices.components = .error e) :
    i.plan w = .error (.resolve e) := by
  unfold plan outputDirectory
  rw [hresolve]
  rfl

theorem plan_of_resolved {path : Path}
    (hresolve : resolveAlias w i.project i.choices.components = .ok path) :
    i.plan w = i.source >>= fun source =>
      ((source.manifest w i.product.manifest).mapError .manifest).map fun m =>
        (⟨source, i.choices, path.join i.product.directory⟩, m) := by
  unfold plan outputDirectory
  rw [hresolve]
  rfl

/-- Nothing is settled just in case there is an early fault, and that is the
error.  Below a URL the manifest of the product is taken, so no manifest is at
fault there. -/
theorem plan_eq_error_iff : i.plan w = .error e ↔ EarlyFault i w e := by
  constructor
  · intro h
    cases hresolve : resolveAlias w i.project i.choices.components with
    | error e' =>
        rw [plan_of_unresolved hresolve] at h
        cases h
        exact .unresolved (resolveAlias_eq_error_iff.mp hresolve)
    | ok path =>
        rw [plan_of_resolved hresolve] at h
        rcases bind_eq_error_iff.mp h with hsource |
          ⟨source, hsource, hmanifest⟩
        · obtain ⟨htemplates, hurl, rfl⟩ := source_eq_error_iff.mp hsource
          exact .badTemplateUrl hresolve htemplates hurl
        · obtain ⟨e', hlacks, rfl⟩ := map_mapError_eq_error_iff.mp hmanifest
          cases htemplates : i.templates with
          | none =>
              rw [source_of_none htemplates] at hsource
              split at hsource <;> cases hsource
              cases hlacks
          | some directory =>
              rw [source_of_directory htemplates] at hsource
              cases hsource
              exact .manifest hresolve htemplates
                (TemplateSource.manifest_eq_error_iff.mp hlacks)
  · intro h
    cases h with
    | unresolved h => exact plan_of_unresolved (resolveAlias_eq_error_iff.mpr h)
    | badTemplateUrl hresolve htemplates hurl =>
        rw [plan_of_resolved hresolve, bind_eq_error_iff]
        exact Or.inl (source_eq_error_iff.mpr ⟨htemplates, hurl, rfl⟩)
    | manifest hresolve htemplates h =>
        rw [plan_of_resolved hresolve, source_of_directory htemplates]
        exact map_mapError_eq_error_iff.mpr
          ⟨_, TemplateSource.manifest_eq_error_iff.mpr h, rfl⟩

/-- Any of these is enough, whatever else is the case. -/
inductive Unready (i : Installation) (w : Workspace) : Prop
  | noDirectory (h : w.isDirectory i.project = false)
  | noConfig (h : w.isFile (i.project.join fileName) = false)
  | fault {e : ResolveError} (h : Faults w (i.project.join fileName) e)
  | unmapped {m : Mapping} (hload : Mapping.load w i.project = .ok m)
      (hmap : m.resolve i.choices.components = none)
  | badTemplateUrl (htemplates : i.templates = none)
      (hurl : Url.parse? i.templateUrl = none)
  | manifest {directory : Path} {e : ManifestError}
      (htemplates : i.templates = some directory)
      (h : TemplateSource.LacksManifest w directory e)

theorem exists_earlyFault (h : i.Unready w) : ∃ e, EarlyFault i w e := by
  cases hresolve : resolveAlias w i.project i.choices.components with
  | error e => exact ⟨_, .unresolved (resolveAlias_eq_error_iff.mp hresolve)⟩
  | ok path =>
      have hresolved (e : ResolveError) :
          ¬ Unresolved w i.project i.choices.components e := by
        rw [← resolveAlias_eq_error_iff, hresolve]
        exact nofun
      have hproject : w.isDirectory i.project = true := by
        by_contra hproject
        exact hresolved _ (.noDirectory (by simpa using hproject))
      have hconfig : w.isFile (i.project.join fileName) = true := by
        by_contra hconfig
        exact hresolved _ (.noConfig hproject (by simpa using hconfig))
      cases h with
      | noDirectory h => simp [h] at hproject
      | noConfig h => simp [h] at hconfig
      | fault h => exact absurd (.fault hproject hconfig h) (hresolved _)
      | unmapped hload hmap =>
          exact absurd (.unmapped hproject hload hmap) (hresolved _)
      | badTemplateUrl htemplates hurl =>
          exact ⟨_, .badTemplateUrl hresolve htemplates hurl⟩
      | manifest htemplates h => exact ⟨_, .manifest hresolve htemplates h⟩

end Installation

/-! ## Every file is tried -/

namespace Generation

theorem getElem?_runAll (g : Generation) (files : List TemplateFile)
    (w : Workspace) (k : ℕ) :
    (g.runAll files w).2[k]? =
      files[k]?.map fun file =>
        (g.run file (g.runAll (files.take k) w).1).2 := by
  induction files generalizing w k with
  | nil => rfl
  | cons file files ih =>
      cases k with
      | zero => rfl
      | succ k => exact ih (g.run file w).1 k

theorem generate_of_made {g : Generation} {m : Manifest} {w w' : Workspace}
    (h : w.makeDirectories g.output = (w', .ok ())) :
    g.generate m w =
      ((g.runAll m.files w').1, .ok ⟨g.output, (g.runAll m.files w').2⟩) := by
  unfold generate
  rw [h]

end Generation

/-! ## Runs -/

/-- An error of settling what is to be done. -/
def InstallError.IsEarly : InstallError → Prop
  | .resolve _ => True
  | .badTemplateUrl _ => True
  | .manifest _ => True
  | _ => False

namespace Installation

open Generation Tsconfig

variable {i : Installation} {g : Generation} {m : Manifest} {w w' : Workspace}
  {e : InstallError} {report : Report} {colored : Colored} {schedule : List ℕ}

theorem runPlainlyBy_of_earlyFault (h : EarlyFault i w e) (schedule : List ℕ)
    (colored : Colored) :
    i.runPlainlyBy schedule colored w = (w, [], .error e) := by
  unfold runPlainlyBy
  rw [plan_eq_error_iff.mpr h]

theorem runPlainlyBy_of_generateBy (hplan : i.plan w = .ok (g, m))
    (hgenerate : g.generateBy schedule m w = (w', .ok report))
    (colored : Colored) :
    i.runPlainlyBy schedule colored w =
      (w', heading colored i ++ summary colored report, verdict report) := by
  unfold runPlainlyBy carryOutBy
  rw [hplan]
  simp only [hgenerate]

/-- What goes wrong later is not an error of settling. -/
theorem earlyFault_of_isEarly (hearly : e.IsEarly)
    (h : (i.runPlainlyBy schedule colored w).2.2 = .error e) :
    EarlyFault i w e := by
  rw [← plan_eq_error_iff]
  unfold runPlainlyBy carryOutBy at h
  cases hplan : i.plan w with
  | error e' =>
      rw [hplan] at h
      cases h
      rfl
  | ok plan =>
      rw [hplan] at h
      cases hgenerate : plan.1.generateBy schedule plan.2 w with
      | mk w' result =>
          cases result with
          | error cause =>
              simp only [hgenerate, Except.error.injEq] at h
              exact (h ▸ hearly : InstallError.IsEarly
                (.outputNotMade _ _)).elim
          | ok report =>
              simp only [hgenerate, verdict] at h
              split at h
              next => cases h
              next =>
                cases h
                exact hearly.elim

theorem runPlainly_of_made (hplan : i.plan w = .ok (g, m))
    (hmade : w.makeDirectories g.output = (w', .ok ())) (colored : Colored) :
    i.runPlainly colored w =
      let report : Report := ⟨g.output, (g.runAll m.files w').2⟩
      ((g.runAll m.files w').1, heading colored i ++ summary colored report,
        verdict report) := by
  have hgenerate := generate_of_made (m := m) hmade
  rw [← generateBy_nil] at hgenerate
  exact runPlainlyBy_of_generateBy hplan hgenerate colored

/-- A run that fails for want of the project, of a configuration that can be
read, of a directory for the alias, of a URL or of a manifest leaves the
workspace as it was and says nothing; and any such want makes it fail so.  Once
the output directory is made, every file is tried in what those before it left,
whether they failed or not, and in whatever order the jobs take their steps,
each comes to its end. -/
theorem early_failure_leaves_no_trace (colored : Colored) (i : Installation)
    (w : Workspace) :
    (i.Unready w → ∃ e, EarlyFault i w e) ∧
    (∀ e, EarlyFault i w e → i.runPlainly colored w = (w, [], .error e)) ∧
    (∀ e, e.IsEarly → (i.runPlainly colored w).2.2 = .error e →
      EarlyFault i w e) ∧
    ∀ g m w', i.plan w = .ok (g, m) →
      w.makeDirectories g.output = (w', .ok ()) → (∃ report : Report,
        i.runPlainly colored w =
          ((g.runAll m.files w').1, heading colored i ++ summary colored report,
            verdict report) ∧
        ∀ k : ℕ, report.files[k]? =
          m.files[k]?.map fun file =>
            (g.run file (g.runAll (m.files.take k) w').1).2) ∧
      ∀ schedule : List ℕ, (∀ k < m.files.length, 3 ≤ schedule.count k) →
        AllDone m.files (g.follow m.files schedule (start w')) := by
  refine ⟨exists_earlyFault, fun e h => runPlainlyBy_of_earlyFault h [] colored,
    fun e hearly h => earlyFault_of_isEarly hearly h, ?_⟩
  intro g m w' hplan hmade
  exact ⟨⟨⟨g.output, (g.runAll m.files w').2⟩,
    runPlainly_of_made hplan hmade colored, getElem?_runAll g m.files w'⟩,
    fun schedule hturns => allDone_follow g hturns _⟩

/-- A project that extends what is not JSON, beside one that extends nothing;
both map every alias. -/
def halfConfigured : Workspace where
  tree := ⟨[(["app".toList], .directory),
    (["app".toList, "tsconfig.json".toList], .file (.text
      "\x7b\"extends\": \"./base\",
        \"compilerOptions\": \x7b\"paths\": \x7b\"*\": [\"*\"]\x7d\x7d\x7d".toList)),
    (["app".toList, "base.json".toList], .file (.text "\x7b".toList)),
    (["lib".toList], .directory),
    (["lib".toList, "tsconfig.json".toList], .file (.text
      "\x7b\"compilerOptions\": \x7b\"paths\": \x7b\"*\": [\"*\"]\x7d\x7d\x7d".toList))]⟩
  current := []

/-- The fault of a configuration that has nothing left to say stops the one run;
in the other every file is tried, though the template is not there. -/
theorem early_failure_of_far_fault :
    let install (project : Text) : Installation :=
      ⟨.formBuilder, none, ⟨project⟩, .default, some ⟨"tpl".toList⟩⟩
    let fault := InstallError.resolve (.malformed ⟨"app/./base.json".toList⟩)
    (install "app".toList).Unready halfConfigured ∧
      (install "app".toList).runPlainly false halfConfigured =
        (halfConfigured, [], .error fault) ∧
      ∃ report : Report,
        ((install "lib".toList).runPlainly false halfConfigured).2.2 =
          verdict report ∧
        report.files.map FileOutcome.name =
          Product.formBuilder.manifest.files.map TemplateFile.name := by
  intro install fault
  let config : Path := (⟨"app".toList⟩ : Path).join fileName
  let base : Path := ⟨"app/./base.json".toList⟩
  have hproject : halfConfigured.isDirectory ⟨"app".toList⟩ = true := by
    decide +kernel
  have hconfig : halfConfigured.isFile config = true := by decide +kernel
  have hlink : link? halfConfigured config 1 = some base := by decide +kernel
  have hread : readConfig halfConfigured base = .error (.malformed base) := by
    decide +kernel
  have hfault : Faults halfConfigured config (.malformed base) :=
    ⟨1, by decide, ⟨base, hlink, hread⟩, exists_readConfig_of_link? hlink⟩
  obtain ⟨-, hfails, -, -⟩ :=
    early_failure_leaves_no_trace false (install "app".toList) halfConfigured
  obtain ⟨-, -, -, htries⟩ :=
    early_failure_leaves_no_trace false (install "lib".toList) halfConfigured
  refine ⟨.fault hfault,
    hfails fault (.unresolved (.fault hproject hconfig hfault)), ?_⟩
  let g : Generation :=
    ⟨.directory ⟨"tpl".toList⟩, .default,
      ⟨"lib/@/components/form-builder".toList⟩⟩
  have hplan : (install "lib".toList).plan halfConfigured =
      .ok (g, Product.formBuilder.manifest) := by
    decide +kernel
  have hmade : (halfConfigured.makeDirectories g.output).2 = .ok () := by
    decide +kernel
  obtain ⟨⟨report, hrun, hfiles⟩, -⟩ := htries g _ _ hplan (Prod.ext rfl hmade)
  refine ⟨report, by rw [hrun], List.ext_getElem? fun k => ?_⟩
  rw [List.getElem?_map, List.getElem?_map, hfiles k, Option.map_map]
  exact congrArg (Option.map · _) (funext fun file => run_name g file _)

end Installation

end FormScaffold
