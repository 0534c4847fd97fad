import FormScaffold.Proofs.FileTree.Places
import FormScaffold.Proofs.Generation.Confluence

/-!
# What a generation can reach

The names of a manifest are taken as they are written.  Whatever order its jobs
take, a generation makes directories only at places that the path of the output
directory or of a target names on its way, and writes only targets.  If all of
these lie along the output directory, so does all that is changed; but nothing
keeps a name from leading out of it, and then the file stands where the name
leads.
-/

namespace FormScaffold

open Workspace

/-! ## What a generation changes -/

namespace Generation

variable {g : Generation} {files : List TemplateFile} {file : TemplateFile}
  {u v w : Workspace} {l : Location}

/-- What has become of a location: it holds what it did, or a directory was made
where nothing was, at a place named on the way to the output directory or to a
target, or the target of a file was written. -/
inductive Fate (g : Generation) (files : List TemplateFile) (w v : Workspace)
    (l : Location) : Prop
  | kept (hsame : v.tree.find? l = w.tree.find? l)
  | made (hnone : w.tree.find? l = none)
      (hmade : v.tree.find? l = some .directory)
      (hplace : l ∈ g.output.places w.current ∨
        ∃ file ∈ files, l ∈ (g.target file).places w.current)
  | written {file : TemplateFile} {t : Text} (hmem : file ∈ files)
      (hl : l = g.location w file) (hfree : w.tree.find? l ≠ some .directory)
      (hfile : v.tree.find? l = some (.file (.text t)))

/-- Every location has come to what a generation of these files can bring it
to. -/
structure Spreads (g : Generation) (files : List TemplateFile)
    (w v : Workspace) : Prop where
  current : v.current = w.current
  fate : ∀ l, Fate g files w v l

theorem Spreads.refl (w : Workspace) : g.Spreads files w w :=
  ⟨rfl, fun _ => .kept rfl⟩

theorem Spreads.trans (hv : g.Spreads files w v) (hu : g.Spreads files v u) :
    g.Spreads files w u := by
  refine ⟨hu.current.trans hv.current, ?_⟩
  intro l
  cases hu.fate l with
  | kept hsame =>
      cases hv.fate l with
      | kept hsame' => exact .kept (hsame.trans hsame')
      | made hnone hmade hplace => exact .made hnone (hsame.trans hmade) hplace
      | written hmem hl hfree hfile =>
          exact .written hmem hl hfree (hsame.trans hfile)
  | made hnone hmade hplace =>
      rw [hv.current] at hplace
      cases hv.fate l with
      | kept hsame => exact .made (hsame ▸ hnone) hmade hplace
      | made _ hmade' _ => simp [hmade'] at hnone
      | written _ _ _ hfile => simp [hfile] at hnone
  | written hmem hl hfree hfile =>
      unfold location at hl
      rw [hv.current] at hl
      cases hv.fate l with
      | kept hsame => exact .written hmem hl (hsame ▸ hfree) hfile
      | made _ hmade _ => exact absurd hmade hfree
      | written _ _ hfree' _ => exact .written hmem hl hfree' hfile

theorem spreads_makeDirectories {p : Path}
    (hplaces : ∀ l ∈ p.places w.current, l ∈ g.output.places w.current ∨
      ∃ file ∈ files, l ∈ (g.target file).places w.current) :
    g.Spreads files w (w.makeDirectories p).1 := by
  have hext := (makeDirectories_keeps w p).1
  refine ⟨hext.current, ?_⟩
  intro l
  by_cases hsame : (w.makeDirectories p).1.tree.find? l = w.tree.find? l
  · exact .kept hsame
  · obtain ⟨hnone, hmade⟩ := (hext.find? l).resolve_left hsame
    exact .made hnone hmade
      (hplaces l (mem_places_of_makeDirectories w p hsame))

theorem spreads_placeFor (hmem : file ∈ files) (w : Workspace) :
    g.Spreads files w (placeFor w (g.target file)).1 := by
  unfold placeFor
  split
  next => exact .refl w
  next directory hparent =>
    have hmade : g.Spreads files w (w.makeDirectories directory).1 :=
      spreads_makeDirectories fun l hl =>
        Or.inr ⟨file, hmem, places_subset_of_parent hparent w hl⟩
    split
    next made hresult => rwa [hresult] at hmade
    next made e hresult => rwa [hresult] at hmade

theorem spreads_writeText (hmem : file ∈ files) {t : Text}
    (hwrite : w.writeText (g.target file) t = .ok v) : g.Spreads files w v := by
  obtain ⟨hne, hfree, rfl⟩ := Workspace.eq_put_of_writeText_ok hwrite
  refine ⟨rfl, ?_⟩
  intro l
  by_cases hl : l = (g.target file).locationFrom w.current
  · refine .written (t := t) hmem hl (hl ▸ hfree) ?_
    rw [find?_put w hne, if_pos hl]
  · apply Fate.kept
    rw [find?_put w hne, if_neg hl]

/-- One step of one job. -/
theorem spreads_step (hmem : file ∈ files) (w : Workspace) (s : JobState) :
    g.Spreads files w (g.step file w s).1 := by
  cases s with
  | waiting =>
      simp only [step]
      split <;> exact .refl w
  | emitted text =>
      have hplaced := spreads_placeFor (g := g) hmem w
      simp only [step]
      split
      next placed hresult => rwa [hresult] at hplaced
      next placed e hresult => rwa [hresult] at hplaced
  | placed text =>
      simp only [step]
      split
      next written hwrite => exact spreads_writeText hmem hwrite
      next => exact .refl w
  | done result => exact .refl w

theorem spreads_advance (p : Progress) (i : ℕ) :
    g.Spreads files p.workspace (g.advance files p i).workspace := by
  cases hfile : files[i]? with
  | none =>
      rw [advance_of_absent hfile]
      exact .refl p.workspace
  | some file =>
      rw [advance_of_getElem? hfile]
      exact spreads_step (List.mem_of_getElem? hfile) p.workspace (p.states i)

/-- The steps of all jobs, in whatever order they are taken. -/
theorem spreads_follow (schedule : List ℕ) (p : Progress) :
    g.Spreads files p.workspace (g.follow files schedule p).workspace := by
  induction schedule generalizing p with
  | nil => exact .refl p.workspace
  | cons i schedule ih =>
      exact (spreads_advance p i).trans (ih (g.advance files p i))

/-! ## What is reported as written -/

theorem Spreads.text_stays (hv : g.Spreads files w v) {t : Text}
    (hl : w.tree.find? l = some (.file (.text t))) :
    ∃ t', v.tree.find? l = some (.file (.text t')) := by
  cases hv.fate l with
  | kept hsame => exact ⟨t, hsame.trans hl⟩
  | made hnone _ _ => simp [hl] at hnone
  | written _ _ _ hfile => exact ⟨_, hfile⟩

/-- Where a job has written, there is a text. -/
def HoldsWritten (p : Progress) : Prop :=
  ∀ i path, p.states i = .done (.ok path) →
    ∃ t, p.workspace.tree.find? (path.locationFrom p.workspace.current) =
      some (.file (.text t))

theorem exists_of_step_done {s : JobState} {path : Path}
    (hstep : g.step file w s = (v, .done (.ok path))) :
    (s = .done (.ok path) ∧ v = w) ∨ ∃ t, w.writeText path t = .ok v := by
  cases s with
  | waiting =>
      simp only [step] at hstep
      split at hstep <;> simp at hstep
  | emitted text =>
      simp only [step] at hstep
      split at hstep <;> simp at hstep
  | placed text =>
      simp only [step] at hstep
      split at hstep
      next written hwrite =>
        simp only [Prod.mk.injEq, JobState.done.injEq, Except.ok.injEq] at hstep
        obtain ⟨rfl, rfl⟩ := hstep
        exact Or.inr ⟨text, hwrite⟩
      next => simp at hstep
  | done result =>
      simp only [step, Prod.mk.injEq] at hstep
      exact Or.inl ⟨hstep.2, hstep.1.symm⟩

/-- Where a job had written before, a text stays; else the job has just
written. -/
theorem holdsWritten_advance {p : Progress} (hp : HoldsWritten p) (i : ℕ) :
    HoldsWritten (g.advance files p i) := by
  have hspread : g.Spreads files p.workspace (g.advance files p i).workspace :=
    spreads_advance p i
  intro j path hj
  rw [hspread.current]
  by_cases hsame : (p.states j) = .done (.ok path)
  · obtain ⟨t, ht⟩ := hp j path hsame
    exact hspread.text_stays ht
  · cases hfile : files[i]? with
    | none =>
        rw [advance_of_absent hfile] at hj
        exact absurd hj hsame
    | some file =>
        rw [advance_of_getElem? hfile] at hj ⊢
        by_cases hji : j = i
        · subst hji
          simp only [Function.update_self] at hj
          rcases exists_of_step_done (Prod.ext rfl hj) with ⟨hdone, -⟩ |
            ⟨t, hwrite⟩
          · exact absurd hdone hsame
          · obtain ⟨hne, -, hput⟩ := Workspace.eq_put_of_writeText_ok hwrite
            refine ⟨t, ?_⟩
            simp only [hput]
            rw [find?_put _ hne, if_pos rfl]
        · simp only [Function.update_of_ne hji] at hj
          exact absurd hj hsame

theorem holdsWritten_follow (schedule : List ℕ) {p : Progress}
    (hp : HoldsWritten p) :
    HoldsWritten (g.follow files schedule p) := by
  induction schedule generalizing p with
  | nil => exact hp
  | cons i schedule ih => exact ih (holdsWritten_advance hp i)

theorem holdsWritten_start (w : Workspace) : HoldsWritten (start w) := by
  intro i path hi
  cases hi

/-! ## Inside the output directory -/

/-- The location lies in a directory, or the directory in it. -/
def Along (root l : Location) : Prop := root <+: l ∨ l <+: root

instance (root l : Location) : Decidable (Along root l) :=
  inferInstanceAs (Decidable (_ ∨ _))

/-- Files are changed only in a directory, and directories are made only along
it. -/
def ChangesInside (root : Location) (w v : Workspace) : Prop :=
  ∀ l, v.tree.find? l ≠ w.tree.find? l →
    (w.tree.find? l = none ∧ v.tree.find? l = some .directory ∧ Along root l) ∨
      (w.tree.find? l ≠ some .directory ∧
        (∃ t, v.tree.find? l = some (.file (.text t))) ∧ root <+: l)

/-- The target of a file lies in the output directory, and its path names
nothing beside that. -/
structure KeepsInside (g : Generation) (w : Workspace)
    (file : TemplateFile) : Prop where
  target : g.output.locationFrom w.current <+: g.location w file
  places : ∀ l ∈ (g.target file).places w.current,
    Along (g.output.locationFrom w.current) l

theorem Spreads.changesInside (hv : g.Spreads files w v)
    (houtput : ∀ l ∈ g.output.places w.current,
      Along (g.output.locationFrom w.current) l)
    (hfiles : ∀ file ∈ files, g.KeepsInside w file) :
    ChangesInside (g.output.locationFrom w.current) w v := by
  intro l hl
  cases hv.fate l with
  | kept hsame => exact absurd hsame hl
  | made hnone hmade hplace =>
      refine Or.inl ⟨hnone, hmade, ?_⟩
      rcases hplace with hplace | ⟨file, hmem, hplace⟩
      · exact houtput l hplace
      · exact (hfiles file hmem).places l hplace
  | written hmem hat hfree hfile =>
      exact Or.inr ⟨hfree, ⟨_, hfile⟩, hat ▸ (hfiles _ hmem).target⟩

/-- A name that leads down from the output directory does not leave it. -/
theorem keepsInside_of_leadsDown (hfile : file.LeadsDown)
    (houtput : ∀ l ∈ g.output.places w.current,
      Along (g.output.locationFrom w.current) l) : g.KeepsInside w file := by
  refine ⟨?_, ?_⟩
  · rw [location_eq g w hfile]
    exact List.prefix_append _ _
  · intro l hl
    rw [places_current, steps_target hfile, start_target hfile,
      Path.placesFrom_append, ← places_current, ← locationFrom_current] at hl
    rcases List.mem_append.mp hl with houter | hinner
    · exact houtput l houter
    · obtain ⟨ks, -, rfl⟩ := Path.placesFrom_names _ _ hinner
      exact Or.inl (List.prefix_append _ ks)

theorem spreads_after (g : Generation) (m : Manifest) (w : Workspace)
    (schedule : List ℕ) :
    g.Spreads m.files w (g.after m w schedule).workspace :=
  (spreads_makeDirectories fun _ hl => Or.inl hl).trans
    (spreads_follow schedule (start _))

/-- Whatever order the jobs take, only named places change; if the paths keep
inside the output directory, nothing else does.  But what is reported as written
is there, also where its name leads out. -/
theorem generation_changes_named_places (g : Generation) (m : Manifest)
    (w : Workspace) :
    (∃ schedule, (g.generate m w).1 = (g.after m w schedule).workspace) ∧
    (∀ schedule, g.Spreads m.files w (g.after m w schedule).workspace) ∧
    ((∀ l ∈ g.output.places w.current,
        Along (g.output.locationFrom w.current) l) →
      (∀ file ∈ m.files, g.KeepsInside w file) →
      ∀ schedule, ChangesInside (g.output.locationFrom w.current) w
        (g.after m w schedule).workspace) ∧
    ∀ report, (g.generate m w).2 = .ok report →
      ∀ o ∈ report.files, ∀ path, o.result = .ok path →
        ∃ t, (g.generate m w).1.tree.find? (path.locationFrom w.current) =
          some (.file (.text t)) := by
  obtain ⟨schedule, hgenerate, hreported⟩ := exists_generate_eq_after g m w
  refine ⟨⟨schedule, hgenerate⟩, spreads_after g m w, ?_, ?_⟩
  · intro houtput hfiles schedule
    exact (spreads_after g m w schedule).changesInside houtput hfiles
  · intro report hreport o ho path hpath
    obtain ⟨i, hi⟩ := exists_done_of_mem_report (hreported report hreport) ho
    rw [hpath] at hi
    have hholds : HoldsWritten (g.after m w schedule) :=
      holdsWritten_follow schedule (holdsWritten_start _)
    have hwritten := hholds i path hi
    rwa [(spreads_after g m w schedule).current, ← hgenerate] at hwritten

/-- A template whose manifest stands in `tpl/set`, and a file of the project
beside the output directory. -/
def besideOutput (manifest : Text) : Workspace where
  tree :=
    ⟨[(["tpl".toList], .directory), (["tpl".toList, "set".toList], .directory),
    (["tpl".toList, "set".toList, "template.yaml".toList],
      .file (.text manifest)),
    (["tpl".toList, "notes.ts".toList], .file (.text "template".toList)),
    (["app".toList], .directory),
    (["app".toList, "notes.ts".toList], .file (.text "mine".toList))]⟩
  current := []

def besideGeneration : Generation :=
  ⟨.directory ⟨"tpl/set".toList⟩, .default, ⟨"app/out".toList⟩⟩

/-- The template stands beside its manifest, which names it by a way that
climbs. -/
def climbingTemplate : Workspace where
  tree :=
    ⟨[(["tpl".toList], .directory), (["tpl".toList, "set".toList], .directory),
    (["tpl".toList, "set".toList, "ui".toList], .directory),
    (["tpl".toList, "set".toList, "template.yaml".toList], .file (.text
      "files:\n  - file: ./ui/../../out/notes.ts\n".toList)),
    (["tpl".toList, "out".toList], .directory),
    (["tpl".toList, "out".toList, "notes.ts".toList],
      .file (.text "template".toList)),
    (["app".toList], .directory),
    (["app".toList, "notes.ts".toList], .file (.text "mine".toList))]⟩
  current := []

/-- A name may climb as long as it comes back to the output directory: the file
is written there, and what lies beside is left alone. -/
theorem generation_of_climbing_name :
    let m : Manifest := ⟨[⟨"./ui/../../out/notes.ts".toList, false, false⟩]⟩
    let w := climbingTemplate
    let v := (besideGeneration.generate m w).1
    besideGeneration.source.manifest w ⟨[]⟩ = .ok m ∧
      (∀ l ∈ besideGeneration.output.places w.current,
        Along (besideGeneration.output.locationFrom w.current) l) ∧
      (∀ file ∈ m.files, besideGeneration.KeepsInside w file) ∧
      (∀ schedule, ChangesInside ["app".toList, "out".toList] w
        (besideGeneration.after m w schedule).workspace) ∧
      w.tree.find? ["app".toList, "out".toList, "notes.ts".toList] = none ∧
      v.tree.find? ["app".toList, "out".toList, "notes.ts".toList] =
        some (.file (.text "template".toList)) ∧
      v.tree.find? ["app".toList, "notes.ts".toList] =
        some (.file (.text "mine".toList)) := by
  intro m w v
  have hmanifest : besideGeneration.source.manifest w ⟨[]⟩ = .ok m := by
    decide +kernel
  have houtput : ∀ l ∈ besideGeneration.output.places w.current,
      Along (besideGeneration.output.locationFrom w.current) l := by
    decide +kernel
  have hfiles : ∀ file ∈ m.files, besideGeneration.KeepsInside w file := by
    intro file hmem
    obtain rfl := List.mem_singleton.mp hmem
    exact ⟨by decide +kernel, by decide +kernel⟩
  have hnone : w.tree.find? ["app".toList, "out".toList, "notes.ts".toList] =
      none := by
    decide +kernel
  have hwritten : v.tree.find? ["app".toList, "out".toList, "notes.ts".toList] =
      some (.file (.text "template".toList)) := by
    decide +kernel
  have hmine : v.tree.find? ["app".toList, "notes.ts".toList] =
      some (.file (.text "mine".toList)) := by
    decide +kernel
  obtain ⟨-, -, hinside, -⟩ :=
    generation_changes_named_places besideGeneration m w
  exact ⟨hmanifest, houtput, hfiles, hinside houtput hfiles, hnone, hwritten,
    hmine⟩

/-- A manifest that a template brings may name a file beside the output
directory, which is overwritten. -/
theorem generation_overwrites_beside_output :
    let manifest := "files:\n  - file: ../notes.ts\n".toList
    let w := besideOutput manifest
    let m : Manifest := ⟨[⟨"../notes.ts".toList, false, false⟩]⟩
    let place := ["app".toList, "notes.ts".toList]
    Manifest.parse? manifest = some m ∧
      besideGeneration.source.manifest w ⟨[]⟩ = .ok m ∧
      ¬ besideGeneration.output.locationFrom w.current <+: place ∧
      w.tree.find? place = some (.file (.text "mine".toList)) ∧
      (besideGeneration.generate m w).1.tree.find? place =
        some (.file (.text "template".toList)) := by
  decide +kernel

end Generation
end FormScaffold
