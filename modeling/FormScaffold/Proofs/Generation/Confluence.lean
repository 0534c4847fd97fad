import FormScaffold.Proofs.Generation.Interleaving

/-!
# The order of the jobs does not matter

The jobs of a generation may take their steps in any order: the report and the
files are those that the jobs give one after the other, and these are merged
from what each job gives alone.
-/

namespace FormScaffold.Generation

open Workspace

variable {g : Generation} {templates : Path} {m : Manifest} {w w₀ : Workspace}

/-! ## The output directory -/

theorem current_of_makeDirectories {q : Path}
    (hmade : w.makeDirectories q = (w₀, .ok ())) : w₀.current = w.current := by
  have hext := (makeDirectories_keeps w q).1
  rw [hmade] at hext
  exact hext.current

theorem stands_of_makeDirectories (hw : w.IsGrounded)
    (hmade : w.makeDirectories g.output = (w₀, .ok ())) :
    g.Stands w₀ (g.output.locationFrom w.current) := by
  have hgrounded := (makeDirectories_keeps w g.output).2 hw
  rw [hmade] at hgrounded
  rw [← current_of_makeDirectories hmade, locationFrom_current]
  refine ⟨hgrounded, ?_⟩
  by_cases hempty : g.output.text = []
  · have hstart : w₀.start g.output = w₀.current := by
      unfold Workspace.start Path.isAbsolute
      rw [hempty]
      rfl
    rw [Path.steps_of_text_nil hempty, hstart]
    exact stand_of_directory hgrounded.current
  · have hdirectory := isDirectory_of_makeDirectories hempty hmade
    obtain ⟨there, henter⟩ :=
      (isDirectory_iff (refused_of_isDirectory hdirectory)).mp hdirectory
    rw [henter, eq_locationFrom_of_enter henter, locationFrom_current]

theorem layout_of_makeDirectories (hw : w.IsGrounded)
    (hsource : g.source = .directory templates)
    (hnames : ∀ file ∈ m.files, file.LeadsDown)
    (htargets : m.files.Pairwise fun a b =>
      ¬ g.location w a <+: g.location w b ∧ ¬ g.location w b <+: g.location w a)
    (hapart :
      ¬ templates.locationFrom w.current <+: g.output.locationFrom w.current ∧
        ¬ g.output.locationFrom w.current <+: templates.locationFrom w.current)
    (hmade : w.makeDirectories g.output = (w₀, .ok ())) :
    Layout g templates m.files w₀ (g.output.locationFrom w.current) := by
  have hstands := stands_of_makeDirectories hw hmade
  have hcurrent := current_of_makeDirectories hmade
  refine ⟨hsource, hstands, hnames, ?_, hcurrent ▸ hapart⟩
  intro i j a b hi hj hij hprefix
  obtain ⟨hilt, hia⟩ := List.getElem?_eq_some_iff.mp hi
  obtain ⟨hjlt, hjb⟩ := List.getElem?_eq_some_iff.mp hj
  have hwhole : g.location w a <+: g.location w b := by
    rw [location_eq g w (hnames a (List.mem_of_getElem? hi)),
      location_eq g w (hnames b (List.mem_of_getElem? hj))]
    exact (List.prefix_append_right_inj _).mpr hprefix
  have hpairs := List.pairwise_iff_getElem.mp htargets
  rcases Nat.lt_or_gt_of_ne hij with hlt | hgt
  · have hpair := hpairs i j hilt hjlt hlt
    rw [hia, hjb] at hpair
    exact hpair.1 hwhole
  · have hpair := hpairs j i hjlt hilt hgt
    rw [hia, hjb] at hpair
    exact hpair.2 hwhole

/-! ## The original templates -/

/-- A template that is read was there before the output directory was made. -/
theorem find?_template (hmade : w.makeDirectories g.output = (w₀, .ok ()))
    {file : TemplateFile} (hfile : file.LeadsDown) {t : Text}
    (hread : w₀.readText (templates.join ⟨file.name⟩) = .ok t) :
    w.tree.find? ((templates.join ⟨file.name⟩).locationFrom w.current) =
      some (.file (.text t)) := by
  have hext := (makeDirectories_keeps w g.output).1
  rw [hmade] at hext
  obtain ⟨l, hlocate, hfind⟩ := exists_of_readText hread
  cases henter : enter w₀.tree (w₀.start templates) templates.steps with
  | error e =>
      obtain ⟨e', he'⟩ := readText_of_not_enter hfile henter
      rw [hread] at he'
      cases he'
  | ok there =>
      have hthere := eq_locationFrom_of_enter henter
      have hl := locate_eq_of_enter hfile henter hlocate
      rw [hthere, ← locationFrom_join w₀ templates hfile, hext.current] at hl
      rw [← hl]
      exact (hext.find? l).file_iff.mp hfind

/-! ## What becomes of the files -/

variable {root : Location} {parts : ℕ → Workspace} {p : Progress}
  {file : TemplateFile}

theorem not_onWay_place (hfile : file.LeadsDown) (root : Location) :
    ¬ OnWay root file.place.dropLast (root ++ file.place) := by
  rintro ⟨ks, -, hprefix, hsame⟩
  have hlength := hprefix.length_le
  have hpos := List.length_pos_of_ne_nil hfile.place_ne_nil
  rw [← List.append_cancel_left hsame, List.length_dropLast] at hlength
  omega

/-- A file that was written holds at its target what its template is emitted
as. -/
theorem Interleaved.written (hlayout : Layout g templates m.files w₀ root)
    (hp : Interleaved g m.files w₀ root parts p) (hdone : AllDone m.files p)
    (hmem : file ∈ m.files) {path : Path}
    (hpath : (g.run file w₀).2.result = .ok path) :
    path = g.target file ∧
      ∃ t, w₀.readText (templates.join ⟨file.name⟩) = .ok t ∧
        p.workspace.readText path = .ok (file.emit g.choices t) := by
  obtain ⟨i, hi⟩ := List.getElem?_of_mem hmem
  have halone := hp.alone hi
  rw [(hp.done hdone hi).1, hpath] at halone
  have hread := readText_of_ahead (hlayout.leadsDown file hmem) hlayout.stands
    halone hp.stands (fun l hl => hp.aheadAt hlayout hi hl)
    (hp.find?_target hlayout hi)
  simpa only [hlayout.fetch_eq_ok_iff] using hread

/-- The target of a job that failed is as it was. -/
theorem Interleaved.failed (hlayout : Layout g templates m.files w₀ root)
    (hp : Interleaved g m.files w₀ root parts p) (hdone : AllDone m.files p)
    (hmem : file ∈ m.files) {e : FileError}
    (he : (g.run file w₀).2.result = .error e) :
    p.workspace.tree.find? (root ++ file.place) =
      w₀.tree.find? (root ++ file.place) := by
  obtain ⟨i, hi⟩ := List.getElem?_of_mem hmem
  have hfile := hlayout.leadsDown file hmem
  rw [hp.find?_target hlayout hi, (hp.done hdone hi).2]
  rcases eq_or_changes_of_alone hfile hlayout.stands (alone_run g file w₀)
    (root ++ file.place) with hsame | ⟨t, -, ⟨hon, -, -⟩ | ⟨hwritten, -, -, -⟩⟩
  · exact hsame
  · exact absurd hon (not_onWay_place hfile root)
  · rw [he] at hwritten
    cases hwritten

/-- All that has changed are targets that were written, and missing directories
on the way to the target of a file whose template was read. -/
theorem Interleaved.changed (hlayout : Layout g templates m.files w₀ root)
    (hp : Interleaved g m.files w₀ root parts p) (hdone : AllDone m.files p)
    {l : Location} (hl : p.workspace.tree.find? l ≠ w₀.tree.find? l) :
    ∃ file ∈ m.files,
      (∃ t, w₀.readText (templates.join ⟨file.name⟩) = .ok t) ∧
      ((l = root ++ file.place ∧
          (g.run file w₀).2.result = .ok (g.target file)) ∨
        (OnWay root file.place.dropLast l ∧ w₀.tree.find? l = none ∧
          p.workspace.tree.find? l = some .directory)) := by
  have hsome : ∃ i, (parts i).tree.find? l ≠ w₀.tree.find? l := by
    by_contra hnone
    push Not at hnone
    exact hl (hp.merges.kept l hnone)
  obtain ⟨i, hi⟩ := hsome
  have hnow := hp.merges.changed i l hi
  obtain ⟨file, t, hfile, hread, hchange⟩ := hp.change hlayout hi
  refine ⟨file, List.mem_of_getElem? hfile,
    ⟨t, hlayout.fetch_eq_ok_iff.mp hread⟩, ?_⟩
  rcases hchange with ⟨hon, hnone, hmade⟩ | ⟨hwritten, hplace, -, -⟩
  · exact Or.inr ⟨hon, hnone, hnow.trans hmade⟩
  · rw [(hp.done hdone hfile).1] at hwritten
    exact Or.inl ⟨hplace, JobState.done.inj hwritten⟩

/-! ## Any order -/

/-- Two orders come to the same report and to the same files. -/
theorem Returns.unique (hlayout : Layout g templates m.files w₀ root)
    (hmade : w.makeDirectories g.output = (w₀, .ok ())) {first second : List ℕ}
    {v v' : Workspace} {report report' : Report}
    (hfirst : g.Returns m w first v report)
    (hsecond : g.Returns m w second v' report') :
    report = report' ∧ ∀ l, v.tree.find? l = v'.tree.find? l := by
  obtain ⟨-, rfl, hreport⟩ := hfirst
  obtain ⟨-, rfl, hreport'⟩ := hsecond
  have hdone := allDone_of_report? hreport
  have hdone' := allDone_of_report? hreport'
  have hstart := interleaved_start hlayout
  obtain ⟨parts, hp⟩ := interleaved_follow hlayout hstart first
  obtain ⟨parts', hp'⟩ := interleaved_follow hlayout hstart second
  rw [← after_of_makeDirectories m hmade] at hp hp'
  rw [hp.report hdone] at hreport
  rw [hp'.report hdone'] at hreport'
  exact ⟨Option.some.inj (hreport.symm.trans hreport'),
    (hp.merges_runs hdone).find?_eq (hp'.merges_runs hdone')⟩

/-- The templates are local and apart from the output directory, and no target
is at or above another. -/
structure KeepsApart (g : Generation) (m : Manifest)
    (w : Workspace) : Prop where
  grounded : w.IsGrounded
  leadsDown : ∀ file ∈ m.files, file.LeadsDown
  targets : m.files.Pairwise fun a b =>
    ¬ g.location w a <+: g.location w b ∧ ¬ g.location w b <+: g.location w a
  templates : ∃ templates, g.source = .directory templates ∧
    ¬ templates.locationFrom w.current <+: g.output.locationFrom w.current ∧
      ¬ g.output.locationFrom w.current <+: templates.locationFrom w.current

/-- Then it does not matter in which order the jobs take their steps. -/
theorem KeepsApart.generateBy_eq (h : g.KeepsApart m w)
    (first second : List ℕ) :
    (g.generateBy first m w).2 = (g.generateBy second m w).2 ∧
      ∀ l, (g.generateBy first m w).1.tree.find? l =
        (g.generateBy second m w).1.tree.find? l := by
  cases hmade : w.makeDirectories g.output with
  | mk w₀ result =>
      cases result with
      | error e =>
          rw [generateBy_of_not_made first m hmade,
            generateBy_of_not_made second m hmade]
          exact ⟨rfl, fun _ => rfl⟩
      | ok _ =>
          obtain ⟨templates, hsource, hapart⟩ := h.templates
          have hlayout := layout_of_makeDirectories h.grounded hsource
            h.leadsDown h.targets hapart hmade
          obtain ⟨v, report, hfirst⟩ := exists_generateBy_eq_ok hmade first
          obtain ⟨v', report', hsecond⟩ := exists_generateBy_eq_ok hmade second
          obtain ⟨rfl, hfiles⟩ :=
            (generateBy_eq_ok_iff.mp hfirst).unique hlayout
            hmade (generateBy_eq_ok_iff.mp hsecond)
          rw [hfirst, hsecond]
          exact ⟨rfl, hfiles⟩

/-- Where the target of one job is the template of another, it does matter. -/
example :
    let g : Generation :=
      ⟨.directory ⟨"tpl".toList⟩, .default, ⟨"out".toList⟩⟩
    let m : Manifest :=
      ⟨[⟨"a.ts".toList, false, false⟩, ⟨"../out/a.ts".toList, false, false⟩]⟩
    let w : Workspace :=
      { tree := ⟨[(["tpl".toList], .directory),
          (["tpl".toList, "a.ts".toList], .file (.text "a".toList))]⟩
        current := [] }
    (g.generateBy [0, 0, 0, 1, 1, 1] m w).2.map Report.isSuccess = .ok true ∧
      (g.generateBy [1, 1, 1, 0, 0, 0] m w).2.map Report.isSuccess =
        .ok false := by
  decide +kernel

/-- The jobs have come to what each of them comes to alone in `w₀`, which is `w`
with the output directory made. -/
structure Settled (g : Generation) (templates : Path) (m : Manifest)
    (w w₀ : Workspace) (p : Progress) : Prop where
  /-- The report has the files of the manifest in its order, each with what its
  job comes to alone. -/
  report : g.report? m.files p =
    some ⟨g.output, m.files.map fun file => (g.run file w₀).2⟩
  /-- It is the report of the jobs one after the other. -/
  generate_report : (g.generate m w).2 =
    .ok ⟨g.output, m.files.map fun file => (g.run file w₀).2⟩
  /-- The files are those of the jobs one after the other. -/
  generate_files : ∀ l,
    p.workspace.tree.find? l = (g.generate m w).1.tree.find? l
  /-- What a job changes alone is changed, and nothing else is. -/
  merges :
    Merges w₀ (fun file : {file // file ∈ m.files} => (g.run file.1 w₀).1)
    p.workspace
  /-- A file that was written is at its target and holds what its template, as
  it was from the beginning, is emitted as. -/
  written : ∀ file ∈ m.files, ∀ path, (g.run file w₀).2.result = .ok path →
    path = g.target file ∧
      ∃ t, w₀.readText (templates.join ⟨file.name⟩) = .ok t ∧
        w.tree.find? ((templates.join ⟨file.name⟩).locationFrom w.current) =
          some (.file (.text t)) ∧
        p.workspace.readText path = .ok (file.emit g.choices t)
  /-- A job whose template is not read says so and changes nothing. -/
  unread : ∀ file ∈ m.files, ∀ e,
    w₀.readText (templates.join ⟨file.name⟩) = .error e →
    g.run file w₀ = (w₀, ⟨file.name,
      .error (.source (.unreadable (templates.join ⟨file.name⟩) e))⟩)
  /-- The target of a job that failed is as it was. -/
  failed : ∀ file ∈ m.files, ∀ e, (g.run file w₀).2.result = .error e →
    p.workspace.tree.find? (g.location w file) =
      w₀.tree.find? (g.location w file)
  /-- Nothing is changed but targets that were written and missing directories
  on the way to the target of a file whose template was read. -/
  changed : ∀ l, p.workspace.tree.find? l ≠ w₀.tree.find? l →
    ∃ file ∈ m.files,
      (∃ t, w₀.readText (templates.join ⟨file.name⟩) = .ok t) ∧
      ((l = g.location w file ∧
          (g.run file w₀).2.result = .ok (g.target file)) ∨
        (OnWay (g.output.locationFrom w.current) file.place.dropLast l ∧
          w₀.tree.find? l = none ∧
          p.workspace.tree.find? l = some .directory))

/-- If the templates are local and apart from the output directory, and no
target is at or above another, the jobs settle in the same way whatever order
their steps take; with three turns each of them is done. -/
theorem follow_settled (g : Generation) (templates : Path) (m : Manifest)
    (w w₀ : Workspace) (hw : w.IsGrounded)
    (hsource : g.source = .directory templates)
    (hnames : ∀ file ∈ m.files, file.LeadsDown)
    (htargets : m.files.Pairwise fun a b =>
      ¬ g.location w a <+: g.location w b ∧ ¬ g.location w b <+: g.location w a)
    (hapart :
      ¬ templates.locationFrom w.current <+: g.output.locationFrom w.current ∧
        ¬ g.output.locationFrom w.current <+: templates.locationFrom w.current)
    (hmade : w.makeDirectories g.output = (w₀, .ok ())) (schedule : List ℕ) :
    ((∀ i < m.files.length, 3 ≤ schedule.count i) →
      AllDone m.files (g.follow m.files schedule (start w₀))) ∧
    (AllDone m.files (g.follow m.files schedule (start w₀)) →
      Settled g templates m w w₀ (g.follow m.files schedule (start w₀))) := by
  refine ⟨fun hturns => allDone_follow g hturns (start w₀), ?_⟩
  intro hdone
  have hlayout := layout_of_makeDirectories hw hsource hnames htargets hapart
    hmade
  have hstart := interleaved_start hlayout
  obtain ⟨parts, hp⟩ := interleaved_follow hlayout hstart schedule
  have hafter := after_of_makeDirectories m hmade schedule
  have hreport := hp.report hdone
  have hreturns : g.Returns m w schedule _ _ :=
    ⟨by rw [hmade], congrArg Progress.workspace hafter, hafter ▸ hreport⟩
  obtain ⟨v, report', hgenerate⟩ := exists_generate_eq_ok (m := m) hmade
  obtain ⟨rfl, hfiles⟩ :=
    hreturns.unique hlayout hmade (returns_of_generate hgenerate)
  refine ⟨hreport, by rw [hgenerate], ?_, hp.merges_runs hdone, ?_, ?_, ?_, ?_⟩
  · intro l
    rw [hgenerate]
    exact hfiles l
  · intro file hmem path hpath
    obtain ⟨htarget, t, hread, hwritten⟩ := hp.written hlayout hdone hmem hpath
    exact ⟨htarget, t, hread, find?_template hmade (hnames file hmem) hread,
      hwritten⟩
  · intro file _ e he
    apply run_eq_of_alone
    apply Alone.unread
    rw [hsource]
    simp only [TemplateSource.fetch, he]
  · intro file hmem e he
    rw [location_eq g w (hnames file hmem)]
    exact hp.failed hlayout hdone hmem he
  · intro l hl
    obtain ⟨file, hmem, hread, hchange⟩ := hp.changed hlayout hdone hl
    refine ⟨file, hmem, hread, ?_⟩
    rw [location_eq g w (hnames file hmem)]
    exact hchange

/-- Three files that go to one directory. -/
def siblings : Manifest :=
  ⟨[⟨"ui/a.ts".toList, false, false⟩, ⟨"ui/b.ts".toList, false, false⟩,
    ⟨"ui/c.ts".toList, false, false⟩]⟩

/-- The templates of the first two of them. -/
def siblingTemplates : Workspace where
  tree := ⟨[(["app".toList], .directory), (["tpl".toList], .directory),
    (["tpl".toList, "ui".toList], .directory),
    (["tpl".toList, "ui".toList, "a.ts".toList], .file (.text "a".toList)),
    (["tpl".toList, "ui".toList, "b.ts".toList], .file (.text "b".toList))]⟩
  current := ["app".toList]

def siblingGeneration : Generation :=
  ⟨.directory ⟨"/tpl".toList⟩, .default, ⟨"../out".toList⟩⟩

def siblingOutput : Workspace :=
  (siblingTemplates.makeDirectories siblingGeneration.output).1

/-- The directory of the files is made by the job that comes to it first, and
the job whose template is missing changes nothing. -/
theorem follow_siblings :
    (∀ l, (siblingGeneration.follow siblings.files [1, 0, 2, 0, 1, 1, 2, 0, 2]
        (start siblingOutput)).workspace.tree.find? l =
      (siblingGeneration.generate siblings siblingTemplates).1.tree.find? l) ∧
    (siblingGeneration.generate siblings siblingTemplates).1.readText
      ⟨"../out/ui/a.ts".toList⟩ = .ok "a".toList ∧
    (siblingGeneration.generate siblings siblingTemplates).1.readText
      ⟨"../out/ui/b.ts".toList⟩ = .ok "b".toList := by
  have hgrounded : siblingTemplates.IsGrounded :=
    isGrounded_of_entries (by decide +kernel) (by decide +kernel)
  have hmade : siblingTemplates.makeDirectories siblingGeneration.output =
      (siblingOutput, .ok ()) :=
    Prod.ext rfl (by decide +kernel)
  obtain ⟨hdone, hsettled⟩ := follow_settled siblingGeneration ⟨"/tpl".toList⟩
    siblings siblingTemplates siblingOutput hgrounded rfl (by decide +kernel)
    (by decide +kernel) (by decide +kernel) hmade [1, 0, 2, 0, 1, 1, 2, 0, 2]
  have hfiles := (hsettled (hdone (by decide +kernel))).generate_files
  have hfirst :
      (siblingGeneration.generate siblings siblingTemplates).1.readText
      ⟨"../out/ui/a.ts".toList⟩ = .ok "a".toList := by
    decide +kernel
  have hsecond :
      (siblingGeneration.generate siblings siblingTemplates).1.readText
      ⟨"../out/ui/b.ts".toList⟩ = .ok "b".toList := by
    decide +kernel
  exact ⟨hfiles, hfirst, hsecond⟩

end FormScaffold.Generation
