import FormScaffold.Proofs.Generation.Containment

/-!
# Generating again

A generation that is run again where it has been comes to the same report and
changes nothing: the directories that were made are there, a text that is
written is the one that stands there already, and what kept a file from being
generated still does.  The jobs of the two runs may take their steps in any two
orders.
-/

namespace FormScaffold.Generation

open Workspace

variable {g : Generation} {templates : Path} {files : List TemplateFile}
  {m : Manifest} {w w₀ u v : Workspace} {root : Location}
  {parts : ℕ → Workspace} {p : Progress} {file : TemplateFile}

/-! ## A job that has been done -/

/-- Where the job of a file works, the workspace holds what its run in `w₀`
leaves, or is ahead of it, and the template is as it was. -/
structure HasRun (g : Generation) (file : TemplateFile) (root : Location)
    (w₀ u : Workspace) : Prop where
  stands : g.Stands u root
  fetch : g.source.fetch u file.name = g.source.fetch w₀ file.name
  way : ∀ l, OnWay root file.place.dropLast l → AheadAt u (g.run file w₀).1 l
  target : u.tree.find? (root ++ file.place) =
    (g.run file w₀).1.tree.find? (root ++ file.place)

theorem find?_run_of_onWay (hfile : file.LeadsDown) (hw₀ : g.Stands w₀ root)
    {t : Text} (hread : g.source.fetch w₀ file.name = .ok t) {l : Location}
    (hl : OnWay root file.place.dropLast l) :
    (g.run file w₀).1.tree.find? l =
      (placeFor w₀ (g.target file)).1.tree.find? l := by
  cases hplace : placeFor w₀ (g.target file) with
  | mk v result =>
      cases result with
      | error e => rw [run_eq_of_alone (.unplaced hread hplace)]
      | ok _ =>
          cases hwrite : v.writeText (g.target file)
            (file.emit g.choices t) with
          | error e => rw [run_eq_of_alone (.unwritten hread hplace hwrite)]
          | ok v' =>
              have hv := (alone_stands hfile hw₀ (.placed hread hplace)).1
              obtain ⟨-, rfl⟩ := eq_put_of_writeText hfile hv
                (enter_of_placeFor hfile hw₀ hplace) hwrite
              rw [run_eq_of_alone (.written hread hplace hwrite)]
              simp only
              rw [find?_put v (root_append_place_ne_nil hfile root), if_neg]
              rintro rfl
              exact not_onWay_place hfile root hl

theorem HasRun.placeFor_eq (hfile : file.LeadsDown) (hw₀ : g.Stands w₀ root)
    (hu : HasRun g file root w₀ u) {t : Text}
    (hread : g.source.fetch w₀ file.name = .ok t) :
    placeFor u (g.target file) = (u, (placeFor w₀ (g.target file)).2) := by
  apply placeFor_again hfile hw₀ hu.stands
  intro l hl
  have hway := hu.way l hl
  unfold AheadAt at hway ⊢
  rwa [find?_run_of_onWay hfile hw₀ hread hl] at hway

/-- A text that was written is written over itself, and what kept it from being
written still does: that is seen from the entry at the target alone. -/
theorem HasRun.writeText_eq (hfile : file.LeadsDown) (hw₀ : g.Stands w₀ root)
    (hu : HasRun g file root w₀ u) {t : Text}
    (hread : g.source.fetch w₀ file.name = .ok t)
    (hplace : placeFor w₀ (g.target file) = (v, .ok ())) :
    match u.writeText (g.target file) (file.emit g.choices t) with
    | .ok u' => u' = u ∧ (g.run file w₀).2.result = .ok (g.target file)
    | .error e =>
      (g.run file w₀).2.result = .error (.notWritten (g.target file) e) := by
  have hagain := hu.placeFor_eq hfile hw₀ hread
  rw [hplace] at hagain
  have henter := enter_of_placeFor hfile hu.stands hagain
  have hv := (alone_stands hfile hw₀ (.placed hread hplace)).1
  have henter' := enter_of_placeFor hfile hw₀ hplace
  have hne := root_append_place_ne_nil hfile root
  have htarget := hu.target
  rw [writeText_target hfile hu.stands henter]
  cases hwrite : v.writeText (g.target file) (file.emit g.choices t) with
  | error e =>
      rw [run_eq_of_alone (.unwritten hread hplace hwrite)] at htarget ⊢
      rw [writeText_target hfile hv henter'] at hwrite
      rw [htarget]
      split at hwrite
      next fault hfault =>
        cases hwrite
        rw [hfault]
      next => cases hwrite
  | ok v' =>
      rw [run_eq_of_alone (.written hread hplace hwrite)] at htarget ⊢
      obtain ⟨hfault, rfl⟩ := eq_put_of_writeText hfile hv henter' hwrite
      rw [find?_put v hne, if_pos rfl] at htarget
      rw [htarget, writeFault_of_file hfault]
      exact ⟨put_of_find? hne htarget, rfl⟩

/-- Whatever the job comes to alone where it has been done, it changes nothing,
and in the end it has the same outcome. -/
theorem HasRun.alone (hfile : file.LeadsDown) (hw₀ : g.Stands w₀ root)
    (hu : HasRun g file root w₀ u) {s : JobState}
    (halone : Alone g file u v s) :
    v = u ∧ ∀ result, s = .done result → (g.run file w₀).2.result = result := by
  have hplaced : ∀ {t v result}, g.source.fetch u file.name = .ok t →
      placeFor u (g.target file) = (v, result) →
      g.source.fetch w₀ file.name = .ok t ∧ v = u ∧
        placeFor w₀ (g.target file) =
          ((placeFor w₀ (g.target file)).1, result) := by
    intro t v result hread hplace
    rw [hu.fetch] at hread
    rw [hu.placeFor_eq hfile hw₀ hread] at hplace
    obtain ⟨rfl, rfl⟩ := Prod.mk.inj hplace
    exact ⟨hread, rfl, rfl⟩
  cases halone with
  | waiting => exact ⟨rfl, by simp⟩
  | unread hread =>
      rw [hu.fetch] at hread
      rw [run_eq_of_alone (.unread hread)]
      exact ⟨rfl, by simp⟩
  | emitted hread => exact ⟨rfl, by simp⟩
  | unplaced hread hplace =>
      obtain ⟨hread₀, rfl, hplace₀⟩ := hplaced hread hplace
      rw [run_eq_of_alone (.unplaced hread₀ hplace₀)]
      exact ⟨rfl, by simp⟩
  | placed hread hplace => exact ⟨(hplaced hread hplace).2.1, by simp⟩
  | unwritten hread hplace hwrite =>
      obtain ⟨hread₀, rfl, hplace₀⟩ := hplaced hread hplace
      have hagain := hu.writeText_eq hfile hw₀ hread₀ hplace₀
      rw [hwrite] at hagain
      rw [hagain]
      exact ⟨rfl, by simp⟩
  | written hread hplace hwrite =>
      obtain ⟨hread₀, rfl, hplace₀⟩ := hplaced hread hplace
      have hagain := hu.writeText_eq hfile hw₀ hread₀ hplace₀
      rw [hwrite] at hagain
      obtain ⟨rfl, hresult⟩ := hagain
      rw [hresult]
      exact ⟨rfl, by simp⟩

/-! ## All jobs -/

theorem Interleaved.hasRun (hlayout : Layout g templates files w₀ root)
    (hp : Interleaved g files w₀ root parts p) (hdone : AllDone files p) {i : ℕ}
    (hi : files[i]? = some file) : HasRun g file root w₀ p.workspace := by
  have hpart := (hp.done hdone hi).2
  refine ⟨hp.stands,
    hp.fetch_template hlayout (hlayout.leadsDown_of_getElem? hi), ?_, ?_⟩
  · intro l hl
    rw [← hpart]
    exact hp.aheadAt hlayout hi hl
  · rw [← hpart]
    exact hp.find?_target hlayout hi

/-- Jobs that are run again, each as far as it can be alone, in a workspace they
leave as it is. -/
structure Again (g : Generation) (files : List TemplateFile) (u : Workspace)
    (q : Progress) : Prop where
  workspace : q.workspace = u
  alone : ∀ {i : ℕ} {file : TemplateFile}, files[i]? = some file →
    Alone g file u u (q.states i)

variable {q : Progress}

theorem again_start (g : Generation) (files : List TemplateFile)
    (u : Workspace) :
    Again g files u (start u) :=
  ⟨rfl, fun _ => .waiting⟩

/-- A step is one of the job alone in `u`, where it has been done. -/
theorem again_advance (hleads : ∀ file ∈ files, file.LeadsDown)
    (hw₀ : g.Stands w₀ root)
    (hrun : ∀ file ∈ files, HasRun g file root w₀ u) (hq : Again g files u q)
    (i : ℕ) : Again g files u (g.advance files q i) := by
  cases hi : files[i]? with
  | none => exact (advance_of_absent hi q).symm ▸ hq
  | some file =>
      have hmem := List.mem_of_getElem? hi
      have hstep := alone_step (hq.alone hi)
      have hstay := (hrun file hmem).alone (hleads file hmem) hw₀ hstep
      rw [advance_of_getElem? hi, hq.workspace]
      refine ⟨hstay.1, ?_⟩
      intro j b hj
      by_cases hji : j = i
      · subst hji
        obtain rfl : file = b := Option.some.inj (hi.symm.trans hj)
        rw [hstay.1] at hstep
        simpa using hstep
      · simpa only [Function.update_of_ne hji] using hq.alone hj

theorem again_follow (hleads : ∀ file ∈ files, file.LeadsDown)
    (hw₀ : g.Stands w₀ root)
    (hrun : ∀ file ∈ files, HasRun g file root w₀ u) (hq : Again g files u q)
    (schedule : List ℕ) : Again g files u (g.follow files schedule q) := by
  induction schedule generalizing q with
  | nil => exact hq
  | cons i schedule ih => exact ih (again_advance hleads hw₀ hrun hq i)

theorem Again.report (hleads : ∀ file ∈ files, file.LeadsDown)
    (hw₀ : g.Stands w₀ root)
    (hrun : ∀ file ∈ files, HasRun g file root w₀ u) (hq : Again g files u q)
    (hdone : AllDone files q) :
    g.report? files q =
      some ⟨g.output, files.map fun file => (g.run file w₀).2⟩ := by
  apply report?_of_done
  intro i file hi
  have hmem := List.mem_of_getElem? hi
  obtain ⟨hlength, -⟩ := List.getElem?_eq_some_iff.mp hi
  obtain ⟨result, hresult⟩ := hdone i hlength
  have halone := (hrun file hmem).alone (hleads file hmem) hw₀ (hq.alone hi)
  rw [halone.2 result hresult, hresult]

theorem makeDirectories_again
    (hmade : w.makeDirectories g.output = (w₀, .ok ()))
    (hu : g.Stands u root) : u.makeDirectories g.output = (u, .ok ()) := by
  by_cases hempty : g.output.text = []
  · rw [makeDirectories, if_pos hempty]
  · have hrefused := refused_of_isDirectory
      (isDirectory_of_makeDirectories hempty hmade)
    exact makeDirectories_of_isDirectory
      ((isDirectory_iff hrefused).mpr ⟨root, hu.output⟩)

theorem Returns.again (hmade : w.makeDirectories g.output = (w₀, .ok ()))
    (hlayout : Layout g templates m.files w₀ root) {first : List ℕ}
    {report : Report} (hfirst : g.Returns m w first v report) :
    v.makeDirectories g.output = (v, .ok ()) ∧
      ∀ second, (g.after m v second).workspace = v ∧
        (AllDone m.files (g.after m v second) →
          g.Returns m v second v report) := by
  obtain ⟨-, hworkspace, hreport⟩ := hfirst
  have hdone := allDone_of_report? hreport
  obtain ⟨parts, hp⟩ := interleaved_follow hlayout (interleaved_start hlayout)
    first
  rw [← after_of_makeDirectories m hmade] at hp
  rw [hp.report hdone] at hreport
  have hrun : ∀ file ∈ m.files, HasRun g file root w₀ v := by
    intro file hmem
    obtain ⟨i, hi⟩ := List.getElem?_of_mem hmem
    rw [← hworkspace]
    exact hp.hasRun hlayout hdone hi
  have hmade' : v.makeDirectories g.output = (v, .ok ()) :=
    makeDirectories_again hmade (hworkspace ▸ hp.stands)
  refine ⟨hmade', ?_⟩
  intro second
  have hagain := again_follow hlayout.leadsDown hlayout.stands hrun
    (again_start g m.files v) second
  rw [← after_of_makeDirectories m hmade'] at hagain
  refine ⟨hagain.workspace, ?_⟩
  intro hdone'
  refine ⟨by rw [hmade'], hagain.workspace, ?_⟩
  rw [← hreport]
  exact hagain.report hlayout.leadsDown hlayout.stands hrun hdone'

/-- If the templates are local and apart from the output directory, and no
target is at or above another, a generation that has returned returns the same
report again, whatever orders the jobs of the two runs take, and at no time does
it change anything. -/
theorem generate_again (g : Generation) (templates : Path) (m : Manifest)
    (w : Workspace) (hw : w.IsGrounded)
    (hsource : g.source = .directory templates)
    (hnames : ∀ file ∈ m.files, file.LeadsDown)
    (htargets : m.files.Pairwise fun a b =>
      ¬ g.location w a <+: g.location w b ∧ ¬ g.location w b <+: g.location w a)
    (hapart :
      ¬ templates.locationFrom w.current <+: g.output.locationFrom w.current ∧
        ¬ g.output.locationFrom w.current <+:
          templates.locationFrom w.current) :
    (∀ v report, g.generate m w = (v, .ok report) →
      g.generate m v = (v, .ok report)) ∧
    ∀ first v report, g.Returns m w first v report →
      v.makeDirectories g.output = (v, .ok ()) ∧
        ∀ second, (g.after m v second).workspace = v ∧
          ((∀ i < m.files.length, 3 ≤ second.count i) →
            AllDone m.files (g.after m v second)) ∧
          (AllDone m.files (g.after m v second) →
            g.Returns m v second v report) := by
  have hagain : ∀ first v report, g.Returns m w first v report →
      v.makeDirectories g.output = (v, .ok ()) ∧
        ∀ second, (g.after m v second).workspace = v ∧
          (AllDone m.files (g.after m v second) →
            g.Returns m v second v report) := by
    intro first v report hfirst
    have hmade : w.makeDirectories g.output =
        ((w.makeDirectories g.output).1, .ok ()) := Prod.ext rfl hfirst.made
    exact hfirst.again hmade
      (layout_of_makeDirectories hw hsource hnames htargets hapart hmade)
  constructor
  · intro v report hgenerate
    obtain ⟨hmade, hsecond⟩ := hagain _ v report (returns_of_generate hgenerate)
    obtain ⟨u, report', hgenerate'⟩ := exists_generate_eq_ok (m := m) hmade
    have hagain' := returns_of_generate hgenerate'
    obtain ⟨hworkspace, hreturns⟩ := hsecond (turns 0 m.files.length)
    have hreport := (hreturns (allDone_of_report? hagain'.report)).report
    rw [hgenerate', ← hagain'.workspace, hworkspace,
      ← Option.some.inj (hreport.symm.trans hagain'.report)]
  · intro first v report hfirst
    obtain ⟨hmade, hsecond⟩ := hagain first v report hfirst
    refine ⟨hmade, ?_⟩
    intro second
    obtain ⟨hworkspace, hreturns⟩ := hsecond second
    exact ⟨hworkspace, fun hturns => allDone_follow g hturns _, hreturns⟩

/-- A file, a directory in place of a file, a file in place of a directory, and
a file without a template. -/
def mixedManifest : Manifest :=
  ⟨[⟨"ui/a.ts".toList, true, true⟩, ⟨"ui/b.ts".toList, false, false⟩,
    ⟨"lib/deep/c.ts".toList, false, false⟩, ⟨"d.ts".toList, false, false⟩]⟩

/-- The templates of the first three of them, and what is in the way. -/
def cluttered : Workspace where
  tree := ⟨[(["app".toList], .directory), (["out".toList], .directory),
    (["out".toList, "ui".toList], .directory),
    (["out".toList, "ui".toList, "b.ts".toList], .directory),
    (["out".toList, "lib".toList], .file (.text "mine".toList)),
    (["tpl".toList], .directory), (["tpl".toList, "ui".toList], .directory),
    (["tpl".toList, "lib".toList], .directory),
    (["tpl".toList, "lib".toList, "deep".toList], .directory),
    (["tpl".toList, "ui".toList, "a.ts".toList], .file (.text "a".toList)),
    (["tpl".toList, "ui".toList, "b.ts".toList], .file (.text "b".toList)),
    (["tpl".toList, "lib".toList, "deep".toList, "c.ts".toList],
      .file (.text "c".toList))]⟩
  current := ["app".toList]

/-- One file is written and three fail, and so they do again. -/
theorem generate_again_cluttered :
    (siblingGeneration.generate mixedManifest cluttered).2.toOption.map
        (fun report => (report.written, report.failures)) =
      some ([⟨"../out/ui/a.ts".toList⟩],
        [("ui/b.ts".toList, .notWritten ⟨"../out/ui/b.ts".toList⟩ .isDirectory),
          ("lib/deep/c.ts".toList,
            .directoryNotMade ⟨"../out/lib/deep".toList⟩ .notDirectory),
          ("d.ts".toList,
            .source (.unreadable ⟨"/tpl/d.ts".toList⟩ .notFound))]) ∧
    siblingGeneration.generate mixedManifest
        (siblingGeneration.generate mixedManifest cluttered).1 =
      siblingGeneration.generate mixedManifest cluttered := by
  have hgrounded : cluttered.IsGrounded :=
    isGrounded_of_entries (by decide +kernel) (by decide +kernel)
  have hagain := generate_again siblingGeneration ⟨"/tpl".toList⟩ mixedManifest
    cluttered hgrounded rfl (by decide +kernel) (by decide +kernel)
      (by decide +kernel)
  refine ⟨by decide +kernel, ?_⟩
  cases hgenerate : siblingGeneration.generate mixedManifest cluttered with
  | mk v result =>
      cases result with
      | error e =>
          have hmade :
              (siblingGeneration.generate mixedManifest cluttered).2.toBool =
              true := by
            decide +kernel
          rw [hgenerate] at hmade
          cases hmade
      | ok report => exact hagain.1 v report hgenerate

end FormScaffold.Generation
