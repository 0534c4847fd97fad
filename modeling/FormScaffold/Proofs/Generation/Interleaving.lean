import FormScaffold.Proofs.Generation.Schedule

/-!
# Jobs that share a workspace

The jobs of a generation take their steps in any order.  What a job has done at
some time is what it does alone in the same number of steps, and the workspace
they share is the one they began with, together with the changes of each: the
directories that several jobs make are the same, and no job looks at a file that
another writes.
-/

namespace FormScaffold

open Workspace

/-- The workspace holds what each part changed in the first, and nothing else is
changed. -/
structure Merges {ι : Type} (w₀ : Workspace) (parts : ι → Workspace)
    (w : Workspace) : Prop where
  current : w.current = w₀.current
  kept : ∀ l, (∀ i, (parts i).tree.find? l = w₀.tree.find? l) →
    w.tree.find? l = w₀.tree.find? l
  changed : ∀ i l, (parts i).tree.find? l ≠ w₀.tree.find? l →
    w.tree.find? l = (parts i).tree.find? l

theorem Merges.find?_eq {ι : Type} {w₀ w w' : Workspace} {parts : ι → Workspace}
    (hw : Merges w₀ parts w) (hw' : Merges w₀ parts w') (l : Location) :
    w.tree.find? l = w'.tree.find? l := by
  by_cases hall : ∀ i, (parts i).tree.find? l = w₀.tree.find? l
  · rw [hw.kept l hall, hw'.kept l hall]
  · push Not at hall
    obtain ⟨i, hi⟩ := hall
    rw [hw.changed i l hi, hw'.changed i l hi]

/-- One part goes on, and the workspace with it: it is changed as the part is,
and what the others have changed stays. -/
theorem Merges.update {ι : Type} [DecidableEq ι] {w₀ w w' v' : Workspace}
    {parts : ι → Workspace} (hw : Merges w₀ parts w) (i : ι)
    (hcurrent : w'.current = w.current)
    (hown : ∀ l, (w'.tree.find? l = w.tree.find? l ∧
        v'.tree.find? l = (parts i).tree.find? l) ∨
      w'.tree.find? l = v'.tree.find? l)
    (hothers : ∀ j ≠ i, ∀ l, (parts j).tree.find? l ≠ w₀.tree.find? l →
      w'.tree.find? l = (parts j).tree.find? l) :
    Merges w₀ (Function.update parts i v') w' where
  current := hcurrent.trans hw.current
  kept := by
    intro l hall
    have hpart : v'.tree.find? l = w₀.tree.find? l := by
      simpa using hall i
    rcases hown l with ⟨hsame, hsame'⟩ | hnow
    · apply hsame.trans
      apply hw.kept
      intro j
      by_cases hji : j = i
      · rw [hji, ← hsame']
        exact hpart
      · simpa [Function.update_of_ne hji] using hall j
    · exact hnow.trans hpart
  changed := by
    intro j l hchanged
    by_cases hji : j = i
    · subst hji
      rw [Function.update_self] at hchanged ⊢
      rcases hown l with ⟨hsame, hsame'⟩ | hnow
      · rw [hsame'] at hchanged ⊢
        exact hsame.trans (hw.changed j l hchanged)
      · exact hnow
    · rw [Function.update_of_ne hji] at hchanged ⊢
      exact hothers j hji l hchanged

namespace Generation

/-- The templates are local and lie apart from the output directory, which is
there, and each file has a target of its own below it. -/
structure Layout (g : Generation) (templates : Path) (files : List TemplateFile)
    (w₀ : Workspace) (root : Location) : Prop where
  source : g.source = .directory templates
  stands : g.Stands w₀ root
  leadsDown : ∀ file ∈ files, file.LeadsDown
  separate : ∀ {i j : ℕ} {a b : TemplateFile}, files[i]? = some a →
    files[j]? = some b → i ≠ j → ¬ a.place <+: b.place
  apart : ¬ templates.locationFrom w₀.current <+: root ∧
    ¬ root <+: templates.locationFrom w₀.current

/-- Each job is where it can be alone, and the shared workspace merges what they
have done. -/
structure Interleaved (g : Generation) (files : List TemplateFile)
    (w₀ : Workspace)
    (root : Location) (parts : ℕ → Workspace) (p : Progress) : Prop where
  stands : g.Stands p.workspace root
  alone : ∀ {i : ℕ} {file : TemplateFile}, files[i]? = some file →
    Alone g file w₀ (parts i) (p.states i)
  absent : ∀ {i : ℕ}, files[i]? = none → parts i = w₀
  merges : Merges w₀ parts p.workspace

variable {g : Generation} {templates : Path} {files : List TemplateFile}
  {w₀ : Workspace} {root : Location} {parts : ℕ → Workspace} {p : Progress}

theorem interleaved_start (hlayout : Layout g templates files w₀ root) :
    Interleaved g files w₀ root (fun _ => w₀) (start w₀) where
  stands := hlayout.stands
  alone := fun _ => .waiting
  absent := fun _ => rfl
  merges := ⟨rfl, fun _ _ => rfl, fun _ _ hne => absurd rfl hne⟩

/-! ## Places -/

theorem Layout.leadsDown_of_getElem?
    (hlayout : Layout g templates files w₀ root)
    {i : ℕ} {file : TemplateFile} (hi : files[i]? = some file) :
    file.LeadsDown :=
  hlayout.leadsDown file (List.mem_of_getElem? hi)

theorem prefix_of_onWay {ns : List Text} {l : Location} (hl : OnWay root ns l) :
    root <+: l := by
  obtain ⟨ks, -, -, rfl⟩ := hl
  exact List.prefix_append root ks

theorem place_prefix_of_onWay {file : TemplateFile} {ks : List Text}
    (hl : OnWay root file.place.dropLast (root ++ ks)) : ks <+: file.place := by
  obtain ⟨js, -, hprefix, hsame⟩ := hl
  rw [List.append_cancel_left hsame]
  exact hprefix.trans (List.dropLast_prefix file.place)

/-- What one job makes on its way is not what another writes. -/
theorem Layout.not_onWay_target (hlayout : Layout g templates files w₀ root)
    {i j : ℕ} {a b : TemplateFile} (hi : files[i]? = some a)
    (hj : files[j]? = some b) (hij : i ≠ j) :
    ¬ OnWay root a.place.dropLast (root ++ b.place) := by
  intro hon
  exact hlayout.separate hj hi hij.symm (place_prefix_of_onWay hon)

theorem Layout.target_ne (hlayout : Layout g templates files w₀ root)
    {i j : ℕ} {a b : TemplateFile} (hi : files[i]? = some a)
    (hj : files[j]? = some b) (hij : i ≠ j) :
    root ++ a.place ≠ root ++ b.place := by
  intro hsame
  apply hlayout.separate hi hj hij
  rw [List.append_cancel_left hsame]

/-- What is changed is changed by a job whose template was read. -/
theorem Interleaved.change (hlayout : Layout g templates files w₀ root)
    (hp : Interleaved g files w₀ root parts p) {i : ℕ} {l : Location}
    (hl : (parts i).tree.find? l ≠ w₀.tree.find? l) :
    ∃ file t, files[i]? = some file ∧ g.source.fetch w₀ file.name = .ok t ∧
      Changes g file t root w₀ (parts i) (p.states i) l := by
  cases hi : files[i]? with
  | none =>
      rw [hp.absent hi] at hl
      exact absurd rfl hl
  | some file =>
      rcases eq_or_changes_of_alone (hlayout.leadsDown_of_getElem? hi)
        hlayout.stands (hp.alone hi) l with hsame | ⟨t, hread, hchange⟩
      · exact absurd hsame hl
      · exact ⟨file, t, rfl, hread, hchange⟩

/-- At a location that a job does not change, the workspace holds what the job
would find alone, or what another job has made. -/
theorem Interleaved.eq_or_other (hp : Interleaved g files w₀ root parts p)
    (i : ℕ) (l : Location) :
    p.workspace.tree.find? l = (parts i).tree.find? l ∨
      ∃ j, i ≠ j ∧ (parts i).tree.find? l = w₀.tree.find? l ∧
        (parts j).tree.find? l ≠ w₀.tree.find? l ∧
        p.workspace.tree.find? l = (parts j).tree.find? l := by
  by_cases hown : (parts i).tree.find? l = w₀.tree.find? l
  · by_cases hall : ∀ j, (parts j).tree.find? l = w₀.tree.find? l
    · exact Or.inl ((hp.merges.kept l hall).trans hown.symm)
    · push Not at hall
      obtain ⟨j, hj⟩ := hall
      refine Or.inr ⟨j, ?_, hown, hj, hp.merges.changed j l hj⟩
      rintro rfl
      exact hj hown
  · exact Or.inl (hp.merges.changed i l hown)

theorem Interleaved.aheadAt (hlayout : Layout g templates files w₀ root)
    (hp : Interleaved g files w₀ root parts p) {i : ℕ} {file : TemplateFile}
    (hi : files[i]? = some file) {l : Location}
    (hl : OnWay root file.place.dropLast l) :
    AheadAt p.workspace (parts i) l := by
  rcases hp.eq_or_other i l with hsame | ⟨j, hij, hown, hother, hnow⟩
  · exact Or.inl hsame
  · obtain ⟨b, t, hj, -, hchange⟩ := hp.change hlayout hother
    rcases hchange with ⟨-, hnone, hmade⟩ | ⟨-, rfl, -, -⟩
    · exact Or.inr ⟨hown.trans hnone, hnow.trans hmade⟩
    · exact absurd hl (hlayout.not_onWay_target hi hj hij)

theorem Interleaved.find?_target (hlayout : Layout g templates files w₀ root)
    (hp : Interleaved g files w₀ root parts p) {i : ℕ} {file : TemplateFile}
    (hi : files[i]? = some file) :
    p.workspace.tree.find? (root ++ file.place) =
      (parts i).tree.find? (root ++ file.place) := by
  rcases hp.eq_or_other i (root ++ file.place) with hsame |
    ⟨j, hij, -, hother, -⟩
  · exact hsame
  · obtain ⟨b, t, hj, -, hchange⟩ := hp.change hlayout hother
    rcases hchange with ⟨hon, -, -⟩ | ⟨-, hplace, -, -⟩
    · exact absurd hon (hlayout.not_onWay_target hj hi hij.symm)
    · exact absurd hplace (hlayout.target_ne hi hj hij)

/-! ## Reading templates -/

theorem Interleaved.keeps_directory (hlayout : Layout g templates files w₀ root)
    (hp : Interleaved g files w₀ root parts p) {l : Location}
    (hl : w₀.tree.find? l = some .directory) :
    p.workspace.tree.find? l = some .directory := by
  rw [← hl]
  apply hp.merges.kept
  intro i
  by_contra hchanged
  obtain ⟨b, t, -, -, ⟨-, hnone, -⟩ | ⟨-, -, hfree, -⟩⟩ :=
    hp.change hlayout hchanged
  · rw [hl] at hnone
    cases hnone
  · exact hfree hl

/-- Apart from the output directory nothing is changed. -/
theorem Interleaved.find?_apart (hlayout : Layout g templates files w₀ root)
    (hp : Interleaved g files w₀ root parts p) {l : Location}
    (hl : templates.locationFrom w₀.current <+: l) :
    p.workspace.tree.find? l = w₀.tree.find? l := by
  apply hp.merges.kept
  intro i
  by_contra hchanged
  have hroot : root <+: l := by
    obtain ⟨b, t, -, -, ⟨hon, -, -⟩ | ⟨-, rfl, -, -⟩⟩ :=
      hp.change hlayout hchanged
    · exact prefix_of_onWay hon
    · exact List.prefix_append root b.place
  rcases List.prefix_or_prefix_of_prefix hl hroot with hin | hin
  · exact hlayout.apart.1 hin
  · exact hlayout.apart.2 hin

theorem readText_of_not_enter {w : Workspace} {file : TemplateFile}
    {e : IoError} (hfile : file.LeadsDown)
    (henter : enter w.tree (w.start templates) templates.steps = .error e) :
    ∃ e', w.readText (templates.join ⟨file.name⟩) = .error e' := by
  have hlocate : ∃ e', w.locate (templates.join ⟨file.name⟩) = .error e' := by
    cases hrefused : refused (templates.join ⟨file.name⟩) with
    | some e' => exact ⟨e', locate_of_refused hrefused w⟩
    | none =>
        refine ⟨e, ?_⟩
        rw [locate_join w hfile.relative hrefused, henter]
        rfl
  obtain ⟨e', he'⟩ := hlocate
  refine ⟨e', ?_⟩
  unfold readText entryAt
  rw [he']
  rfl

theorem locate_eq_of_enter {w : Workspace} {file : TemplateFile}
    {there l : Location} (hfile : file.LeadsDown)
    (henter : enter w.tree (w.start templates) templates.steps = .ok there)
    (hlocate : w.locate (templates.join ⟨file.name⟩) = .ok l) :
    l = there ++ file.place := by
  cases hrefused : refused (templates.join ⟨file.name⟩) with
  | some e =>
      rw [locate_of_refused hrefused] at hlocate
      cases hlocate
  | none =>
      rw [locate_join w hfile.relative hrefused, henter] at hlocate
      rw [eq_foldl_seenFrom_of_walk hlocate]
      change (Path.steps ⟨file.name⟩).foldl _ _ = _
      rw [hfile.steps_eq, foldl_seenFrom_names]

theorem Interleaved.start_eq (hp : Interleaved g files w₀ root parts p)
    (q : Path) :
    p.workspace.start q = w₀.start q := by
  unfold Workspace.start
  rw [hp.merges.current]

/-- Where the templates are not reached, none is read and nothing is changed. -/
theorem Interleaved.find?_of_not_enter
    (hlayout : Layout g templates files w₀ root)
    (hp : Interleaved g files w₀ root parts p) {e : IoError}
    (henter : enter w₀.tree (w₀.start templates) templates.steps = .error e)
    (l : Location) : p.workspace.tree.find? l = w₀.tree.find? l := by
  apply hp.merges.kept
  intro i
  by_contra hchanged
  obtain ⟨b, t, hi, hread, -⟩ := hp.change hlayout hchanged
  obtain ⟨e', he'⟩ := readText_of_not_enter
    (hlayout.leadsDown_of_getElem? hi) henter
  rw [hlayout.source] at hread
  simp only [TemplateSource.fetch, he'] at hread
  cases hread

/-- Where they are reached, a template is looked for at the same place as
before. -/
theorem Interleaved.locate_template (hlayout : Layout g templates files w₀ root)
    (hp : Interleaved g files w₀ root parts p) {file : TemplateFile}
    (hfile : file.LeadsDown) {there : Location}
    (henter : enter w₀.tree (w₀.start templates) templates.steps = .ok there) :
    p.workspace.locate (templates.join ⟨file.name⟩) =
      w₀.locate (templates.join ⟨file.name⟩) := by
  cases hrefused : refused (templates.join ⟨file.name⟩) with
  | some e => rw [locate_of_refused hrefused, locate_of_refused hrefused]
  | none =>
      have henter' := enter_of_keeps (fun l => hp.keeps_directory hlayout)
        henter
      rw [locate_join _ hfile.relative hrefused,
        locate_join _ hfile.relative hrefused, hp.start_eq, henter, henter']
      apply walk_congr_below
      · intro l hl
        exact hp.find?_apart hlayout (eq_locationFrom_of_enter henter ▸ hl)
      · intro c hc
        change c ∈ Path.steps ⟨file.name⟩ at hc
        rw [hfile.steps_eq] at hc
        rcases List.mem_map.mp hc with ⟨n, -, rfl⟩
        exact ⟨n, rfl⟩

/-- No job changes what another reads. -/
theorem Interleaved.readText_template
    (hlayout : Layout g templates files w₀ root)
    (hp : Interleaved g files w₀ root parts p) {file : TemplateFile}
    (hfile : file.LeadsDown) :
    p.workspace.readText (templates.join ⟨file.name⟩) =
      w₀.readText (templates.join ⟨file.name⟩) := by
  cases henter : enter w₀.tree (w₀.start templates) templates.steps with
  | ok there =>
      apply readText_congr (hp.locate_template hlayout hfile henter)
      intro l hl
      apply hp.find?_apart hlayout
      rw [locate_eq_of_enter hfile henter hl, eq_locationFrom_of_enter henter]
      exact List.prefix_append _ file.place
  | error e =>
      have hsame := hp.find?_of_not_enter hlayout henter
      apply readText_congr
      · unfold locate
        rw [hp.start_eq, walk_congr hsame]
      · intro l _
        exact hsame l

theorem Layout.fetch_eq_ok_iff (hlayout : Layout g templates files w₀ root)
    {name t : Text} :
    g.source.fetch w₀ name = .ok t ↔ w₀.readText (templates.join ⟨name⟩) =
      .ok t := by
  rw [hlayout.source]
  simp only [TemplateSource.fetch]
  split
  next s hs => rw [hs, Except.ok.injEq, Except.ok.injEq]
  next e he => simp [he]

theorem Interleaved.fetch_template (hlayout : Layout g templates files w₀ root)
    (hp : Interleaved g files w₀ root parts p) {file : TemplateFile}
    (hfile : file.LeadsDown) :
    g.source.fetch p.workspace file.name = g.source.fetch w₀ file.name := by
  rw [hlayout.source]
  simp only [TemplateSource.fetch]
  rw [hp.readText_template hlayout hfile]

/-! ## Steps and runs -/

/-- A step of one job leaves what the others have changed. -/
theorem Interleaved.find?_other (hlayout : Layout g templates files w₀ root)
    (hp : Interleaved g files w₀ root parts p) {i j : ℕ} (hij : i ≠ j)
    {file : TemplateFile} (hi : files[i]? = some file) {w' v' : Workspace}
    {l : Location} (hl : (parts j).tree.find? l ≠ w₀.tree.find? l)
    (halike : StepAlike file root p.workspace (parts i) w' v' l) :
    w'.tree.find? l = (parts j).tree.find? l := by
  rcases halike with ⟨hsame, -⟩ | ⟨hnow, hown⟩
  · exact hsame.trans (hp.merges.changed j l hl)
  · obtain ⟨b, t, hj, -, hchange⟩ := hp.change hlayout hl
    rcases hown with ⟨hon, hmade⟩ | rfl
    · rcases hchange with ⟨-, -, hmade'⟩ | ⟨-, rfl, -, -⟩
      · exact hnow.trans (hmade.trans hmade'.symm)
      · exact absurd hon (hlayout.not_onWay_target hi hj hij)
    · rcases hchange with ⟨hon, -, -⟩ | ⟨-, hplace, -, -⟩
      · exact absurd hon (hlayout.not_onWay_target hj hi hij.symm)
      · exact absurd hplace (hlayout.target_ne hi hj hij)

/-- Only the part of the job that takes the step moves, and no other job looks
where it has changed something. -/
theorem interleaved_advance (hlayout : Layout g templates files w₀ root)
    (hp : Interleaved g files w₀ root parts p) (i : ℕ) :
    ∃ parts', Interleaved g files w₀ root parts' (g.advance files p i) := by
  cases hi : files[i]? with
  | none => exact ⟨parts, (advance_of_absent hi p).symm ▸ hp⟩
  | some file =>
      rw [advance_of_getElem? hi]
      have hfile := hlayout.leadsDown_of_getElem? hi
      have halone := hp.alone hi
      obtain ⟨hstate, hstands, hcurrent, halike⟩ :=
        step_of_ahead hfile hlayout.stands halone hp.stands
          (hp.fetch_template hlayout hfile)
          (fun l hl => hp.aheadAt hlayout hi hl) (hp.find?_target hlayout hi)
      have hmerges := hp.merges.update i hcurrent
        (fun l => (halike l).imp_right And.left)
        (fun j hji l hl => hp.find?_other hlayout hji.symm hi hl (halike l))
      refine ⟨_, hstands, ?_, ?_, hmerges⟩
      · intro j b hj
        by_cases hji : j = i
        · subst hji
          obtain rfl : file = b := Option.some.inj (hi.symm.trans hj)
          simp only [Function.update_self, hstate]
          exact alone_step halone
        · simp only [Function.update_of_ne hji]
          exact hp.alone hj
      · intro j hj
        have hji : j ≠ i := by
          rintro rfl
          rw [hi] at hj
          cases hj
        rw [Function.update_of_ne hji]
        exact hp.absent hj

theorem interleaved_follow (hlayout : Layout g templates files w₀ root)
    (hp : Interleaved g files w₀ root parts p) (schedule : List ℕ) :
    ∃ parts', Interleaved g files w₀ root parts'
      (g.follow files schedule p) := by
  induction schedule generalizing parts p with
  | nil => exact ⟨parts, hp⟩
  | cons i schedule ih =>
      obtain ⟨parts', hnext⟩ := interleaved_advance hlayout hp i
      exact ih hnext

/-! ## When all jobs are done -/

theorem Interleaved.done (hp : Interleaved g files w₀ root parts p)
    (hdone : AllDone files p) {i : ℕ} {file : TemplateFile}
    (hi : files[i]? = some file) :
    p.states i = .done (g.run file w₀).2.result ∧
      parts i = (g.run file w₀).1 := by
  obtain ⟨hlength, -⟩ := List.getElem?_eq_some_iff.mp hi
  obtain ⟨result, hresult⟩ := hdone i hlength
  have halone := hp.alone hi
  rw [hresult] at halone
  rw [hresult, run_eq_of_alone halone]
  exact ⟨rfl, rfl⟩

theorem Interleaved.report (hp : Interleaved g files w₀ root parts p)
    (hdone : AllDone files p) :
    g.report? files p =
      some ⟨g.output, files.map fun file => (g.run file w₀).2⟩ :=
  report?_of_done fun hi => (hp.done hdone hi).1

/-- When all jobs are done, the workspace merges what each does alone. -/
theorem Interleaved.merges_runs (hp : Interleaved g files w₀ root parts p)
    (hdone : AllDone files p) :
    Merges w₀ (fun file : {file // file ∈ files} => (g.run file.1 w₀).1)
      p.workspace where
  current := hp.merges.current
  kept := by
    intro l hall
    apply hp.merges.kept
    intro i
    cases hi : files[i]? with
    | none => rw [hp.absent hi]
    | some file =>
        rw [(hp.done hdone hi).2]
        exact hall ⟨file, List.mem_of_getElem? hi⟩
  changed := by
    rintro ⟨file, hmem⟩ l hchanged
    obtain ⟨i, hi⟩ := List.getElem?_of_mem hmem
    rw [← (hp.done hdone hi).2] at hchanged ⊢
    exact hp.merges.changed i l hchanged

end Generation

end FormScaffold
