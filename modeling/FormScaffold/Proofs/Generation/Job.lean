import FormScaffold.Proofs.Generation.Target

/-!
# A job on its own and among others

A job reads its template, makes the directory of its target and writes the
target.  Running alone it changes nothing but that.  In a workspace that has
grown ahead of the one where the job runs alone, each of its steps has the same
outcome and makes the same changes: the directories that are there already are
those it would make.
-/

namespace FormScaffold.Generation

open Workspace

variable {g : Generation} {file : TemplateFile} {w₀ w v : Workspace}
  {root : Location}

/-- The workspace and the state that the job of a file can come to alone. -/
inductive Alone (g : Generation) (file : TemplateFile) (w₀ : Workspace) :
    Workspace → JobState → Prop
  | waiting : Alone g file w₀ w₀ .waiting
  | unread {e : SourceError} (hread : g.source.fetch w₀ file.name = .error e) :
      Alone g file w₀ w₀ (.done (.error (.source e)))
  | emitted {s : Text} (hread : g.source.fetch w₀ file.name = .ok s) :
      Alone g file w₀ w₀ (.emitted (file.emit g.choices s))
  | unplaced {s : Text} {v : Workspace} {e : FileError}
      (hread : g.source.fetch w₀ file.name = .ok s)
      (hplace : placeFor w₀ (g.target file) = (v, .error e)) :
      Alone g file w₀ v (.done (.error e))
  | placed {s : Text} {v : Workspace}
      (hread : g.source.fetch w₀ file.name = .ok s)
      (hplace : placeFor w₀ (g.target file) = (v, .ok ())) :
      Alone g file w₀ v (.placed (file.emit g.choices s))
  | unwritten {s : Text} {v : Workspace} {e : IoError}
      (hread : g.source.fetch w₀ file.name = .ok s)
      (hplace : placeFor w₀ (g.target file) = (v, .ok ()))
      (hwrite : v.writeText (g.target file) (file.emit g.choices s) =
        .error e) :
      Alone g file w₀ v (.done (.error (.notWritten (g.target file) e)))
  | written {s : Text} {v v' : Workspace}
      (hread : g.source.fetch w₀ file.name = .ok s)
      (hplace : placeFor w₀ (g.target file) = (v, .ok ()))
      (hwrite : v.writeText (g.target file) (file.emit g.choices s) = .ok v') :
      Alone g file w₀ v' (.done (.ok (g.target file)))

theorem alone_step {s : JobState} (halone : Alone g file w₀ v s) :
    Alone g file w₀ (g.step file v s).1 (g.step file v s).2 := by
  cases halone with
  | waiting =>
      unfold step
      cases hread : g.source.fetch w₀ file.name with
      | error e => exact .unread hread
      | ok s => exact .emitted hread
  | unread hread => exact .unread hread
  | emitted hread =>
      unfold step
      cases hplace : placeFor w₀ (g.target file) with
      | mk v result =>
          cases result with
          | error e => exact .unplaced hread hplace
          | ok _ => exact .placed hread hplace
  | unplaced hread hplace => exact .unplaced hread hplace
  | placed hread hplace =>
      rename_i s
      simp only [step]
      cases hwrite : v.writeText (g.target file) (file.emit g.choices s) with
      | error e => exact .unwritten hread hplace hwrite
      | ok v' => exact .written hread hplace hwrite
  | unwritten hread hplace hwrite => exact .unwritten hread hplace hwrite
  | written hread hplace hwrite => exact .written hread hplace hwrite

/-- A job that is done has come to where the whole run of it comes. -/
theorem run_eq_of_alone {result : Except FileError Path}
    (halone : Alone g file w₀ v (.done result)) :
    g.run file w₀ = (v, ⟨file.name, result⟩) := by
  unfold run
  cases halone with
  | unread hread => simp [step, hread]
  | unplaced hread hplace => simp [step, hread, hplace]
  | unwritten hread hplace hwrite => simp [step, hread, hplace, hwrite]
  | written hread hplace hwrite => simp [step, hread, hplace, hwrite]

/-! ## Three steps -/

/-- How many steps a job has behind it, at least. -/
def stage : JobState → ℕ
  | .waiting => 0
  | .emitted _ => 1
  | .placed _ => 2
  | .done _ => 3

theorem stage_step (g : Generation) (file : TemplateFile) (w : Workspace)
    (s : JobState) : min (stage s + 1) 3 ≤ stage (g.step file w s).2 := by
  cases s with
  | waiting =>
      simp only [step]
      split <;> simp [stage]
  | emitted text =>
      simp only [step]
      split <;> simp [stage]
  | placed text =>
      simp only [step]
      split <;> simp [stage]
  | done result => simp [step, stage]

theorem exists_done_of_stage {s : JobState} (hs : 3 ≤ stage s) :
    ∃ result, s = .done result := by
  cases s with
  | done result => exact ⟨result, rfl⟩
  | _ => simp [stage] at hs

/-- After three steps a job is where its run comes to. -/
theorem three_steps (g : Generation) (file : TemplateFile) (w : Workspace) :
    let first := g.step file w .waiting
    let second := g.step file first.1 first.2
    g.step file second.1 second.2 =
      ((g.run file w).1, .done (g.run file w).2.result) := by
  intro first second
  have hthird := alone_step (alone_step (alone_step
    (Alone.waiting : Alone g file w w .waiting)))
  have hone : 1 ≤ stage first.2 := stage_step g file w .waiting
  have htwo : min (stage first.2 + 1) 3 ≤ stage second.2 :=
    stage_step g file first.1 first.2
  have hthree := stage_step g file second.1 second.2
  obtain ⟨result, hdone⟩ := exists_done_of_stage (le_trans (by omega) hthree)
  change Alone g file w _ (g.step file second.1 second.2).2 at hthird
  rw [hdone] at hthird
  rw [run_eq_of_alone hthird, ← hdone]

theorem alone_run (g : Generation) (file : TemplateFile) (w : Workspace) :
    Alone g file w (g.run file w).1 (.done (g.run file w).2.result) := by
  have hthird := alone_step (alone_step (alone_step
    (Alone.waiting : Alone g file w w .waiting)))
  rwa [three_steps] at hthird

/-! ## What a job changes -/

theorem alone_stands (hfile : file.LeadsDown) (hw : g.Stands w₀ root)
    {s : JobState} (halone : Alone g file w₀ v s) :
    g.Stands v root ∧ v.current = w₀.current := by
  have hkeeps := placeFor_keeps w₀ (g.target file)
  have hplaced : ∀ {v result}, placeFor w₀ (g.target file) = (v, result) →
      g.Stands v root ∧ v.current = w₀.current := by
    intro v result hplace
    rw [hplace] at hkeeps
    exact ⟨hw.of_extends hkeeps.1 (hkeeps.2 hw.grounded), hkeeps.1.current⟩
  cases halone with
  | waiting => exact ⟨hw, rfl⟩
  | unread hread => exact ⟨hw, rfl⟩
  | emitted hread => exact ⟨hw, rfl⟩
  | unplaced hread hplace => exact hplaced hplace
  | placed hread hplace => exact hplaced hplace
  | unwritten hread hplace hwrite => exact hplaced hplace
  | written hread hplace hwrite =>
      obtain ⟨hv, hcurrent⟩ := hplaced hplace
      have henter := enter_of_placeFor hfile hw hplace
      obtain ⟨hfault, rfl⟩ := eq_put_of_writeText hfile hv henter hwrite
      exact ⟨hv.put_target hfile henter (endsInStep_of_writeFault hfault).2.2.2
        _, hcurrent⟩

/-- What a job that has read the text `t` changes at a location: it makes a
missing directory on the way to its target, or at the end it writes the
target. -/
inductive Changes (g : Generation) (file : TemplateFile) (t : Text)
    (root : Location) (w₀ v : Workspace) (s : JobState) (l : Location) : Prop
  | directory (hon : OnWay root file.place.dropLast l)
      (hnone : w₀.tree.find? l = none)
      (hmade : v.tree.find? l = some .directory)
  | target (hdone : s = .done (.ok (g.target file)))
      (hplace : l = root ++ file.place)
      (hfree : w₀.tree.find? l ≠ some .directory)
      (hwritten : v.tree.find? l = some (.file (.text (file.emit g.choices t))))

/-- What a job changes by making the directory of its target, wherever it goes
on from there. -/
theorem eq_or_changes_of_placeFor (hfile : file.LeadsDown)
    (hw : g.Stands w₀ root) {t : Text} {u : Workspace}
    {result : Except FileError Unit}
    (hread : g.source.fetch w₀ file.name = .ok t)
    (hplace : placeFor w₀ (g.target file) = (u, result)) {l : Location}
    (hl : v.tree.find? l = u.tree.find? l) (s : JobState) :
    v.tree.find? l = w₀.tree.find? l ∨
      ∃ t, g.source.fetch w₀ file.name = .ok t ∧
        Changes g file t root w₀ v s l := by
  have hplaced := placeFor_change hfile hw l
  rw [hplace] at hplaced
  rw [hl]
  rcases hplaced with hsame | ⟨hon, hnone, hmade⟩
  · exact Or.inl hsame
  · exact Or.inr ⟨t, hread, .directory hon hnone (hl.trans hmade)⟩

/-- A job that has changed anything has read its template. -/
theorem eq_or_changes_of_alone (hfile : file.LeadsDown) (hw : g.Stands w₀ root)
    {s : JobState} (halone : Alone g file w₀ v s) (l : Location) :
    v.tree.find? l = w₀.tree.find? l ∨
      ∃ t, g.source.fetch w₀ file.name = .ok t ∧
        Changes g file t root w₀ v s l := by
  cases halone with
  | waiting => exact Or.inl rfl
  | unread hread => exact Or.inl rfl
  | emitted hread => exact Or.inl rfl
  | unplaced hread hplace =>
      exact eq_or_changes_of_placeFor hfile hw hread hplace rfl _
  | placed hread hplace =>
      exact eq_or_changes_of_placeFor hfile hw hread hplace rfl _
  | unwritten hread hplace hwrite =>
      exact eq_or_changes_of_placeFor hfile hw hread hplace rfl _
  | written hread hplace hwrite =>
      have hkeeps := (placeFor_keeps w₀ (g.target file)).1
      rw [hplace] at hkeeps
      obtain ⟨hu, -⟩ := alone_stands hfile hw (.placed hread hplace)
      obtain ⟨hfault, rfl⟩ := eq_put_of_writeText hfile hu
        (enter_of_placeFor hfile hw hplace) hwrite
      have hfree := (endsInStep_of_writeFault hfault).2.2.2
      have hne := root_append_place_ne_nil hfile root
      by_cases hl : l = root ++ file.place
      · refine Or.inr ⟨_, hread, .target rfl hl ?_ ?_⟩
        · intro hdirectory
          exact hfree (hkeeps.keeps (hl ▸ hdirectory))
        · rw [find?_put _ hne, if_pos hl]
      · apply eq_or_changes_of_placeFor hfile hw hread hplace
        rw [find?_put _ hne, if_neg hl]

/-! ## A step among others -/

/-- The entry at a location is changed in neither workspace, or it is the job's
own and the same in both. -/
def StepAlike (file : TemplateFile) (root : Location) (w v w' v' : Workspace)
    (l : Location) : Prop :=
  (w'.tree.find? l = w.tree.find? l ∧ v'.tree.find? l = v.tree.find? l) ∨
    (w'.tree.find? l = v'.tree.find? l ∧
      ((OnWay root file.place.dropLast l ∧ v'.tree.find? l = some .directory) ∨
        l = root ++ file.place))

theorem enter_of_ahead (hw : g.Stands w root) (hv : g.Stands v root)
    (hway : ∀ l, OnWay root file.place.dropLast l → AheadAt w v l)
    (henter : enter v.tree root (file.place.dropLast.map .name) =
      .ok (root ++ file.place.dropLast)) :
    enter w.tree root (file.place.dropLast.map .name) =
      .ok (root ++ file.place.dropLast) := by
  rw [← henter]
  apply enter_names_congr
  intro ks hks
  have hdirectory := (directory_of_enter_names henter).2 ks hks
  rcases eq_or_ne ks [] with rfl | hne
  · rw [List.append_nil, hw.root_directory, hv.root_directory]
  · rcases hway _ ⟨ks, hne, hks, rfl⟩ with hsame | ⟨hnone, -⟩
    · exact hsame
    · rw [hdirectory] at hnone
      cases hnone

theorem stepAlike_of_placeFor (hfile : file.LeadsDown) (hw : g.Stands w root)
    (hv : g.Stands v root)
    (hway : ∀ l, OnWay root file.place.dropLast l → AheadAt w v l)
    (l : Location) :
    StepAlike file root w v (placeFor w (g.target file)).1
      (placeFor v (g.target file)).1 l := by
  rcases (placeFor_of_ahead hfile hw hv hway).2 l with
    hsame | ⟨hon, hmade, hmade'⟩
  · exact Or.inl hsame
  · exact Or.inr ⟨hmade.trans hmade'.symm, Or.inl ⟨hon, hmade'⟩⟩

theorem stepAlike_put (hfile : file.LeadsDown) (root : Location)
    (w v : Workspace) (e : Entry) (l : Location) :
    StepAlike file root w v (w.put (root ++ file.place) e)
      (v.put (root ++ file.place) e) l := by
  have hne := root_append_place_ne_nil hfile root
  unfold StepAlike
  rw [find?_put w hne, find?_put v hne]
  by_cases hl : l = root ++ file.place
  · rw [if_pos hl, if_pos hl]
    exact Or.inr ⟨rfl, Or.inr hl⟩
  · rw [if_neg hl, if_neg hl]
    exact Or.inl ⟨rfl, rfl⟩

theorem step_of_ahead (hfile : file.LeadsDown) (hw₀ : g.Stands w₀ root)
    {s : JobState} (halone : Alone g file w₀ v s) (hw : g.Stands w root)
    (hread : g.source.fetch w file.name = g.source.fetch w₀ file.name)
    (hway : ∀ l, OnWay root file.place.dropLast l → AheadAt w v l)
    (htarget : w.tree.find? (root ++ file.place) =
      v.tree.find? (root ++ file.place)) :
    (g.step file w s).2 = (g.step file v s).2 ∧
      g.Stands (g.step file w s).1 root ∧
      (g.step file w s).1.current = w.current ∧
      ∀ l, StepAlike file root w v (g.step file w s).1 (g.step file v s).1
        l := by
  have hv := (alone_stands hfile hw₀ halone).1
  have hstay : ∀ l, StepAlike file root w v w v l := fun l => Or.inl ⟨rfl, rfl⟩
  cases halone with
  | waiting =>
      simp only [step, hread]
      cases g.source.fetch w₀ file.name with
      | error e => exact ⟨rfl, hw, rfl, hstay⟩
      | ok t => exact ⟨rfl, hw, rfl, hstay⟩
  | unread _ => exact ⟨rfl, hw, rfl, hstay⟩
  | unplaced _ _ => exact ⟨rfl, hw, rfl, hstay⟩
  | unwritten _ _ _ => exact ⟨rfl, hw, rfl, hstay⟩
  | written _ _ _ => exact ⟨rfl, hw, rfl, hstay⟩
  | emitted _ =>
      have hresult := (placeFor_of_ahead hfile hw hv hway).1
      have halike := stepAlike_of_placeFor hfile hw hv hway
      obtain ⟨hext, hgrounded⟩ := placeFor_keeps w (g.target file)
      have hstands := hw.of_extends hext (hgrounded hw.grounded)
      simp only [step]
      cases hplace : placeFor w (g.target file) with
      | mk w' result =>
          cases hplace' : placeFor w₀ (g.target file) with
          | mk v' result' =>
              rw [hplace, hplace'] at hresult halike
              rw [hplace] at hstands hext
              obtain rfl : result = result' := hresult
              cases result <;> exact ⟨rfl, hstands, hext.current, halike⟩
  | placed _ hplace =>
      have henter := enter_of_placeFor hfile hw₀ hplace
      have henter' := enter_of_ahead hw hv hway henter
      simp only [step]
      rw [writeText_target hfile hw henter', writeText_target hfile hv henter,
        htarget]
      cases hfault : writeFault (g.target file)
          (file.place.getLast hfile.place_ne_nil)
          (v.tree.find? (root ++ file.place)) with
      | some e => exact ⟨rfl, hw, rfl, hstay⟩
      | none =>
          have hfree := (endsInStep_of_writeFault hfault).2.2.2
          exact ⟨rfl, hw.put_target hfile henter' (htarget ▸ hfree) _, rfl,
            stepAlike_put hfile root w v _⟩

/-! ## What is written -/

theorem exists_of_alone_ok {path : Path}
    (halone : Alone g file w₀ v (.done (.ok path))) :
    path = g.target file ∧ ∃ t u, g.source.fetch w₀ file.name = .ok t ∧
      placeFor w₀ (g.target file) = (u, .ok ()) ∧
      u.writeText (g.target file) (file.emit g.choices t) = .ok v := by
  cases halone with
  | written hread hplace hwrite => exact ⟨rfl, _, _, hread, hplace, hwrite⟩

/-- What a job has written is read in every workspace that is ahead. -/
theorem readText_of_ahead (hfile : file.LeadsDown) (hw₀ : g.Stands w₀ root)
    {path : Path} (halone : Alone g file w₀ v (.done (.ok path)))
    (hw : g.Stands w root)
    (hway : ∀ l, OnWay root file.place.dropLast l → AheadAt w v l)
    (htarget : w.tree.find? (root ++ file.place) =
      v.tree.find? (root ++ file.place)) :
    path = g.target file ∧ ∃ t, g.source.fetch w₀ file.name = .ok t ∧
      w.readText path = .ok (file.emit g.choices t) := by
  have hv := (alone_stands hfile hw₀ halone).1
  obtain ⟨rfl, t, u, hread, hplace, hwrite⟩ := exists_of_alone_ok halone
  refine ⟨rfl, t, hread, ?_⟩
  have hu := (alone_stands hfile hw₀ (.placed hread hplace)).1
  have henter := enter_of_placeFor hfile hw₀ hplace
  obtain ⟨hfault, rfl⟩ := eq_put_of_writeText hfile hu henter hwrite
  obtain ⟨hrefused, hends, hshort, hfree⟩ := endsInStep_of_writeFault hfault
  have hne := root_append_place_ne_nil hfile root
  have hlast := List.dropLast_append_getLast hfile.place_ne_nil
  have henter' : enter (u.put (root ++ file.place)
      (.file (.text (file.emit g.choices t)))).tree root
        (file.place.dropLast.map .name) =
          .ok (root ++ file.place.dropLast) := by
    apply enter_of_keeps _ henter
    intro l
    exact directory_put hne hfree _
  have hfind : w.tree.find? (root ++ file.place) =
      some (.file (.text (file.emit g.choices t))) := by
    rw [htarget, find?_put u hne, if_pos rfl]
  have hlocate := locate_of_endsInStep hrefused hends
    (steps_target_concat hfile)
    (enter_target hfile hw (enter_of_ahead hw hv hway henter')) hshort
  rw [List.append_assoc, hlast] at hlocate
  exact readText_of_locate (hlocate (by simp [hfind])) hfind

end FormScaffold.Generation
