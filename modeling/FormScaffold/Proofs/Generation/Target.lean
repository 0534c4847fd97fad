import FormScaffold.Proofs.FileTree.Descent
import FormScaffold.Generation

/-!
# Where a job works

The name of a file leads down from the output directory.  The directory of the
file is made by going down from there, and the file is written behind it, so
that a job touches the places on the way and the target, and looks at nothing
else below the output directory.
-/

namespace FormScaffold

open Workspace

/-- The name is that of a file below some directory: it does not begin at the
root, and neither stays nor leads up. -/
structure TemplateFile.LeadsDown (file : TemplateFile) : Prop where
  ne_nil : file.name ≠ []
  relative : Path.isAbsolute ⟨file.name⟩ = false
  names : ∀ c ∈ Path.components ⟨file.name⟩, ∃ n, c = .name n

instance (c : Component) : Decidable (∃ n, c = .name n) :=
  match c with
  | .name n => isTrue ⟨n, rfl⟩
  | .root => isFalse (by simp)
  | .here => isFalse (by simp)
  | .up => isFalse (by simp)

instance (file : TemplateFile) : Decidable file.LeadsDown :=
  decidable_of_iff
    (file.name ≠ [] ∧ Path.isAbsolute ⟨file.name⟩ = false ∧
      ∀ c ∈ Path.components ⟨file.name⟩, ∃ n, c = .name n)
    ⟨fun h => ⟨h.1, h.2.1, h.2.2⟩, fun h => ⟨h.ne_nil, h.relative, h.names⟩⟩

def TemplateFile.place (file : TemplateFile) : Location :=
  Path.locationFrom [] ⟨file.name⟩

theorem foldl_seenFrom_names (here : Location) (names : List Text) :
    (names.map Component.name).foldl Component.seenFrom here =
      here ++ names := by
  induction names generalizing here with
  | nil => simp
  | cons n names ih =>
      rw [List.map_cons, List.foldl_cons, ih]
      simp [Component.seenFrom]

theorem exists_map_name {cs : List Component}
    (hcs : ∀ c ∈ cs, ∃ n, c = .name n) :
    ∃ names : List Text, cs = names.map .name := by
  induction cs with
  | nil => exact ⟨[], rfl⟩
  | cons c cs ih =>
      rw [List.forall_mem_cons] at hcs
      obtain ⟨n, rfl⟩ := hcs.1
      obtain ⟨names, rfl⟩ := ih hcs.2
      exact ⟨n :: names, rfl⟩

namespace TemplateFile.LeadsDown

variable {file : TemplateFile}

theorem lead_eq_nil (hfile : file.LeadsDown) : Path.lead ⟨file.name⟩ = [] := by
  unfold Path.lead
  rw [if_neg (by simp [hfile.relative])]
  split
  next hhere =>
    have hmem : Component.here ∈ Path.components ⟨file.name⟩ := by
      rw [Path.components_eq_lead_append_steps]
      apply List.mem_append_left
      unfold Path.lead
      rw [if_neg (by simp [hfile.relative]), if_pos hhere]
      exact List.mem_singleton_self _
    obtain ⟨n, hn⟩ := hfile.names _ hmem
    cases hn
  next => rfl

theorem steps_eq (hfile : file.LeadsDown) :
    Path.steps ⟨file.name⟩ = file.place.map .name := by
  have hcomponents : Path.components ⟨file.name⟩ = Path.steps ⟨file.name⟩ := by
    rw [Path.components_eq_lead_append_steps, hfile.lead_eq_nil,
      List.nil_append]
  obtain ⟨names, hnames⟩ := exists_map_name hfile.names
  have hplace : file.place = names := by
    unfold TemplateFile.place Path.locationFrom
    rw [hnames, foldl_seenFrom_names, List.nil_append]
  rw [← hcomponents, hnames, hplace]

theorem place_ne_nil (hfile : file.LeadsDown) : file.place ≠ [] := by
  intro hnil
  obtain ⟨first, rest, hsegments, hfirst⟩ :=
    Path.exists_head_segment hfile.relative hfile.ne_nil
  have hsteps := hfile.steps_eq
  unfold Path.steps at hsteps
  rw [hnil, hsegments, filterMap_cons_eq_append] at hsteps
  have hsilent : Component.ofSegment? first = none := by
    cases hread : Component.ofSegment? first with
    | none => rfl
    | some c => simp [hread] at hsteps
  have hdot : first = ['.'] := by
    unfold Component.ofSegment? at hsilent
    split at hsilent
    next hor => exact hor.resolve_left hfirst
    next => split at hsilent <;> cases hsilent
  have hlead := hfile.lead_eq_nil
  unfold Path.lead at hlead
  rw [if_neg (by simp [hfile.relative]), if_pos (by rw [hsegments, hdot]; rfl)]
    at hlead
  cases hlead

end TemplateFile.LeadsDown

/-! ## The target -/

namespace Generation

/-- Where the target of a file is, by the letter. -/
def location (g : Generation) (w : Workspace)
    (file : TemplateFile) : Location :=
  (g.target file).locationFrom w.current

/-- The output directory is there, in a workspace in which every entry stands in
a directory. -/
structure Stands (g : Generation) (w : Workspace) (root : Location) : Prop where
  grounded : w.IsGrounded
  output : enter w.tree (w.start g.output) g.output.steps = .ok root

variable {g : Generation} {file : TemplateFile} {w v : Workspace}
  {root : Location}

theorem Stands.of_extends (hv : g.Stands v root) (hext : Extends w v)
    (hw : w.IsGrounded) : g.Stands w root :=
  ⟨hw, hext.start g.output ▸ hext.enter hv.output⟩

theorem Stands.root_directory (hw : g.Stands w root) :
    w.tree.find? root = some .directory :=
  find?_of_enter hw.output

theorem start_target (hfile : file.LeadsDown) :
    w.start (g.target file) = w.start g.output :=
  start_join w g.output hfile.relative

theorem steps_target (hfile : file.LeadsDown) :
    (g.target file).steps = g.output.steps ++ file.place.map .name := by
  unfold target
  rw [Path.steps_join g.output hfile.relative, hfile.steps_eq]

theorem steps_target_concat (hfile : file.LeadsDown) :
    (g.target file).steps =
      (g.output.steps ++ file.place.dropLast.map .name) ++
        [.name (file.place.getLast hfile.place_ne_nil)] := by
  have hlast := List.dropLast_append_getLast hfile.place_ne_nil
  rw [steps_target hfile]
  conv_lhs => rw [← hlast]
  simp

theorem locationFrom_join (w : Workspace) (p : Path) (hfile : file.LeadsDown) :
    (p.join ⟨file.name⟩).locationFrom w.current =
      p.locationFrom w.current ++ file.place := by
  rw [locationFrom_current, Path.steps_join p hfile.relative, List.foldl_append,
    start_join w p hfile.relative, ← locationFrom_current, hfile.steps_eq,
    foldl_seenFrom_names]

theorem location_eq (g : Generation) (w : Workspace) (hfile : file.LeadsDown) :
    g.location w file = g.output.locationFrom w.current ++ file.place :=
  locationFrom_join w g.output hfile

/-! ## The directory of the target -/

theorem placeFor_keeps (w : Workspace) (p : Path) :
    Extends (placeFor w p).1 w ∧
      (w.IsGrounded → (placeFor w p).1.IsGrounded) := by
  unfold placeFor
  split
  · exact ⟨.refl w, id⟩
  next directory _ =>
    have hkeeps := makeDirectories_keeps w directory
    split
    next made hmade => rwa [hmade] at hkeeps
    next made e hmade => rwa [hmade] at hkeeps

/-- The directory of a target is made by going down from the output directory,
unless its path is not looked at. -/
theorem exists_placeFor (g : Generation) (hfile : file.LeadsDown)
    (root : Location) :
    ∃ (directory : Path) (fault : Option IoError), ∀ w, g.Stands w root →
      placeFor w (g.target file) =
        match fault with
        | some e => (w, .error (.directoryNotMade directory e))
        | none =>
          match descend w root file.place.dropLast with
          | (w', .ok ()) => (w', .ok ())
          | (w', .error e) => (w', .error (.directoryNotMade directory e)) := by
  obtain ⟨directory, hparent, habove⟩ :=
    Path.exists_parent (steps_target_concat (g := g) hfile)
  refine ⟨directory, if directory.text = [] then none
    else refused directory, ?_⟩
  intro w hw
  unfold placeFor
  rw [hparent]
  by_cases hempty : directory.text = []
  · have hnone : g.output.steps ++ file.place.dropLast.map Component.name =
        [] :=
      habove.steps.symm.trans (Path.steps_of_text_nil hempty)
    have hns : file.place.dropLast = [] :=
      List.map_eq_nil_iff.mp (List.append_eq_nil_iff.mp hnone).2
    rw [if_pos hempty, hns]
    simp only
    rw [makeDirectories, if_pos hempty]
    rfl
  · rw [if_neg hempty]
    have hstart : w.start directory = w.start g.output :=
      (start_of_isAbove habove w).trans (start_target hfile)
    cases hrefused : refused directory with
    | some e =>
        simp only
        rw [makeDirectories_of_refused hempty hrefused]
    | none =>
        have hlast : file.place.dropLast ≠ [] → directory.EndsInStep := by
          intro hne
          apply habove.last
          intro hnil
          exact hne (List.map_eq_nil_iff.mp (List.append_eq_nil_iff.mp hnil).2)
        have hmade := makeDirectories_eq_descend hw.grounded hrefused
          habove.steps hlast (hstart ▸ hw.output)
        cases hdescend : descend w root file.place.dropLast with
        | mk made result =>
            rw [hdescend] at hmade
            cases result <;> simp [hmade]

theorem enter_of_placeFor (hfile : file.LeadsDown) (hw : g.Stands w root)
    (hplaced : placeFor w (g.target file) = (v, .ok ())) :
    enter v.tree root (file.place.dropLast.map .name) =
      .ok (root ++ file.place.dropLast) := by
  obtain ⟨directory, fault, hplace⟩ := exists_placeFor g hfile root
  rw [hplace w hw] at hplaced
  cases fault with
  | some e => cases hplaced
  | none =>
      simp only at hplaced
      split at hplaced
      next made hmade =>
        cases hplaced
        exact enter_of_descend hw.root_directory hmade
      next => cases hplaced

/-- In a workspace that is ahead along the way, the directory of a target is
made as well, with the same outcome. -/
theorem placeFor_of_ahead (hfile : file.LeadsDown) (hw : g.Stands w root)
    (hv : g.Stands v root)
    (hahead : ∀ l, OnWay root file.place.dropLast l → AheadAt w v l) :
    (placeFor w (g.target file)).2 = (placeFor v (g.target file)).2 ∧
      ∀ l, ChangeAlike w v (placeFor w (g.target file)).1
        (placeFor v (g.target file)).1 root file.place.dropLast l := by
  obtain ⟨directory, fault, hplace⟩ := exists_placeFor g hfile root
  rw [hplace w hw, hplace v hv]
  cases fault with
  | some e => exact ⟨rfl, fun l => Or.inl ⟨rfl, rfl⟩⟩
  | none =>
      obtain ⟨hresult, hchange⟩ := descend_of_ahead hahead
      cases hdescend : descend w root file.place.dropLast with
      | mk w' result =>
          cases hdescend' : descend v root file.place.dropLast with
          | mk v' result' =>
              rw [hdescend, hdescend'] at hresult hchange
              obtain rfl : result = result' := hresult
              cases result <;> exact ⟨rfl, hchange⟩

/-- Where the directory of a target was made, it is made again with the same
outcome and without a change. -/
theorem placeFor_again (hfile : file.LeadsDown) (hw : g.Stands w root)
    (hv : g.Stands v root)
    (hahead : ∀ l, OnWay root file.place.dropLast l →
      AheadAt v (placeFor w (g.target file)).1 l) :
    placeFor v (g.target file) = (v, (placeFor w (g.target file)).2) := by
  obtain ⟨directory, fault, hplace⟩ := exists_placeFor g hfile root
  rw [hplace w hw] at hahead ⊢
  rw [hplace v hv]
  cases fault with
  | some e => rfl
  | none =>
      have hagain : (∀ l, OnWay root file.place.dropLast l →
          AheadAt v (descend w root file.place.dropLast).1 l) →
          descend v root file.place.dropLast =
            (v, (descend w root file.place.dropLast).2) :=
        descend_again
      cases hdescend : descend w root file.place.dropLast with
      | mk w' result =>
          rw [hdescend] at hahead hagain
          cases result with
          | ok _ => simp only [hagain hahead]
          | error e => simp only [hagain hahead]

theorem placeFor_change (hfile : file.LeadsDown) (hw : g.Stands w root)
    (l : Location) :
    (placeFor w (g.target file)).1.tree.find? l = w.tree.find? l ∨
      (OnWay root file.place.dropLast l ∧ w.tree.find? l = none ∧
        (placeFor w (g.target file)).1.tree.find? l = some .directory) := by
  have hchange := (placeFor_of_ahead hfile hw hw (fun _ _ => Or.inl rfl)).2 l
  rcases (placeFor_keeps w (g.target file)).1.find? l with hsame |
    ⟨hnone, hmade⟩
  · exact Or.inl hsame
  · rcases hchange with ⟨hsame, -⟩ | ⟨hway, -⟩
    · exact Or.inl hsame
    · exact Or.inr ⟨hway, hnone, hmade⟩

/-! ## Writing the target -/

theorem enter_target (hfile : file.LeadsDown) (hw : g.Stands w root)
    (henter : enter w.tree root (file.place.dropLast.map .name) =
      .ok (root ++ file.place.dropLast)) :
    enter w.tree (w.start (g.target file))
        (g.output.steps ++ file.place.dropLast.map .name) =
      .ok (root ++ file.place.dropLast) := by
  rw [enter_append, start_target hfile, hw.output]
  exact henter

theorem writeText_target (hfile : file.LeadsDown) (hw : g.Stands w root)
    (henter : enter w.tree root (file.place.dropLast.map .name) =
      .ok (root ++ file.place.dropLast)) (s : Text) :
    w.writeText (g.target file) s =
      match writeFault (g.target file) (file.place.getLast hfile.place_ne_nil)
        (w.tree.find? (root ++ file.place)) with
      | some e => .error e
      | none => .ok (w.put (root ++ file.place) (.file (.text s))) := by
  have hlast := List.dropLast_append_getLast hfile.place_ne_nil
  have hwrite := writeText_of_enter (steps_target_concat hfile)
    (enter_target hfile hw henter) s
  rwa [List.append_assoc, hlast] at hwrite

theorem eq_put_of_writeText (hfile : file.LeadsDown) (hw : g.Stands w root)
    (henter : enter w.tree root (file.place.dropLast.map .name) =
      .ok (root ++ file.place.dropLast)) {s : Text}
    (hwrite : w.writeText (g.target file) s = .ok v) :
    writeFault (g.target file) (file.place.getLast hfile.place_ne_nil)
        (w.tree.find? (root ++ file.place)) = none ∧
      v = w.put (root ++ file.place) (.file (.text s)) := by
  rw [writeText_target hfile hw henter] at hwrite
  split at hwrite
  next => cases hwrite
  next hfault => exact ⟨hfault, (Except.ok.inj hwrite).symm⟩

theorem root_append_place_ne_nil (hfile : file.LeadsDown) (root : Location) :
    root ++ file.place ≠ [] := by
  intro hnil
  exact hfile.place_ne_nil (List.append_eq_nil_iff.mp hnil).2

/-- A text is not written over a directory, so nothing that stands is lost. -/
theorem Stands.put_target (hw : g.Stands w root) (hfile : file.LeadsDown)
    (henter : enter w.tree root (file.place.dropLast.map .name) =
      .ok (root ++ file.place.dropLast))
    (hfree : w.tree.find? (root ++ file.place) ≠ some .directory)
    (c : Content) :
    g.Stands (w.put (root ++ file.place) (.file c)) root := by
  have hlast := List.dropLast_append_getLast hfile.place_ne_nil
  refine ⟨?_, ?_⟩
  · rw [← hlast, ← List.append_assoc] at hfree ⊢
    exact hw.grounded.put (find?_of_enter henter) hfree
  · change enter _ (w.start g.output) _ = _
    apply enter_of_keeps _ hw.output
    intro l
    exact directory_put (root_append_place_ne_nil hfile root) hfree _

end Generation

end FormScaffold
