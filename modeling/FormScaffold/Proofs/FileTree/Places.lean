import FormScaffold.Proofs.FileTree.Growth

/-!
# The places that a path names

On its way a path names places, and leads to the last of them or back up.
Making directories changes nothing else, and writing a text changes only where
the path leads.
-/

namespace FormScaffold

open Workspace

/-! ## The places that a path names -/

namespace Path

/-- The places that components name on their way. -/
def placesFrom : Location → List Component → List Location
  | _, [] => []
  | l, .name n :: cs => (l ++ [n]) :: placesFrom (l ++ [n]) cs
  | l, c :: cs => placesFrom (c.seenFrom l) cs

/-- The places that a path names on its way, by the letter. -/
def places (here : Location) (p : Path) : List Location :=
  placesFrom here p.components

theorem placesFrom_append (here : Location) (first second : List Component) :
    placesFrom here (first ++ second) =
      placesFrom here first ++
        placesFrom (first.foldl Component.seenFrom here) second := by
  induction first generalizing here with
  | nil => rfl
  | cons c first ih => cases c <;> simp [placesFrom, Component.seenFrom, ih]

theorem placesFrom_names (here : Location) (names : List Text) {l : Location}
    (hl : l ∈ placesFrom here (names.map .name)) :
    ∃ ks, ks <+: names ∧ l = here ++ ks := by
  induction names generalizing here with
  | nil => simp [placesFrom] at hl
  | cons n names ih =>
      rcases List.mem_cons.mp hl with rfl | hrest
      · exact ⟨[n], by simp, rfl⟩
      · obtain ⟨ks, hks, rfl⟩ := ih (here ++ [n]) hrest
        exact ⟨n :: ks, List.cons_prefix_cons.mpr ⟨rfl, hks⟩, by simp⟩

end Path

namespace Workspace

variable {w v : Workspace} {p : Path}

theorem places_current (w : Workspace) (p : Path) :
    p.places w.current = Path.placesFrom (w.start p) p.steps := by
  unfold Path.places Workspace.start
  rw [Path.components_eq_lead_append_steps, Path.placesFrom_append]
  unfold Path.lead
  split
  · rfl
  · split <;> rfl

/-- The place behind a last name is the last that is named. -/
theorem mem_places_of_enter {cs : List Component} {n : Text} {there : Location}
    (hsteps : p.steps = cs ++ [.name n])
    (henter : enter w.tree (w.start p) cs = .ok there) :
    there ++ [n] ∈ p.places w.current ∧
      there ++ [n] = p.locationFrom w.current := by
  have hroot : .root ∉ cs := by
    intro hroot
    apply p.root_not_mem_steps
    rw [hsteps]
    exact List.mem_append_left _ hroot
  have hthere := eq_foldl_seenFrom_of_enter hroot henter
  constructor
  · rw [places_current, hsteps, Path.placesFrom_append, ← hthere]
    simp [Path.placesFrom]
  · rw [locationFrom_current, hsteps, List.foldl_append, ← hthere]
    rfl

theorem places_subset_of_parent {q : Path} (hparent : p.parent? = some q)
    (w : Workspace) : q.places w.current ⊆ p.places w.current := by
  obtain ⟨hsteps, habsolute⟩ := Path.steps_of_parent hparent
  have hstart : w.start q = w.start p := by
    unfold Workspace.start
    rw [habsolute]
  rcases List.eq_nil_or_concat p.steps with hnil | ⟨cs, c, hlast⟩
  · rw [places_current, hsteps, hnil]
    exact List.nil_subset _
  · rw [List.concat_eq_append] at hlast
    rw [places_current, places_current, hsteps, hlast, List.dropLast_concat,
      hstart, Path.placesFrom_append]
    exact List.subset_append_left _ _

/-! ## Making and writing -/

theorem mem_places_of_makeDirectory (hmake : w.makeDirectory p = .ok v)
    {l : Location} (hl : v.tree.find? l ≠ w.tree.find? l) :
    l ∈ p.places w.current := by
  obtain ⟨cs, n, there, -, hsteps, henter, -, -, rfl⟩ :=
    exists_of_makeDirectory hmake
  rw [find?_put w (by simp)] at hl
  by_cases hsame : l = there ++ [n]
  · rw [hsame]
    exact (mem_places_of_enter hsteps henter).1
  · rw [if_neg hsame] at hl
    exact absurd rfl hl

/-- Directories are made only at places that the path names. -/
theorem mem_places_of_makeDirectories (w : Workspace) (p : Path) {l : Location}
    (hl : (w.makeDirectories p).1.tree.find? l ≠ w.tree.find? l) :
    l ∈ p.places w.current := by
  fun_induction makeDirectories w p with
  | case1 p hempty => exact absurd rfl hl
  | case2 p hne w' hmake => exact mem_places_of_makeDirectory hmake hl
  | case3 p hne hmissing above hparent hshorter w' habove w'' hensure ih =>
      have hcurrent := (makeDirectories_keeps w above).1.current
      rw [habove] at ih hcurrent
      have hbelow := places_subset_of_parent hparent w
      rcases ensureDirectory_eq_ok_iff.mp hensure with hmake | ⟨-, rfl⟩
      · by_cases hsame : w''.tree.find? l = w'.tree.find? l
        · exact hbelow (ih (hsame ▸ hl))
        · rw [← hcurrent]
          exact mem_places_of_makeDirectory hmake hsame
      · exact hbelow (ih hl)
  | case4 p hne hmissing above hparent hshorter w' habove e hensure ih =>
      rw [habove] at ih
      exact places_subset_of_parent hparent w (ih hl)
  | case5 p hne hmissing above hparent hshorter w' e habove ih =>
      rw [habove] at ih
      exact places_subset_of_parent hparent w (ih hl)
  | case6 p => exact absurd rfl hl
  | case7 p => exact absurd rfl hl
  | case8 p => exact absurd rfl hl

/-- A text is written to where the path leads, and not over a directory. -/
theorem eq_put_of_writeText_ok {s : Text} (hwrite : w.writeText p s = .ok v) :
    p.locationFrom w.current ≠ [] ∧
      w.tree.find? (p.locationFrom w.current) ≠ some .directory ∧
      v = w.put (p.locationFrom w.current) (.file (.text s)) := by
  cases htarget : w.target p with
  | error e =>
      rw [writeText_of_not_target htarget] at hwrite
      cases hwrite
  | ok t =>
      rcases (exists_of_target htarget).2 with
        ⟨directory, rfl⟩ | ⟨cs, n, there, slashes, hsteps, henter, rfl⟩
      · rw [writeText_of_reached htarget] at hwrite
        cases hwrite
      · rw [← (mem_places_of_enter hsteps henter).2]
        rw [writeText_of_child htarget] at hwrite
        split at hwrite
        next => cases hwrite
        next =>
          split at hwrite
          next => cases hwrite
          next =>
            split at hwrite
            next => cases hwrite
            next hfree => exact ⟨by simp, hfree, (Except.ok.inj hwrite).symm⟩

end Workspace

end FormScaffold
