import FormScaffold.Proofs.Path.Cleaning
import FormScaffold.Proofs.Path.Parent
import FormScaffold.FileTree.Access

/-!
# Walking through a file tree

What a walk meets depends on the steps of a path alone, as far as the place it
ends at is looked at as a directory.  A walk that gets there ends where the path
leads by the letter, since there are no links, and it gets there again in a tree
that has kept its directories.
-/

namespace FormScaffold

theorem bind_eq_ok_iff {ε α β : Type} {x : Except ε α} {f : α → Except ε β}
    {b : β} :
    x >>= f = .ok b ↔ ∃ a, x = .ok a ∧ f a = .ok b := by
  cases x <;> simp [bind, Except.bind]

theorem bind_eq_error_iff {ε α β : Type} {x : Except ε α} {f : α → Except ε β}
    {e : ε} :
    x >>= f = .error e ↔ x = .error e ∨ ∃ a, x = .ok a ∧ f a = .error e := by
  cases x <;> simp [bind, Except.bind]

theorem bind_congr_of_ok {ε α β : Type} {x : Except ε α}
    {f g : α → Except ε β} (h : ∀ a, x = .ok a → f a = g a) :
    x >>= f = x >>= g := by
  cases x with
  | error e => rfl
  | ok a => exact h a rfl

namespace Workspace

open Component

/-! ## Steps -/

def stand (tree : FileTree) (here : Location) : Except IoError Location :=
  match tree.find? here with
  | none => .error .notFound
  | some (.file _) => .error .notDirectory
  | some .directory => .ok here

/-- The place that a step out of a directory leads to. -/
def take (tree : FileTree) (here : Location) :
    Component → Except IoError Location
  | .root => .ok here
  | .here => .ok here
  | .up => .ok here.dropLast
  | .name n =>
    if n.byteSize > maxNameBytes then .error .nameTooLong
    else if (tree.find? (here ++ [n])).isNone then .error .notFound
    else .ok (here ++ [n])

def enter (tree : FileTree) (here : Location) :
    List Component → Except IoError Location
  | [] => stand tree here
  | c :: cs => stand tree here >>= (take tree · c) >>= (enter tree · cs)

theorem stand_eq_ok_iff {tree : FileTree} {here there : Location} :
    stand tree here = .ok there ↔
      here = there ∧ tree.find? here = some .directory := by
  unfold stand
  split <;> simp_all

theorem stand_of_directory {tree : FileTree} {here : Location}
    (hhere : tree.find? here = some .directory) :
    stand tree here = .ok here :=
  stand_eq_ok_iff.mpr ⟨rfl, hhere⟩

theorem stand_bind_enter (tree : FileTree) (here : Location)
    (cs : List Component) :
    stand tree here >>= (enter tree · cs) = enter tree here cs := by
  cases hstand : stand tree here with
  | error e =>
      cases cs with
      | nil => exact hstand.symm
      | cons c cs =>
          unfold enter
          rw [hstand]
          rfl
  | ok there => rw [(stand_eq_ok_iff.mp hstand).1]; rfl

theorem enter_append (tree : FileTree) (here : Location)
    (first second : List Component) :
    enter tree here (first ++ second) =
      enter tree here first >>= (enter tree · second) := by
  induction first generalizing here with
  | nil => exact (stand_bind_enter tree here second).symm
  | cons c first ih =>
      rw [List.cons_append, enter, enter]
      simp only [ih, bind_assoc]

/-! ## Segments -/

/-- The place that a stretch of a path leads to out of a directory. -/
def pass (tree : FileTree) (s : Text) (here : Location) :
    Except IoError Location :=
  match ofSegment? s with
  | some c => take tree here c
  | none => .ok here

theorem walk_cons (tree : FileTree) (here : Location) (s : Text)
    (segments : List Text) :
    walk tree here (s :: segments) =
      stand tree here >>= pass tree s >>= (walk tree · segments) := by
  rw [walk]
  unfold stand pass
  cases tree.find? here with
  | none => rfl
  | some entry =>
      cases entry with
      | file content => rfl
      | directory =>
          cases ofSegment? s with
          | none => rfl
          | some c =>
              cases c with
              | name n =>
                  simp only [bind, Except.bind, take]
                  split
                  · rfl
                  · split <;> simp
              | _ => rfl

theorem stand_bind_pass (tree : FileTree) (here : Location) (s : Text)
    (cs : List Component) :
    stand tree here >>= pass tree s >>= (enter tree · cs) =
      enter tree here ((ofSegment? s).toList ++ cs) := by
  unfold pass
  cases ofSegment? s with
  | none =>
      rw [← stand_bind_enter tree here (none.toList ++ cs), bind_assoc]
      rfl
  | some c => rfl

theorem filterMap_cons_eq_append (s : Text) (segments : List Text) :
    (s :: segments).filterMap ofSegment? =
      (ofSegment? s).toList ++ segments.filterMap ofSegment? := by
  cases hs : ofSegment? s <;> simp [hs]

theorem stand_bind_walk (tree : FileTree) (here : Location)
    {segments : List Text} (hne : segments ≠ []) :
    stand tree here >>= (walk tree · segments) = walk tree here segments := by
  obtain ⟨s, rest, rfl⟩ := List.exists_cons_of_ne_nil hne
  simp only [walk_cons]
  cases hstand : stand tree here with
  | error e => rfl
  | ok there =>
      obtain rfl := (stand_eq_ok_iff.mp hstand).1
      change stand tree here >>= pass tree s >>= _ = _
      rw [hstand]

/-- What is in front of further segments is entered. -/
theorem walk_append (tree : FileTree) (here : Location) (first : List Text)
    {second : List Text} (hne : second ≠ []) :
    walk tree here (first ++ second) =
      enter tree here (first.filterMap ofSegment?) >>=
        (walk tree · second) := by
  induction first generalizing here with
  | nil => exact (stand_bind_walk tree here hne).symm
  | cons s first ih =>
      rw [List.cons_append, walk_cons, filterMap_cons_eq_append,
        ← stand_bind_pass]
      simp only [ih, bind_assoc]

theorem walk_bind_stand (tree : FileTree) (here : Location)
    (segments : List Text) :
    walk tree here segments >>= stand tree =
      enter tree here (segments.filterMap ofSegment?) := by
  induction segments generalizing here with
  | nil => rfl
  | cons s segments ih =>
      rw [walk_cons, filterMap_cons_eq_append, ← stand_bind_pass]
      simp only [bind_assoc, ih]

/-! ## Where a walk ends -/

theorem exists_of_enter_cons {tree : FileTree} {here there : Location}
    {c : Component} {cs : List Component}
    (henter : enter tree here (c :: cs) = .ok there) :
    ∃ next, tree.find? here = some .directory ∧ take tree here c = .ok next ∧
      enter tree next cs = .ok there := by
  unfold enter at henter
  obtain ⟨next, hstep, hrest⟩ := bind_eq_ok_iff.mp henter
  obtain ⟨place, hstand, htake⟩ := bind_eq_ok_iff.mp hstep
  obtain ⟨rfl, hhere⟩ := stand_eq_ok_iff.mp hstand
  exact ⟨next, hhere, htake, hrest⟩

theorem find?_of_enter {tree : FileTree} {here there : Location}
    {cs : List Component} (henter : enter tree here cs = .ok there) :
    tree.find? there = some .directory := by
  induction cs generalizing here with
  | nil =>
      obtain ⟨rfl, hhere⟩ := stand_eq_ok_iff.mp henter
      exact hhere
  | cons c cs ih =>
      obtain ⟨next, -, -, hrest⟩ := exists_of_enter_cons henter
      exact ih hrest

theorem find?_head_of_enter {tree : FileTree} {here there : Location}
    {cs : List Component} (henter : enter tree here cs = .ok there) :
    tree.find? here = some .directory := by
  cases cs with
  | nil => exact (stand_eq_ok_iff.mp henter).2
  | cons c cs =>
      obtain ⟨next, hhere, -, -⟩ := exists_of_enter_cons henter
      exact hhere

theorem enter_cons_of_take {tree : FileTree} {here next : Location}
    {c : Component} (hhere : tree.find? here = some .directory)
    (htake : take tree here c = .ok next) (cs : List Component) :
    enter tree here (c :: cs) = enter tree next cs := by
  rw [enter, stand_of_directory hhere]
  simp only [bind, Except.bind, htake]

theorem take_name_eq_ok_iff {tree : FileTree} {here next : Location}
    {n : Text} :
    take tree here (.name n) = .ok next ↔
      n.byteSize ≤ maxNameBytes ∧ tree.find? (here ++ [n]) ≠ none ∧
        next = here ++ [n] := by
  rw [take]
  split
  next hlong =>
    have hnot : ¬ n.byteSize ≤ maxNameBytes := by omega
    simp [hnot]
  next hshort =>
    have hle : n.byteSize ≤ maxNameBytes := by omega
    split
    next hnone => simp [Option.isNone_iff_eq_none.mp hnone]
    next hsome =>
      have hne : tree.find? (here ++ [n]) ≠ none := by simpa using hsome
      simp [hle, hne, eq_comm]

theorem enter_name {tree : FileTree} {here : Location}
    (hhere : tree.find? here = some .directory) (n : Text) :
    enter tree here [.name n] =
      if n.byteSize > maxNameBytes then .error .nameTooLong
      else stand tree (here ++ [n]) := by
  rw [enter, stand_of_directory hhere]
  change take tree here (.name n) >>= stand tree = _
  rw [take]
  by_cases hlong : n.byteSize > maxNameBytes
  · rw [if_pos hlong, if_pos hlong]
    rfl
  · rw [if_neg hlong, if_neg hlong]
    cases hnext : tree.find? (here ++ [n]) with
    | none =>
        simp only [stand, hnext]
        rfl
    | some entry => rfl

/-- Entering a directory along one more name comes to looking at what is
there. -/
theorem enter_name_cons {tree : FileTree} {here : Location}
    (hhere : tree.find? here = some .directory) (n : Text)
    (cs : List Component) :
    enter tree here (.name n :: cs) =
      if n.byteSize > maxNameBytes then .error .nameTooLong
      else enter tree (here ++ [n]) cs := by
  have hsplit := enter_append tree here [.name n] cs
  rw [List.singleton_append, enter_name hhere] at hsplit
  rw [hsplit]
  split
  · rfl
  · exact stand_bind_enter tree (here ++ [n]) cs

theorem enter_of_not_directory {tree : FileTree} {here : Location}
    {e : IoError} (hstand : stand tree here = .error e) (cs : List Component) :
    enter tree here cs = .error e := by
  rw [← stand_bind_enter, hstand]
  rfl

theorem enter_of_absent {tree : FileTree} {here : Location}
    (hnone : tree.find? here = none) (cs : List Component) :
    enter tree here cs = .error .notFound := by
  apply enter_of_not_directory
  simp [stand, hnone]

theorem enter_of_file {tree : FileTree} {here : Location} {content : Content}
    (hfile : tree.find? here = some (.file content)) (cs : List Component) :
    enter tree here cs = .error .notDirectory := by
  apply enter_of_not_directory
  simp [stand, hfile]

theorem eq_seenFrom_of_take {tree : FileTree} {here next : Location}
    {c : Component} (hroot : c ≠ .root) (htake : take tree here c = .ok next) :
    next = seenFrom here c := by
  cases c with
  | root => exact absurd rfl hroot
  | here => exact (Except.ok.inj htake).symm
  | up => exact (Except.ok.inj htake).symm
  | name n => exact (take_name_eq_ok_iff.mp htake).2.2

theorem ofSegment?_ne_root (s : Text) : ofSegment? s ≠ some .root := by
  intro hroot
  have hsegment := segment_of_ofSegment? hroot
  rw [← hsegment] at hroot
  cases hroot

/-- There are no links, so a walk ends where the path leads by the letter. -/
theorem eq_foldl_seenFrom_of_enter {tree : FileTree} {here there : Location}
    {cs : List Component} (hroot : .root ∉ cs)
    (henter : enter tree here cs = .ok there) :
    there = cs.foldl seenFrom here := by
  induction cs generalizing here with
  | nil => exact (stand_eq_ok_iff.mp henter).1.symm
  | cons c cs ih =>
      obtain ⟨next, -, htake, hrest⟩ := exists_of_enter_cons henter
      rw [List.mem_cons, not_or] at hroot
      rw [List.foldl_cons, ← eq_seenFrom_of_take (Ne.symm hroot.1) htake]
      exact ih hroot.2 hrest

theorem eq_foldl_seenFrom_of_pass {tree : FileTree} {here next : Location}
    {s : Text} (hpass : pass tree s here = .ok next) :
    next = (ofSegment? s).toList.foldl seenFrom here := by
  unfold pass at hpass
  cases hs : ofSegment? s with
  | none =>
      rw [hs] at hpass
      exact (Except.ok.inj hpass).symm
  | some c =>
      rw [hs] at hpass
      apply eq_seenFrom_of_take _ hpass
      rintro rfl
      exact ofSegment?_ne_root s hs

theorem eq_foldl_seenFrom_of_walk {tree : FileTree} {here there : Location}
    {segments : List Text} (hwalk : walk tree here segments = .ok there) :
    there = (segments.filterMap ofSegment?).foldl seenFrom here := by
  induction segments generalizing here with
  | nil => exact (Except.ok.inj hwalk).symm
  | cons s segments ih =>
      rw [walk_cons] at hwalk
      obtain ⟨next, hstep, hrest⟩ := bind_eq_ok_iff.mp hwalk
      obtain ⟨place, hstand, hpass⟩ := bind_eq_ok_iff.mp hstep
      obtain ⟨rfl, -⟩ := stand_eq_ok_iff.mp hstand
      rw [filterMap_cons_eq_append, List.foldl_append,
        ← eq_foldl_seenFrom_of_pass hpass]
      exact ih hrest

theorem directory_of_enter_names {tree : FileTree} {here there : Location}
    {names : List Text}
    (henter : enter tree here (names.map .name) = .ok there) :
    there = here ++ names ∧
      ∀ ks, ks <+: names → tree.find? (here ++ ks) = some .directory := by
  induction names generalizing here with
  | nil =>
      obtain ⟨rfl, hhere⟩ := stand_eq_ok_iff.mp henter
      simp [hhere]
  | cons n names ih =>
      obtain ⟨next, hhere, htake, hrest⟩ := exists_of_enter_cons henter
      obtain ⟨-, -, rfl⟩ := take_name_eq_ok_iff.mp htake
      obtain ⟨hthere, hbelow⟩ := ih hrest
      refine ⟨by simp [hthere], ?_⟩
      intro ks hks
      cases ks with
      | nil => simpa using hhere
      | cons k ks =>
          obtain ⟨rfl, htail⟩ := List.cons_prefix_cons.mp hks
          simpa using hbelow ks htail

/-! ## Walking in another tree -/

theorem enter_of_keeps {tree tree' : FileTree}
    (hkeeps : ∀ l, tree.find? l = some .directory →
      tree'.find? l = some .directory)
    {here there : Location} {cs : List Component}
    (henter : enter tree here cs = .ok there) :
    enter tree' here cs = .ok there := by
  induction cs generalizing here with
  | nil =>
      obtain ⟨rfl, hhere⟩ := stand_eq_ok_iff.mp henter
      exact stand_of_directory (hkeeps here hhere)
  | cons c cs ih =>
      obtain ⟨next, hhere, htake, hrest⟩ := exists_of_enter_cons henter
      have htake' : take tree' here c = .ok next := by
        cases c with
        | name n =>
            obtain ⟨hshort, -, rfl⟩ := take_name_eq_ok_iff.mp htake
            have hnext := hkeeps _ (find?_head_of_enter hrest)
            apply take_name_eq_ok_iff.mpr
            exact ⟨hshort, by simp [hnext], rfl⟩
        | _ => exact htake
      rw [enter_cons_of_take (hkeeps here hhere) htake']
      exact ih hrest

theorem walk_congr {tree tree' : FileTree}
    (hsame : ∀ l, tree.find? l = tree'.find? l) (here : Location)
    (segments : List Text) : walk tree here segments =
      walk tree' here segments := by
  induction segments generalizing here with
  | nil => rfl
  | cons s segments ih =>
      have hstand : stand tree = stand tree' := by
        funext l
        unfold stand
        rw [hsame]
      have hpass : pass tree s = pass tree' s := by
        funext l
        unfold pass
        cases ofSegment? s with
        | none => rfl
        | some c => cases c <;> simp [take, hsame]
      rw [walk_cons, walk_cons, hstand, hpass]
      exact congrArg _ (funext ih)

theorem enter_names_congr {tree tree' : FileTree} {here : Location}
    {names : List Text}
    (hsame : ∀ ks, ks <+: names → tree.find? (here ++ ks) =
      tree'.find? (here ++ ks)) :
    enter tree here (names.map .name) = enter tree' here (names.map .name) := by
  have hstand : stand tree here = stand tree' here := by
    have hhere := hsame [] List.nil_prefix
    rw [List.append_nil] at hhere
    unfold stand
    rw [hhere]
  induction names generalizing here with
  | nil => exact hstand
  | cons n names ih =>
      cases hplace : stand tree here with
      | error e =>
          rw [enter_of_not_directory hplace,
            enter_of_not_directory (hstand ▸ hplace)]
      | ok place =>
          have hhere := (stand_eq_ok_iff.mp hplace).2
          have hhere' := (stand_eq_ok_iff.mp (hstand ▸ hplace)).2
          rw [List.map_cons, enter_name_cons hhere, enter_name_cons hhere']
          have hnext : ∀ ks, ks <+: names →
              tree.find? (here ++ [n] ++ ks) =
                tree'.find? (here ++ [n] ++ ks) := by
            intro ks hks
            have hcons := hsame (n :: ks) (List.cons_prefix_cons.mpr ⟨rfl, hks⟩)
            simpa using hcons
          rw [ih hnext]
          have hchild := hnext [] List.nil_prefix
          rw [List.append_nil] at hchild
          unfold stand
          rw [hchild]

theorem walk_congr_below {tree tree' : FileTree} {here : Location}
    (hbelow : ∀ l, here <+: l → tree.find? l = tree'.find? l)
    {segments : List Text}
    (hnames : ∀ c ∈ segments.filterMap ofSegment?, ∃ n, c = .name n) :
    walk tree here segments = walk tree' here segments := by
  induction segments generalizing here with
  | nil => rfl
  | cons s segments ih =>
      have hstand : stand tree here = stand tree' here := by
        unfold stand
        rw [hbelow here (List.prefix_refl here)]
      rw [filterMap_cons_eq_append, List.forall_mem_append] at hnames
      rw [walk_cons, walk_cons, ← hstand, bind_assoc, bind_assoc]
      apply bind_congr_of_ok
      intro place hplace
      obtain ⟨rfl, -⟩ := stand_eq_ok_iff.mp hplace
      unfold pass
      cases hs : ofSegment? s with
      | none => exact ih hbelow hnames.2
      | some c =>
          obtain ⟨n, rfl⟩ := hnames.1 c (by simp [hs])
          have hchild := hbelow (here ++ [n]) (List.prefix_append here [n])
          have htake : take tree here (.name n) =
              take tree' here (.name n) := by
            rw [take, take, hchild]
          simp only [← htake]
          apply bind_congr_of_ok
          intro next hnext
          obtain ⟨-, -, rfl⟩ := take_name_eq_ok_iff.mp hnext
          apply ih _ hnames.2
          intro l hl
          exact hbelow l ((List.prefix_append here [n]).trans hl)

/-! ## Where a path leads -/

theorem locationFrom_current (w : Workspace) (p : Path) :
    p.locationFrom w.current =
      p.steps.foldl Component.seenFrom (w.start p) := by
  unfold Path.locationFrom Workspace.start
  rw [Path.components_eq_lead_append_steps, List.foldl_append]
  congr 1
  unfold Path.lead
  split
  · rfl
  · split <;> rfl

theorem eq_locationFrom_of_enter {w : Workspace} {p : Path}
    {there : Location} (henter : enter w.tree (w.start p) p.steps = .ok there) :
    there = p.locationFrom w.current := by
  rw [locationFrom_current]
  exact eq_foldl_seenFrom_of_enter p.root_not_mem_steps henter

end Workspace

end FormScaffold
