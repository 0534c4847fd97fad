import FormScaffold.Proofs.FileTree.Placing

/-!
# How a file tree grows

In a file system every entry stands in a directory.  Making directories adds
directories where nothing was and leaves everything else; whether it succeeds or
not, every entry still stands in a directory.  Where it succeeds there is a
directory.
-/

namespace FormScaffold.Workspace

open Component

/-- Every entry stands in a directory, and so does whoever works there. -/
structure IsGrounded (w : Workspace) : Prop where
  parent : ∀ l n, w.tree.find? (l ++ [n]) ≠ none →
    w.tree.find? l = some .directory
  current : w.tree.find? w.current = some .directory

/-- At this location the first workspace holds what the second does, or has a
directory where the second has nothing. -/
def AheadAt (w v : Workspace) (l : Location) : Prop :=
  w.tree.find? l = v.tree.find? l ∨
    (v.tree.find? l = none ∧ w.tree.find? l = some .directory)

/-- All that the second workspace holds, and new directories. -/
structure Extends (w v : Workspace) : Prop where
  current : w.current = v.current
  find? : ∀ l, AheadAt w v l

namespace Extends

theorem refl (w : Workspace) : Extends w w :=
  ⟨rfl, fun _ => Or.inl rfl⟩

theorem trans {w v u : Workspace} (hwv : Extends w v) (hvu : Extends v u) :
    Extends w u := by
  refine ⟨hwv.current.trans hvu.current, ?_⟩
  intro l
  rcases hwv.find? l with hsame | ⟨hnone, hdirectory⟩
  · unfold AheadAt
    rw [hsame]
    exact hvu.find? l
  · rcases hvu.find? l with hsame | ⟨hnone', -⟩
    · exact Or.inr ⟨hsame ▸ hnone, hdirectory⟩
    · exact Or.inr ⟨hnone', hdirectory⟩

theorem keeps {w v : Workspace} (hext : Extends w v) {l : Location} {e : Entry}
    (hl : v.tree.find? l = some e) : w.tree.find? l = some e := by
  rcases hext.find? l with hsame | ⟨hnone, -⟩
  · rw [hsame, hl]
  · rw [hnone] at hl
    cases hl

theorem start {w v : Workspace} (hext : Extends w v) (p : Path) :
    w.start p = v.start p := by
  unfold Workspace.start
  rw [hext.current]

theorem enter {w v : Workspace} (hext : Extends w v) {here there : Location}
    {cs : List Component} (henter : enter v.tree here cs = .ok there) :
    Workspace.enter w.tree here cs = .ok there :=
  enter_of_keeps (fun _ => hext.keeps) henter

end Extends

/-! ## One entry -/

theorem find?_put (w : Workspace) {l : Location} (hl : l ≠ []) (e : Entry)
    (other : Location) :
    (w.put l e).tree.find? other =
      if other = l then some e else w.tree.find? other :=
  w.tree.find?_set l other e hl

theorem put_of_find? {w : Workspace} {l : Location} {e : Entry} (hl : l ≠ [])
    (hfind : w.tree.find? l = some e) : w.put l e = w := by
  unfold put
  rw [FileTree.set_of_find? hl hfind]

/-- An entry that is not put in place of a directory leaves every directory. -/
theorem directory_put {w : Workspace} {l other : Location} (hl : l ≠ [])
    (hfree : w.tree.find? l ≠ some .directory) (e : Entry)
    (hother : w.tree.find? other = some .directory) :
    (w.put l e).tree.find? other = some .directory := by
  rw [find?_put w hl, if_neg, hother]
  rintro rfl
  exact hfree hother

theorem extends_put {w : Workspace} {l : Location} {n : Text}
    (hnone : w.tree.find? (l ++ [n]) = none) :
    Extends (w.put (l ++ [n]) .directory) w := by
  refine ⟨rfl, ?_⟩
  intro other
  unfold AheadAt
  rw [find?_put w (by simp)]
  split
  next hother => exact Or.inr ⟨hother ▸ hnone, rfl⟩
  next => exact Or.inl rfl

/-- An entry is put into a directory, and not in place of one. -/
theorem IsGrounded.put {w : Workspace} (hw : w.IsGrounded) {l : Location}
    {n : Text} {e : Entry} (hl : w.tree.find? l = some .directory)
    (hfree : w.tree.find? (l ++ [n]) ≠ some .directory) :
    (w.put (l ++ [n]) e).IsGrounded := by
  have hne : l ++ [n] ≠ [] := by simp
  refine ⟨?_, directory_put hne hfree e hw.current⟩
  intro above m hfind
  apply directory_put hne hfree
  by_cases hsame : above ++ [m] = l ++ [n]
  · rwa [(List.append_inj' hsame rfl).1]
  · rw [find?_put w hne, if_neg hsame] at hfind
    exact hw.parent above m hfind

/-- Where nothing is, nothing stands below. -/
theorem IsGrounded.find?_below {w : Workspace} (hw : w.IsGrounded)
    {l : Location} (hnone : w.tree.find? l = none) (ks : List Text) :
    w.tree.find? (l ++ ks) = none := by
  induction ks using List.reverseRecOn with
  | nil => simpa using hnone
  | append_singleton ks k ih =>
      by_contra hfind
      rw [← List.append_assoc] at hfind
      have hparent := hw.parent _ _ hfind
      rw [ih] at hparent
      cases hparent

theorem mem_entries_of_find? {tree : FileTree} {l : Location} {e : Entry}
    (hl : l ≠ []) (hfind : tree.find? l = some e) : (l, e) ∈ tree.entries := by
  obtain ⟨n, ns, rfl⟩ := List.exists_cons_of_ne_nil hl
  obtain ⟨before, after, hentries, -⟩ := List.lookup_eq_some_iff.mp hfind
  rw [hentries]
  simp

/-- Whether every entry stands in a directory is seen from the entries. -/
theorem isGrounded_of_entries {w : Workspace}
    (hentries : ∀ e ∈ w.tree.entries, w.tree.find? e.1.dropLast =
      some .directory)
    (hcurrent : w.tree.find? w.current = some .directory) : w.IsGrounded := by
  refine ⟨?_, hcurrent⟩
  intro l n hfind
  obtain ⟨e, he⟩ := Option.ne_none_iff_exists'.mp hfind
  have hparent := hentries _ (mem_entries_of_find? (by simp) he)
  simpa using hparent

/-! ## Making directories -/

theorem exists_of_makeDirectory {w w' : Workspace} {p : Path}
    (hmake : w.makeDirectory p = .ok w') :
    ∃ cs n there, refused p = none ∧ p.steps = cs ++ [.name n] ∧
      enter w.tree (w.start p) cs = .ok there ∧ n.byteSize ≤ maxNameBytes ∧
      w.tree.find? (there ++ [n]) = none ∧
      w' = w.put (there ++ [n]) .directory := by
  unfold makeDirectory at hmake
  obtain ⟨t, htarget, hput⟩ := bind_eq_ok_iff.mp hmake
  obtain ⟨hrefused, hplace⟩ := exists_of_target htarget
  rcases hplace with
    ⟨directory, rfl⟩ | ⟨cs, n, there, slashes, hsteps, henter, rfl⟩
  · cases hput
  · simp only [bind, Except.bind] at hput
    split at hput
    next => cases hput
    next hshort =>
      split at hput
      next => cases hput
      next hnone =>
        cases hput
        exact ⟨cs, n, there, hrefused, hsteps, henter, by omega, hnone, rfl⟩

theorem extends_makeDirectory {w w' : Workspace} {p : Path}
    (hmake : w.makeDirectory p = .ok w') : Extends w' w := by
  obtain ⟨cs, n, there, -, -, -, -, hnone, rfl⟩ := exists_of_makeDirectory hmake
  exact extends_put hnone

theorem IsGrounded.makeDirectory {w w' : Workspace} (hw : w.IsGrounded)
    {p : Path} (hmake : w.makeDirectory p = .ok w') : w'.IsGrounded := by
  obtain ⟨cs, n, there, -, -, henter, -, hnone, rfl⟩ :=
    exists_of_makeDirectory hmake
  exact hw.put (find?_of_enter henter) (by simp [hnone])

theorem isDirectory_of_makeDirectory {w w' : Workspace} {p : Path}
    (hmake : w.makeDirectory p = .ok w') : w'.isDirectory p = true := by
  obtain ⟨cs, n, there, hrefused, hsteps, henter, hshort, hnone, rfl⟩ :=
    exists_of_makeDirectory hmake
  have hext := extends_put hnone
  rw [isDirectory_of_enter hrefused hsteps (hext.enter henter)]
  refine ⟨hshort, ?_⟩
  rw [find?_put w (by simp), if_pos rfl]

theorem ensureDirectory_eq_ok_iff {w w' : Workspace} {p : Path} :
    w.ensureDirectory p = .ok w' ↔
      w.makeDirectory p = .ok w' ∨ (w.isDirectory p = true ∧ w' = w) := by
  unfold ensureDirectory
  cases hmake : w.makeDirectory p with
  | ok made =>
      constructor
      · intro hsame
        exact Or.inl hsame
      · rintro (hsame | ⟨hdirectory, -⟩)
        · exact hsame
        · rw [makeDirectory_of_isDirectory hdirectory] at hmake
          cases hmake
  | error e =>
      cases hdirectory : w.isDirectory p <;> simp [eq_comm]

/-- Making directories keeps what is there, whether it succeeds or not. -/
theorem makeDirectories_keeps (w : Workspace) (p : Path) :
    Extends (w.makeDirectories p).1 w ∧
      (w.IsGrounded → (w.makeDirectories p).1.IsGrounded) := by
  fun_induction makeDirectories w p with
  | case1 p hempty => exact ⟨.refl w, id⟩
  | case2 p hne w' hmake =>
      exact ⟨extends_makeDirectory hmake, fun hw => hw.makeDirectory hmake⟩
  | case3 p hne hmissing above hparent hshorter w' habove w'' hensure ih =>
      rw [habove] at ih
      rcases ensureDirectory_eq_ok_iff.mp hensure with hmake | ⟨-, rfl⟩
      · exact ⟨(extends_makeDirectory hmake).trans ih.1,
          fun hw => (ih.2 hw).makeDirectory hmake⟩
      · exact ih
  | case4 p hne hmissing above hparent hshorter w' habove e hensure ih =>
      rwa [habove] at ih
  | case5 p hne hmissing above hparent hshorter w' e habove ih =>
      rwa [habove] at ih
  | case6 p => exact ⟨.refl w, id⟩
  | case7 p => exact ⟨.refl w, id⟩
  | case8 p => exact ⟨.refl w, id⟩

theorem isDirectory_of_makeDirectories {w w' : Workspace} {p : Path}
    (hp : p.text ≠ []) (hmake : w.makeDirectories p = (w', .ok ())) :
    w'.isDirectory p = true := by
  rw [makeDirectories, if_neg hp] at hmake
  split at hmake
  next made hmade =>
    cases hmake
    exact isDirectory_of_makeDirectory hmade
  next =>
    split at hmake
    next above _ =>
      split at hmake
      next =>
        split at hmake
        next between _ =>
          split at hmake
          next made hensure =>
            cases hmake
            rcases ensureDirectory_eq_ok_iff.mp hensure with hmade |
              ⟨hthere, rfl⟩
            · exact isDirectory_of_makeDirectory hmade
            · exact hthere
          next => cases hmake
        next => cases hmake
      next => cases hmake
    next => cases hmake
  next =>
    obtain ⟨rfl, hthere⟩ := Prod.mk.inj hmake
    split at hthere
    next hdirectory => exact hdirectory
    next => cases hthere

end FormScaffold.Workspace
