import FormScaffold.Proofs.FileTree.Growth

/-!
# Making directories from above

Directories are made from below: a path is tried first, and only if what it
stands in is missing, the path above it is made before it is tried again.  In a
grounded workspace this comes to the same as going down from a directory that is
there and making what is missing on the way.  Going down, only the names of the
path and the entries at its places matter.
-/

namespace FormScaffold.Workspace

open Component

/-- The workspace with a directory at a location where nothing is. -/
def withDirectory (w : Workspace) (l : Location) : Workspace :=
  match w.tree.find? l with
  | none => w.put l .directory
  | some _ => w

/-- Goes down along names and makes the directories that are missing. -/
def descend (w : Workspace) (here : Location) :
    List Text → Workspace × Except IoError Unit
  | [] => (w, .ok ())
  | n :: ns =>
    if n.byteSize > maxNameBytes then (w, .error .nameTooLong)
    else
      match w.tree.find? (here ++ [n]) with
      | some (.file _) =>
          (w, .error (if ns = [] then .occupied else .notDirectory))
      | _ => descend (w.withDirectory (here ++ [n])) (here ++ [n]) ns

theorem extends_withDirectory (w : Workspace) (here : Location) (n : Text) :
    Extends (w.withDirectory (here ++ [n])) w := by
  unfold withDirectory
  split
  next hnone => exact extends_put hnone
  next => exact .refl w

theorem find?_withDirectory {w : Workspace} {here : Location} {n : Text}
    (hfile : ∀ c, w.tree.find? (here ++ [n]) ≠ some (.file c)) (l : Location) :
    (w.withDirectory (here ++ [n])).tree.find? l =
      if l = here ++ [n] then some .directory else w.tree.find? l := by
  unfold withDirectory
  split
  next => exact find?_put w (by simp) .directory l
  next entry hentry =>
    split
    next hl =>
      rw [hl, hentry]
      cases entry with
      | directory => rfl
      | file c => exact absurd hentry (hfile c)
    next => rfl

theorem withDirectory_of_directory {w : Workspace} {l : Location}
    (hl : w.tree.find? l = some .directory) : w.withDirectory l = w := by
  unfold withDirectory
  rw [hl]

/-! ## One name after the other -/

theorem descend_of_long {w : Workspace} {here : Location} {n : Text}
    (hlong : n.byteSize > maxNameBytes) (ns : List Text) :
    descend w here (n :: ns) = (w, .error .nameTooLong) := by
  rw [descend, if_pos hlong]

theorem descend_of_file {w : Workspace} {here : Location} {n : Text}
    {c : Content} (hshort : ¬ n.byteSize > maxNameBytes)
    (hfile : w.tree.find? (here ++ [n]) = some (.file c)) (ns : List Text) :
    descend w here (n :: ns) =
      (w, .error (if ns = [] then .occupied else .notDirectory)) := by
  rw [descend, if_neg hshort, hfile]

theorem descend_of_clear {w : Workspace} {here : Location} {n : Text}
    (hshort : ¬ n.byteSize > maxNameBytes)
    (hfile : ∀ c, w.tree.find? (here ++ [n]) ≠ some (.file c))
    (ns : List Text) :
    descend w here (n :: ns) =
      descend (w.withDirectory (here ++ [n])) (here ++ [n]) ns := by
  rw [descend, if_neg hshort]
  split
  next c hc => exact absurd hc (hfile c)
  next => rfl

theorem extends_descend (w : Workspace) (here : Location) (ns : List Text) :
    Extends (descend w here ns).1 w := by
  fun_induction descend w here ns with
  | case1 w here => exact .refl w
  | case2 w here n ns hlong => exact .refl w
  | case3 w here n ns hshort c hfile => exact .refl w
  | case4 w here n ns hshort hclear ih =>
      exact ih.trans (extends_withDirectory w here n)

/-- What is met at the last name is something else if a further name follows. -/
theorem descend_concat (w : Workspace) (here : Location) (ns : List Text)
    (n : Text) :
    descend w here (ns ++ [n]) =
      match descend w here ns with
      | (w', .ok ()) => descend w' (here ++ ns) [n]
      | (w', .error e) =>
        (w', .error (if e = .occupied then .notDirectory else e)) := by
  fun_induction descend w here ns with
  | case1 w here => simp
  | case2 w here m ns hlong => simp [descend_of_long hlong]
  | case3 w here m ns hshort c hfile =>
      rw [List.cons_append, descend_of_file hshort hfile, if_neg (by simp)]
      by_cases hns : ns = [] <;> simp [hns]
  | case4 w here m ns hshort hclear ih =>
      rw [List.cons_append, descend_of_clear hshort hclear, ih]
      simp

/-! ## What was there before -/

theorem descend_of_enter {w : Workspace} {here there : Location}
    {ns : List Text} (henter : enter w.tree here (ns.map .name) = .ok there) :
    descend w here ns = (w, .ok ()) := by
  induction ns generalizing here with
  | nil => rfl
  | cons n ns ih =>
      obtain ⟨next, -, htake, hrest⟩ := exists_of_enter_cons henter
      obtain ⟨hle, -, rfl⟩ := take_name_eq_ok_iff.mp htake
      have hnext := find?_head_of_enter hrest
      rw [descend_of_clear (by omega) (by simp [hnext]),
        withDirectory_of_directory hnext]
      exact ih hrest

/-- Why names lead nowhere: the first of them does not, or those behind it. -/
inductive Stops (tree : FileTree) (here : Location) (n : Text)
    (ns : List Text) : IoError → Prop
  | long (hlong : n.byteSize > maxNameBytes) : Stops tree here n ns .nameTooLong
  | absent (hshort : ¬ n.byteSize > maxNameBytes)
      (hentry : tree.find? (here ++ [n]) = none) :
        Stops tree here n ns .notFound
  | file (hshort : ¬ n.byteSize > maxNameBytes) {c : Content}
      (hentry : tree.find? (here ++ [n]) = some (.file c)) :
        Stops tree here n ns .notDirectory
  | behind (hshort : ¬ n.byteSize > maxNameBytes) {e : IoError}
      (hentry : tree.find? (here ++ [n]) = some .directory)
      (hrest : enter tree (here ++ [n]) (ns.map .name) = .error e) :
        Stops tree here n ns e

theorem stops_of_not_enter {tree : FileTree} {here : Location} {n : Text}
    {ns : List Text} {e : IoError} (hhere : tree.find? here = some .directory)
    (henter : enter tree here ((n :: ns).map .name) = .error e) :
    Stops tree here n ns e := by
  rw [List.map_cons, enter_name_cons hhere] at henter
  split at henter
  next hlong =>
    cases henter
    exact .long hlong
  next hshort =>
    cases hentry : tree.find? (here ++ [n]) with
    | none =>
        rw [enter_of_absent hentry] at henter
        cases henter
        exact .absent hshort hentry
    | some entry =>
        cases entry with
        | file c =>
            rw [enter_of_file hentry] at henter
            cases henter
            exact .file hshort hentry
        | directory => exact .behind hshort hentry henter

theorem descend_of_not_enter {w : Workspace} {here : Location} {ns : List Text}
    {e : IoError} (hhere : w.tree.find? here = some .directory)
    (henter : enter w.tree here (ns.map .name) = .error e)
    (hmissing : e ≠ .notFound) (n : Text) :
    descend w here (ns ++ [n]) = (w, .error e) := by
  induction ns generalizing here with
  | nil =>
      rw [List.map_nil, enter, stand_of_directory hhere] at henter
      cases henter
  | cons m ns ih =>
      rw [List.cons_append]
      cases stops_of_not_enter hhere henter with
      | long hlong => exact descend_of_long hlong (ns ++ [n])
      | absent _ _ => exact absurd rfl hmissing
      | file hshort hentry =>
          rw [descend_of_file hshort hentry, if_neg (by simp)]
      | behind hshort hentry hrest =>
          rw [descend_of_clear hshort (by simp [hentry]),
            withDirectory_of_directory hentry]
          exact ih hentry hrest

theorem descend_ne_occupied_of_absent {w : Workspace} {here : Location}
    {ns : List Text}
    (habsent : ∀ ks, ks ≠ [] → w.tree.find? (here ++ ks) = none) :
    (descend w here ns).2 ≠ .error .occupied := by
  induction ns generalizing w here with
  | nil => simp [descend]
  | cons n ns ih =>
      by_cases hlong : n.byteSize > maxNameBytes
      · simp [descend_of_long hlong]
      · have hclear : ∀ c, w.tree.find? (here ++ [n]) ≠ some (.file c) := by
          simp [habsent]
        rw [descend_of_clear hlong hclear]
        apply ih
        intro ks hks
        rw [find?_withDirectory hclear, if_neg (by simpa using hks),
          List.append_assoc]
        exact habsent _ (by simp)

/-- Behind a missing directory there is no file to meet. -/
theorem descend_ne_occupied {w : Workspace} (hw : w.IsGrounded)
    {here : Location} {ns : List Text}
    (hhere : w.tree.find? here = some .directory)
    (henter : enter w.tree here (ns.map .name) = .error .notFound) :
    (descend w here ns).2 ≠ .error .occupied := by
  induction ns generalizing here with
  | nil =>
      rw [List.map_nil, enter, stand_of_directory hhere] at henter
      cases henter
  | cons n ns ih =>
      cases stops_of_not_enter hhere henter with
      | absent hshort hentry =>
          have hclear : ∀ c, w.tree.find? (here ++ [n]) ≠ some (.file c) := by
            simp [hentry]
          rw [descend_of_clear hshort hclear]
          apply descend_ne_occupied_of_absent
          intro ks hks
          rw [find?_withDirectory hclear, if_neg (by simpa using hks)]
          exact hw.find?_below hentry ks
      | behind hshort hentry hrest =>
          rw [descend_of_clear hshort (by simp [hentry]),
            withDirectory_of_directory hentry]
          exact ih hentry hrest

theorem enter_of_descend {w w' : Workspace} {here : Location} {ns : List Text}
    (hhere : w.tree.find? here = some .directory)
    (hdescend : descend w here ns = (w', .ok ())) :
    enter w'.tree here (ns.map .name) = .ok (here ++ ns) := by
  induction ns generalizing w here with
  | nil =>
      obtain ⟨rfl, -⟩ := Prod.mk.inj hdescend
      rw [List.append_nil]
      exact stand_of_directory hhere
  | cons n ns ih =>
      have hext := extends_descend w here (n :: ns)
      rw [hdescend] at hext
      by_cases hlong : n.byteSize > maxNameBytes
      · rw [descend_of_long hlong] at hdescend
        cases hdescend
      · by_cases hclear : ∀ c, w.tree.find? (here ++ [n]) ≠ some (.file c)
        · rw [descend_of_clear hlong hclear] at hdescend
          rw [List.map_cons, enter_name_cons (hext.keeps hhere), if_neg hlong]
          have hrest := ih (by rw [find?_withDirectory hclear, if_pos rfl])
            hdescend
          simpa using hrest
        · push Not at hclear
          obtain ⟨c, hc⟩ := hclear
          rw [descend_of_file hlong hc] at hdescend
          cases hdescend

/-! ## In a workspace that is ahead -/

theorem AheadAt.file_iff {w v : Workspace} {l : Location}
    (hahead : AheadAt w v l) {c : Content} :
    w.tree.find? l = some (.file c) ↔ v.tree.find? l = some (.file c) := by
  rcases hahead with hsame | ⟨hnone, hdirectory⟩
  · rw [hsame]
  · simp [hnone, hdirectory]

/-- The location is met on the way down from a directory along these names. -/
def OnWay (here : Location) (ns : List Text) (l : Location) : Prop :=
  ∃ ks, ks ≠ [] ∧ ks <+: ns ∧ l = here ++ ks

theorem onWay_cons {here : Location} {n : Text} {ns : List Text} {l : Location}
    (hl : OnWay (here ++ [n]) ns l) : OnWay here (n :: ns) l := by
  obtain ⟨ks, -, hprefix, rfl⟩ := hl
  exact ⟨n :: ks, by simp, List.cons_prefix_cons.mpr ⟨rfl, hprefix⟩, by simp⟩

theorem onWay_head (here : Location) (n : Text) (ns : List Text) :
    OnWay here (n :: ns) (here ++ [n]) :=
  ⟨[n], by simp, by simp, rfl⟩

/-- The entry at a location is changed in neither workspace, or it is a place on
the way and both have a directory there. -/
def ChangeAlike (w v w' v' : Workspace) (here : Location) (ns : List Text)
    (l : Location) : Prop :=
  (w'.tree.find? l = w.tree.find? l ∧ v'.tree.find? l = v.tree.find? l) ∨
    (OnWay here ns l ∧
      w'.tree.find? l = some .directory ∧ v'.tree.find? l = some .directory)

/-- Directories that are there already change nothing for who makes them. -/
theorem descend_of_ahead {w v : Workspace} {here : Location} {ns : List Text}
    (hahead : ∀ l, OnWay here ns l → AheadAt w v l) :
    (descend w here ns).2 = (descend v here ns).2 ∧
      ∀ l, ChangeAlike w v (descend w here ns).1 (descend v here ns).1 here ns
        l := by
  induction ns generalizing w v here with
  | nil => exact ⟨rfl, fun l => Or.inl ⟨rfl, rfl⟩⟩
  | cons n ns ih =>
      by_cases hlong : n.byteSize > maxNameBytes
      · rw [descend_of_long hlong, descend_of_long hlong]
        exact ⟨rfl, fun l => Or.inl ⟨rfl, rfl⟩⟩
      have hnext := hahead _ (onWay_head here n ns)
      by_cases hclear : ∀ c, v.tree.find? (here ++ [n]) ≠ some (.file c)
      · have hclear' : ∀ c, w.tree.find? (here ++ [n]) ≠ some (.file c) := by
          intro c hc
          exact hclear c (hnext.file_iff.mp hc)
        have hfind := find?_withDirectory hclear
        have hfind' := find?_withDirectory hclear'
        rw [descend_of_clear hlong hclear, descend_of_clear hlong hclear']
        have hahead' : ∀ l, OnWay (here ++ [n]) ns l →
            AheadAt (w.withDirectory (here ++ [n]))
              (v.withDirectory (here ++ [n])) l := by
          intro l hl
          unfold AheadAt
          rw [hfind, hfind']
          split
          next => exact Or.inl rfl
          next => exact hahead l (onWay_cons hl)
        obtain ⟨hresult, hchange⟩ := ih hahead'
        refine ⟨hresult, ?_⟩
        intro l
        rcases hchange l with ⟨hsame', hsame⟩ | ⟨hway, hboth⟩
        · rw [hfind] at hsame
          rw [hfind'] at hsame'
          by_cases hl : l = here ++ [n]
          · rw [if_pos hl] at hsame hsame'
            exact Or.inr ⟨hl ▸ onWay_head here n ns, hsame', hsame⟩
          · rw [if_neg hl] at hsame hsame'
            exact Or.inl ⟨hsame', hsame⟩
        · exact Or.inr ⟨onWay_cons hway, hboth⟩
      · push Not at hclear
        obtain ⟨c, hc⟩ := hclear
        rw [descend_of_file hlong hc,
          descend_of_file hlong (hnext.file_iff.mpr hc)]
        exact ⟨rfl, fun l => Or.inl ⟨rfl, rfl⟩⟩

/-- Going down again, with what was made before still there, changes nothing. -/
theorem descend_again {w v : Workspace} {here : Location} {ns : List Text}
    (hahead : ∀ l, OnWay here ns l → AheadAt v (descend w here ns).1 l) :
    descend v here ns = (v, (descend w here ns).2) := by
  induction ns generalizing w here with
  | nil => rfl
  | cons n ns ih =>
      have hnext := hahead _ (onWay_head here n ns)
      by_cases hlong : n.byteSize > maxNameBytes
      · rw [descend_of_long hlong, descend_of_long hlong]
      by_cases hclear : ∀ c, w.tree.find? (here ++ [n]) ≠ some (.file c)
      · rw [descend_of_clear hlong hclear] at hnext hahead ⊢
        have hmade : (w.withDirectory (here ++ [n])).tree.find? (here ++ [n]) =
            some .directory := by
          rw [find?_withDirectory hclear, if_pos rfl]
        have hthere := (extends_descend _ (here ++ [n]) ns).keeps hmade
        have hagain : v.tree.find? (here ++ [n]) = some .directory := by
          rcases hnext with hsame | ⟨hnone, -⟩
          · rw [hsame, hthere]
          · rw [hthere] at hnone
            cases hnone
        rw [descend_of_clear hlong (by simp [hagain]),
          withDirectory_of_directory hagain]
        exact ih fun l hl => hahead l (onWay_cons hl)
      · push Not at hclear
        obtain ⟨c, hc⟩ := hclear
        rw [descend_of_file hlong hc] at hnext ⊢
        rw [descend_of_file hlong (hnext.file_iff.mpr hc)]

/-! ## Made from below -/

theorem text_ne_nil_of_refused {p : Path} (hrefused : refused p = none) :
    p.text ≠ [] := by
  intro hnil
  unfold refused at hrefused
  simp [hnil] at hrefused

/-- The beginning of a path that is looked at is looked at, unless it is
empty. -/
theorem refused_of_text_append {q p : Path} {rest : Text} (hq : q.text ≠ [])
    (htext : p.text = q.text ++ rest) (hrefused : refused p = none) :
    refused q = none := by
  have hbytes := Text.byteSize_append q.text rest
  rw [← htext] at hbytes
  unfold refused at hrefused ⊢
  split at hrefused
  next => cases hrefused
  next hnul =>
    split at hrefused
    next => cases hrefused
    next =>
      split at hrefused
      next => cases hrefused
      next hshort =>
        rw [htext] at hnul
        rw [if_neg, if_neg hq, if_neg (by omega)]
        intro hin
        apply hnul
        rw [List.contains_iff_mem] at hin ⊢
        exact List.mem_append_left rest hin

theorem makeDirectories_of_refused {w : Workspace} {p : Path} {e : IoError}
    (hp : p.text ≠ []) (hrefused : refused p = some e) :
    w.makeDirectories p = (w, .error e) := by
  have hmissing : e ≠ .notFound := by
    rintro rfl
    rw [refused, if_neg hp] at hrefused
    split at hrefused
    next => cases hrefused
    next => split at hrefused <;> cases hrefused
  rw [makeDirectories, if_neg hp, makeDirectory_of_refused hrefused,
    not_isDirectory_of_refused hrefused]
  split <;> simp_all

theorem makeDirectories_of_isDirectory {w : Workspace} {p : Path}
    (hdirectory : w.isDirectory p = true) :
    w.makeDirectories p = (w, .ok ()) := by
  have hne := text_ne_nil_of_refused (refused_of_isDirectory hdirectory)
  rw [makeDirectories, if_neg hne, makeDirectory_of_isDirectory hdirectory]
  simp [hdirectory]

/-- Only if something is missing the path above is made. -/
theorem makeDirectories_of_not_enter {w : Workspace} {p : Path}
    {cs : List Component} {n : Text} {e : IoError} (hrefused : refused p = none)
    (hends : p.EndsInStep) (hsteps : p.steps = cs ++ [.name n])
    (henter : enter w.tree (w.start p) cs = .error e)
    (hmissing : e ≠ .notFound) :
    w.makeDirectories p = (w, .error e) := by
  rw [makeDirectories, if_neg (text_ne_nil_of_refused hrefused),
    makeDirectory_of_not_enter hrefused hends hsteps henter,
    not_isDirectory_of_not_enter hrefused hsteps henter]
  split <;> simp_all

theorem makeDirectories_of_enter {w : Workspace} {p : Path}
    {cs : List Component} {n : Text} {there : Location}
    (hrefused : refused p = none) (hends : p.EndsInStep)
    (hsteps : p.steps = cs ++ [.name n])
    (henter : enter w.tree (w.start p) cs = .ok there) :
    w.makeDirectories p = descend w there [n] := by
  have hmake := makeDirectory_of_enter hrefused hends hsteps henter
  have hthere := isDirectory_of_enter hrefused hsteps henter
  rw [makeDirectories, if_neg (text_ne_nil_of_refused hrefused)]
  by_cases hlong : n.byteSize > maxNameBytes
  · have hnot : ¬ w.isDirectory p = true := by
      rw [hthere]
      omega
    rw [hmake, if_pos hlong, descend_of_long hlong]
    simp [hnot]
  · rw [hmake, if_neg hlong]
    cases hentry : w.tree.find? (there ++ [n]) with
    | none =>
        rw [descend_of_clear hlong (by simp [hentry])]
        simp [withDirectory, hentry, descend]
    | some entry =>
        cases entry with
        | file c =>
            have hnot : ¬ w.isDirectory p = true := by simp [hthere, hentry]
            rw [descend_of_file hlong hentry]
            simp [hnot]
        | directory =>
            have hdirectory : w.isDirectory p = true :=
              hthere.mpr ⟨by omega, hentry⟩
            rw [descend_of_clear hlong (by simp [hentry]),
              withDirectory_of_directory hentry]
            simp [hdirectory, descend]

theorem ensureDirectory_of_enter {w : Workspace} {p : Path}
    {cs : List Component} {n : Text} {there : Location}
    (hrefused : refused p = none) (hends : p.EndsInStep)
    (hsteps : p.steps = cs ++ [.name n])
    (henter : enter w.tree (w.start p) cs = .ok there) :
    (match w.ensureDirectory p with
      | .ok w' => (w', .ok ())
      | .error e => (w, .error e)) = descend w there [n] := by
  rw [← makeDirectories_of_enter hrefused hends hsteps henter, makeDirectories,
    if_neg (text_ne_nil_of_refused hrefused)]
  unfold ensureDirectory
  rw [makeDirectory_of_enter hrefused hends hsteps henter]
  by_cases hlong : n.byteSize > maxNameBytes
  · rw [if_pos hlong]
    cases w.isDirectory p <;> rfl
  · rw [if_neg hlong]
    cases w.tree.find? (there ++ [n]) with
    | none => rfl
    | some entry => cases w.isDirectory p <;> rfl

/-- A path whose directories are those above it, and its own, by going down. -/
theorem makeDirectories_of_above {w : Workspace} (hw : w.IsGrounded)
    {p above : Path} {base : List Component} {ns : List Text} {n : Text}
    {here : Location} (hrefused : refused p = none) (hends : p.EndsInStep)
    (hsteps : p.steps = (base ++ ns.map .name) ++ [.name n])
    (hbase : enter w.tree (w.start p) base = .ok here)
    (hmissing : enter w.tree here (ns.map .name) = .error .notFound)
    (hparent : p.parent? = some above)
    (hshorter : above.text.length < p.text.length)
    (habove : w.makeDirectories above = descend w here ns) :
    w.makeDirectories p = descend w here (ns ++ [n]) := by
  have hhere := find?_of_enter hbase
  have hfront : enter w.tree (w.start p) (base ++ ns.map .name) =
      .error .notFound := by
    rw [enter_append, hbase]
    exact hmissing
  rw [makeDirectories, if_neg (text_ne_nil_of_refused hrefused),
    makeDirectory_of_not_enter hrefused hends hsteps hfront]
  simp only [hparent, if_pos hshorter, habove, descend_concat]
  cases hdescend : descend w here ns with
  | mk made result =>
      have hext := extends_descend w here ns
      have hoccupied := descend_ne_occupied hw hhere hmissing
      rw [hdescend] at hext hoccupied
      cases result with
      | error e =>
          have hne : e ≠ .occupied := fun he => hoccupied (by rw [he])
          simp [hne]
      | ok _ =>
          have hthere := enter_of_descend hhere hdescend
          have hagain : enter made.tree (made.start p)
              (base ++ ns.map .name) = .ok (here ++ ns) := by
            rw [enter_append, hext.start, hext.enter hbase]
            exact hthere
          exact ensureDirectory_of_enter hrefused hends hsteps hagain

/-- In a grounded workspace the directories of a path are made by going down
from a directory that is there, although the call goes up, from a path to its
parent. -/
theorem makeDirectories_eq_descend {w : Workspace} (hw : w.IsGrounded)
    {p : Path} {base : List Component} {ns : List Text} {here : Location}
    (hrefused : refused p = none) (hsteps : p.steps = base ++ ns.map .name)
    (hends : ns ≠ [] → p.EndsInStep)
    (hbase : enter w.tree (w.start p) base = .ok here) :
    w.makeDirectories p = descend w here ns := by
  have hhere := find?_of_enter hbase
  induction ns using List.reverseRecOn generalizing p with
  | nil =>
      have hthere : w.isDirectory p = true := by
        rw [isDirectory_iff hrefused, hsteps]
        exact ⟨here, by simpa using hbase⟩
      exact makeDirectories_of_isDirectory hthere
  | append_singleton ns n ih =>
      have hends := hends (by simp)
      have hlast : p.steps = (base ++ ns.map .name) ++ [.name n] := by
        simpa using hsteps
      have hfront : enter w.tree (w.start p) (base ++ ns.map .name) =
          enter w.tree here (ns.map .name) := by
        rw [enter_append, hbase]
        rfl
      cases hin : enter w.tree here (ns.map .name) with
      | ok there =>
          obtain ⟨rfl, -⟩ := directory_of_enter_names hin
          rw [makeDirectories_of_enter hrefused hends hlast (hfront.trans hin),
            descend_concat, descend_of_enter hin]
      | error e =>
          by_cases hmissing : e = .notFound
          · subst hmissing
            obtain ⟨above, hparent, habove⟩ := Path.exists_parent hlast
            have hne : above.text ≠ [] := by
              intro hnil
              have hnone : base ++ ns.map Component.name = [] :=
                habove.steps.symm.trans (Path.steps_of_text_nil hnil)
              rw [(List.append_eq_nil_iff.mp hnone).2, enter,
                stand_of_directory hhere] at hin
              cases hin
            obtain ⟨rest, -, htext⟩ := habove.text
            have hbelow := ih (refused_of_text_append hne htext hrefused)
              habove.steps (fun hns => habove.last (by simp [hns]))
              (start_of_isAbove habove w ▸ hbase)
            exact makeDirectories_of_above hw hrefused hends hlast hbase hin
              hparent habove.length_lt hbelow
          · rw [descend_of_not_enter hhere hin hmissing]
            exact makeDirectories_of_not_enter hrefused hends hlast
              (hfront.trans hin) hmissing

end FormScaffold.Workspace
