import FormScaffold.Proofs.FileTree.Walking

/-!
# What stands behind the last step of a path

Reading, making a directory and writing a text first enter the directory in
front of the last step, and from there on look at the one place behind it.
-/

namespace FormScaffold.Workspace

open Component

theorem start_join (w : Workspace) (p : Path) {q : Path}
    (hq : q.isAbsolute = false) : w.start (p.join q) = w.start p := by
  unfold start
  rw [Path.isAbsolute_join p hq]

theorem start_of_isAbove {q p : Path} {cs : List Component}
    (habove : Path.IsAbove q p cs) (w : Workspace) : w.start q = w.start p := by
  unfold start
  rw [habove.isAbsolute]

/-! ## Paths that are not looked at -/

theorem locate_of_refused {p : Path} {e : IoError}
    (hrefused : refused p = some e)
    (w : Workspace) : w.locate p = .error e := by
  unfold locate
  rw [hrefused]

theorem target_of_refused {p : Path} {e : IoError}
    (hrefused : refused p = some e)
    (w : Workspace) : w.target p = .error e := by
  unfold target
  rw [hrefused]

theorem not_isDirectory_of_refused {w : Workspace} {p : Path} {e : IoError}
    (hrefused : refused p = some e) : w.isDirectory p = false := by
  unfold isDirectory entryAt
  rw [locate_of_refused hrefused]
  rfl

theorem refused_of_isDirectory {w : Workspace} {p : Path}
    (hdirectory : w.isDirectory p = true) : refused p = none := by
  cases hrefused : refused p with
  | none => rfl
  | some e =>
      rw [not_isDirectory_of_refused hrefused] at hdirectory
      cases hdirectory

/-! ## Reading -/

theorem isDirectory_iff {w : Workspace} {p : Path}
    (hrefused : refused p = none) :
    w.isDirectory p = true ↔
      ∃ there, enter w.tree (w.start p) p.steps = .ok there := by
  unfold isDirectory entryAt locate Path.steps
  rw [← walk_bind_stand, hrefused]
  cases walk w.tree (w.start p) p.segments with
  | error e => simp [bind, Except.bind]
  | ok there =>
      simp only [bind, Except.bind, stand]
      cases w.tree.find? there with
      | none => simp [throw, throwThe, MonadExceptOf.throw]
      | some entry => cases entry <;> simp [pure, Except.pure]

theorem locate_join (w : Workspace) {p q : Path} (hq : q.isAbsolute = false)
    (hrefused : refused (p.join q) = none) :
    w.locate (p.join q) =
      enter w.tree (w.start p) p.steps >>= (walk w.tree · q.segments) := by
  have hne : q.segments ≠ [] := List.splitOn_ne_nil '/' q.text
  unfold locate
  rw [hrefused, start_join w p hq, Path.segments_join p hq,
    ← Path.steps_inner p]
  exact walk_append w.tree (w.start p) p.inner hne

theorem readText_congr {v w : Workspace} {p : Path}
    (hlocate : v.locate p = w.locate p)
    (hfind : ∀ l, w.locate p = .ok l → v.tree.find? l = w.tree.find? l) :
    v.readText p = w.readText p := by
  unfold readText entryAt
  rw [hlocate]
  cases hl : w.locate p with
  | error e => rfl
  | ok l =>
      simp only [bind, Except.bind]
      rw [hfind l hl]

theorem exists_of_readText {w : Workspace} {p : Path} {s : Text}
    (hread : w.readText p = .ok s) :
    ∃ l, w.locate p = .ok l ∧ w.tree.find? l = some (.file (.text s)) := by
  unfold readText entryAt at hread
  obtain ⟨entry, hentry, htext⟩ := bind_eq_ok_iff.mp hread
  obtain ⟨l, hl, hfound⟩ := bind_eq_ok_iff.mp hentry
  refine ⟨l, hl, ?_⟩
  cases hfind : w.tree.find? l with
  | none =>
      rw [hfind] at hfound
      cases hfound
  | some found =>
      rw [hfind] at hfound
      cases hfound
      cases entry with
      | directory => cases htext
      | file content =>
          cases content with
          | text t =>
              cases htext
              rfl
          | binary bytes => cases htext

theorem readText_of_locate {w : Workspace} {p : Path} {l : Location} {s : Text}
    (hlocate : w.locate p = .ok l)
    (hfind : w.tree.find? l = some (.file (.text s))) :
    w.readText p = .ok s := by
  unfold readText entryAt
  rw [hlocate]
  simp only [bind, Except.bind]
  rw [hfind]
  rfl

/-! ## The segment at the end -/

/-- The segments from the last on, without the empty ones behind it. -/
def written (p : Path) : List Text :=
  p.segments.reverse.dropWhile (fun s => s == [])

/-- The target that a last segment names in a directory. -/
def targetIn (last : Text) (slashes : Bool) (directory : Location) : Target :=
  match ofSegment? last with
  | some (.name n) => .child directory n slashes
  | some .up => .reached directory.dropLast
  | _ => .reached directory

theorem target_of_written_nil {w : Workspace} {p : Path}
    (hrefused : refused p = none) (hwritten : written p = []) :
    w.target p = .ok (.reached (w.start p)) := by
  unfold target
  unfold written at hwritten
  rw [hrefused]
  simp only [hwritten]
  rfl

theorem target_of_written {w : Workspace} {p : Path} {last : Text}
    {before : List Text} (hrefused : refused p = none)
    (hwritten : written p = last :: before) :
    w.target p =
      (enter w.tree (w.start p) (before.reverse.filterMap ofSegment?)).map
        (targetIn last (p.segments.getLast? == some [])) := by
  unfold target
  unfold written at hwritten
  rw [hrefused, ← walk_bind_stand]
  simp only [hwritten]
  cases walk w.tree (w.start p) before.reverse with
  | error e => rfl
  | ok there =>
      simp only [bind, Except.bind, stand]
      cases w.tree.find? there with
      | none => rfl
      | some entry =>
          cases entry with
          | file content => rfl
          | directory =>
              simp only [Except.map, targetIn]
              split <;> simp_all [pure, Except.pure]

theorem steps_eq_filterMap_written (p : Path) :
    p.steps = (written p).reverse.filterMap ofSegment? := by
  have hsplit : (written p).reverse ++
      p.segments.rtakeWhile (fun s => s == []) = p.segments :=
    List.rdropWhile_append_rtakeWhile
  have hsilent : (p.segments.rtakeWhile (fun s => s == [])).filterMap
      ofSegment? = [] := by
    apply List.filterMap_eq_nil_iff.mpr
    intro s hs
    have hnil := List.mem_rtakeWhile_imp hs
    rw [beq_iff_eq.mp hnil]
    rfl
  unfold Path.steps
  conv_lhs => rw [← hsplit]
  rw [List.filterMap_append, hsilent, List.append_nil]

theorem steps_eq_of_written {p : Path} {last : Text} {before : List Text}
    (hwritten : written p = last :: before) :
    p.steps = before.reverse.filterMap ofSegment? ++
      (ofSegment? last).toList := by
  rw [steps_eq_filterMap_written, hwritten, List.reverse_cons,
    List.filterMap_append, filterMap_cons_eq_append, List.filterMap_nil,
    List.append_nil]

/-- A target is a directory, or stands behind the last step in the directory
that is entered by the others. -/
theorem exists_of_target {w : Workspace} {p : Path} {t : Target}
    (htarget : w.target p = .ok t) :
    refused p = none ∧
      ((∃ directory, t = .reached directory) ∨
        ∃ cs n there slashes, p.steps = cs ++ [.name n] ∧
          enter w.tree (w.start p) cs = .ok there ∧
          t = .child there n slashes) := by
  cases hrefused : refused p with
  | some e =>
      rw [target_of_refused hrefused] at htarget
      cases htarget
  | none =>
      refine ⟨rfl, ?_⟩
      cases hwritten : written p with
      | nil =>
          rw [target_of_written_nil hrefused hwritten] at htarget
          cases htarget
          exact Or.inl ⟨_, rfl⟩
      | cons last before =>
          have hsteps := steps_eq_of_written hwritten
          rw [target_of_written hrefused hwritten] at htarget
          cases henter : enter w.tree (w.start p)
              (before.reverse.filterMap ofSegment?) with
          | error e =>
              rw [henter] at htarget
              cases htarget
          | ok there =>
              rw [henter] at htarget
              cases htarget
              unfold targetIn
              split
              next n hlast =>
                rw [hlast] at hsteps
                exact Or.inr ⟨_, n, there, _, hsteps, henter, rfl⟩
              next => exact Or.inl ⟨_, rfl⟩
              next => exact Or.inl ⟨_, rfl⟩

theorem exists_target_of_enter {w : Workspace} {p : Path} {there : Location}
    (hrefused : refused p = none)
    (henter : enter w.tree (w.start p) p.steps = .ok there) :
    ∃ t, w.target p = .ok t := by
  cases hwritten : written p with
  | nil => exact ⟨_, target_of_written_nil hrefused hwritten⟩
  | cons last before =>
      rw [steps_eq_of_written hwritten, enter_append] at henter
      obtain ⟨place, hbefore, -⟩ := bind_eq_ok_iff.mp henter
      rw [target_of_written hrefused hwritten, hbefore]
      exact ⟨_, rfl⟩

theorem written_of_endsInStep {p : Path} (hends : p.EndsInStep) :
    ∃ last before c, written p = last :: before ∧ ofSegment? last = some c ∧
      (p.segments.getLast? == some []) = false := by
  obtain ⟨before, s, c, hsegments, hs⟩ := hends
  have hne : s ≠ [] := by
    rintro rfl
    simp [ofSegment?] at hs
  refine ⟨s, before.reverse, c, ?_, hs, ?_⟩
  · unfold written
    rw [hsegments]
    simp [hne]
  · simp [hsegments, hne]

theorem target_of_endsInStep {w : Workspace} {p : Path} {cs : List Component}
    {n : Text} (hrefused : refused p = none) (hends : p.EndsInStep)
    (hsteps : p.steps = cs ++ [.name n]) :
    w.target p = (enter w.tree (w.start p) cs).map (.child · n false) := by
  obtain ⟨last, before, c, hwritten, hlast, hslashes⟩ :=
    written_of_endsInStep hends
  rw [steps_eq_of_written hwritten, hlast] at hsteps
  obtain ⟨hbefore, hname⟩ := List.append_inj' hsteps rfl
  obtain rfl : c = .name n := by simpa using hname
  rw [target_of_written hrefused hwritten, hbefore, hslashes]
  unfold targetIn
  rw [hlast]

/-! ## Making directories -/

theorem makeDirectory_of_refused {w : Workspace} {p : Path} {e : IoError}
    (hrefused : refused p = some e) : w.makeDirectory p = .error e := by
  unfold makeDirectory
  rw [target_of_refused hrefused]
  rfl

theorem makeDirectory_of_not_enter {w : Workspace} {p : Path}
    {cs : List Component} {n : Text} {e : IoError} (hrefused : refused p = none)
    (hends : p.EndsInStep) (hsteps : p.steps = cs ++ [.name n])
    (henter : enter w.tree (w.start p) cs = .error e) :
    w.makeDirectory p = .error e := by
  unfold makeDirectory
  rw [target_of_endsInStep hrefused hends hsteps, henter]
  rfl

theorem makeDirectory_of_enter {w : Workspace} {p : Path}
    {cs : List Component} {n : Text} {there : Location}
    (hrefused : refused p = none) (hends : p.EndsInStep)
    (hsteps : p.steps = cs ++ [.name n])
    (henter : enter w.tree (w.start p) cs = .ok there) :
    w.makeDirectory p =
      if n.byteSize > maxNameBytes then .error .nameTooLong
      else
        match w.tree.find? (there ++ [n]) with
        | some _ => .error .occupied
        | none => .ok (w.put (there ++ [n]) .directory) := by
  unfold makeDirectory
  rw [target_of_endsInStep hrefused hends hsteps, henter]
  simp only [Except.map, bind, Except.bind]
  split
  · rfl
  · cases w.tree.find? (there ++ [n]) <;> rfl

theorem isDirectory_of_enter {w : Workspace} {p : Path}
    {cs : List Component} {n : Text} {there : Location}
    (hrefused : refused p = none) (hsteps : p.steps = cs ++ [.name n])
    (henter : enter w.tree (w.start p) cs = .ok there) :
    w.isDirectory p = true ↔
      n.byteSize ≤ maxNameBytes ∧
        w.tree.find? (there ++ [n]) = some .directory := by
  rw [isDirectory_iff hrefused, hsteps, enter_append, henter]
  change (∃ place, enter w.tree there [.name n] = .ok place) ↔ _
  rw [enter_name (find?_of_enter henter)]
  split
  next hlong =>
    have hnot : ¬ n.byteSize ≤ maxNameBytes := by omega
    simp [hnot]
  next hshort =>
    have hle : n.byteSize ≤ maxNameBytes := by omega
    simp only [stand_eq_ok_iff, hle, true_and]
    exact ⟨fun ⟨_, _, hdirectory⟩ => hdirectory,
      fun hdirectory => ⟨_, rfl, hdirectory⟩⟩

theorem not_isDirectory_of_not_enter {w : Workspace} {p : Path}
    {cs ds : List Component} {e : IoError}
    (hrefused : refused p = none) (hsteps : p.steps = cs ++ ds)
    (henter : enter w.tree (w.start p) cs = .error e) :
    w.isDirectory p = false := by
  rw [Bool.eq_false_iff, ne_eq, isDirectory_iff hrefused, hsteps, enter_append,
    henter]
  rintro ⟨there, hthere⟩
  cases hthere

/-- What is there already is not made. -/
theorem makeDirectory_of_isDirectory {w : Workspace} {p : Path}
    (hdirectory : w.isDirectory p = true) :
    w.makeDirectory p = .error .occupied := by
  have hrefused := refused_of_isDirectory hdirectory
  obtain ⟨there, henter⟩ := (isDirectory_iff hrefused).mp hdirectory
  obtain ⟨t, htarget⟩ := exists_target_of_enter hrefused henter
  unfold makeDirectory
  rw [htarget]
  rcases (exists_of_target htarget).2 with
    ⟨directory, rfl⟩ | ⟨cs, n, place, slashes, hsteps, hplace, rfl⟩
  · rfl
  · rw [hsteps, enter_append, hplace] at henter
    obtain ⟨next, -, htake, hrest⟩ := exists_of_enter_cons henter
    obtain ⟨hshort, -, rfl⟩ := take_name_eq_ok_iff.mp htake
    have hnot : ¬ n.byteSize > maxNameBytes := by omega
    simp only [bind, Except.bind, if_neg hnot, find?_head_of_enter hrest]
    rfl

/-! ## Writing a text -/

/-- What keeps a text from being written to a path, by the entry that is at the
place of its last name.  A dot behind the name asks for a directory there. -/
def writeFault (p : Path) (n : Text) (entry : Option Entry) : Option IoError :=
  match refused p, written p with
  | some e, _ => some e
  | none, [] => some .isDirectory
  | none, last :: _ =>
    match ofSegment? last with
    | none =>
      if n.byteSize > maxNameBytes then some .nameTooLong
      else
        match entry with
        | none => some .notFound
        | some (.file _) => some .notDirectory
        | some .directory => some .isDirectory
    | some _ =>
      if p.segments.getLast? = some [] then some .isDirectory
      else if n.byteSize > maxNameBytes then some .nameTooLong
      else if entry = some .directory then some .isDirectory
      else none

theorem writeText_of_reached {w : Workspace} {p : Path} {directory : Location}
    (htarget : w.target p = .ok (.reached directory)) (s : Text) :
    w.writeText p s = .error .isDirectory := by
  unfold writeText
  rw [htarget]
  rfl

theorem writeText_of_child {w : Workspace} {p : Path} {directory : Location}
    {n : Text} {slashes : Bool}
    (htarget : w.target p = .ok (.child directory n slashes)) (s : Text) :
    w.writeText p s =
      if slashes then .error .isDirectory
      else if n.byteSize > maxNameBytes then .error .nameTooLong
      else if w.tree.find? (directory ++ [n]) = some .directory then
        .error .isDirectory
      else .ok (w.put (directory ++ [n]) (.file (.text s))) := by
  unfold writeText
  rw [htarget]
  simp only [bind, Except.bind]
  split
  · rfl
  · split
    · rfl
    · cases w.tree.find? (directory ++ [n]) with
      | none => rfl
      | some entry => cases entry <;> rfl

theorem writeText_of_not_target {w : Workspace} {p : Path} {e : IoError}
    (htarget : w.target p = .error e) (s : Text) :
    w.writeText p s = .error e := by
  unfold writeText
  rw [htarget]
  rfl

/-- With a silent segment behind the name of a file it is asked for a
directory. -/
theorem writeText_of_silent {w : Workspace} {p : Path} {cs : List Component}
    {n last : Text} {before : List Text} {there : Location}
    (hrefused : refused p = none) (hwritten : written p = last :: before)
    (hlast : ofSegment? last = none) (hsteps : p.steps = cs ++ [.name n])
    (henter : enter w.tree (w.start p) cs = .ok there) (s : Text) :
    w.writeText p s =
      if n.byteSize > maxNameBytes then .error .nameTooLong
      else
        match w.tree.find? (there ++ [n]) with
        | none => .error .notFound
        | some (.file _) => .error .notDirectory
        | some .directory => .error .isDirectory := by
  have hbefore : before.reverse.filterMap ofSegment? = cs ++ [.name n] := by
    simpa [hlast] using (steps_eq_of_written hwritten).symm.trans hsteps
  have htarget := target_of_written (w := w) hrefused hwritten
  rw [hbefore, enter_append, henter] at htarget
  change w.target p = (enter w.tree there [.name n]).map _ at htarget
  rw [enter_name (find?_of_enter henter)] at htarget
  split
  next hlong =>
    rw [if_pos hlong] at htarget
    exact writeText_of_not_target htarget s
  next hshort =>
    rw [if_neg hshort, stand] at htarget
    cases hentry : w.tree.find? (there ++ [n]) with
    | none =>
        rw [hentry] at htarget
        exact writeText_of_not_target htarget s
    | some entry =>
        cases entry with
        | file content =>
            rw [hentry] at htarget
            exact writeText_of_not_target htarget s
        | directory =>
            rw [hentry] at htarget
            simp only [Except.map, targetIn, hlast] at htarget
            exact writeText_of_reached htarget s

theorem writeText_of_enter {w : Workspace} {p : Path} {cs : List Component}
    {n : Text} {there : Location} (hsteps : p.steps = cs ++ [.name n])
    (henter : enter w.tree (w.start p) cs = .ok there) (s : Text) :
    w.writeText p s =
      match writeFault p n (w.tree.find? (there ++ [n])) with
      | some e => .error e
      | none => .ok (w.put (there ++ [n]) (.file (.text s))) := by
  unfold writeFault
  cases hrefused : refused p with
  | some e => exact writeText_of_not_target (target_of_refused hrefused w) s
  | none =>
      cases hwritten : written p with
      | nil =>
          rw [steps_eq_filterMap_written, hwritten] at hsteps
          simp at hsteps
      | cons last before =>
          cases hlast : ofSegment? last with
          | none =>
              rw [writeText_of_silent hrefused hwritten hlast hsteps henter]
              simp only [hlast]
              split
              · rfl
              · cases w.tree.find? (there ++ [n]) with
                | none => rfl
                | some entry => cases entry <;> rfl
          | some c =>
              rw [steps_eq_of_written hwritten, hlast] at hsteps
              obtain ⟨hbefore, hname⟩ := List.append_inj' hsteps rfl
              obtain rfl : c = .name n := by simpa using hname
              have htarget := target_of_written (w := w) hrefused hwritten
              rw [hbefore, henter] at htarget
              simp only [Except.map, targetIn, hlast] at htarget
              rw [writeText_of_child htarget]
              simp only [hlast, beq_iff_eq]
              split
              · rfl
              · split
                · rfl
                · split <;> rfl

theorem writeFault_eq_none_iff {p : Path} {n : Text} {entry : Option Entry} :
    writeFault p n entry = none ↔
      refused p = none ∧
        (∃ last before c, written p = last :: before ∧
          ofSegment? last = some c) ∧
        p.segments.getLast? ≠ some [] ∧ n.byteSize ≤ maxNameBytes ∧
        entry ≠ some .directory := by
  unfold writeFault
  cases refused p with
  | some e => simp
  | none =>
      cases written p with
      | nil => simp
      | cons last before =>
          cases hlast : ofSegment? last with
          | none =>
              by_cases hlong : n.byteSize > maxNameBytes
              · simp [hlast, hlong]
              · cases entry with
                | none => simp [hlast, hlong]
                | some entry => cases entry <;> simp [hlast, hlong]
          | some c =>
              by_cases hslashes : p.segments.getLast? = some []
              · simp [hlast, hslashes]
              · by_cases hlong : n.byteSize > maxNameBytes
                · have hnot : ¬ n.byteSize ≤ maxNameBytes := by omega
                  simp [hlast, hslashes, hlong, hnot]
                · have hshort : n.byteSize ≤ maxNameBytes := by omega
                  simp [hlast, hslashes, hlong, hshort]

/-- A path that a text can be written to ends in the name of the file. -/
theorem endsInStep_of_writeFault {p : Path} {n : Text} {entry : Option Entry}
    (hfault : writeFault p n entry = none) :
    refused p = none ∧ p.EndsInStep ∧ n.byteSize ≤ maxNameBytes ∧
      entry ≠ some .directory := by
  obtain ⟨hrefused, ⟨last, before, c, hwritten, hlast⟩, hslashes, hshort,
      hentry⟩ :=
    writeFault_eq_none_iff.mp hfault
  refine ⟨hrefused, ⟨before.reverse, last, c, ?_, hlast⟩, hshort, hentry⟩
  have hwhole : (written p).reverse = p.segments := by
    apply List.rdropWhile_eq_self_iff.mpr
    intro hne hnil
    apply hslashes
    rw [List.getLast?_eq_some_getLast hne, beq_iff_eq.mp hnil]
  rw [← hwhole, hwritten, List.reverse_cons]

/-- Where a text can be written, a file does not keep another from being
written. -/
theorem writeFault_of_file {p : Path} {n : Text} {entry : Option Entry}
    (hfault : writeFault p n entry = none) (c : Content) :
    writeFault p n (some (.file c)) = none := by
  obtain ⟨hrefused, hwritten, hslashes, hshort, -⟩ :=
    writeFault_eq_none_iff.mp hfault
  exact writeFault_eq_none_iff.mpr ⟨hrefused, hwritten, hslashes,
    hshort, by simp⟩

theorem locate_of_endsInStep {w : Workspace} {p : Path} {cs : List Component}
    {n : Text} {there : Location} (hrefused : refused p = none)
    (hends : p.EndsInStep) (hsteps : p.steps = cs ++ [.name n])
    (henter : enter w.tree (w.start p) cs = .ok there)
    (hshort : n.byteSize ≤ maxNameBytes)
    (hfind : w.tree.find? (there ++ [n]) ≠ none) :
    w.locate p = .ok (there ++ [n]) := by
  obtain ⟨before, s, c, hsegments, hs⟩ := hends
  unfold Path.steps at hsteps
  rw [hsegments, List.filterMap_append, List.filterMap_cons_some hs,
    List.filterMap_nil] at hsteps
  obtain ⟨hbefore, hname⟩ := List.append_inj' hsteps rfl
  obtain rfl : c = .name n := by simpa using hname
  have htake : take w.tree there (.name n) = .ok (there ++ [n]) :=
    take_name_eq_ok_iff.mpr ⟨hshort, hfind, rfl⟩
  unfold locate
  rw [hrefused, hsegments, walk_append _ _ _ (List.cons_ne_nil s []), hbefore,
    henter]
  change walk w.tree there [s] = _
  rw [walk_cons, stand_of_directory (find?_of_enter henter)]
  change pass w.tree s there >>= _ = _
  unfold pass
  simp only [hs, htake]
  rfl

end FormScaffold.Workspace
