import FormScaffold.Proofs.Generation.Job
import Mathlib.Data.Set.List

/-!
# Jobs in any order

The steps of the jobs of a generation may come in any order.  Each order brings
every job as far as the turns it gets, three turns are enough for any of them,
and a job that is done stays so.  One job after the other is one of the orders.
-/

namespace FormScaffold

deriving instance DecidableEq for FileOutcome, Report

namespace Generation

open Workspace

variable {g : Generation} {files : List TemplateFile} {file : TemplateFile}
  {m : Manifest} {w w₀ v : Workspace} {p : Progress} {i : ℕ}

/-! ## One turn -/

theorem advance_of_getElem? (hi : files[i]? = some file) (p : Progress) :
    g.advance files p i =
      ⟨(g.step file p.workspace (p.states i)).1,
        Function.update p.states i
          (g.step file p.workspace (p.states i)).2⟩ := by
  unfold advance
  rw [hi, Progress.mk.injEq]
  refine ⟨rfl, funext fun j => ?_⟩
  rw [Function.update_apply]

theorem advance_of_absent (hi : files[i]? = none) (p : Progress) :
    g.advance files p i = p := by
  unfold advance
  rw [hi]

theorem states_advance_of_ne {j : ℕ} (hij : i ≠ j) (p : Progress) :
    (g.advance files p j).states i = p.states i := by
  cases hj : files[j]? with
  | none => rw [advance_of_absent hj]
  | some file =>
      rw [advance_of_getElem? hj]
      exact Function.update_of_ne hij _ _

theorem advance_of_done {result : Except FileError Path}
    (hdone : p.states i = .done result) : g.advance files p i = p := by
  cases hi : files[i]? with
  | none => exact advance_of_absent hi p
  | some file =>
      rw [advance_of_getElem? hi, hdone]
      simp only [step]
      rw [← hdone, Function.update_eq_self]

theorem stage_advance (g : Generation) (hi : files[i]? = some file)
    (p : Progress) (j : ℕ) :
    min (stage (p.states i) + [j].count i) 3 ≤
      stage ((g.advance files p j).states i) := by
  by_cases hji : j = i
  · subst hji
    rw [List.count_singleton_self, advance_of_getElem? hi]
    simp only [Function.update_self]
    exact stage_step g file p.workspace (p.states j)
  · rw [states_advance_of_ne (Ne.symm hji), List.count_singleton,
      if_neg (by simpa using hji), Nat.add_zero]
    exact min_le_left _ 3

theorem follow_append (first second : List ℕ) (p : Progress) :
    g.follow files (first ++ second) p =
      g.follow files second (g.follow files first p) :=
  List.foldl_append

theorem stage_follow (g : Generation) (hi : files[i]? = some file)
    (schedule : List ℕ) (p : Progress) :
    min (stage (p.states i) + schedule.count i) 3 ≤
      stage ((g.follow files schedule p).states i) := by
  induction schedule generalizing p with
  | nil =>
      rw [List.count_nil, Nat.add_zero]
      exact min_le_left _ 3
  | cons j schedule ih =>
      have hfirst := stage_advance g hi p j
      have hrest := ih (g.advance files p j)
      rw [List.count_singleton] at hfirst
      rw [List.count_cons]
      change _ ≤
        stage ((g.follow files schedule (g.advance files p j)).states i)
      omega

/-! ## When all jobs are done -/

def AllDone (files : List TemplateFile) (p : Progress) : Prop :=
  ∀ i < files.length, ∃ result, p.states i = .done result

/-- Three turns are enough for each job. -/
theorem allDone_follow (g : Generation) {schedule : List ℕ}
    (hturns : ∀ i < files.length, 3 ≤ schedule.count i) (p : Progress) :
    AllDone files (g.follow files schedule p) := by
  intro i hi
  have hstage := stage_follow g (List.getElem?_eq_getElem hi) schedule p
  have hcount := hturns i hi
  apply exists_done_of_stage
  omega

/-- When all jobs are done, further turns change nothing. -/
theorem follow_of_allDone (hdone : AllDone files p) (schedule : List ℕ) :
    g.follow files schedule p = p := by
  have hstay (i : ℕ) : g.advance files p i = p := by
    by_cases hi : i < files.length
    · obtain ⟨result, hresult⟩ := hdone i hi
      exact advance_of_done hresult
    · exact advance_of_absent (List.getElem?_eq_none (Nat.le_of_not_lt hi)) p
  induction schedule with
  | nil => rfl
  | cons i schedule ih =>
      change g.follow files schedule (g.advance files p i) = p
      rw [hstay, ih]

/-! ## Reports -/

def report? (g : Generation) (files : List TemplateFile) (p : Progress) :
    Option Report :=
  ((files.mapIdx fun i file => outcome? file (p.states i)).mapM id).map
    (⟨g.output, ·⟩)

theorem run_name (g : Generation) (file : TemplateFile) (w : Workspace) :
    (g.run file w).2.name = file.name := by
  rw [run_eq_of_alone (alone_run g file w)]

theorem eq_of_outcome? {s : JobState} {o : FileOutcome}
    (ho : outcome? file s = some o) : o.name = file.name ∧
      s = .done o.result := by
  cases s with
  | done result =>
      cases ho
      exact ⟨rfl, rfl⟩
  | _ => cases ho

theorem mapM_id_map_some {α : Type} (l : List α) :
    (l.map some).mapM id = some l := by
  have hpure : l.mapM (fun a => (pure (id a) : Option α)) = pure (l.map id) :=
    List.mapM_pure
  rw [List.map_id] at hpure
  rw [List.mapM_map]
  exact hpure

theorem eq_map_some_of_mapM_id {α : Type} {l : List (Option α)} {l' : List α}
    (h : l.mapM id = some l') : l = l'.map some := by
  induction l generalizing l' with
  | nil =>
      cases h
      rfl
  | cons o l ih =>
      simp only [List.mapM_cons, id] at h
      obtain ⟨a, rfl, hrest⟩ := Option.bind_eq_some_iff.mp h
      obtain ⟨as, has, hl'⟩ := Option.bind_eq_some_iff.mp hrest
      cases hl'
      rw [ih has]
      rfl

theorem report?_eq_some_iff {report : Report} :
    g.report? files p = some report ↔
      report.output = g.output ∧
        (files.mapIdx fun i file => outcome? file (p.states i)) =
          report.files.map some := by
  obtain ⟨output, outcomes⟩ := report
  unfold report?
  rw [Option.map_eq_some_iff]
  constructor
  · rintro ⟨l, hl, hreport⟩
    cases hreport
    exact ⟨rfl, eq_map_some_of_mapM_id hl⟩
  · rintro ⟨rfl, houtcomes⟩
    exact ⟨outcomes, by rw [houtcomes, mapM_id_map_some], rfl⟩

/-- What stands in a report at the place of a file is what its job has come
to. -/
theorem getElem?_of_report? {report : Report}
    (hreport : g.report? files p = some report) (i : ℕ) :
    (files[i]?.map fun file => outcome? file (p.states i)) =
      report.files[i]?.map some := by
  have houtcomes := congrArg (·[i]?) (report?_eq_some_iff.mp hreport).2
  simpa only [List.getElem?_mapIdx, List.getElem?_map] using houtcomes

/-- What a report says of a file is what its job has come to. -/
theorem exists_done_of_mem_report {report : Report} {o : FileOutcome}
    (hreport : g.report? files p = some report) (ho : o ∈ report.files) :
    ∃ i, p.states i = .done o.result := by
  obtain ⟨i, hi⟩ := List.getElem?_of_mem ho
  have hat := getElem?_of_report? hreport i
  rw [hi, Option.map_some] at hat
  obtain ⟨file, -, houtcome⟩ := Option.map_eq_some_iff.mp hat
  exact ⟨i, (eq_of_outcome? houtcome).2⟩

theorem allDone_of_report? {report : Report}
    (hreport : g.report? files p = some report) : AllDone files p := by
  intro i hi
  have hat := getElem?_of_report? hreport i
  rw [List.getElem?_eq_getElem hi, Option.map_some] at hat
  obtain ⟨o, -, ho⟩ := Option.map_eq_some_iff.mp hat.symm
  exact ⟨o.result, (eq_of_outcome? ho.symm).2⟩

theorem exists_report_of_allDone (g : Generation) (hdone : AllDone files p) :
    ∃ report, g.report? files p = some report := by
  have hsome : (files.mapIdx fun i file => outcome? file (p.states i)) ∈
      Set.range (List.map some) := by
    rw [Set.range_list_map]
    intro o ho
    obtain ⟨i, hi, rfl⟩ := List.mem_mapIdx.mp ho
    obtain ⟨result, hresult⟩ := hdone i hi
    exact ⟨⟨files[i].name, result⟩, by rw [hresult, outcome?]⟩
  obtain ⟨outcomes, houtcomes⟩ := hsome
  exact ⟨⟨g.output, outcomes⟩, report?_eq_some_iff.mpr ⟨rfl, houtcomes.symm⟩⟩

/-- The report when each job has come to where its run in `w₀` comes. -/
theorem report?_of_done
    (hstates : ∀ {i : ℕ} {file : TemplateFile}, files[i]? = some file →
      p.states i = .done (g.run file w₀).2.result) :
    g.report? files p =
      some ⟨g.output, files.map fun file => (g.run file w₀).2⟩ := by
  rw [report?_eq_some_iff]
  refine ⟨rfl, List.ext_getElem? fun i => ?_⟩
  rw [List.getElem?_mapIdx, List.map_map, List.getElem?_map]
  cases hi : files[i]? with
  | none => rfl
  | some file =>
      have hname := run_name g file w₀
      simp only [Option.map_some, hstates hi, outcome?, Function.comp_apply,
        ← hname]

/-! ## One job after the other -/

theorem turns_succ (first count : ℕ) :
    turns first (count + 1) =
      List.replicate 3 first ++ turns (first + 1) count := by
  unfold turns
  rw [List.range'_succ, List.flatMap_cons]

theorem three_le_count_turns {first count i : ℕ} (hfirst : first ≤ i)
    (hi : i < first + count) : 3 ≤ (turns first count).count i := by
  induction count generalizing first with
  | zero => omega
  | succ count ih =>
      rw [turns_succ, List.count_append]
      rcases eq_or_ne first i with rfl | hne
      · rw [List.count_replicate_self]
        omega
      · have hrest : 3 ≤ (turns (first + 1) count).count i :=
          ih (by omega) (by omega)
        omega

/-- Three turns at a stretch are the run of a job. -/
theorem follow_replicate_three (hi : files[i]? = some file)
    (hwaiting : p.states i = .waiting) :
    g.follow files (List.replicate 3 i) p =
      ⟨(g.run file p.workspace).1,
        Function.update p.states i
          (.done (g.run file p.workspace).2.result)⟩ := by
  have hthird := three_steps g file p.workspace
  simp only [Prod.ext_iff] at hthird
  change g.advance files (g.advance files (g.advance files p i) i) i = _
  simp only [advance_of_getElem? hi, Function.update_self, Function.update_idem,
    hwaiting, hthird]

/-- The jobs one after the other are one of the orders that they can take: those
of the files still to come, the next of which is at the place `first`. -/
theorem follow_turns (rest : List TemplateFile) (first : ℕ)
    (hrest : files.drop first = rest)
    (hwaiting : ∀ i, first ≤ i → p.states i = .waiting) :
    (g.follow files (turns first rest.length) p).workspace =
        (g.runAll rest p.workspace).1 ∧
      (∀ i < first, (g.follow files (turns first rest.length) p).states i =
        p.states i) ∧
      (rest.mapIdx fun i file => outcome? file
          ((g.follow files (turns first rest.length) p).states (first + i))) =
        (g.runAll rest p.workspace).2.map some := by
  induction rest generalizing first p with
  | nil => exact ⟨rfl, fun _ _ => rfl, rfl⟩
  | cons file rest ih =>
      have hfile : files[first]? = some file := by
        rw [← Nat.add_zero first, ← List.getElem?_drop, hrest]
        rfl
      have hdrop : files.drop (first + 1) = rest := by
        rw [← List.drop_drop, hrest]
        rfl
      have hthree := follow_replicate_three (g := g) hfile
        (hwaiting first le_rfl)
      have hsplit : g.follow files (turns first (file :: rest).length) p =
          g.follow files (turns (first + 1) rest.length)
            (g.follow files (List.replicate 3 first) p) := by
        rw [List.length_cons, turns_succ, follow_append]
      have hlater : ∀ i, first + 1 ≤ i →
          (g.follow files (List.replicate 3 first) p).states i = .waiting := by
        intro i hi
        rw [hthree]
        simp only
        rw [Function.update_of_ne (by omega)]
        exact hwaiting i (by omega)
      obtain ⟨hworkspace, hbefore, houtcomes⟩ := ih (first + 1) hdrop hlater
      rw [← hsplit] at hworkspace hbefore houtcomes
      rw [hthree] at hworkspace hbefore houtcomes
      refine ⟨hworkspace, ?_, ?_⟩
      · intro i hi
        rw [hbefore i (by omega)]
        simp only
        rw [Function.update_of_ne (by omega)]
      · have hfirst := hbefore first (by omega)
        simp only [Function.update_self] at hfirst
        have hrun : outcome? file (.done (g.run file p.workspace).2.result) =
            some (g.run file p.workspace).2 := by
          simp only [outcome?, ← run_name g file p.workspace]
        have hshift : ∀ states : ℕ → JobState,
            (fun i file => outcome? file (states (first + (i + 1)))) =
              fun i file => outcome? file (states (first + 1 + i)) := by
          intro states
          funext i file
          rw [Nat.add_comm i 1, ← Nat.add_assoc]
        rw [List.mapIdx_cons, Nat.add_zero, hfirst, hrun, hshift, houtcomes]
        rfl

/-! ## From the beginning -/

/-- How far the jobs have come that take these steps, in this order, when the
output directory was made. -/
def after (g : Generation) (m : Manifest) (w : Workspace) (schedule : List ℕ) :
    Progress :=
  g.follow m.files schedule (start (w.makeDirectories g.output).1)

theorem after_of_makeDirectories (m : Manifest)
    (hmade : w.makeDirectories g.output = (w₀, .ok ())) (schedule : List ℕ) :
    g.after m w schedule = g.follow m.files schedule (start w₀) := by
  unfold after
  rw [hmade]

/-- The output directory is made, and the jobs come in this order to this
workspace and to this report. -/
structure Returns (g : Generation) (m : Manifest) (w : Workspace)
    (schedule : List ℕ) (v : Workspace) (report : Report) : Prop where
  made : (w.makeDirectories g.output).2 = .ok ()
  workspace : (g.after m w schedule).workspace = v
  report : g.report? m.files (g.after m w schedule) = some report

/-! ## Orders that are followed to the end -/

theorem allDone_after_turns (g : Generation) (m : Manifest) (w : Workspace)
    (schedule : List ℕ) :
    AllDone m.files (g.after m w (schedule ++ turns 0 m.files.length)) := by
  apply allDone_follow g
  intro i hi
  have hturns := three_le_count_turns (Nat.zero_le i)
    (by omega : i < 0 + m.files.length)
  rw [List.count_append]
  omega

theorem generateBy_of_not_made {e : IoError} (schedule : List ℕ) (m : Manifest)
    (hmade : w.makeDirectories g.output = (v, .error e)) :
    g.generateBy schedule m w = (v, .error e) := by
  unfold generateBy
  rw [hmade]

theorem generateBy_of_report? {schedule : List ℕ} {report : Report}
    (hmade : (w.makeDirectories g.output).2 = .ok ())
    (hreport : g.report? m.files
      (g.after m w (schedule ++ turns 0 m.files.length)) = some report) :
    g.generateBy schedule m w =
      ((g.after m w (schedule ++ turns 0 m.files.length)).workspace,
        .ok report) := by
  have hmade' : w.makeDirectories g.output =
      ((w.makeDirectories g.output).1, .ok ()) := Prod.ext rfl hmade
  obtain ⟨houtput, houtcomes⟩ := report?_eq_some_iff.mp hreport
  unfold after at houtcomes ⊢
  unfold generateBy
  rw [hmade']
  simp only [houtcomes]
  rw [List.filterMap_map, ← houtput]
  simp

/-- A generation in some order returns what the jobs come to in this order, when
each is brought to its end. -/
theorem generateBy_eq_ok_iff {schedule : List ℕ} {report : Report} :
    g.generateBy schedule m w = (v, .ok report) ↔
      g.Returns m w (schedule ++ turns 0 m.files.length) v report := by
  cases hmade : w.makeDirectories g.output with
  | mk w₀ result =>
      cases result with
      | error e =>
          rw [generateBy_of_not_made schedule m hmade]
          refine iff_of_false nofun ?_
          intro h
          simpa [hmade] using h.made
      | ok _ =>
          have hok : (w.makeDirectories g.output).2 = .ok () := by rw [hmade]
          obtain ⟨found, hfound⟩ :=
            exists_report_of_allDone g (allDone_after_turns g m w schedule)
          rw [generateBy_of_report? hok hfound, Prod.mk.injEq, Except.ok.injEq]
          constructor
          · rintro ⟨rfl, rfl⟩
            exact ⟨hok, rfl, hfound⟩
          · rintro ⟨-, hworkspace, hreport⟩
            exact ⟨hworkspace, Option.some.inj (hfound.symm.trans hreport)⟩

theorem exists_generateBy_eq_ok
    (hmade : w.makeDirectories g.output = (w₀, .ok ())) (schedule : List ℕ) :
    ∃ v report, g.generateBy schedule m w = (v, .ok report) := by
  obtain ⟨report, hreport⟩ :=
    exists_report_of_allDone g (allDone_after_turns g m w schedule)
  exact ⟨_, report, generateBy_of_report? (by rw [hmade]) hreport⟩

/-- If the order brings each job to its end by itself, nothing is left to be
done. -/
theorem Returns.generateBy_eq {schedule : List ℕ} {report : Report}
    (h : g.Returns m w schedule v report) :
    g.generateBy schedule m w = (v, .ok report) := by
  rw [generateBy_eq_ok_iff]
  have hdone := allDone_of_report? h.report
  have hsame : g.after m w (schedule ++ turns 0 m.files.length) =
      g.after m w schedule := by
    unfold after at hdone ⊢
    rw [follow_append, follow_of_allDone hdone]
  exact ⟨h.made, hsame ▸ h.workspace, hsame ▸ h.report⟩

/-- Without an order the jobs come one after the other. -/
theorem generateBy_nil (g : Generation) (m : Manifest) (w : Workspace) :
    g.generateBy [] m w = g.generate m w := by
  cases hmade : w.makeDirectories g.output with
  | mk w₀ result =>
      cases result with
      | error e =>
          rw [generateBy_of_not_made [] m hmade]
          unfold generate
          rw [hmade]
      | ok _ =>
          obtain ⟨hworkspace, -, houtcomes⟩ :=
            @follow_turns g m.files (start w₀) m.files 0 rfl (fun _ _ => rfl)
          simp only [Nat.zero_add] at houtcomes
          unfold generateBy generate
          rw [hmade]
          simp only [List.nil_append, houtcomes, hworkspace]
          rw [List.filterMap_map]
          simp [start]

/-- One job after the other is one of the orders. -/
theorem returns_of_generate {report : Report}
    (hgenerate : g.generate m w = (v, .ok report)) :
    g.Returns m w (turns 0 m.files.length) v report := by
  rw [← generateBy_nil] at hgenerate
  exact generateBy_eq_ok_iff.mp hgenerate

theorem exists_generate_eq_ok
    (hmade : w.makeDirectories g.output = (w₀, .ok ())) :
    ∃ v report, g.generate m w = (v, .ok report) := by
  rw [← generateBy_nil]
  exact exists_generateBy_eq_ok hmade []

theorem exists_generate_eq_after (g : Generation) (m : Manifest)
    (w : Workspace) :
    ∃ schedule, (g.generate m w).1 = (g.after m w schedule).workspace ∧
      ∀ report, (g.generate m w).2 = .ok report →
        g.report? m.files (g.after m w schedule) = some report := by
  cases hgenerate : g.generate m w with
  | mk v result =>
      cases result with
      | error e =>
          refine ⟨[], ?_, nofun⟩
          unfold generate at hgenerate
          split at hgenerate
          next hmade =>
            cases hgenerate
            change v = (w.makeDirectories g.output).1
            rw [hmade]
          next => cases hgenerate
      | ok report =>
          have hreturns := returns_of_generate hgenerate
          refine ⟨_, hreturns.workspace.symm, ?_⟩
          rintro _ ⟨⟩
          exact hreturns.report

end Generation

end FormScaffold
