import FormScaffold.Program
import FormScaffold.Proofs.Generation.Confluence
import FormScaffold.Proofs.Installation.EarlyFailure

/-!
# Two ways to run, one installation

Behind questions that are answered beforehand an installation settles its
choices and its directories by itself, and counts by itself what failed.  What
it does to the workspace and what it reports is nevertheless what the plain run
does and reports; only a missing project is another error, which says the same.
The jobs may take their steps in any order: the runs agree under each of them,
and where the jobs keep apart also if every run has an order of its own.
-/

namespace FormScaffold

theorem Request.answers?_eq_choices {r : Request}
    (hanswered : r.isAnswered = true) :
    r.answers? = some r.choices := by
  unfold isAnswered at hanswered
  unfold answers?
  cases hyes : r.yes with
  | true => rfl
  | false =>
      rw [hyes, Bool.false_or, Bool.and_eq_true, Bool.and_eq_true,
        Bool.and_eq_true]
        at hanswered
      obtain ⟨⟨⟨hcomponents, hutils⟩, hdirective⟩, hkinds⟩ := hanswered
      obtain ⟨components, hcomponents⟩ :=
        Option.isSome_iff_exists.mp hcomponents
      obtain ⟨utils, hutils⟩ := Option.isSome_iff_exists.mp hutils
      obtain ⟨directive, hdirective⟩ := Option.isSome_iff_exists.mp hdirective
      obtain ⟨kinds, hkinds⟩ := Option.isSome_iff_exists.mp hkinds
      simp [choices, hcomponents, hutils, hdirective, hkinds]

namespace Installation

open Tsconfig

variable {product : Product} {templateUrl? : Option Text} {request : Request}
  {w : Workspace}

/-! ## What is settled -/

theorem plan_of_no_project {i : Installation}
    (h : w.isDirectory i.project = false) :
    i.plan w = .error (.resolve (.noDirectory i.project)) :=
  plan_of_unresolved (resolveAlias_eq_error_iff.mpr (.noDirectory h))

theorem settleAnswered_of_no_project (product : Product)
    (templateUrl? : Option Text)
    (h : w.isDirectory (request.project w) = false) :
    settleAnswered product templateUrl? request w =
      .error (.noProject (request.project w)) := by
  simp [settleAnswered, h]

theorem settleAnswered_eq_plan (product : Product) (templateUrl? : Option Text)
    (hanswered : request.isAnswered = true)
    (h : w.isDirectory (request.project w) = true) :
    settleAnswered product templateUrl? request w =
      (request.installation product templateUrl? w).plan w := by
  simp only [settleAnswered, h, Request.answers?_eq_choices hanswered, if_true]
  rfl

/-! ## What is carried out -/

theorem verdict_eq (r : Report) :
    verdict r =
      if r.isSuccess then .ok r
        else .error (.filesFailed r.failures.length) := by
  unfold verdict Report.isSuccess
  simp only [List.length_eq_zero_iff, List.isEmpty_iff]

theorem runAnsweredBy_eq_of_settled (colored : Colored) (schedule : List ℕ)
    (hsettled : settleAnswered product templateUrl? request w =
      (request.installation product templateUrl? w).plan w) :
    let plain := (request.installation product templateUrl? w).runPlainlyBy
      schedule colored w
    runAnsweredBy schedule product templateUrl? request w =
      (plain.1, plain.2.2) := by
  intro plain
  simp only [plain, runAnsweredBy, runPlainlyBy]
  rw [hsettled]
  cases (request.installation product templateUrl? w).plan w with
  | error e => rfl
  | ok plan =>
      obtain ⟨generation, manifest⟩ := plan
      simp only [carryOutBy]
      rcases generation.generateBy schedule manifest w with ⟨v, e | report⟩
      · rfl
      · simp only [verdict_eq]
        split <;> rfl

variable {i : Installation} {g : Generation} {m : Manifest}

/-- If the jobs keep apart, the order of their steps does not matter. -/
theorem runPlainlyBy_eq_of_keepsApart (hplan : i.plan w = .ok (g, m))
    (hapart : g.KeepsApart m w) (colored : Colored) (first second : List ℕ) :
    (i.runPlainlyBy first colored w).2 = (i.runPlainlyBy second colored w).2 ∧
      ∀ l, (i.runPlainlyBy first colored w).1.tree.find? l =
        (i.runPlainlyBy second colored w).1.tree.find? l := by
  obtain ⟨hresult, hfiles⟩ := hapart.generateBy_eq first second
  unfold runPlainlyBy carryOutBy
  rw [hplan]
  cases hfirst : g.generateBy first m w with
  | mk v result =>
      cases hsecond : g.generateBy second m w with
      | mk v' result' =>
          rw [hfirst, hsecond] at hresult hfiles
          obtain rfl : result = result' := hresult
          simp only [hfirst, hsecond]
          cases result with
          | ok report => exact ⟨rfl, hfiles⟩
          | error e => exact ⟨rfl, hfiles⟩

theorem isDirectory_of_plan (hplan : i.plan w = .ok (g, m)) :
    w.isDirectory i.project = true := by
  by_contra hproject
  rw [plan_of_no_project (by simpa using hproject)] at hplan
  cases hplan

/-! ## Both ways -/

section

variable [Libraries]

/-- A run behind answers and a plain run come to the same: to the same
workspace, to the same report where there is one, and else to errors that say
the same, which are different only for a missing project. -/
structure SameOutcome (w : Workspace) (project : Path)
    (answered : Workspace × Except InstallError Report)
    (plain : Workspace × Text × Except InstallError Report) : Prop where
  workspace : answered.1 = plain.1
  report : ∀ report, answered.2 = .ok report ↔ plain.2.2 = .ok report
  error : ∀ e, answered.2 = .error e → ∃ e', plain.2.2 = .error e' ∧
    e'.message = e.message ∧ (w.isDirectory project = true → e' = e)
  noProject : w.isDirectory project = false →
    answered.2 = .error (.noProject project) ∧
      plain.2.2 = .error (.resolve (.noDirectory project))

theorem sameOutcome_by (product : Product) (templateUrl? : Option Text)
    (colored : Colored) (hanswered : request.isAnswered = true)
    (schedule : List ℕ) :
    SameOutcome w (request.project w)
      (runAnsweredBy schedule product templateUrl? request w)
      ((request.installation product templateUrl? w).runPlainlyBy schedule
        colored w) := by
  cases hproject : w.isDirectory (request.project w) with
  | true =>
      rw [runAnsweredBy_eq_of_settled colored schedule
        (settleAnswered_eq_plan product templateUrl? hanswered hproject)]
      refine ⟨rfl, fun _ => Iff.rfl, fun e he => ⟨e, he, rfl, fun _ => rfl⟩, ?_⟩
      intro hfalse
      rw [hproject] at hfalse
      cases hfalse
  | false =>
      have hplan := plan_of_no_project
        (i := request.installation product templateUrl? w) hproject
      have hsettled := settleAnswered_of_no_project product templateUrl?
        hproject
      rw [runPlainlyBy_of_earlyFault (plan_eq_error_iff.mp hplan)]
      unfold runAnsweredBy
      rw [hsettled]
      refine ⟨rfl, fun _ => ⟨nofun, nofun⟩, ?_, fun _ => ⟨rfl, rfl⟩⟩
      rintro e he
      obtain rfl := Except.error.inj he
      refine ⟨_, rfl, rfl, ?_⟩
      intro htrue
      rw [hproject] at htrue
      cases htrue

/-- One job after the other, both runs come to the same. -/
theorem sameOutcome_in_turn (product : Product) (templateUrl? : Option Text)
    (colored : Colored) (hanswered : request.isAnswered = true) :
    SameOutcome w (request.project w)
      (runAnswered product templateUrl? request w)
      ((request.installation product templateUrl? w).runPlainly colored w) :=
  sameOutcome_by product templateUrl? colored hanswered []

/-- A request that leaves nothing to be asked comes to the same in both ways, in
whatever order the jobs of both runs take their steps.  An order that brings
each job to its end settles what both runs leave and what they report; and if
the jobs keep apart, the runs come to the same files and to the same report or
error also when each takes an order of its own. -/
theorem runAnswered_agrees_runPlainly (product : Product)
    (templateUrl? : Option Text) (colored : Colored) (request : Request)
    (w : Workspace) (hanswered : request.isAnswered = true) :
    let i := request.installation product templateUrl? w
    let answered (schedule : List ℕ) :=
      runAnsweredBy schedule product templateUrl? request w
    let plain (schedule : List ℕ) := i.runPlainlyBy schedule colored w
    (∀ schedule, SameOutcome w (request.project w) (answered schedule)
      (plain schedule)) ∧
    ∀ g m, i.plan w = .ok (g, m) →
      (∀ schedule v report, g.Returns m w schedule v report →
        answered schedule = (v, verdict report) ∧ (plain schedule).1 = v ∧
          (plain schedule).2.2 = verdict report) ∧
      (g.KeepsApart m w → ∀ first second,
        (∀ l, (answered first).1.tree.find? l = (plain second).1.tree.find? l) ∧
          (answered first).2 = (plain second).2.2) := by
  intro i answered plain
  refine ⟨sameOutcome_by product templateUrl? colored hanswered, ?_⟩
  intro g m hplan
  have hsame (schedule : List ℕ) :
      answered schedule = ((plain schedule).1, (plain schedule).2.2) :=
    runAnsweredBy_eq_of_settled colored schedule
      (settleAnswered_eq_plan product templateUrl? hanswered
        (isDirectory_of_plan hplan))
  constructor
  · intro schedule v report hreturns
    have hrun : plain schedule =
        (v, heading colored i ++ summary colored report, verdict report) :=
      runPlainlyBy_of_generateBy hplan hreturns.generateBy_eq colored
    rw [hsame, hrun]
    exact ⟨rfl, rfl, rfl⟩
  · intro hapart first second
    obtain ⟨hresult, hfiles⟩ :=
      runPlainlyBy_eq_of_keepsApart hplan hapart colored first second
    rw [hsame first]
    exact ⟨hfiles, congrArg Prod.snd hresult⟩

end

/-- A project whose components go to `src/ui`, and a template of two files of
which one is missing. -/
def halfTemplate : Workspace where
  tree := ⟨[(["app".toList], .directory),
    (["app".toList, "tsconfig.json".toList], .file (.text
      "\x7b\"compilerOptions\": \x7b\"paths\": \x7b\"@/*\": [\"src/*\"]\x7d\x7d\x7d".toList)),
    (["tpl".toList], .directory),
    (["tpl".toList, "template.yaml".toList], .file (.text
      "files:\n  - file: a.ts\n  - file: b.ts\n".toList)),
    (["tpl".toList, "a.ts".toList], .file (.text "a".toList))]⟩
  current := []

/-- A request for it that leaves nothing open, without `yes`. -/
def halfRequest : Request :=
  ⟨some ⟨"app".toList⟩, some ⟨"tpl".toList⟩, some "@/ui".toList,
    some "@/u".toList, some false, some [.text], false⟩

/-- The file that is there is written, and both runs fail for the other, also
when the jobs of one run take turns and those of the other come one after the
other. -/
theorem runAnswered_agrees_half_template :
    let i := halfRequest.installation .formBuilder none halfTemplate
    let g : Generation :=
      ⟨.directory ⟨"tpl".toList⟩, i.choices,
        ⟨"/app/src/ui/form-builder".toList⟩⟩
    let m : Manifest :=
      ⟨[⟨"a.ts".toList, false, false⟩, ⟨"b.ts".toList, false, false⟩]⟩
    let target : Location :=
      ["app".toList, "src".toList, "ui".toList, "form-builder".toList,
        "a.ts".toList]
    let answered := runAnsweredBy [1, 0, 0, 1, 1, 0] .formBuilder none
      halfRequest halfTemplate
    let plain := i.runPlainly false halfTemplate
    halfRequest.isAnswered = true ∧ i.plan halfTemplate = .ok (g, m) ∧
      g.KeepsApart m halfTemplate ∧
      answered.1.tree.find? target = some (.file (.text "a".toList)) ∧
      plain.1.tree.find? target = some (.file (.text "a".toList)) ∧
      answered.2 = .error (.filesFailed 1) ∧
      plain.2.2 = .error (.filesFailed 1) := by
  intro i g m target answered plain
  have hanswered : halfRequest.isAnswered = true := by decide
  have hplan : i.plan halfTemplate = .ok (g, m) := by decide +kernel
  have hapart : g.KeepsApart m halfTemplate :=
    ⟨Workspace.isGrounded_of_entries (by decide +kernel) (by decide +kernel),
      by decide +kernel, by decide +kernel, _, rfl, by decide +kernel⟩
  let v := (g.after m halfTemplate [1, 0, 0, 1, 1, 0]).workspace
  let report : Report := ⟨g.output,
    [⟨"a.ts".toList, .ok ⟨"/app/src/ui/form-builder/a.ts".toList⟩⟩,
      ⟨"b.ts".toList,
        .error (.source (.unreadable ⟨"tpl/b.ts".toList⟩ .notFound))⟩]⟩
  have hreturns : g.Returns m halfTemplate [1, 0, 0, 1, 1, 0] v report :=
    ⟨by decide +kernel, rfl, by decide +kernel⟩
  have hwritten : v.tree.find? target = some (.file (.text "a".toList)) := by
    decide +kernel
  obtain ⟨-, hplanned⟩ := runAnswered_agrees_runPlainly .formBuilder none false
    halfRequest halfTemplate hanswered
  obtain ⟨hsettled, horders⟩ := hplanned g m hplan
  have hrun : answered = (v, .error (.filesFailed 1)) :=
    (hsettled [1, 0, 0, 1, 1, 0] v report hreturns).1
  obtain ⟨hfiles, hresult⟩ := horders hapart [1, 0, 0, 1, 1, 0] []
  have hleft : answered.1.tree.find? target =
      some (.file (.text "a".toList)) := by
    rw [hrun]
    exact hwritten
  refine ⟨hanswered, hplan, hapart, hleft, (hfiles target).symm.trans hleft, ?_,
    ?_⟩
  · rw [hrun]
  · exact hresult.symm.trans (congrArg Prod.snd hrun)

end Installation

end FormScaffold
