import FormScaffold.Proofs.Installation.Agreement
import FormScaffold.Proofs.Text.Lines
import Mathlib.Data.List.Forall2

/-!
# Accounting for every file

What became of the files of a manifest is told in several places: in the report,
in its two selections, in the lines of a run, in the error at its end and in the
code of the program.  Each of them is worked out by itself, and all of them tell
the same: every file is in the report once, in its turn and under its name, and
counts either as written or as failed, whatever order the jobs took their steps
in.
-/

namespace FormScaffold

open Text

namespace Path

/-- A join onto a path that is not empty, or of an absolute path, has a
slash. -/
theorem slash_mem_join {p : Path} (hp : p.text ≠ []) (q : Path) :
    '/' ∈ (p.join q).text := by
  unfold join
  split
  next hq => exact List.mem_of_head? (by simpa [isAbsolute] using hq)
  next =>
    split
    next hend =>
      exact List.mem_append_left _ (List.mem_of_getLast? (hend.resolve_left hp))
    next => simp

theorem not_mem_text_join {c : Char} (hc : c ≠ '/') {p q : Path}
    (hp : c ∉ p.text) (hq : c ∉ q.text) : c ∉ (p.join q).text := by
  unfold join
  split
  · exact hq
  · split <;> simp [hc, hp, hq]

theorem text_join_ne_nil {q : Path} (hq : q.text ≠ []) (p : Path) :
    (p.join q).text ≠ [] := by
  unfold join
  split
  · exact hq
  · split <;> simp [hq]

end Path

namespace FieldKind

theorem not_mem_idList {c : Char} (hsign : c ∉ ", ".toList)
    (hid : ∀ k : FieldKind, c ∉ k.id)
    (kinds : List FieldKind) : c ∉ idList kinds := by
  induction kinds with
  | nil => simp [idList]
  | cons k kinds ih =>
      cases kinds with
      | nil => simpa [idList] using hid k
      | cons l kinds =>
          unfold idList at ih ⊢
          rw [List.map_cons, List.map_cons, List.intercalate_cons_cons,
            List.mem_append, List.mem_append, not_or, not_or]
          exact ⟨⟨hid k, hsign⟩, ih⟩

end FieldKind

/-! ## The report -/

/-- An outcome among those of its kind: the path of a file that was written, or
the name of one that was not, and why. -/
def FileOutcome.sort (o : FileOutcome) : Path ⊕ (Text × FileError) :=
  match o.result with
  | .ok path => .inl path
  | .error e => .inr (o.name, e)

namespace Report

/-- Every outcome is among the written or among the failures, and no outcome is
both. -/
theorem perm_sort (r : Report) :
    (r.written.map Sum.inl ++ r.failures.map Sum.inr).Perm
      (r.files.map FileOutcome.sort) := by
  obtain ⟨output, files⟩ := r
  induction files with
  | nil => exact List.Perm.nil
  | cons o files ih =>
      obtain ⟨name, result⟩ := o
      cases result with
      | ok path => exact ih.cons (Sum.inl path)
      | error e => exact List.perm_middle.trans (ih.cons (Sum.inr (name, e)))

theorem length_written_add_failures (r : Report) :
    r.written.length + r.failures.length = r.files.length := by
  simpa using r.perm_sort.length_eq

end Report

namespace Generation

variable {g : Generation} {files : List TemplateFile} {file : TemplateFile}
  {m : Manifest} {w w' : Workspace} {p : Progress} {r : Report}

/-- The outcome is that of this file: it has its name, and the path if there is
one. -/
structure Answers (g : Generation) (file : TemplateFile)
    (o : FileOutcome) : Prop where
  name_eq : o.name = file.name
  path_eq : ∀ path, o.result = .ok path → path = g.target file

/-- A job that has come to a path has come to the target of its file. -/
def CameToTargets (g : Generation) (files : List TemplateFile)
    (p : Progress) : Prop :=
  ∀ i file path, files[i]? = some file → p.states i = .done (.ok path) →
    path = g.target file

theorem eq_target_of_step {s : JobState} {path : Path}
    (hstep : (g.step file w s).2 = .done (.ok path)) :
    s = .done (.ok path) ∨ path = g.target file := by
  cases s with
  | waiting =>
      simp only [step] at hstep
      split at hstep <;> cases hstep
  | emitted text =>
      simp only [step] at hstep
      split at hstep <;> cases hstep
  | placed text =>
      simp only [step] at hstep
      split at hstep
      · cases hstep
        exact Or.inr rfl
      · cases hstep
  | done result => exact Or.inl hstep

theorem cameToTargets_advance (h : g.CameToTargets files p) (j : ℕ) :
    g.CameToTargets files (g.advance files p j) := by
  intro i file path hi hdone
  by_cases hij : i = j
  · subst hij
    rw [advance_of_getElem? hi] at hdone
    simp only [Function.update_self] at hdone
    rcases eq_target_of_step hdone with hbefore | htarget
    · exact h i file path hi hbefore
    · exact htarget
  · rw [states_advance_of_ne hij] at hdone
    exact h i file path hi hdone

theorem cameToTargets_follow (h : g.CameToTargets files p) (schedule : List ℕ) :
    g.CameToTargets files (g.follow files schedule p) := by
  induction schedule generalizing p with
  | nil => exact h
  | cons i schedule ih => exact ih (cameToTargets_advance h i)

theorem cameToTargets_start (g : Generation) (files : List TemplateFile)
    (w : Workspace) : g.CameToTargets files (start w) :=
  fun _ _ _ _ hdone => nomatch hdone

theorem answers_of_report? (htargets : g.CameToTargets files p)
    (hreport : g.report? files p = some r) :
    List.Forall₂ g.Answers files r.files := by
  have hlength : files.length = r.files.length := by
    simpa using congrArg List.length (report?_eq_some_iff.mp hreport).2
  rw [List.forall₂_iff_get]
  refine ⟨hlength, fun i hi ho => ?_⟩
  have hat := getElem?_of_report? hreport i
  rw [List.getElem?_eq_getElem hi, List.getElem?_eq_getElem ho, Option.map_some,
    Option.map_some, Option.some.injEq] at hat
  obtain ⟨hname, hdone⟩ := eq_of_outcome? hat
  refine ⟨hname, fun path hpath => ?_⟩
  rw [List.get_eq_getElem] at hpath
  rw [hpath] at hdone
  exact htargets i files[i] path (List.getElem?_eq_getElem hi) hdone

theorem report_of_generateBy {schedule : List ℕ}
    (h : g.generateBy schedule m w = (w', .ok r)) :
    r.output = g.output ∧ List.Forall₂ g.Answers m.files r.files := by
  have hreport := (generateBy_eq_ok_iff.mp h).report
  refine ⟨(report?_eq_some_iff.mp hreport).1, answers_of_report? ?_ hreport⟩
  exact cameToTargets_follow (cameToTargets_start g m.files _) _

theorem exists_answered {o : FileOutcome}
    (hfiles : List.Forall₂ g.Answers m.files r.files)
    (ho : o ∈ r.files) : ∃ file ∈ m.files, g.Answers file o := by
  obtain ⟨k, hk, rfl⟩ := List.mem_iff_getElem.mp ho
  have hfile : k < m.files.length := hfiles.length_eq ▸ hk
  exact ⟨m.files[k], List.getElem_mem hfile, hfiles.get hfile hk⟩

end Generation

namespace Installation

variable {colored : Colored} {i : Installation} {g : Generation} {m : Manifest}
  {w w' : Workspace} {r : Report} {schedule : List ℕ}

/-! ## What is said -/

def failedMark (colored : Colored) : Text := paint colored "31" "failed".toList

/-- The line on a file, with what is said of it behind its name. -/
def lineOn (colored : Colored) (name said : Text) : Text :=
  "  ".toList ++ paint colored "34" "->".toList ++ ' ' :: name ++ ' ' :: said ++
    ['\n']

/-- What is said of a file behind its name. -/
def wordOn (colored : Colored) (o : FileOutcome) : Text :=
  o.path?.elim (failedMark colored) Path.text

def closingLine (colored : Colored) (count : ℕ) (output : Path) : Text :=
  paint colored "1;32" "Wrote".toList ++ ' ' :: (toString count).toList ++
    " file(s) in ".toList ++ output.text ++ ['\n']

def headingLine (colored : Colored) (i : Installation) : Text :=
  paint colored "1;36"
    ("Generating ".toList ++ i.product.displayName ++ " (".toList ++
      FieldKind.idList i.choices.kinds ++ ")...".toList) ++ ['\n']

theorem outcomeLine_eq (colored : Colored) (o : FileOutcome) :
    outcomeLine colored o = lineOn colored o.name (wordOn colored o) := by
  obtain ⟨name, result⟩ := o
  unfold outcomeLine lineOn wordOn failedMark
  cases result <;> simp only [List.append_assoc, List.cons_append,
    List.nil_append] <;> rfl

/-- What a run says about a report. -/
def telling (colored : Colored) (i : Installation) (r : Report) : List Text :=
  [headingLine colored i, ['\n']] ++
    (r.files.map fun o => lineOn colored o.name (wordOn colored o)) ++
    [['\n'], closingLine colored r.written.length r.output]

theorem heading_append_summary (colored : Colored) (i : Installation)
    (r : Report) :
    heading colored i ++ summary colored r = (telling colored i r).flatten := by
  have hlines : outcomeLine colored =
      fun o => lineOn colored o.name (wordOn colored o) :=
    funext (outcomeLine_eq colored)
  simp only [heading, summary, List.flatMap_def, hlines, telling, headingLine,
    closingLine]
  simp

/-- A file that was written is not marked as failed: its path has a slash. -/
theorem wordOn_eq_failedMark_iff {file : TemplateFile} {o : FileOutcome}
    (houtput : g.output.text ≠ []) (ho : g.Answers file o) :
    wordOn colored o = failedMark colored ↔ ∃ e, o.result = .error e := by
  have hmark : '/' ∉ failedMark colored := by cases colored <;> decide
  cases hresult : o.result with
  | error e => simp [wordOn, FileOutcome.path?, hresult, Except.toOption]
  | ok path =>
      have hslash : '/' ∈ path.text := by
        rw [ho.path_eq path hresult]
        exact Path.slash_mem_join houtput _
      have hword : wordOn colored o = path.text := by
        simp [wordOn, FileOutcome.path?, hresult, Except.toOption]
      rw [hword]
      refine iff_of_false ?_ (by simp)
      intro heq
      exact hmark (heq ▸ hslash)

/-! ### Line by line -/

/-- What is told stays on its lines: no line feed is in the name of the product,
in the output directory or in the name of a file. -/
structure StaysOnLines (i : Installation) (g : Generation)
    (m : Manifest) : Prop where
  product : '\n' ∉ i.product.displayName
  output : '\n' ∉ g.output.text
  files : ∀ file ∈ m.files, '\n' ∉ file.name

/-- The text is one line with its line feed. -/
def IsWholeLine (s : Text) : Prop := ∃ said, '\n' ∉ said ∧ s = said ++ ['\n']

theorem isCut_of_isWholeLine {ls : List Text}
    (h : ∀ line ∈ ls, IsWholeLine line) :
    IsCut ls := by
  induction ls with
  | nil => exact .nil
  | cons line ls ih =>
      rw [List.forall_mem_cons] at h
      obtain ⟨⟨said, hsaid, rfl⟩, hrest⟩ := h
      exact .cons (lines_append_of_line hsaid rfl) (fun _ => Or.inr (by simp))
        (ih hrest)

theorem lineFeed_not_mem_paint {code : String} (hcode : '\n' ∉ code.toList)
    {s : Text} (hs : '\n' ∉ s) : '\n' ∉ paint colored code s := by
  cases colored with
  | false => exact hs
  | true =>
      have hopen : '\n' ∉ "\x1b[".toList := by decide
      have hclose : '\n' ∉ "\x1b[0m".toList := by decide
      simp only [paint, if_true, List.mem_append, not_or]
      exact ⟨⟨⟨⟨hopen, hcode⟩, by decide⟩, hs⟩, hclose⟩

theorem lineFeed_not_mem_toString (n : ℕ) : '\n' ∉ (toString n).toList := by
  have hdigits : (toString n).toList = Nat.toDigits 10 n := Nat.toList_repr
  intro hfeed
  rw [hdigits] at hfeed
  exact absurd (Nat.isDigit_of_mem_toDigits (by decide) (by decide) hfeed)
    (by decide)

theorem isWholeLine_headingLine (hproduct : '\n' ∉ i.product.displayName) :
    IsWholeLine (headingLine colored i) := by
  have hkinds : '\n' ∉ FieldKind.idList i.choices.kinds :=
    FieldKind.not_mem_idList (by decide) (fun k => by cases k <;> decide) _
  have hopen : '\n' ∉ "Generating ".toList := by decide
  have hmiddle : '\n' ∉ " (".toList := by decide
  have hclose : '\n' ∉ ")...".toList := by decide
  refine ⟨_, lineFeed_not_mem_paint (by decide) ?_, rfl⟩
  simp only [List.mem_append, not_or]
  exact ⟨⟨⟨⟨hopen, hproduct⟩, hmiddle⟩, hkinds⟩, hclose⟩

theorem isWholeLine_lineOn {name said : Text} (hname : '\n' ∉ name)
    (hsaid : '\n' ∉ said) :
    IsWholeLine (lineOn colored name said) := by
  have harrow : '\n' ∉ paint colored "34" "->".toList :=
    lineFeed_not_mem_paint (by decide) (by decide)
  have hindent : '\n' ∉ "  ".toList := by decide
  refine ⟨_, ?_, rfl⟩
  simp only [List.mem_append, List.mem_cons, not_or]
  exact ⟨⟨⟨hindent, harrow⟩, by decide, hname⟩, by decide, hsaid⟩

theorem isWholeLine_closingLine {output : Path} (houtput : '\n' ∉ output.text)
    (count : ℕ) :
    IsWholeLine (closingLine colored count output) := by
  have hwrote : '\n' ∉ paint colored "1;32" "Wrote".toList :=
    lineFeed_not_mem_paint (by decide) (by decide)
  have hfiles : '\n' ∉ " file(s) in ".toList := by decide
  refine ⟨_, ?_, rfl⟩
  simp only [List.mem_append, List.mem_cons, not_or]
  exact ⟨⟨⟨hwrote, by decide, lineFeed_not_mem_toString count⟩, hfiles⟩,
    houtput⟩

theorem lineFeed_not_mem_wordOn {file : TemplateFile} {o : FileOutcome}
    (houtput : '\n' ∉ g.output.text) (hfile : '\n' ∉ file.name)
    (ho : g.Answers file o) :
    '\n' ∉ wordOn colored o := by
  have hmark : '\n' ∉ failedMark colored :=
    lineFeed_not_mem_paint (by decide) (by decide)
  unfold wordOn FileOutcome.path?
  cases hresult : o.result with
  | error e => exact hmark
  | ok path =>
      rw [ho.path_eq path hresult]
      exact Path.not_mem_text_join (by decide) houtput hfile

theorem lines_telling (hlines : StaysOnLines i g m)
    (houtput : r.output = g.output)
    (hfiles : List.Forall₂ g.Answers m.files r.files) :
    lines (telling colored i r).flatten = telling colored i r := by
  apply IsCut.lines_flatten
  apply isCut_of_isWholeLine
  have hblank : IsWholeLine ['\n'] := ⟨[], by decide, rfl⟩
  have houtcomes : ∀ o ∈ r.files,
      IsWholeLine (lineOn colored o.name (wordOn colored o)) := by
    intro o ho
    obtain ⟨file, hfile, hanswers⟩ := Generation.exists_answered hfiles ho
    have hname := hlines.files file hfile
    refine isWholeLine_lineOn (by rwa [hanswers.name_eq]) ?_
    exact lineFeed_not_mem_wordOn hlines.output hname hanswers
  have hclosing : IsWholeLine (closingLine colored r.written.length r.output) :=
    isWholeLine_closingLine (houtput ▸ hlines.output) _
  intro line hline
  simp only [telling, List.mem_append, List.mem_cons, List.not_mem_nil,
    or_false, List.mem_map] at hline
  rcases hline with ((rfl | rfl) | ⟨o, ho, rfl⟩) | rfl | rfl
  · exact isWholeLine_headingLine hlines.product
  · exact hblank
  · exact houtcomes o ho
  · exact hblank
  · exact hclosing

/-! ## What it comes to -/

theorem runPlainlyBy_eq_telling (hplan : i.plan w = .ok (g, m))
    (hgenerate : g.generateBy schedule m w = (w', .ok r)) (colored : Colored) :
    i.runPlainlyBy schedule colored w =
      (w', (telling colored i r).flatten, verdict r) := by
  rw [runPlainlyBy_of_generateBy hplan hgenerate, heading_append_summary]

theorem verdict_eq_ok_iff : verdict r = .ok r ↔ r.failures.length = 0 := by
  unfold verdict
  split
  next hnone => exact iff_of_true rfl hnone
  next hsome => exact iff_of_false nofun hsome

theorem verdict_of_failures (h : r.failures.length ≠ 0) :
    verdict r = .error (.filesFailed r.failures.length) := if_neg h

theorem output_of_plan (hplan : i.plan w = .ok (g, m)) :
    ∃ path : Path, g.output = path.join i.product.directory := by
  cases hresolve : Tsconfig.resolveAlias w i.project i.choices.components with
  | error e =>
      rw [plan_of_unresolved hresolve] at hplan
      cases hplan
  | ok path =>
      rw [plan_of_resolved hresolve] at hplan
      obtain ⟨source, -, hmanifest⟩ := bind_eq_ok_iff.mp hplan
      cases hread : source.manifest w i.product.manifest with
      | error e =>
          rw [hread] at hmanifest
          cases hmanifest
      | ok m' =>
          rw [hread] at hmanifest
          cases hmanifest
          exact ⟨path, rfl⟩

section

variable [Libraries]

theorem runBy_of_yes {verbose : Bool} {request : Request} {args : List Text}
    (hargs : CommandLine.parse args = .ok ⟨verbose, some request⟩)
    (hyes : request.yes = true) (schedule : List ℕ) (p : Product)
    (templateUrl? : Option Text) (colored : Colored) (w : Workspace) :
    (Program.runBy schedule p templateUrl? colored args w).2 =
      let plain := (request.installation p templateUrl? w).runPlainlyBy schedule
        colored w
      Program.ofResult plain.2.1 plain.2.2 := by
  simp only [Program.runBy, hargs, Option.getD_some, Program.serveBy, hyes,
    if_true]

/-- Whenever a generation comes to a report, in whatever order its jobs take
their steps, the report has an outcome for each file of the manifest in its
turn, and each counts once, as written or as failed.  A run that the generation
belongs to says one line on each of them, marked where the file failed, and in
the last line how many were written; it succeeds just in case none failed, and
else says how many did, and so does the program. -/
theorem generate_accounts
    (hgenerate : g.generateBy schedule m w = (w', .ok r)) :
    List.Forall₂ g.Answers m.files r.files ∧
      (r.written.map Sum.inl ++ r.failures.map Sum.inr).Perm
        (r.files.map FileOutcome.sort) ∧
      r.written.length + r.failures.length = m.files.length ∧
      ∀ (colored : Colored) (i : Installation), i.plan w = .ok (g, m) →
        let plain := i.runPlainlyBy schedule colored w
        plain.2.1 = (telling colored i r).flatten ∧
        (StaysOnLines i g m → lines plain.2.1 = telling colored i r) ∧
        (i.product.directory.text ≠ [] → ∀ o ∈ r.files,
          (wordOn colored o = failedMark colored ↔ ∃ e, o.result = .error e)) ∧
        (plain.2.2 = .ok r ↔ r.failures.length = 0) ∧
        (r.failures.length ≠ 0 → ∃ e, plain.2.2 = .error e ∧
          e.message = (toString r.failures.length).toList ++
            " template file(s) could not be generated".toList) ∧
        ∀ (args : List Text) (verbose : Bool) (request : Request),
          CommandLine.parse args = .ok ⟨verbose, some request⟩ →
          request.yes = true →
          request.installation i.product i.templateUrl? w = i →
            let outcome :=
              (Program.runBy schedule i.product i.templateUrl? colored args w).2
            outcome.output = (telling colored i r).flatten ∧
              (outcome.code = 0 ↔ r.failures.length = 0) := by
  obtain ⟨houtput, hfiles⟩ := Generation.report_of_generateBy hgenerate
  refine ⟨hfiles, r.perm_sort, ?_, ?_⟩
  · rw [r.length_written_add_failures, hfiles.length_eq]
  intro colored i hplan plain
  have hrun : plain = (w', (telling colored i r).flatten, verdict r) :=
    runPlainlyBy_eq_telling hplan hgenerate colored
  rw [hrun]
  refine ⟨rfl, fun hlines => lines_telling hlines houtput hfiles, ?_,
    verdict_eq_ok_iff, ?_, ?_⟩
  · intro hdirectory o ho
    obtain ⟨file, -, hanswers⟩ := Generation.exists_answered hfiles ho
    obtain ⟨path, hpath⟩ := output_of_plan hplan
    exact wordOn_eq_failedMark_iff (hpath ▸
      Path.text_join_ne_nil hdirectory path) hanswers
  · exact fun hfailed => ⟨_, verdict_of_failures hfailed, rfl⟩
  · intro args verbose request hargs hyes hi
    rw [runBy_of_yes hargs hyes, hi, runPlainlyBy_eq_telling hplan hgenerate]
    unfold verdict
    split
    next hnone => exact ⟨rfl, iff_of_true rfl hnone⟩
    next hsome => exact ⟨rfl, iff_of_false Nat.one_ne_zero hsome⟩

end

/-- One of two files is missing from the template: both have their line, one
counts as written and one as failed, and the program fails, when the jobs take
turns. -/
theorem generate_accounts_half_template :
    let args := ["init".toList, "--yes".toList, "--cwd=app".toList,
      "--template-dir=tpl".toList, "--components=@/ui".toList]
    let request : Request :=
      ⟨some ⟨"app".toList⟩, some ⟨"tpl".toList⟩, some "@/ui".toList, none, none,
        none, true⟩
    let i := request.installation .formBuilder none halfTemplate
    let order := [1, 0, 0, 1, 1, 0]
    let plain := i.runPlainlyBy order false halfTemplate
    let outcome :=
      (Program.runBy order .formBuilder none false args halfTemplate).2
    let said := ("Generating React Form Builder (text)...\n\n" ++
      "  -> a.ts /app/src/ui/form-builder/a.ts\n  -> b.ts failed\n\n" ++
      "Wrote 1 file(s) in /app/src/ui/form-builder\n").toList
    ∃ g m w' r, g.generateBy order m halfTemplate = (w', .ok r) ∧
      i.plan halfTemplate = .ok (g, m) ∧
      StaysOnLines i g m ∧ i.product.directory.text ≠ [] ∧
      CommandLine.parse args = .ok ⟨false, some request⟩ ∧
      r.files.map FileOutcome.name = ["a.ts".toList, "b.ts".toList] ∧
      r.failures.length = 1 ∧ r.written.length = 1 ∧
      plain.2.1 = said ∧ lines said = telling false i r ∧
      (∃ e, plain.2.2 = .error e ∧
        e.message = "1 template file(s) could not be generated".toList) ∧
      outcome.output = said ∧ outcome.code ≠ 0 := by
  intro args request i order plain outcome said
  let g : Generation :=
    ⟨.directory ⟨"tpl".toList⟩, request.choices,
      ⟨"/app/src/ui/form-builder".toList⟩⟩
  let m : Manifest :=
    ⟨[⟨"a.ts".toList, false, false⟩, ⟨"b.ts".toList, false, false⟩]⟩
  let r : Report := ⟨g.output,
    [⟨"a.ts".toList, .ok ⟨"/app/src/ui/form-builder/a.ts".toList⟩⟩,
      ⟨"b.ts".toList,
        .error (.source (.unreadable ⟨"tpl/b.ts".toList⟩ .notFound))⟩]⟩
  have hplan : i.plan halfTemplate = .ok (g, m) := by decide +kernel
  have hlines : StaysOnLines i g m := ⟨by decide, by decide, by decide⟩
  have hparse : CommandLine.parse args = .ok ⟨false, some request⟩ := by
    decide +kernel
  have hreport : (g.generateBy order m halfTemplate).2 = .ok r := by
    decide +kernel
  have hgenerate : g.generateBy order m halfTemplate =
      ((g.generateBy order m halfTemplate).1, .ok r) :=
    Prod.ext rfl hreport
  have htelling : (telling false i r).flatten = said := by
    simp only [said, String.toList_append]
    decide +kernel
  have hnames : r.files.map FileOutcome.name = ["a.ts".toList, "b.ts".toList] :=
    rfl
  have hfailed : r.failures.length = 1 := rfl
  have hwritten : r.written.length = 1 := rfl
  obtain ⟨-, -, -, hrun⟩ := generate_accounts hgenerate
  obtain ⟨htold, hsplit, -, -, herror, hprogram⟩ := hrun false i hplan
  obtain ⟨hprinted, hcode⟩ := hprogram args false request hparse rfl rfl
  have hsaid : plain.2.1 = said := htold.trans htelling
  have hcut : lines said = telling false i r := by
    rw [← hsaid]
    exact hsplit hlines
  rw [hfailed] at herror hcode
  obtain ⟨e, he, hmessage⟩ := herror Nat.one_ne_zero
  have hone : (toString 1).toList ++
      " template file(s) could not be generated".toList =
      "1 template file(s) could not be generated".toList := by
    decide +kernel
  refine ⟨g, m, _, r, hgenerate, hplan, hlines, by decide, hparse, hnames,
    hfailed, hwritten, hsaid, hcut, ⟨e, he, hmessage.trans hone⟩,
    hprinted.trans htelling, ?_⟩
  exact fun hzero => Nat.one_ne_zero (hcode.mp hzero)

end Installation

end FormScaffold
