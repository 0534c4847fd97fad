import FormScaffold.Source

/-!
# Generating files

Each file of a manifest is a job of its own: its template is fetched, the
directory it goes to is made, and the emitted text is written.  A job that
fails says so and leaves the others alone.  The jobs run side by side, so their
steps may come in any order; the report lists them in the order of the
manifest.
-/

namespace FormScaffold

inductive FileError where
  | source (e : SourceError)
  | directoryNotMade (path : Path) (cause : IoError)
  | notWritten (path : Path) (cause : IoError)
  deriving DecidableEq, Repr

/-- What became of one file: the path it was written to, or why it was not. -/
structure FileOutcome where
  name : Text
  result : Except FileError Path

namespace FileOutcome

def path? (o : FileOutcome) : Option Path := o.result.toOption

def error? (o : FileOutcome) : Option FileError :=
  match o.result with
  | .ok _ => none
  | .error e => some e

end FileOutcome

/-- What became of all files. -/
structure Report where
  output : Path
  files : List FileOutcome

namespace Report

def written (r : Report) : List Path := r.files.filterMap FileOutcome.path?

/-- The names of the files that failed, and why. -/
def failures (r : Report) : List (Text × FileError) :=
  r.files.filterMap (fun o => o.error?.map (o.name, ·))

def isSuccess (r : Report) : Bool := r.failures.isEmpty

end Report

/-- What the jobs of one run share. -/
structure Generation where
  source : TemplateSource
  choices : Choices
  /-- The directory that files are written to. -/
  output : Path
  deriving DecidableEq, Repr

/-- How far a job has come. -/
inductive JobState where
  | waiting
  /-- The text to write is known. -/
  | emitted (text : Text)
  /-- The directory to write to is there. -/
  | placed (text : Text)
  | done (result : Except FileError Path)

namespace Generation

def target (g : Generation) (file : TemplateFile) : Path :=
  g.output.join ⟨file.name⟩

/-- Makes the directory that a path is in. -/
def placeFor (w : Workspace) (target : Path) :
    Workspace × Except FileError Unit :=
  match target.parent? with
  | none => (w, .ok ())
  | some directory =>
    match w.makeDirectories directory with
    | (w, .ok ()) => (w, .ok ())
    | (w, .error e) => (w, .error (.directoryNotMade directory e))

/-- One step of the job of a file. -/
def step (g : Generation) (file : TemplateFile) (w : Workspace) :
    JobState → Workspace × JobState
  | .waiting =>
    match g.source.fetch w file.name with
    | .ok s => (w, .emitted (file.emit g.choices s))
    | .error e => (w, .done (.error (.source e)))
  | .emitted text =>
    match placeFor w (g.target file) with
    | (w, .ok ()) => (w, .placed text)
    | (w, .error e) => (w, .done (.error e))
  | .placed text =>
    match w.writeText (g.target file) text with
    | .ok w => (w, .done (.ok (g.target file)))
    | .error e => (w, .done (.error (.notWritten (g.target file) e)))
  | .done result => (w, .done result)

/-! ## One job after the other -/

/-- The job of a file from beginning to end. -/
def run (g : Generation) (file : TemplateFile) (w : Workspace) :
    Workspace × FileOutcome :=
  let (w, s) := g.step file w .waiting
  let (w, s) := g.step file w s
  match g.step file w s with
  | (w, .done result) => (w, ⟨file.name, result⟩)
  | (w, _) => (w, ⟨file.name, .ok (g.target file)⟩)

def runAll (g : Generation) :
    List TemplateFile → Workspace → Workspace × List FileOutcome
  | [], w => (w, [])
  | file :: rest, w =>
    let (w, outcome) := g.run file w
    let (w, outcomes) := g.runAll rest w
    (w, outcome :: outcomes)

/-- Generates all files of a manifest.  The output directory is made first, and
without it no job begins. -/
def generate (g : Generation) (m : Manifest) (w : Workspace) :
    Workspace × Except IoError Report :=
  match w.makeDirectories g.output with
  | (w, .error e) => (w, .error e)
  | (w, .ok ()) =>
    let (w, files) := g.runAll m.files w
    (w, .ok ⟨g.output, files⟩)

end Generation

/-! ## Side by side -/

/-- The workspace that jobs share, and how far each of them has come, by its
place in the manifest. -/
structure Progress where
  workspace : Workspace
  states : Nat → JobState

namespace Generation

def start (w : Workspace) : Progress := ⟨w, fun _ => .waiting⟩

/-- One step of the job at this place of the manifest. -/
def advance (g : Generation) (files : List TemplateFile) (p : Progress)
    (i : Nat) : Progress :=
  match files[i]? with
  | none => p
  | some file =>
    let (w, s) := g.step file p.workspace (p.states i)
    ⟨w, fun j => if j = i then s else p.states j⟩

def follow (g : Generation) (files : List TemplateFile) (schedule : List Nat)
    (p : Progress) : Progress :=
  schedule.foldl (g.advance files) p

def outcome? (file : TemplateFile) : JobState → Option FileOutcome
  | .done result => some ⟨file.name, result⟩
  | _ => none

/-- The turns of so many jobs from this place on, one job after the other. -/
def turns (first count : Nat) : List Nat :=
  (List.range' first count).flatMap (List.replicate 3)

/-- Generates all files of a manifest, with the steps of the jobs in this order.
What is left to do then is done one job after the other. -/
def generateBy (schedule : List Nat) (g : Generation) (m : Manifest)
    (w : Workspace) : Workspace × Except IoError Report :=
  match w.makeDirectories g.output with
  | (w, .error e) => (w, .error e)
  | (w, .ok ()) =>
    let p := g.follow m.files (schedule ++ turns 0 m.files.length) (start w)
    let outcomes := m.files.mapIdx fun i file => outcome? file (p.states i)
    (p.workspace, .ok ⟨g.output, outcomes.filterMap id⟩)

end Generation
end FormScaffold
