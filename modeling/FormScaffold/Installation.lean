import FormScaffold.Generation
import FormScaffold.Product
import FormScaffold.Tsconfig.Mapping

/-!
# Installing the product into a project

An installation finds the directory of the project's components, takes the
manifest of the templates, and generates the files.  Until the output
directory is made nothing is written and nothing is said.  It runs plainly,
with a report on standard output, or behind questions that were answered
beforehand; both do the same to the project, in whatever order the jobs take
their steps.
-/

namespace FormScaffold

/-- What a person asked for; what is left open is asked or takes its default. -/
structure Request where
  /-- The directory of the project. -/
  cwd : Option Path
  /-- A directory of templates. -/
  templates : Option Path
  components : Option Text
  utils : Option Text
  directive : Option Bool
  kinds : Option (List FieldKind)
  /-- Whether defaults are taken without asking. -/
  yes : Bool
  deriving DecidableEq, Repr

namespace Request

def empty : Request := ⟨none, none, none, none, none, none, false⟩

/-- The choices, with defaults for what is left open. -/
def choices (r : Request) : Choices where
  components := r.components.getD Choices.default.components
  utils := r.utils.getD Choices.default.utils
  directive := r.directive.getD Choices.default.directive
  kinds := r.kinds.getD Choices.default.kinds

/-- The directory of the project, as seen from the root. -/
def project (r : Request) (w : Workspace) : Path :=
  match r.cwd with
  | some d => w.currentPath.join d
  | none => w.currentPath

/-- The choices as they are answered beforehand: with `yes` defaults fill the
gaps, and otherwise each choice has to be given. -/
def answers? (r : Request) : Option Choices :=
  if r.yes then some r.choices
  else do
    let components ← r.components
    let utils ← r.utils
    let directive ← r.directive
    let kinds ← r.kinds
    return { components, utils, directive, kinds }

def isAnswered (r : Request) : Bool :=
  r.yes || (r.components.isSome && r.utils.isSome && r.directive.isSome &&
    r.kinds.isSome)

end Request

inductive InstallError where
  | resolve (e : ResolveError)
  | badTemplateUrl (url : Text)
  | manifest (e : ManifestError)
  | outputNotMade (path : Path) (cause : IoError)
  | filesFailed (count : Nat)
  | noProject (directory : Path)
  | unanswered
  deriving DecidableEq, Repr

namespace ManifestError

def message : ManifestError → Text
  | unreadable p _ => "Failed to read ".toList ++ p.text
  | malformed p => "Failed to parse ".toList ++ p.text

def causes : ManifestError → List IoError
  | unreadable _ e => [e]
  | malformed _ => []

end ManifestError

namespace FileError

def message : FileError → Text
  | source e => e.message
  | directoryNotMade p _ => "Failed to create directory: ".toList ++ p.text
  | notWritten p _ => "Failed to write file: ".toList ++ p.text

def causes : FileError → List IoError
  | source _ => []
  | directoryNotMade _ e => [e]
  | notWritten _ e => [e]

end FileError

namespace InstallError

def message [Libraries] : InstallError → Text
  | resolve e => e.message
  | badTemplateUrl url => "Invalid template URL: ".toList ++ url
  | manifest e => e.message
  | outputNotMade p _ => "Failed to create directory: ".toList ++ p.text
  | filesFailed n =>
      (toString n).toList ++ " template file(s) could not be generated".toList
  | noProject d => "The directory ".toList ++ d.text ++ " does not exist".toList
  | unanswered => "Some choices were left open".toList

def causes : InstallError → List IoError
  | manifest e => e.causes
  | outputNotMade _ e => [e]
  | _ => []

end InstallError

/-- Everything an installation is told from outside. -/
structure Installation where
  product : Product
  /-- Another place for templates, from the environment. -/
  templateUrl? : Option Text
  /-- The directory of the project. -/
  project : Path
  choices : Choices
  /-- A directory of templates. -/
  templates : Option Path
  deriving DecidableEq, Repr

def Request.installation (r : Request) (product : Product)
    (templateUrl? : Option Text) (w : Workspace) : Installation :=
  ⟨product, templateUrl?, r.project w, r.choices, r.templates⟩

namespace Installation

/-- Where templates below a URL come from. -/
def remoteSource (product : Product) (templateUrl? : Option Text) :
    Except InstallError TemplateSource :=
  let url := templateUrl?.getD product.templateUrl
  match Url.parse? url with
  | some u => .ok (.remote u)
  | none => .error (.badTemplateUrl url)

def source (i : Installation) : Except InstallError TemplateSource :=
  match i.templates with
  | some d => .ok (.directory d)
  | none => remoteSource i.product i.templateUrl?

def outputDirectory (product : Product) (w : Workspace) (project : Path)
    (choices : Choices) : Except ResolveError Path :=
  (Tsconfig.resolveAlias w project choices.components).map
    (·.join product.directory)

/-- What is settled before anything is written: the generation and its files. -/
def plan (i : Installation) (w : Workspace) :
    Except InstallError (Generation × Manifest) := do
  let output ← (outputDirectory i.product w i.project i.choices).mapError
      .resolve
  let source ← i.source
  let manifest ← (source.manifest w i.product.manifest).mapError .manifest
  return (⟨source, i.choices, output⟩, manifest)

/-- The report as a result: a file that failed is an error in the end. -/
def verdict (r : Report) : Except InstallError Report :=
  if r.failures.length = 0 then .ok r
    else .error (.filesFailed r.failures.length)

/-- Generates what was settled, with the steps of the jobs in this order. -/
def carryOutBy (schedule : List Nat) (plan : Generation × Manifest)
    (w : Workspace) : Workspace × Except InstallError Report :=
  match plan.1.generateBy schedule plan.2 w with
  | (w, .ok r) => (w, .ok r)
  | (w, .error e) => (w, .error (.outputNotMade plan.1.output e))

/-! ## What is said -/

abbrev Colored := Bool

/-- A text in the colour that a code means, if colours are wanted. -/
def paint (colored : Colored) (code : String) (s : Text) : Text :=
  if colored then "\x1b[".toList ++ code.toList ++ ['m'] ++ s ++
    "\x1b[0m".toList else s

def heading (colored : Colored) (i : Installation) : Text :=
  paint colored "1;36"
    ("Generating ".toList ++ i.product.displayName ++ " (".toList ++
      FieldKind.idList i.choices.kinds ++ ")...".toList) ++ "\n\n".toList

def outcomeLine (colored : Colored) (o : FileOutcome) : Text :=
  "  ".toList ++ paint colored "34" "->".toList ++ [' '] ++ o.name ++ [' '] ++
  (match o.result with
    | .ok path => path.text
    | .error _ => paint colored "31" "failed".toList) ++ ['\n']

def summary (colored : Colored) (r : Report) : Text :=
  r.files.flatMap (outcomeLine colored) ++ ['\n'] ++
  paint colored "1;32" "Wrote".toList ++ [' '] ++
    (toString r.written.length).toList ++
  " file(s) in ".toList ++ r.output.text ++ ['\n']

/-! ## The two ways to run -/

/-- Installs and says on standard output what was done. -/
def runPlainlyBy (schedule : List Nat) (colored : Colored) (i : Installation)
    (w : Workspace) : Workspace × Text × Except InstallError Report :=
  match i.plan w with
  | .error e => (w, [], .error e)
  | .ok plan =>
    match carryOutBy schedule plan w with
    | (w, .error e) => (w, heading colored i, .error e)
    | (w, .ok r) => (w, heading colored i ++ summary colored r, verdict r)

/-- One job after the other. -/
def runPlainly (colored : Colored) (i : Installation) (w : Workspace) :
    Workspace × Text × Except InstallError Report :=
  i.runPlainlyBy [] colored w

/-- What is settled behind questions, all of them answered beforehand.  The
project is looked for before anything is asked. -/
def settleAnswered (product : Product) (templateUrl? : Option Text)
    (request : Request)
    (w : Workspace) : Except InstallError (Generation × Manifest) :=
  let project := request.project w
  if w.isDirectory project then
    match request.answers? with
    | none => .error .unanswered
    | some choices => do
      let output ← (outputDirectory product w project choices).mapError .resolve
      let source ← source ⟨product, templateUrl?, project, choices,
          request.templates⟩
      let manifest ← (source.manifest w product.manifest).mapError .manifest
      return (⟨source, choices, output⟩, manifest)
  else .error (.noProject project)

/-- Installs what a request with all answers asks for.  Questions and their
answers are not on standard output. -/
def runAnsweredBy (schedule : List Nat) (product : Product)
    (templateUrl? : Option Text) (request : Request) (w : Workspace) :
    Workspace × Except InstallError Report :=
  match settleAnswered product templateUrl? request w with
  | .error e => (w, .error e)
  | .ok (generation, manifest) =>
    match generation.generateBy schedule manifest w with
    | (w, .error e) => (w, .error (.outputNotMade generation.output e))
    | (w, .ok report) =>
      if report.isSuccess then (w, .ok report)
      else (w, .error (.filesFailed report.failures.length))

/-- One job after the other. -/
def runAnswered (product : Product) (templateUrl? : Option Text)
    (request : Request)
    (w : Workspace) : Workspace × Except InstallError Report :=
  runAnsweredBy [] product templateUrl? request w

end Installation
end FormScaffold
