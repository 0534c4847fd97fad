import FormScaffold.CommandLine

/-!
# The program

A run of the program: from arguments, an environment and a workspace to what
is left in the workspace, what is written, and the code the program ends with.
-/

namespace FormScaffold

/-- What a run of the program leaves behind, besides files. -/
structure Outcome where
  code : Nat
  /-- What was written to standard output. -/
  output : Text
  /-- What was said about an error. -/
  error? : Option Text
  deriving DecidableEq, Repr

namespace Program

def versionLine (p : Product) : Text := p.name ++ [' '] ++ p.version ++ ['\n']

variable [Libraries]

/-- What a run comes to that only says how the program is used. -/
def ofUsage (p : Product) (args : List Text) : Usage → Outcome
  | .help => ⟨0, Libraries.help args, none⟩
  | .version => ⟨0, versionLine p, none⟩
  | u => ⟨u.exitCode, [], none⟩

def ofResult (output : Text) : Except InstallError Report → Outcome
  | .ok _ => ⟨0, output, none⟩
  | .error e => ⟨1, output, some e.message⟩

def serveBy (schedule : List Nat) (p : Product) (templateUrl? : Option Text)
    (colored : Bool) (r : Request) (w : Workspace) : Workspace × Outcome :=
  if r.yes then
    let i := r.installation p templateUrl? w
    let (w, output, result) := i.runPlainlyBy schedule colored w
    (w, ofResult output result)
  else
    let (w, result) := Installation.runAnsweredBy schedule p templateUrl? r w
    (w, ofResult [] result)

/-- A run of the program, with the steps of the jobs in this order. -/
def runBy (schedule : List Nat) (p : Product) (templateUrl? : Option Text)
    (colored : Bool) (args : List Text) (w : Workspace) : Workspace × Outcome :=
  match CommandLine.parse args with
  | .error u => (w, ofUsage p args u)
  | .ok i =>
      serveBy schedule p templateUrl? colored (i.request?.getD Request.empty) w

/-- One job after the other. -/
def run (p : Product) (templateUrl? : Option Text) (colored : Bool)
    (args : List Text) (w : Workspace) : Workspace × Outcome :=
  runBy [] p templateUrl? colored args w

end Program
end FormScaffold
