import FormScaffold.Installation

/-!
# The command line

The command takes a few switches and one subcommand with options of its own.
An option stands in one argument with its value or before it, and short
switches may be run together.  Every option may come once, except the one for
field kinds, which adds up.  What is wrong with an argument is said where the
argument is met; what is wrong with a value only when the next argument that
means something is met, or the line ends.
-/

namespace FormScaffold

/-- Why a command line asks for no run. -/
inductive Usage where
  | help
  | version
  | invalidValue
  | unknownSubcommand
  | unknownArgument
  | repeatedOption
  | unwantedValue
  deriving DecidableEq, Repr

/-- The code that a program ends with that only says how it is used. -/
def Usage.exitCode : Usage → Nat
  | help => 0
  | version => 0
  | _ => 2

/-- What a command line asks for.  Without a subcommand there is no request. -/
structure Invocation where
  verbose : Bool
  request? : Option Request
  deriving DecidableEq, Repr

namespace CommandLine

/-- A switch, which takes no value. -/
inductive Switch where
  | help
  | version
  | verbose
  | yes
  deriving DecidableEq, Repr

inductive Valued where
  | cwd
  | templates
  | components
  | utils
  | directive
  | kinds
  deriving DecidableEq, Repr

abbrev Meaning := Switch ⊕ Valued

/-- Where an argument stands: before the subcommand, or behind it. -/
inductive Level where
  | command
  | init
  deriving DecidableEq, Repr

/-- What a long name means. -/
def long? : Level → Text → Option Meaning
  | .command, name =>
    if name = "help".toList then some (.inl .help)
    else if name = "version".toList then some (.inl .version)
    else if name = "verbose".toList then some (.inl .verbose)
    else none
  | .init, name =>
    if name = "help".toList then some (.inl .help)
    else if name = "verbose".toList then some (.inl .verbose)
    else if name = "yes".toList then some (.inl .yes)
    else if name = "cwd".toList then some (.inr .cwd)
    else if name = "template-dir".toList then some (.inr .templates)
    else if name = "components".toList then some (.inr .components)
    else if name = "utils".toList then some (.inr .utils)
    else if name = "rsc".toList then some (.inr .directive)
    else if name = "fields".toList then some (.inr .kinds)
    else none

/-- What a short name means. -/
def short? : Level → Char → Option Meaning
  | .command, 'h' => some (.inl .help)
  | .command, 'V' => some (.inl .version)
  | .command, 'v' => some (.inl .verbose)
  | .init, 'h' => some (.inl .help)
  | .init, 'v' => some (.inl .verbose)
  | .init, 'y' => some (.inl .yes)
  | .init, 'c' => some (.inr .cwd)
  | .init, 'f' => some (.inr .kinds)
  | _, _ => none

/-- What was read so far. -/
structure Progress where
  verbose : Bool
  request : Request
  /-- An option whose value is not taken in yet, and the value if it was met. -/
  pending : Option (Valued × Option Text)
  deriving DecidableEq, Repr

namespace Progress

def start : Progress := ⟨false, Request.empty, none⟩

/-- Whether the next argument may be the value of an option. -/
def awaitsValue (p : Progress) : Bool :=
  match p.pending with
  | some (_, none) => true
  | _ => false

def setOnce {α : Type} (now : Option α) (value : Option α) :
    Except Usage (Option α) :=
  if now.isSome then .error .repeatedOption
  else
    match value with
    | some v => .ok (some v)
    | none => .error .invalidValue

def path? (s : Text) : Option Path := if s = [] then none else some ⟨s⟩

def bool? (s : Text) : Option Bool :=
  if s = "true".toList then some true
  else if s = "false".toList then some false
  else none

def kinds? (s : Text) : Option (List FieldKind) :=
  (s.splitOn ',').mapM FieldKind.ofId?

def store (r : Request) (o : Valued) (s : Text) : Except Usage Request :=
  match o with
  | .cwd => (setOnce r.cwd (path? s)).map fun v => { r with cwd := v }
  | .templates =>
      (setOnce r.templates (path? s)).map fun v => { r with templates := v }
  | .components =>
      (setOnce r.components (some s)).map fun v => { r with components := v }
  | .utils => (setOnce r.utils (some s)).map fun v => { r with utils := v }
  | .directive =>
      (setOnce r.directive (bool? s)).map fun v => { r with directive := v }
  | .kinds =>
    match kinds? s with
    | some ks => .ok { r with kinds := some (r.kinds.getD [] ++ ks) }
    | none => .error .invalidValue

/-- Takes in the value that is pending. -/
def settle (p : Progress) : Except Usage Progress :=
  match p.pending with
  | none => .ok p
  | some (_, none) => .error .invalidValue
  | some (o, some s) =>
    (store p.request o s).map fun r => { p with request := r, pending := none }

def turn (p : Progress) (s : Switch) : Except Usage Progress := do
  let p ← p.settle
  match s with
  | .help => throw .help
  | .version => throw .version
  | .verbose =>
    if p.verbose then throw .repeatedOption
    else return { p with verbose := true }
  | .yes =>
    if p.request.yes then throw .repeatedOption
    else return { p with request := { p.request with yes := true } }

/-- Meets an option, with its value if that stands in the same argument. -/
def meet (p : Progress) (o : Valued) (value : Option Text) :
    Except Usage Progress := do
  let p ← p.settle
  match value with
  | some s => return { p with request := ← store p.request o s }
  | none => return { p with pending := some (o, none) }

/-- Meets an argument that is the value of the option before it. -/
def supply (p : Progress) (s : Text) : Progress :=
  match p.pending with
  | some (o, none) => { p with pending := some (o, some s) }
  | _ => p

/-- Meets a long name, with a value if one is attached. -/
def meetLong (level : Level) (p : Progress) (name : Text)
    (value : Option Text) : Except Usage Progress :=
  match long? level name with
  | some (.inl s) => if value.isSome then .error .unwantedValue else p.turn s
  | some (.inr o) => p.meet o value
  | none => .error .unknownArgument

/-- Meets short names that stand in one argument.  The first that takes a value
takes what follows it, an equals sign set aside. -/
def meetShort (level : Level) (p : Progress) : Text → Except Usage Progress
  | [] => .ok p
  | c :: rest =>
    match short? level c with
    | some (.inl s) =>
      match p.turn s with
      | .ok p => meetShort level p rest
      | .error e => .error e
    | some (.inr o) =>
      match rest with
      | [] => p.meet o none
      | '=' :: value => p.meet o (some value)
      | value => p.meet o (some value)
    | none => .error .unknownArgument

end Progress

inductive Form where
  /-- Two hyphens: everything behind is no option. -/
  | escape
  | long (name : Text) (value : Option Text)
  | short (names : Text)
  | word
  deriving DecidableEq, Repr

def form (arg : Text) : Form :=
  match arg with
  | ['-', '-'] => .escape
  | '-' :: '-' :: rest =>
    match rest.dropWhile (· != '=') with
    | _ :: value => .long (rest.takeWhile (· != '=')) (some value)
    | [] => .long rest none
  | '-' :: c :: rest => .short (c :: rest)
  | _ => .word

/-- Reads the arguments behind the subcommand. -/
def readInit (p : Progress) : List Text → Except Usage Progress
  | [] => p.settle
  | arg :: rest =>
    match form arg with
    | .escape => if rest.isEmpty then p.settle else .error .unknownArgument
    | .long name value =>
      match p.meetLong .init name value with
      | .ok p => readInit p rest
      | .error e => .error e
    | .short names =>
      match p.meetShort .init names with
      | .ok p => readInit p rest
      | .error e => .error e
    | .word =>
        if p.awaitsValue then readInit (p.supply arg) rest
          else .error .unknownArgument

def subcommands : List Text := ["init".toList, "help".toList]

/-- What asking for help on something comes to. -/
def readHelp : List Text → Usage
  | [] => .help
  | [arg] => if subcommands.contains arg then .help else .unknownSubcommand
  | _ => .unknownSubcommand

/-- Reads the arguments from before the subcommand on. -/
def readCommand (p : Progress) : List Text → Except Usage Invocation
  | [] => return ⟨p.verbose, none⟩
  | arg :: rest =>
    if arg = "init".toList then do
      let inner ← readInit Progress.start rest
      return ⟨p.verbose || inner.verbose, some inner.request⟩
    else if arg = "help".toList then .error (readHelp rest)
    else
      match form arg with
      | .escape =>
        match rest with
        | [] => return ⟨p.verbose, none⟩
        | next :: _ =>
          .error (if subcommands.contains next then .unknownArgument
            else .unknownSubcommand)
      | .long name value =>
        match p.meetLong .command name value with
        | .ok p => readCommand p rest
        | .error e => .error e
      | .short names =>
        match p.meetShort .command names with
        | .ok p => readCommand p rest
        | .error e => .error e
      | .word => .error .unknownSubcommand

/-- What a command line asks for. -/
def parse (args : List Text) : Except Usage Invocation :=
  readCommand Progress.start args

end CommandLine
end FormScaffold
