import FormScaffold.Tsconfig.Options
import FormScaffold.FileTree.Access

/-!
# From import aliases to directories

The configuration of a project and those it extends form a chain.  For the
base directory and for the alias patterns the nearest configuration counts
that sets them.  An alias is mapped by the pattern that names it, or else by
the one with a star that shares the longest beginning with it.
-/

namespace FormScaffold

inductive ResolveError where
  | noDirectory (directory : Path)
  | noConfig (directory : Path)
  | unreadable (config : Path) (cause : IoError)
  | malformed (config : Path)
  | unmapped (importAlias : Text) (config : Path)
  deriving DecidableEq, Repr

namespace ResolveError

def message [Libraries] : ResolveError → Text
  | noDirectory d =>
      "The directory ".toList ++ d.text ++ " does not exist".toList
  | noConfig d => "Could not load tsconfig.json in ".toList ++ d.text
  | unreadable c e =>
      "Could not read ".toList ++ c.text ++ ": ".toList ++ e.message
  | malformed c =>
      "Could not parse ".toList ++ c.text ++ because (Libraries.complaint c)
  | unmapped a c =>
    "Could not resolve import path ".toList ++ a ++ " using ".toList ++ c.text

end ResolveError

namespace Tsconfig

def fileName : Path := ⟨"tsconfig.json".toList⟩

/-- How many configurations of a chain are read. -/
def maxChain : Nat := 8

/-- Where import aliases lead. -/
structure Mapping where
  /-- The configuration of the project. -/
  config : Path
  /-- The base directory, if a configuration of the chain sets one. -/
  baseUrl : Option Path
  /-- The directory of the configuration that sets the patterns. -/
  pathsDir : Path
  /-- The alias patterns. -/
  paths : AliasPaths
  deriving DecidableEq, Repr

/-- The file that `parent` names, seen from a directory.  Only names that begin
with a dot name one, and a name without an extension is taken to end in
`.json`. -/
def namedConfig? (directory : Path) (parent : Text) : Option Path :=
  if parent.head? = some '.' then
    let named := directory.join ⟨parent⟩
    some (if named.hasExtension then named
      else named.addExtension "json".toList)
  else none

def parentConfig? (w : Workspace) (directory : Path)
    (parent : Text) : Option Path :=
  (namedConfig? directory parent).filter w.isFile

def readConfig (w : Workspace) (config : Path) : Except ResolveError Options :=
  match w.readText config with
  | .error e => .error (.unreadable config e)
  | .ok s =>
    match Options.parse? s with
    | some o => .ok o
    | none => .error (.malformed config)

/-- The configurations of a chain, from the nearest on, each with the
directory it stands in.  At most `fuel` of them are read. -/
def chain (w : Workspace) :
    Nat → Path → Except ResolveError (List (Path × Options))
  | 0, _ => .ok []
  | fuel + 1, config => do
    let options ← readConfig w config
    let directory := config.parent?.getD Path.empty
    match options.parents.getLast? >>= parentConfig? w directory with
    | some parent => return (directory, options) :: (← chain w fuel parent)
    | none => return [(directory, options)]

/-- The base directory that the nearest configuration sets. -/
def nearestBaseUrl? (configs : List (Path × Options)) : Option Path :=
  configs.findSome? fun (directory, o) =>
    o.baseUrl.map (fun base => (directory.join ⟨base⟩).clean)

/-- The patterns that the nearest configuration sets, and where it stands. -/
def nearestPaths? (configs : List (Path × Options)) :
    Option (Path × AliasPaths) :=
  configs.findSome? fun (directory, o) => o.paths.map (directory, ·)

namespace Mapping

/-- The mapping of the project in a directory. -/
def load (w : Workspace) (project : Path) : Except ResolveError Mapping :=
  let config := project.join fileName
  if w.isFile config then do
    let configs ← chain w maxChain config
    let (pathsDir, paths) := (nearestPaths? configs).getD (project, [])
    return { config, baseUrl := nearestBaseUrl? configs, pathsDir, paths }
  else .error (.noConfig project)

structure Fit where
  pattern : Text
  /-- What its star stands for. -/
  captured : Text
  /-- Where it leads. -/
  targets : List Text
  deriving DecidableEq, Repr

/-- Whether a pattern with this lead and tail around its star fits an alias.
The two must not overlap in it. -/
def fits (lead tail importAlias : Text) : Bool :=
  lead.byteSize + tail.byteSize ≤ importAlias.byteSize &&
    lead.isPrefixOf importAlias && tail.isSuffixOf importAlias

/-- What lies in an alias between a lead and a tail, if it can be cut there. -/
def captured? (lead tail importAlias : Text) : Option Text := do
  guard (tail.byteSize ≤ importAlias.byteSize)
  Text.slice? lead.byteSize (importAlias.byteSize - tail.byteSize) importAlias

/-- Looks for a pattern among further ones, with the best so far and the size of
its lead.  A pattern without a star ends the search if it is the alias; one with
a star is better if its lead is longer, and only its first star counts.  There
is no result if the alias were cut where it cannot be. -/
def search? (importAlias : Text) :
    AliasPaths → Option (Fit × Nat) → Option (Option Fit)
  | [], best => some (best.map Prod.fst)
  | (pattern, targets) :: rest, best =>
    match pattern.splitOnce? '*' with
    | none =>
      if pattern = importAlias then some (some ⟨pattern, [], targets⟩)
      else search? importAlias rest best
    | some (lead, tail) =>
      if fits lead tail importAlias && best.all (·.2 < lead.byteSize) then do
        let captured ← captured? lead tail importAlias
        search? importAlias rest
          (some (⟨pattern, captured, targets⟩, lead.byteSize))
      else search? importAlias rest best

/-- The pattern that an alias is mapped by. -/
def bestFit? (paths : AliasPaths) (importAlias : Text) : Option Fit :=
  (search? importAlias paths none).join

def substitute (captured target : Text) : Text :=
  match target.splitOnce? '*' with
  | none => target
  | some (lead, tail) => lead ++ captured ++ tail

/-- Where an alias leads: the first target of its pattern, seen from the base
directory or else from where the patterns are set. -/
def resolve (m : Mapping) (importAlias : Text) : Option Path := do
  let fit ← bestFit? m.paths importAlias
  let target ← fit.targets.head?
  let base := m.baseUrl.getD m.pathsDir
  return (base.join ⟨substitute fit.captured target⟩).clean

end Mapping

def resolveAlias (w : Workspace) (project : Path) (importAlias : Text) :
    Except ResolveError Path :=
  if w.isDirectory project then do
    let mapping ← Mapping.load w project
    match mapping.resolve importAlias with
    | some path => return path
    | none => throw (.unmapped importAlias mapping.config)
  else .error (.noDirectory project)

end Tsconfig
end FormScaffold
