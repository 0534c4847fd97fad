import FormScaffold.Json.Value
import FormScaffold.Json.Scan

/-!
# The options of a project configuration

Of a `tsconfig.json` three things matter: the configurations it extends, the
base directory for imports, and the patterns that map import aliases to
places.  Everything else in the file is passed over.
-/

namespace FormScaffold.Tsconfig

open Json

/-- Alias patterns and the targets of each, in the order of the patterns. -/
abbrev AliasPaths := List (Text × List Text)

namespace AliasPaths

/-- Sets the targets of a pattern, in its place. -/
def insert (pattern : Text) (targets : List Text) : AliasPaths → AliasPaths
  | [] => [(pattern, targets)]
  | (p, ts) :: rest =>
    if pattern < p then (pattern, targets) :: (p, ts) :: rest
    else if pattern = p then (pattern, targets) :: rest
    else (p, ts) :: insert pattern targets rest

/-- Patterns put in order; of equal ones the last counts. -/
def ofList (entries : List (Text × List Text)) : AliasPaths :=
  entries.foldl (fun paths e => insert e.1 e.2 paths) []

end AliasPaths

/-- What one configuration file says. -/
structure Options where
  /-- The configurations it extends. -/
  parents : List Text
  /-- The base directory for imports. -/
  baseUrl : Option Text
  /-- The alias patterns. -/
  paths : Option AliasPaths
  deriving DecidableEq, Repr

namespace Options

/-- The configurations that a value names: one, several or none. -/
def parents? : Value → Option (List Text)
  | .null => some []
  | .string s => (Token.decode? s).map ([·])
  | v => v.texts?

def decodeKeys? (members : List (Text × Value)) :
    Option (List (Text × Value)) :=
  members.mapM (fun m => (Token.decode? m.1).map (·, m.2))

def aliasPaths? : Value → Option AliasPaths
  | .object members => do
    let entries ← (← decodeKeys? members).mapM
        (fun m => m.2.texts?.map (m.1, ·))
    return AliasPaths.ofList entries
  | _ => none

/-- The value of a key that may be missing and must not come twice. -/
def member? (key : Text) (members : List (Text × Value)) :
    Option (Option Value) :=
  match members.filter (fun m => m.1 = key) with
  | [] => some none
  | [m] => some (some m.2)
  | _ => none

/-- The values of two fields, written as an object with these keys or as an
array in this order; either may be missing. -/
def fields? (first second : Text) : Value → Option (Option Value × Option Value)
  | .object members => do
    let members ← decodeKeys? members
    return (← member? first members, ← member? second members)
  | .array [] => some (none, none)
  | .array [a] => some (some a, none)
  | .array [a, b] => some (some a, some b)
  | _ => none

/-- The options for imports: base directory and alias patterns. -/
def imports? (v : Value) : Option (Option Text × Option AliasPaths) := do
  let (base, paths) ← fields? "baseUrl".toList "paths".toList v
  return (← Value.optional? Value.text? (base.getD .null),
    ← Value.optional? aliasPaths? (paths.getD .null))

/-- What a configuration file says that holds this value. -/
def ofValue? (v : Value) : Option Options := do
  let (parents, compiler) ← fields? "extends".toList "compilerOptions".toList v
  let parents ← parents? (parents.getD .null)
  let (baseUrl, paths) ← imports? (compiler.getD (.object []))
  return { parents, baseUrl, paths }

def parse? (s : Text) : Option Options :=
  Relaxed.toStrict? s >>= Value.parse? >>= ofValue?

end Options
end FormScaffold.Tsconfig
