import FormScaffold.Template.Emission
import FormScaffold.Yaml.Node

/-!
# Manifests

A manifest lists the files of a template.  It is a YAML document: a mapping
whose `files` are mappings with a `file` name and the two switches `variants`
and `client`.  Keys that mean nothing here are passed over; those that do may
come only once.
-/

namespace FormScaffold

/-- The files of a template, in the order in which they are emitted. -/
structure Manifest where
  files : List TemplateFile
  deriving DecidableEq, Repr

namespace Manifest

open Yaml

/-- The first file that is cut into sections. -/
def sectioned? (m : Manifest) : Option TemplateFile :=
  m.files.find? (·.hasSections)

/-- The entries of a mapping under the names of their keys, which have to be
scalars.  Where nothing stands there are no entries; quotes with nothing
between them are something. -/
def entries? (a : Anchors) (n : Node) : Option (List (Text × Node)) := do
  match ← a.follow n with
  | .mapping entries => entries.mapM fun (key, value) => do
      match ← a.follow key with
      | .scalar _ _ text => return (text, value)
      | _ => none
  | .scalar .plain _ [] => return []
  | _ => none

/-- The value of a key that may be missing and must not come twice. -/
def value? (key : Text) (entries : List (Text × Node)) : Option (Option Node) :=
  match entries.filter (fun e => e.1 = key) with
  | [] => some none
  | [e] => some (some e.2)
  | _ => none

/-- A text: any scalar, as it was written. -/
def text? (a : Anchors) (n : Node) : Option Text := do
  match ← a.follow n with
  | .scalar _ _ text => return text
  | _ => none

def boolTag : Text := "tag:yaml.org,2002:bool".toList

def trueWords : List Text := ["true".toList, "True".toList, "TRUE".toList]

def falseWords : List Text := ["false".toList, "False".toList, "FALSE".toList]

def ofWord? (s : Text) : Option Bool :=
  if trueWords.contains s then some true
  else if falseWords.contains s then some false
  else none

/-- A truth value: a plain scalar, or a literal one that is tagged as such. -/
def bool? (a : Anchors) (n : Node) : Option Bool := do
  match ← a.follow n with
  | .scalar .plain _ text => ofWord? text
  | .scalar .literal (some tag) text =>
      if tag = boolTag then ofWord? text else none
  | _ => none

/-- A switch, which is off if it is missing. -/
def switch? (a : Anchors) (key : Text) (entries : List (Text × Node)) :
    Option Bool := do
  match ← value? key entries with
  | some n => bool? a n
  | none => return false

def file? (a : Anchors) (n : Node) : Option TemplateFile := do
  let entries ← entries? a n
  let name ← (← value? "file".toList entries) >>= text? a
  let hasSections ← switch? a "variants".toList entries
  let isClient ← switch? a "client".toList entries
  return { name, hasSections, isClient }

/-- The list of files.  Where nothing stands it is empty. -/
def files? (a : Anchors) (n : Node) : Option (List TemplateFile) := do
  match ← a.follow n with
  | .sequence items => items.mapM (file? a)
  | .scalar .plain _ [] => return []
  | _ => none

/-! ## Aliases -/

/-- How many of these nodes are aliases. -/
def aliasCount (nodes : List Node) : Nat := nodes.countP Node.isAlias

/-- How many aliases are followed on the way to the entries of a mapping. -/
def entrySteps (a : Anchors) (n : Node) : Nat :=
  aliasCount [n] +
    match a.follow n with
    | some (.mapping entries) => aliasCount (entries.map (·.1))
    | _ => 0

/-- How many aliases are followed to read a file of the list.  Those behind keys
that mean nothing are passed over. -/
def fileSteps (a : Anchors) (n : Node) : Nat :=
  let keys := ["file".toList, "variants".toList, "client".toList]
  let values := ((entries? a n).getD []).filter (fun e => keys.contains e.1)
  entrySteps a n + aliasCount (values.map (·.2))

/-- How many aliases are followed to read the list of files. -/
def filesSteps (a : Anchors) (n : Node) : Nat :=
  aliasCount [n] +
    match a.follow n with
    | some (.sequence items) =>
        items.foldl (fun n item => n + fileSteps a item) 0
    | _ => 0

/-- How often aliases may be followed for each unit of the size of a
document. -/
def maxSteps : Nat := 100

/-- The manifest that a document holds.  A small document may mean a large one
by its aliases, but not without bounds. -/
def ofDocument? (d : Document) : Option Manifest := do
  let entries ← entries? d.anchors d.root
  let list ← value? "files".toList entries
  let files ← list >>= files? d.anchors
  let steps := entrySteps d.anchors d.root +
    (list.map (filesSteps d.anchors)).getD 0
  if steps ≤ maxSteps * d.root.size then return { files } else none

/-- The manifest that a text holds. -/
def parse? (s : Text) : Option Manifest := document? s >>= ofDocument?

end Manifest
end FormScaffold
