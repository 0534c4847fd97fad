import FormScaffold.Footprint
import FormScaffold.Program

/-!
# The command

The command reads what the run will look at into a workspace, runs, and makes
the directories and files that the run has added or changed.
-/

namespace FormScaffold.Command

/-- What stands at a location of the machine. -/
def entryOf? (location : Location) : IO (Option Entry) := do
  let path := (← IO.currentDir) / String.ofList
    (Path.ofNames true location).text
  try
    if ← path.isDir then return some .directory
    else if ← path.pathExists then
      let bytes ← IO.FS.readBinFile path
      return some <| .file <|
        match String.fromUTF8? bytes with
        | some s => .text s.toList
        | none => .binary bytes.toList
    else return none
  catch _ => return none

/-- Fills a workspace with what stands along a path. -/
def observe (w : Workspace) (p : Path) : IO Workspace := do
  let mut tree := w.tree
  let mut here := w.start p
  for segment in p.segments do
    match Component.ofSegment? segment with
    | some (.name n) =>
      here := here ++ [n]
      if (tree.find? here).isNone then
        if let some e ← entryOf? here then tree := tree.set here e
    | some .up => here := here.dropLast
    | _ => pure ()
  return { w with tree }

/-- Fills a workspace with what an installation looks at. -/
def observeAll (i : Installation) (w : Workspace) : IO Workspace := do
  let mut w := w
  for _ in [0:Installation.rounds] do
    for p in i.footprint w do
      w ← observe w p
  return w

/-- Makes a directory or file of the machine. -/
def make (location : Location) (e : Entry) : IO Unit :=
  let path := String.ofList (Path.ofNames true location).text
  match e with
  | .directory => IO.FS.createDirAll path
  | .file (.text s) => IO.FS.writeFile path (String.ofList s)
  | .file (.binary bytes) => IO.FS.writeBinFile path ⟨bytes.toArray⟩

/-- Makes what one tree holds and another does not. -/
def makeChanges (before after : FileTree) : IO Unit := do
  for (location, e) in after.entries do
    if before.find? location ≠ some e then make location e

/-- The directory that the command was started in, and nothing else. -/
def startingWorkspace : IO Workspace := do
  let here : Path := ⟨(← IO.currentDir).toString.toList⟩
  let w : Workspace := ⟨FileTree.empty, []⟩
  let w ← observe w here
  return { w with current := here.segments.filter (· != []) }

end FormScaffold.Command

open FormScaffold in
/-- Runs the command for the form builder. -/
def main (args : List String) : IO UInt32 := do
  let product := Product.formBuilder
  let args := args.map String.toList
  let url? := (← IO.getEnv (String.ofList product.templateUrlVariable)).map
    String.toList
  let colored := (← IO.getEnv "NO_COLOR").isNone && (← (← IO.getStdout).isTty)
  let w ← Command.startingWorkspace
  let w ← match CommandLine.parse args with
    | .ok i =>
      Command.observeAll ((i.request?.getD Request.empty).installation product
        url? w) w
    | .error _ => pure w
  let (after, outcome) := Program.run product url? colored args w
  Command.makeChanges w.tree after.tree
  IO.print (String.ofList outcome.output)
  if let some message := outcome.error? then
    IO.eprintln ("Error: " ++ String.ofList message)
  return outcome.code.toUInt32
