import FormScaffold.FileTree.Basic
import FormScaffold.Surroundings

/-!
# Reading and writing through paths

A path is followed one stretch at a time.  Every place that is left behind has
to be a directory, so a slash after the name of a file is an error, and two
dots lead to the directory above the one that was reached.  Each failure says
which of the causes the system would have named.
-/

namespace FormScaffold

/-- Why a file or directory could not be used. -/
inductive IoError where
  | notFound
  | occupied
  | notDirectory
  | isDirectory
  | nameTooLong
  | notText
  | nulInPath
  deriving DecidableEq, Repr

namespace IoError

def message : IoError → Text
  | notFound => "No such file or directory (os error 2)".toList
  | occupied => "File exists (os error 17)".toList
  | notDirectory => "Not a directory (os error 20)".toList
  | isDirectory => "Is a directory (os error 21)".toList
  | nameTooLong => "File name too long (os error 36)".toList
  | notText => "stream did not contain valid UTF-8".toList
  | nulInPath => "file name contained an unexpected NUL byte".toList

end IoError

def maxNameBytes : Nat := 255

def maxPathBytes : Nat := 4095

/-- A file tree, the directory that relative paths start from, and the web,
which is out of reach unless it is said what is there. -/
structure Workspace where
  tree : FileTree
  current : Location
  [web : Web]

namespace Workspace

def currentPath (w : Workspace) : Path := Path.ofNames true w.current

/-- The place that is reached from `here` through stretches of a path. -/
def walk (tree : FileTree) (here : Location) :
    List Text → Except IoError Location
  | [] => .ok here
  | s :: rest =>
    match tree.find? here with
    | none => .error .notFound
    | some (.file _) => .error .notDirectory
    | some .directory =>
      match Component.ofSegment? s with
      | some .up => walk tree here.dropLast rest
      | some (.name n) =>
        if n.byteSize > maxNameBytes then .error .nameTooLong
        else if (tree.find? (here ++ [n])).isNone then .error .notFound
        else walk tree (here ++ [n]) rest
      | _ => walk tree here rest

def start (w : Workspace) (p : Path) : Location :=
  if p.isAbsolute then [] else w.current

/-- The faults of a path that is not even looked at. -/
def refused (p : Path) : Option IoError :=
  if p.text.contains '\x00' then some .nulInPath
  else if p.text = [] then some .notFound
  else if p.text.byteSize > maxPathBytes then some .nameTooLong
  else none

/-- The location of what a path names. -/
def locate (w : Workspace) (p : Path) : Except IoError Location :=
  match refused p with
  | some e => .error e
  | none => walk w.tree (w.start p) p.segments

def entryAt (w : Workspace) (p : Path) : Except IoError Entry := do
  match w.tree.find? (← w.locate p) with
  | some e => return e
  | none => throw .notFound

def isDirectory (w : Workspace) (p : Path) : Bool :=
  match w.entryAt p with
  | .ok .directory => true
  | _ => false

def isFile (w : Workspace) (p : Path) : Bool :=
  match w.entryAt p with
  | .ok (.file _) => true
  | _ => false

def exists? (w : Workspace) (p : Path) : Bool := (w.entryAt p).toBool

def readText (w : Workspace) (p : Path) : Except IoError Text := do
  match ← w.entryAt p with
  | .directory => throw .isDirectory
  | .file (.text s) => return s
  | .file (.binary _) => throw .notText

/-- Where something new would stand. -/
inductive Target where
  /-- A name in a directory, and whether slashes follow it in the path. -/
  | child (directory : Location) (name : Text) (slashes : Bool)
  /-- A directory that the path reaches without a last name. -/
  | reached (directory : Location)
  deriving DecidableEq, Repr

/-- Where something new would stand whose path is given.  The directory it is
put into has to be there. -/
def target (w : Workspace) (p : Path) : Except IoError Target :=
  match refused p with
  | some e => .error e
  | none => do
    let written := p.segments.reverse.dropWhile (fun s => s == [])
    match written with
    | [] => return .reached (w.start p)
    | last :: before =>
      let directory ← walk w.tree (w.start p) before.reverse
      match w.tree.find? directory with
      | some .directory =>
        match Component.ofSegment? last with
        | some (.name n) =>
            return .child directory n (p.segments.getLast? == some [])
        | some .up => return .reached directory.dropLast
        | _ => return .reached directory
      | some (.file _) => throw .notDirectory
      | none => throw .notFound

def put (w : Workspace) (l : Location) (e : Entry) : Workspace :=
  { w with tree := w.tree.set l e }

/-- Makes one directory, which must not be there yet. -/
def makeDirectory (w : Workspace) (p : Path) : Except IoError Workspace := do
  match ← w.target p with
  | .reached _ => throw .occupied
  | .child directory name _ =>
    if name.byteSize > maxNameBytes then throw .nameTooLong
    match w.tree.find? (directory ++ [name]) with
    | some _ => throw .occupied
    | none => return w.put (directory ++ [name]) .directory

/-- Makes a directory that may be there already. -/
def ensureDirectory (w : Workspace) (p : Path) : Except IoError Workspace :=
  match w.makeDirectory p with
  | .ok w' => .ok w'
  | .error e => if w.isDirectory p then .ok w else .error e

/-- Makes a directory and those above it, as far as they are missing.  The
directories made on the way stay if a later one cannot be made, so the
workspace is returned in either case. -/
def makeDirectories (w : Workspace) (p : Path) :
    Workspace × Except IoError Unit :=
  if p.text = [] then (w, .ok ())
  else
    match w.makeDirectory p with
    | .ok w' => (w', .ok ())
    | .error .notFound =>
      match p.parent? with
      | some above =>
        if above.text.length < p.text.length then
          match makeDirectories w above with
          | (w', .ok ()) =>
            match w'.ensureDirectory p with
            | .ok w'' => (w'', .ok ())
            | .error e => (w', .error e)
          | (w', .error e) => (w', .error e)
        else (w, .error .notFound)
      | none => (w, .error .notFound)
    | .error e => (w, if w.isDirectory p then .ok () else .error e)
termination_by p.text.length

/-- Writes a text to a file, which is made if it is not there. -/
def writeText (w : Workspace) (p : Path) (s : Text) :
    Except IoError Workspace := do
  match ← w.target p with
  | .reached _ => throw .isDirectory
  | .child directory name slashes =>
    if slashes then throw .isDirectory
    if name.byteSize > maxNameBytes then throw .nameTooLong
    match w.tree.find? (directory ++ [name]) with
    | some .directory => throw .isDirectory
    | _ => return w.put (directory ++ [name]) (.file (.text s))

end Workspace
end FormScaffold
