import FormScaffold.Path.Basic

/-!
# File trees

A file tree says what stands at each location.  A location is the list of
names that lead to it from the root, and the root is always a directory.  The
tree holds no links.
-/

namespace FormScaffold

/-- The names that lead from the root to a place. -/
abbrev Location := List Text

/-- What a file holds: text, or bytes that are no UTF-8 text. -/
inductive Content where
  | text (s : Text)
  | binary (bytes : List UInt8)
  deriving DecidableEq, Repr

inductive Entry where
  | directory
  | file (content : Content)
  deriving DecidableEq, Repr

/-- The entries below the root, each location at most once. -/
structure FileTree where
  entries : List (Location × Entry)
  deriving Repr

namespace FileTree

def empty : FileTree := ⟨[]⟩

def find? (tree : FileTree) : Location → Option Entry
  | [] => some .directory
  | location => tree.entries.lookup location

def setEntry (location : Location) (entry : Entry) :
    List (Location × Entry) → List (Location × Entry)
  | [] => [(location, entry)]
  | (l, e) :: rest =>
    if l = location then (location, entry) :: rest
    else (l, e) :: setEntry location entry rest

/-- The tree with an entry set.  The root cannot be set. -/
def set (tree : FileTree) (location : Location) (entry : Entry) : FileTree :=
  if location = [] then tree else ⟨setEntry location entry tree.entries⟩

def erase (tree : FileTree) (location : Location) : FileTree :=
  ⟨tree.entries.filter (fun e => !location.isPrefixOf e.1)⟩

/-- The entries below a location, named from there. -/
def below (tree : FileTree) (location : Location) : List (Location × Entry) :=
  tree.entries.filterMap fun (l, e) =>
    match location.isPrefixOf? l with
    | some (name :: rest) => some (name :: rest, e)
    | _ => none

theorem lookup_setEntry (location other : Location) (entry : Entry)
    (entries : List (Location × Entry)) :
    (setEntry location entry entries).lookup other =
      if other = location then some entry else entries.lookup other := by
  induction entries with
  | nil =>
    by_cases h : other = location
    · simp [setEntry, h]
    · have hne : (other == location) = false := by simpa using h
      simp [setEntry, List.lookup_cons, h, hne]
  | cons first rest ih =>
    obtain ⟨l, e⟩ := first
    by_cases hl : l = location
    · subst hl
      by_cases h : other = l
      · simp [setEntry, h]
      · have hne : (other == l) = false := by simpa using h
        simp [setEntry, List.lookup_cons, h, hne]
    · by_cases h : other = l
      · subst h
        simp [setEntry, hl]
      · have hne : (other == l) = false := by simpa using h
        simp [setEntry, List.lookup_cons, hl, hne, ih]

/-- Setting an entry changes what stands at its location and nothing else. -/
theorem find?_set (tree : FileTree) (location other : Location) (entry : Entry)
    (h : location ≠ []) :
    (tree.set location entry).find? other =
      if other = location then some entry else tree.find? other := by
  cases other with
  | nil =>
    have : ([] : Location) ≠ location := fun e => h e.symm
    simp [find?, this]
  | cons name rest => simp [set, h, find?, lookup_setEntry]

theorem setEntry_of_lookup {location : Location} {entry : Entry}
    {entries : List (Location × Entry)}
    (h : entries.lookup location = some entry) :
    setEntry location entry entries = entries := by
  induction entries with
  | nil => cases h
  | cons first rest ih =>
    obtain ⟨l, e⟩ := first
    by_cases hl : l = location
    · subst hl
      rw [List.lookup_cons_self] at h
      rw [setEntry, if_pos rfl, Option.some.inj h]
    · have hne : (location == l) = false := by simpa using Ne.symm hl
      rw [List.lookup_cons, hne] at h
      rw [setEntry, if_neg hl, ih h]

/-- What stands at a location already is set there without a change. -/
theorem set_of_find? {tree : FileTree} {location : Location} {entry : Entry}
    (hne : location ≠ []) (h : tree.find? location = some entry) :
    tree.set location entry = tree := by
  cases location with
  | nil => exact absurd rfl hne
  | cons name rest =>
    rw [set, if_neg hne, setEntry_of_lookup h]

end FileTree
end FormScaffold
