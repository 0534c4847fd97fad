import FormScaffold.Yaml.Lexer

/-!
# YAML nodes

A document is a tree of scalars, sequences and mappings, in which an alias
stands for the node that carries its anchor.  Anchors are numbered: one gets
as its number how many different names were in use when it came, and of two
anchors with one number the later one counts.  A node may be meant by an alias
inside itself, so aliases are looked up only where they are read.
-/

namespace FormScaffold.Yaml

/-- A node.  Only a scalar keeps its tag. -/
inductive Node where
  | scalar (style : ScalarStyle) (tag? : Option Text) (text : Text)
  | sequence (items : List Node)
  | mapping (entries : List (Node × Node))
  | alias (number : Nat)

namespace Node

/-- The scalar that stands where nothing is written. -/
def absent : Node := .scalar .plain none []

def isAlias : Node → Bool
  | .alias _ => true
  | _ => false

mutual

/-- The size of a node: one for a scalar or an alias, and two for the two ends
of a sequence or a mapping besides what is in it. -/
def size : Node → Nat
  | .scalar _ _ _ => 1
  | .sequence items => sizeOfItems items + 2
  | .mapping entries => sizeOfEntries entries + 2
  | .alias _ => 1

def sizeOfItems : List Node → Nat
  | [] => 0
  | n :: items => n.size + sizeOfItems items

def sizeOfEntries : List (Node × Node) → Nat
  | [] => 0
  | (key, value) :: entries => key.size + value.size + sizeOfEntries entries

end

end Node

/-- The anchors of a document. -/
structure Anchors where
  /-- The number that each name has now. -/
  numbers : List (Text × Nat)
  /-- Which anchored node, by order of beginning, each number means. -/
  places : List (Nat × Nat)
  /-- How many anchored nodes have begun. -/
  begun : Nat
  /-- The anchored nodes that are complete, by order of beginning. -/
  nodes : List (Nat × Node)

namespace Anchors

def empty : Anchors := ⟨[], [], 0, []⟩

def begin (name : Text) (a : Anchors) : Anchors :=
  let number := a.numbers.length
  { a with
    numbers := (name, number) :: a.numbers.filter (fun e => e.1 ≠ name)
    places := (number, a.begun) :: a.places
    begun := a.begun + 1 }

/-- Records the anchored node that began as the `place`-th. -/
def complete (place : Nat) (n : Node) (a : Anchors) : Anchors :=
  { a with nodes := (place, n) :: a.nodes }

/-- The node that a number means. -/
def node? (a : Anchors) (number : Nat) : Option Node := do
  a.nodes.lookup (← a.places.lookup number)

/-- The node itself, or the one that an alias stands for. -/
def follow (a : Anchors) : Node → Option Node
  | .alias number => a.node? number
  | n => some n

end Anchors

structure Document where
  root : Node
  anchors : Anchors

/-- What is left to read, and the anchors so far. -/
structure Reader where
  tokens : List Token
  anchors : Anchors

/-- Reads something off the tokens, or fails. -/
abbrev Read := StateT Reader Option

namespace Read

def peek : Read (Option Token) := do return (← get).tokens.head?

def skip : Read Unit := modify fun r => { r with tokens := r.tokens.tail }

/-- Passes a token that has to be there. -/
def expect (t : Token) : Read Unit := do
  if (← peek) = some t then skip else failure

/-- Passes a token if it is there, and tells whether it was. -/
def accept (t : Token) : Read Bool := do
  if (← peek) = some t then
    skip
    return true
  else return false

/-- The handles that tags may begin with, and what each stands for. -/
abbrev Handles := List (Text × Text)

def defaultHandles : Handles :=
  [(['!'], ['!']), ("!!".toList, "tag:yaml.org,2002:".toList)]

/-- The tag that a handle and a suffix write.  A handle that nobody declared is
an error. -/
def resolveTag (handles : Handles) (handle suffix : Text) : Read Text :=
  if handle = [] then return suffix
  else
    match handles.lookup handle with
    | some lead => return lead ++ suffix
    | none => failure

/-- The anchor and the tag before a node, in either order. -/
def properties (handles : Handles) : Read (Option Text × Option Text) := do
  match ← peek with
  | some (.anchor name) =>
    skip
    match ← peek with
    | some (.tag handle suffix) =>
      skip
      return (some name, some (← resolveTag handles handle suffix))
    | _ => return (some name, none)
  | some (.tag handle suffix) =>
    skip
    let name? ← do
      match ← peek with
      | some (.anchor name) =>
        skip
        pure (some name)
      | _ => pure none
    return (name?, some (← resolveTag handles handle suffix))
  | _ => return (none, none)

/-- Reads a node that may carry an anchor. -/
def anchored (name? : Option Text) (node : Read Node) : Read Node := do
  match name? with
  | none => node
  | some name =>
    let place := (← get).anchors.begun
    modify fun r => { r with anchors := r.anchors.begin name }
    let n ← node
    modify fun r => { r with anchors := r.anchors.complete place n }
    return n

/-- Where a node stands, which says what may follow and what may be left out. -/
inductive Context where
  /-- The node of a document. -/
  | root
  /-- An item of a block sequence. -/
  | blockItem
  /-- An item of a sequence at the indentation of the mapping around it. -/
  | hangingItem
  /-- A key or a value of a block mapping. -/
  | blockEntry
  /-- An item of a sequence in brackets. -/
  | flowItem
  /-- A key of a mapping in brackets. -/
  | flowKey
  /-- A value of a mapping in brackets. -/
  | flowValue
  /-- The key of a single pair among the items of a sequence in brackets. -/
  | pairKey
  /-- The value of such a pair. -/
  | pairValue
  deriving DecidableEq, Repr

namespace Context

/-- Whether block collections may stand here. -/
def allowsBlock : Context → Bool
  | root | blockItem | hangingItem | blockEntry => true
  | _ => false

/-- Whether a sequence may stand here at the indentation of what is around
it. -/
def allowsHanging : Context → Bool
  | blockEntry => true
  | _ => false

/-- Whether nothing stands here when this token is next. -/
def isVacant (context : Context) : Option Token → Bool
  | some t =>
    match context, t with
    | root, .versionDirective _ _ => true
    | root, .tagDirective _ _ => true
    | root, .documentStart => true
    | root, .documentEnd => true
    | blockItem, .blockEntry => true
    | blockItem, .blockEnd => true
    | hangingItem, .blockEntry => true
    | hangingItem, .key => true
    | hangingItem, .value => true
    | hangingItem, .blockEnd => true
    | blockEntry, .key => true
    | blockEntry, .value => true
    | blockEntry, .blockEnd => true
    | flowKey, .value => true
    | flowKey, .flowEntry => true
    | flowKey, .flowMappingEnd => true
    | flowValue, .flowEntry => true
    | flowValue, .flowMappingEnd => true
    | pairKey, .value => true
    | pairKey, .flowEntry => true
    | pairKey, .flowSequenceEnd => true
    | pairValue, .flowEntry => true
    | pairValue, .flowSequenceEnd => true
    | _, _ => false
  | none => context == root

end Context

mutual

/-- Reads a node, or none where nothing stands. -/
def optionalNode (handles : Handles) : Nat → Context → Read Node
  | 0, _ => failure
  | fuel + 1, context => do
    if context.isVacant (← peek) then return Node.absent
    else node handles fuel context

def node (handles : Handles) : Nat → Context → Read Node
  | 0, _ => failure
  | fuel + 1, context => do
    match ← peek with
    | some (.alias name) =>
      skip
      match (← get).anchors.numbers.lookup name with
      | some number => return .alias number
      | none => failure
    | _ =>
      let (name?, tag?) ← properties handles
      anchored name? (content handles fuel context tag? (name?.isSome ||
        tag?.isSome))

/-- Reads a node behind its anchor and tag.  Behind these it may be left out. -/
def content (handles : Handles) : Nat → Context → Option Text → Bool → Read Node
  | 0, _, _, _ => failure
  | fuel + 1, context, tag?, mayBeAbsent => do
    match ← peek with
    | some (.scalar style text) =>
      skip
      return .scalar style tag? text
    | some .flowSequenceStart =>
      skip
      return .sequence (← flowItems handles fuel true)
    | some .flowMappingStart =>
      skip
      return .mapping (← flowEntries handles fuel true)
    | next =>
      if next = some .blockEntry ∧ context.allowsHanging then
        return .sequence (← hangingItems handles fuel)
      else if next = some .blockSequenceStart ∧ context.allowsBlock then
        skip
        return .sequence (← blockItems handles fuel)
      else if next = some .blockMappingStart ∧ context.allowsBlock then
        skip
        return .mapping (← blockEntries handles fuel)
      else if mayBeAbsent then return .scalar .plain tag? []
      else failure

def blockItems (handles : Handles) : Nat → Read (List Node)
  | 0 => failure
  | fuel + 1 => do
    if ← accept .blockEnd then return []
    else
      expect .blockEntry
      let item ← optionalNode handles fuel .blockItem
      return item :: (← blockItems handles fuel)

/-- Reads the items of a sequence that ends with the mapping around it. -/
def hangingItems (handles : Handles) : Nat → Read (List Node)
  | 0 => failure
  | fuel + 1 => do
    if ← accept .blockEntry then
      let item ← optionalNode handles fuel .hangingItem
      return item :: (← hangingItems handles fuel)
    else return []

def blockEntries (handles : Handles) : Nat → Read (List (Node × Node))
  | 0 => failure
  | fuel + 1 => do
    if ← accept .blockEnd then return []
    else
      expect .key
      let key ← optionalNode handles fuel .blockEntry
      let value ← do
        if ← accept .value then optionalNode handles fuel .blockEntry
        else pure Node.absent
      return (key, value) :: (← blockEntries handles fuel)

/-- Reads the items of a sequence in brackets, and its end.  Commas stand
between items, and one may stand behind the last. -/
def flowItems (handles : Handles) : Nat → Bool → Read (List Node)
  | 0, _ => failure
  | fuel + 1, first => do
    if ← accept .flowSequenceEnd then return []
    else
      if !first then expect .flowEntry
      if ← accept .flowSequenceEnd then return []
      else
        let item ← do
          if ← accept .key then pair handles fuel
          else node handles fuel .flowItem
        return item :: (← flowItems handles fuel false)

/-- Reads a single pair among the items of a sequence in brackets.  Where its
key is left out, what stands in its place is passed. -/
def pair (handles : Handles) : Nat → Read Node
  | 0 => failure
  | fuel + 1 => do
    let key ← do
      if Context.pairKey.isVacant (← peek) then
        skip
        pure Node.absent
      else node handles fuel .pairKey
    let value ← do
      if ← accept .value then optionalNode handles fuel .pairValue
      else pure Node.absent
    return .mapping [(key, value)]

def flowEntries (handles : Handles) : Nat → Bool → Read (List (Node × Node))
  | 0, _ => failure
  | fuel + 1, first => do
    if ← accept .flowMappingEnd then return []
    else
      if !first then expect .flowEntry
      if ← accept .flowMappingEnd then return []
      else
        let entry ← do
          if ← accept .key then
            let key ← optionalNode handles fuel .flowKey
            let value ← do
              if ← accept .value then optionalNode handles fuel .flowValue
              else pure Node.absent
            pure (key, value)
          else
            let key ← node handles fuel .flowKey
            pure (key, Node.absent)
        return entry :: (← flowEntries handles fuel false)

end

/-- Whether documents of this version are understood. -/
def isKnownVersion (major minor : Nat) : Bool :=
  major == 1 && (minor == 1 || minor == 2)

/-- Reads the directives before a document: the handles they declare, each only
once, and whether there were any.  The version may be stated once. -/
def directives : Nat → Bool → Handles → Read (Handles × Bool)
  | 0, _, _ => failure
  | fuel + 1, versioned, handles => do
    match ← peek with
    | some (.versionDirective major minor) =>
      if versioned || !isKnownVersion major minor then failure
      else
        skip
        let (handles, _) ← directives fuel true handles
        return (handles, true)
    | some (.tagDirective handle lead) =>
      if (handles.lookup handle).isSome then failure
      else
        skip
        let (handles, _) ← directives fuel versioned
            (handles ++ [(handle, lead)])
        return (handles, true)
    | _ => return (handles, false)

/-- Reads a document.  One that begins with directives has to say where it
begins. -/
def document (fuel : Nat) : Read Node := do
  let (declared, any) ← directives fuel false []
  let handles := declared ++ defaultHandles
  if ← accept .documentStart then optionalNode handles fuel .root
  else if any then failure
  else node handles fuel .root

/-- Passes what says that a document ends. -/
def endings : Nat → Read Unit
  | 0 => return
  | fuel + 1 => do
    if ← accept .documentEnd then endings fuel

end Read

/-- The document that a text holds, if it holds exactly one. -/
def document? (s : Text) : Option Document := do
  let tokens ← tokens? s
  if tokens = [] then none
  else
    let fuel := 4 * tokens.length + 4
    let (root, rest) ← (do
      let root ← Read.document fuel
      Read.endings fuel
      return root : Read Node).run ⟨tokens, Anchors.empty⟩
    if rest.tokens = [] then return ⟨root, rest.anchors⟩ else none

end FormScaffold.Yaml
