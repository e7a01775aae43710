import RequestSuite.Yaml.Token

/-!
# Nodes of YAML documents

The nodes of a document are its scalars, lists and maps.  A node may have a tag, and an alias
stands for a node with an anchor.  Anchors are counted by their names: the number of an anchor is
that of the different names before it, and an alias stands for the last node of the whole document
that got the number which its name had at the alias's place.
-/

namespace RequestSuite.Yaml

/-- A node of a document. -/
inductive Node where
  | scalar (tag : Option String) (text : String) (plain : Bool)
  | sequence (tag : Option String) (items : List Node)
  | mapping (tag : Option String) (fields : List (Node × Node))
  | alias (number : Nat)
deriving Inhabited, Repr

namespace Node

/-- A scalar without text. -/
def blank : Node := .scalar none "" true

mutual

/-- The number of marks in the text that the node consists of. -/
def size : Node → Nat
  | .scalar .. => 1
  | .alias _ => 1
  | .sequence _ items => 2 + sizeOfItems items
  | .mapping _ fields => 2 + sizeOfFields fields

/-- The sizes of several nodes together. -/
def sizeOfItems : List Node → Nat
  | [] => 0
  | v :: rest => v.size + sizeOfItems rest

/-- The sizes of several pairs of nodes together. -/
def sizeOfFields : List (Node × Node) → Nat
  | [] => 0
  | (k, v) :: rest => k.size + v.size + sizeOfFields rest

end

end Node

/-- The anchors of a document. -/
structure Anchors where
  /-- The last number of each name. -/
  numbers : List (String × Nat) := []
  /-- How many nodes had an anchor so far. -/
  count : Nat := 0
  /-- For each number, which of the nodes with an anchor was the last to get it. -/
  holders : List (Nat × Nat) := []
  /-- The nodes with an anchor, by their count. -/
  nodes : List (Nat × Node) := []
deriving Inhabited, Repr

namespace Anchors

/-- Notes that a node with this anchor begins, and tells which one it is. -/
def enter (a : Anchors) (name : String) : Nat × Anchors :=
  let number := a.numbers.length
  let numbers := (name, number) :: a.numbers.filter fun p => p.1 ≠ name
  (a.count,
   { a with numbers, count := a.count + 1, holders := (number, a.count) :: a.holders })

/-- The node for which a number stands. -/
def node? (a : Anchors) (number : Nat) : Option Node :=
  (a.holders.lookup number).bind fun place => a.nodes.lookup place

end Anchors

/-- A document: its topmost node, and the nodes that aliases stand for. -/
structure Document where
  root : Node
  anchors : Anchors
deriving Inhabited, Repr

namespace Document

/-! ## Reading nodes -/

/-- How far the tokens have been read into nodes. -/
structure Progress where
  tokens : List Token
  anchors : Anchors := {}
  /-- What the handles of tags stand for. -/
  handles : List (String × String) := []

/-- A step of reading nodes. -/
abbrev Read := StateT Progress (Except Fault)

namespace Read

/-- The next token. -/
def peek? : Read (Option Token) := do
  return (← get).tokens.head?

/-- Goes on behind the next token. -/
def skip : Read Unit :=
  modify fun s => { s with tokens := s.tokens.tail }

/-- Whether the next token is a given one, which is then skipped. -/
def takes (t : Token) : Read Bool := do
  if (← peek?) == some t then
    skip
    return true
  else
    return false

/-- Whether the next token is one of those given. -/
def isAt (ts : List Token) : Read Bool := do
  return (← peek?).any ts.contains

/-- The tag that a handle and a suffix make. -/
def tagOf (handle suffix : String) : Read String := do
  if handle.isEmpty then return suffix
  match (← get).handles.lookup handle with
  | some start => return start ++ suffix
  | none => throw .badTag

/-- The anchor and the tag in front of a node, in either order. -/
def properties : Read (Option String × Option String) := do
  match ← peek? with
  | some (.anchor name) =>
    skip
    match ← peek? with
    | some (.tag handle suffix) =>
      skip
      return (some name, some (← tagOf handle suffix))
    | _ => return (some name, none)
  | some (.tag handle suffix) =>
    skip
    match ← peek? with
    | some (.anchor name) =>
      skip
      return (some name, some (← tagOf handle suffix))
    | _ => return (none, some (← tagOf handle suffix))
  | _ => return (none, none)

/-- The number for which the name of an alias stands. -/
def aliasNumber (name : String) : Read Nat := do
  match (← get).anchors.numbers.lookup name with
  | some number => return number
  | none => throw (.unknownAnchor name)

/-- Remembers a node under its anchor. -/
def withAnchor (anchor : Option String) (node : Read Node) : Read Node := do
  match anchor with
  | none => node
  | some name =>
    let (place, anchors) := (← get).anchors.enter name
    modify fun s => { s with anchors }
    let v ← node
    modify fun s =>
      { s with anchors := { s.anchors with nodes := (place, v) :: s.anchors.nodes } }
    return v

/-- A list or a map with an anchor, if the levels of nesting are not used up. -/
def nested (depth : Nat) (anchor : Option String) (inner : Read Node) : Read Node :=
  if depth = 0 then throw .tooDeep else withAnchor anchor inner

mutual

/-- A node.  Blocks may start here only if `block` holds; if `bare` holds as well, a list may start
with the mark of its first entry.  The levels of nesting are limited. -/
def node : Nat → Nat → Bool → Bool → Read Node
  | 0, _, _, _ => throw .unexpectedEnd
  | n + 1, depth, block, bare => do
    if let some (.alias name) ← peek? then
      skip
      return .alias (← aliasNumber name)
    let (anchor, tag) ← properties
    match ← peek? with
    | some (.scalar text plain) =>
      withAnchor anchor do
        skip
        return .scalar tag text plain
    | some .flowSequenceStart => nested depth anchor do
        return .sequence tag (← flowItems n (depth - 1) true)
    | some .flowMappingStart => nested depth anchor do
        return .mapping tag (← flowFields n (depth - 1) true)
    | t =>
      if bare && t == some .blockEntry then
        nested depth anchor do return .sequence tag (← bareItems n (depth - 1))
      else if block && t == some .blockSequenceStart then
        nested depth anchor do
          skip
          return .sequence tag (← blockItems n (depth - 1))
      else if block && t == some .blockMappingStart then
        nested depth anchor do
          skip
          return .mapping tag (← blockFields n (depth - 1))
      else if anchor.isSome || tag.isSome then
        withAnchor anchor (return .scalar tag "" true)
      else throw .unexpectedToken

/-- A node of a block that is missing if one of the given tokens follows. -/
def blockNode : Nat → Nat → Bool → List Token → Read Node
  | 0, _, _, _ => throw .unexpectedEnd
  | n + 1, depth, bare, stops => do
    if ← isAt stops then return .blank else node n depth true bare

/-- The items of a block up to its end. -/
def blockItems : Nat → Nat → Read (List Node)
  | 0, _ => throw .unexpectedEnd
  | n + 1, depth => do
    if ← takes .blockEntry then
      let v ← blockNode n depth false [.blockEntry, .blockEnd]
      return v :: (← blockItems n depth)
    else if ← takes .blockEnd then return []
    else throw .unexpectedToken

/-- The items of a block that is not indented below the map around it. -/
def bareItems : Nat → Nat → Read (List Node)
  | 0, _ => throw .unexpectedEnd
  | n + 1, depth => do
    if ← takes .blockEntry then
      let v ← blockNode n depth false [.blockEntry, .key, .value, .blockEnd]
      return v :: (← bareItems n depth)
    else return []

/-- The fields of a block up to its end. -/
def blockFields : Nat → Nat → Read (List (Node × Node))
  | 0, _ => throw .unexpectedEnd
  | n + 1, depth => do
    if ← takes .blockEnd then return []
    unless (← takes .key) do throw .unexpectedToken
    let k ← blockNode n depth true [.key, .value, .blockEnd]
    let v ← if ← takes .value then blockNode n depth true [.key, .value, .blockEnd]
      else pure Node.blank
    return (k, v) :: (← blockFields n depth)

/-- The items between brackets, from the opening bracket or the mark between two items on. -/
def flowItems : Nat → Nat → Bool → Read (List Node)
  | 0, _, _ => throw .unexpectedEnd
  | n + 1, depth, first => do
    if first then skip
    if ← takes .flowSequenceEnd then return []
    unless first do
      unless (← takes .flowEntry) do throw .unexpectedToken
    if ← takes .flowSequenceEnd then return []
    let v ←
      if ← takes .key then
        nested depth none do return .mapping none [← flowPair n (depth - 1)]
      else node n depth false false
    return v :: (← flowItems n depth false)

/-- The key and the value of an item that is a map with one field.  A missing key takes the token
after it away. -/
def flowPair : Nat → Nat → Read (Node × Node)
  | 0, _ => throw .unexpectedEnd
  | n + 1, depth => do
    let k ←
      if ← isAt [.value, .flowEntry, .flowSequenceEnd] then
        skip
        pure Node.blank
      else node n depth false false
    let v ←
      if ← takes .value then
        if ← isAt [.flowEntry, .flowSequenceEnd] then pure Node.blank else node n depth false false
      else pure Node.blank
    return (k, v)

/-- The fields between braces, from the opening brace or the mark between two fields on. -/
def flowFields : Nat → Nat → Bool → Read (List (Node × Node))
  | 0, _, _ => throw .unexpectedEnd
  | n + 1, depth, first => do
    if first then skip
    if ← takes .flowMappingEnd then return []
    unless first do
      unless (← takes .flowEntry) do throw .unexpectedToken
    if ← takes .flowMappingEnd then return []
    let field ←
      if ← takes .key then do
        let k ← if ← isAt [.value, .flowEntry, .flowMappingEnd] then pure Node.blank
          else node n depth false false
        let v ← if ← takes .value then
            if ← isAt [.flowEntry, .flowMappingEnd] then pure Node.blank
            else node n depth false false
          else pure Node.blank
        pure (k, v)
      else do
        pure (← node n depth false false, Node.blank)
    return field :: (← flowFields n depth false)

end

/-! ## Reading documents -/

/-- The handles that every document knows. -/
def defaultHandles : List (String × String) :=
  [("!", "!"), ("!!", "tag:yaml.org,2002:")]

/-- The directives in front of a document.  Each handle may be declared once, and so may the
version, which has to be a known one. -/
def directives : Nat → Bool → List (String × String) → Read (List (String × String))
  | 0, _, _ => throw .unexpectedEnd
  | n + 1, versioned, handles => do
    match ← peek? with
    | some (.versionDirective major minor) =>
      if versioned ∨ major ≠ 1 ∨ (minor ≠ 1 ∧ minor ≠ 2) then throw .badDirective
      skip
      directives n true handles
    | some (.tagDirective handle start) =>
      if (handles.lookup handle).isSome then throw .badDirective
      skip
      directives n versioned (handles ++ [(handle, start)])
    | _ => return handles

/-- The levels of nesting that a document may have. -/
def nestingLimit : Nat := 128

/-- Skips the marks of the ends of documents. -/
def skipEndMarks : Nat → Read Unit
  | 0 => pure ()
  | n + 1 => do
    if ← takes .documentEnd then skipEndMarks n

/-- The topmost node of the only document, or nothing in a text without one. -/
def document (n : Nat) : Read (Option Node) := do
  let root ←
    match ← peek? with
    | none => return none
    | some t =>
      let explicit := match t with
        | .versionDirective .. | .tagDirective .. | .documentStart => true
        | _ => false
      let handles ← directives n false []
      modify fun s => { s with handles := handles ++ defaultHandles }
      if explicit then
        unless (← takes .documentStart) do throw .unexpectedToken
        match ← peek? with
        | none | some (.versionDirective ..) | some (.tagDirective ..) | some .documentStart
        | some .documentEnd => pure Node.blank
        | _ => node n nestingLimit true false
      else node n nestingLimit true false
  skipEndMarks n
  if (← peek?).isSome then throw .severalDocuments
  return some root

end Read

/-- The document that a text holds, or nothing if it holds none. -/
def ofText (text : String) : Except Fault (Option Document) := do
  let tokens ← Token.ofText text
  let (root, s) ← (Read.document (4 * tokens.length + 8)).run { tokens }
  return root.map fun root => ⟨root, s.anchors⟩

end Document

end RequestSuite.Yaml
