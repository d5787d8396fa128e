import ScriptMatrix.Yaml.Token.Lexer

/-!
# `ScriptMatrix.Yaml.Node`: the tree that tokens describe

A node is a scalar, a list, a mapping or an alias. Aliases are not yet
replaced: anchors are numbered, an alias holds the number of its anchor,
and a `Document` keeps the anchored nodes beside the tree. So a tree is
finite even where an alias stands inside the node it names.
-/

set_option autoImplicit false

namespace ScriptMatrix.Yaml

/-- A node of block data as written. -/
inductive Node where
  | alias (anchor : Nat)
  | scalar (tag : Option Bytes) (text : String) (plain : Bool)
  | list (tag : Option Bytes) (items : List Node)
  | mapping (tag : Option Bytes) (entries : List (Node × Node))
  deriving Repr

/-- A node that an anchor names. A number may come up again, and then the
node that begins last in the text counts. -/
structure Anchored where
  anchor : Nat
  /-- The rank of the node's beginning among the anchored ones. -/
  rank : Nat
  node : Node
  deriving Repr

/-- A tree with the nodes that its aliases stand for. -/
structure Document where
  /-- The tree; an empty text has none. -/
  root : Option Node
  anchored : List Anchored
  deriving Repr

/-- The node that an anchor's number stands for. -/
def Document.target? (d : Document) (anchor : Nat) : Option Node :=
  let candidates := d.anchored.filter (·.anchor == anchor)
  let last := candidates.foldl (fun best a => match best with
    | none => some a
    | some b => if b.rank < a.rank then some a else some b) (none : Option Anchored)
  last.map (·.node)

mutual

/-- How many marks it takes to write a node: one for a scalar or an
alias, two for a collection, besides its parts. -/
def Node.size : Node → Nat
  | .alias _ => 1
  | .scalar _ _ _ => 1
  | .list _ items => 2 + Node.sizeOfItems items
  | .mapping _ entries => 2 + Node.sizeOfEntries entries

/-- The sizes of list items together. -/
def Node.sizeOfItems : List Node → Nat
  | [] => 0
  | n :: ns => n.size + Node.sizeOfItems ns

/-- The sizes of mapping entries together. -/
def Node.sizeOfEntries : List (Node × Node) → Nat
  | [] => 0
  | e :: es => Node.sizeOfEntry e + Node.sizeOfEntries es

/-- The size of a key and its value. -/
def Node.sizeOfEntry : Node × Node → Nat
  | (k, v) => k.size + v.size

end

/-- What is known while a tree is put together. -/
structure NodeBuilder where
  tokens : List Token
  /-- Tag handles with what they stand for. -/
  handles : List (String × Bytes)
  /-- The current number of each anchor name. -/
  names : List (String × Nat)
  anchored : List Anchored
  /-- How many anchored nodes have begun. -/
  begun : Nat
  deriving Repr

/-- A step in putting a tree together. -/
abbrev Build := StateT NodeBuilder (Except Error)

namespace Build

/-- The kind of the next token. -/
def peek : Build TokenKind := do
  return match (← get).tokens with
    | t :: _ => t.kind
    | [] => .streamEnd

/-- Passes over the next token. -/
def advance : Build Unit := modify fun b => { b with tokens := b.tokens.drop 1 }

/-- A grammar error at the next token. -/
def fail {α : Type} (reason : String) : Build α := do
  let line := match (← get).tokens with
    | t :: _ => t.line
    | [] => 0
  throw (.malformed line reason)

/-- The node of an alias. -/
def aliasNode (name : String) : Build Node := do
  match (← get).names.lookup name with
  | some anchor => return .alias anchor
  | none => throw (.unknownAnchor name)

/-- Gives an anchor name its number: the number of names so far. -/
def nameAnchor (name : String) : Build (Nat × Nat) := do
  let b ← get
  let anchor := b.names.length
  let others := b.names.filter (·.1 != name)
  set { b with names := (name, anchor) :: others, begun := b.begun + 1 }
  return (anchor, b.begun)

/-- Notes the node of an anchor. -/
def noteAnchored (place : Option (Nat × Nat)) (n : Node) : Build Unit :=
  match place with
  | none => return ()
  | some (anchor, rank) =>
    modify fun b => { b with anchored := ⟨anchor, rank, n⟩ :: b.anchored }

/-- The full tag of a handle and a suffix. -/
def fullTag (handle : String) (suffix : Bytes) : Build Bytes := do
  if handle.isEmpty then return suffix
  match (← get).handles.lookup handle with
  | some expansion => return expansion ++ suffix
  | none => fail "found undefined tag handle"

/-- The anchor and the tag in front of a node, in either order. -/
def properties : Build (Option String × Option Bytes) := do
  let readTag : Build (Option (String × Bytes)) := do
    match ← peek with
    | .tag handle suffix => advance; return some (handle, suffix)
    | _ => return none
  let readAnchor : Build (Option String) := do
    match ← peek with
    | .anchor name => advance; return some name
    | _ => return none
  let anchorFirst ← readAnchor
  let tagParts ← readTag
  let anchor ← match anchorFirst, tagParts with
    | none, some _ => readAnchor
    | a, _ => pure a
  let tag ← tagParts.mapM fun (handle, suffix) => fullTag handle suffix
  return (anchor, tag)

/-- A node that is not written at all. -/
def emptyNode : Node := .scalar none "" true

mutual

/-- Reads a node. `block` tells whether block collections may stand here,
and `indentless` whether a list may that is not indented against the
mapping around it. -/
def node : Nat → Bool → Bool → Build Node
  | 0, _, _ => fail "nesting is too deep"
  | fuel + 1, block, indentless => do
    match ← peek with
    | .alias name =>
      advance
      aliasNode name
    | _ =>
      let (anchor, tag) ← properties
      let place ← anchor.mapM nameAnchor
      let n ← match ← peek with
        | .scalar text plain => do
          advance
          pure (Node.scalar tag text plain)
        | .flowListStart => do
          advance
          pure (Node.list tag (← flowItems fuel true))
        | .flowMappingStart => do
          advance
          pure (Node.mapping tag (← flowEntries fuel true))
        | .blockEntry =>
          if indentless then do pure (Node.list tag (← indentlessItems fuel))
          else absent anchor tag
        | .blockListStart =>
          if block then do
            advance
            pure (Node.list tag (← blockItems fuel))
          else absent anchor tag
        | .blockMappingStart =>
          if block then do
            advance
            pure (Node.mapping tag (← blockEntries fuel))
          else absent anchor tag
        | _ => absent anchor tag
      noteAnchored place n
      return n

/-- A node of which only the anchor or the tag is written. -/
def absent (anchor : Option String) (tag : Option Bytes) : Build Node :=
  if anchor.isSome || tag.isSome then return .scalar tag "" true
  else fail "did not find expected node content"

/-- Reads the items of an indented list. -/
def blockItems : Nat → Build (List Node)
  | 0 => fail "nesting is too deep"
  | fuel + 1 => do
    match ← peek with
    | .blockEntry =>
      advance
      let item ← match ← peek with
        | .blockEntry | .blockEnd => pure emptyNode
        | _ => node fuel true false
      return item :: (← blockItems fuel)
    | .blockEnd =>
      advance
      return []
    | _ => fail "did not find expected '-' indicator"

/-- Reads the items of a list that is not indented. -/
def indentlessItems : Nat → Build (List Node)
  | 0 => fail "nesting is too deep"
  | fuel + 1 => do
    match ← peek with
    | .blockEntry =>
      advance
      let item ← match ← peek with
        | .blockEntry | .key | .value | .blockEnd => pure emptyNode
        | _ => node fuel true false
      return item :: (← indentlessItems fuel)
    | _ => return []

/-- Reads the entries of a block mapping. -/
def blockEntries : Nat → Build (List (Node × Node))
  | 0 => fail "nesting is too deep"
  | fuel + 1 => do
    match ← peek with
    | .key =>
      advance
      let k ← blockPart fuel
      let v ← match ← peek with
        | .value => do
          advance
          blockPart fuel
        | _ => pure emptyNode
      return (k, v) :: (← blockEntries fuel)
    | .blockEnd =>
      advance
      return []
    | _ => fail "did not find expected key"

/-- Reads a key or a value of a block mapping. -/
def blockPart : Nat → Build Node
  | 0 => fail "nesting is too deep"
  | fuel + 1 => do
    match ← peek with
    | .key | .value | .blockEnd => pure emptyNode
    | _ => node fuel true true

/-- Reads the items of a flow list; an item may be a single entry of a
mapping. -/
def flowItems : Nat → Bool → Build (List Node)
  | 0, _ => fail "nesting is too deep"
  | fuel + 1, first => do
    match ← peek with
    | .flowListEnd =>
      advance
      return []
    | .flowEntry =>
      if first then fail "did not find expected node content"
      advance
      match ← peek with
      | .flowListEnd =>
        advance
        return []
      | _ => return (← flowItem fuel) :: (← flowItems fuel false)
    | _ =>
      if !first then fail "did not find expected ',' or ']'"
      return (← flowItem fuel) :: (← flowItems fuel false)

/-- Reads one item of a flow list. A mark in place of a key's node is
passed over with it. -/
def flowItem : Nat → Build Node
  | 0 => fail "nesting is too deep"
  | fuel + 1 => do
    match ← peek with
    | .key =>
      advance
      let k ← match ← peek with
        | .value | .flowEntry | .flowListEnd => do
          advance
          pure emptyNode
        | _ => node fuel false false
      let v ← match ← peek with
        | .value => do
          advance
          match ← peek with
          | .flowEntry | .flowListEnd => pure emptyNode
          | _ => node fuel false false
        | _ => pure emptyNode
      return .mapping none [(k, v)]
    | _ => node fuel false false

/-- Reads the entries of a flow mapping. -/
def flowEntries : Nat → Bool → Build (List (Node × Node))
  | 0, _ => fail "nesting is too deep"
  | fuel + 1, first => do
    match ← peek with
    | .flowMappingEnd =>
      advance
      return []
    | .flowEntry =>
      if first then fail "did not find expected node content"
      advance
      match ← peek with
      | .flowMappingEnd =>
        advance
        return []
      | _ => return (← flowPair fuel) :: (← flowEntries fuel false)
    | _ =>
      if !first then fail "did not find expected ',' or '\x7d'"
      return (← flowPair fuel) :: (← flowEntries fuel false)

/-- Reads one entry of a flow mapping; a node that no key mark announces
is a key without value. -/
def flowPair : Nat → Build (Node × Node)
  | 0 => fail "nesting is too deep"
  | fuel + 1 => do
    match ← peek with
    | .key =>
      advance
      let k ← flowPart fuel
      let v ← match ← peek with
        | .value => do
          advance
          flowPart fuel
        | _ => pure emptyNode
      return (k, v)
    | _ => return (← node fuel false false, emptyNode)

/-- Reads a key or a value of a flow mapping. -/
def flowPart : Nat → Build Node
  | 0 => fail "nesting is too deep"
  | fuel + 1 => do
    match ← peek with
    | .value | .flowEntry | .flowMappingEnd => pure emptyNode
    | _ => node fuel false false

end

/-- Reads the directives in front of a document. -/
def directives : Nat → Bool → Build Unit
  | 0, _ => fail "too many directives"
  | fuel + 1, versionSeen => do
    match ← peek with
    | .versionDirective major minor =>
      if versionSeen then fail "found duplicate %YAML directive"
      if major != 1 || (minor != 1 && minor != 2) then fail "found incompatible YAML document"
      advance
      directives fuel true
    | .tagDirective handle expansion =>
      if ((← get).handles.lookup handle).isSome then fail "found duplicate %TAG directive"
      modify fun b => { b with handles := b.handles ++ [(handle, expansion)] }
      advance
      directives fuel versionSeen
    | _ => return ()

/-- The handles that need no directive; a directive comes first. -/
def addDefaultHandles : Build Unit :=
  modify fun b => { b with
    handles := b.handles ++ [("!", Text.encode "!"), ("!!", Text.encode "tag:yaml.org,2002:")] }

/-- Passes over document end marks. -/
def skipDocumentEnds : Nat → Build Unit
  | 0 => return ()
  | fuel + 1 => do
    match ← peek with
    | .documentEnd =>
      advance
      skipDocumentEnds fuel
    | _ => return ()

/-- Reads the one document of a text. -/
def document (fuel : Nat) : Build (Option Node) := do
  let root ← match ← peek with
    | .streamEnd => pure none
    | .documentStart | .versionDirective .. | .tagDirective .. => do
      directives fuel false
      addDefaultHandles
      match ← peek with
      | .documentStart => advance
      | _ => fail "did not find expected <document start>"
      match ← peek with
      | .documentStart | .versionDirective .. | .tagDirective .. | .documentEnd | .streamEnd =>
        pure (some emptyNode)
      | _ => some <$> node fuel true false
    | _ => do
      addDefaultHandles
      some <$> node fuel true false
  skipDocumentEnds fuel
  match ← peek with
  | .streamEnd => return root
  | _ => throw .secondDocument

end Build

/-- The document of a text. -/
def Document.read (s : String) : Except Error Document := do
  let ts ← tokens s
  let (root, b) ← (Build.document (4 * ts.length + 8)).run ⟨ts, [], [], [], 0⟩
  return ⟨root, b.anchored⟩

end ScriptMatrix.Yaml
