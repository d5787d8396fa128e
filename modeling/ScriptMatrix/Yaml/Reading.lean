import ScriptMatrix.Yaml.Node
import ScriptMatrix.Yaml.Scalar

/-!
# `ScriptMatrix.Yaml.Reading`: from text to value

`read` gives the value that a text describes. Nodes become values,
aliases the values of the nodes they name, scalars what their form or
their tag says. Two limits keep short texts from standing for huge
values: collections nest at most `depthLimit` deep, and aliases may be
followed only in proportion to the length of the text.
-/

set_option autoImplicit false

namespace ScriptMatrix.Yaml

/-- How deep lists and mappings may nest. -/
def depthLimit : Nat := 128

/-- How many aliases may be followed for each mark of the text. -/
def aliasAllowance : Nat := 100

/-- The tag of a kind of the core vocabulary. -/
def coreTag (kind : String) : Bytes := Text.encode ("tag:yaml.org,2002:" ++ kind)

/-- The octet of the exclamation mark, with which local tags begin. -/
def bang : UInt8 := 0x21

/-- A step in making values, which counts the aliases followed. -/
abbrev Reading := StateT Nat (Except Error)

namespace Reading

/-- Notes that an alias is followed. -/
def followAlias (limit : Nat) : Reading Unit := do
  let followed := (← get) + 1
  if limit < followed then throw .tooManyAliases
  set followed

/-- The node itself, or the one that an alias stands for. -/
def target (d : Document) (limit : Nat) : Node → Reading Node
  | .alias anchor => do
    followAlias limit
    match d.target? anchor with
    | some n => return n
    | none => throw (.unknownAnchor (toString anchor))
  | n => return n

/-- A scalar that its tag says to be of a certain kind. -/
def expect (text expected : String) : Option Value → Reading Value
  | some v => return v
  | none => throw (.badScalar text expected)

/-- The value of a scalar that has no tag, or whose tag is set aside. -/
def untagged (text : String) (plain : Bool) : Reading Value :=
  if plain then expect text "a number of 64 bits" (Scalar.plain? text)
  else return .string text

/-- The value of a scalar with a tag that marks no value. The kinds of the
core vocabulary are read strictly; a local tag that is not text, and so
names nothing, is set aside; everything else makes text. -/
def typed (tag : Bytes) (text : String) (plain : Bool) : Reading Value :=
  if tag == coreTag "bool" then
    expect text "a boolean" ((Scalar.bool? text).map .bool)
  else if tag == coreTag "int" then
    expect text "an integer" <| (Scalar.integer? text.toList).bind fun i =>
      if Scalar.integerSize i == .word then some (.number (.integer i)) else none
  else if tag == coreTag "float" then
    expect text "a number" ((Scalar.real? text).map .number)
  else if tag == coreTag "null" then
    expect text "null" (if Scalar.isNull text then some .null else none)
  else if tag.head? == some bang then untagged text plain
  else return .string text

/-- The name that a tag gives to the value behind it: what follows the
mark of a local tag, or the mark itself where nothing does. Tags of another
vocabulary give none, and neither do local ones that are not text. -/
def markOf (tag : Option Bytes) : Option String :=
  tag.bind fun
    | [] => none
    | b :: rest =>
      if b == bang then (Text.decode (if rest.isEmpty then [b] else rest)).toOption else none

/-- A value under its mark, if it has one. -/
def mark (tag : Option Bytes) (v : Value) : Value :=
  match markOf tag with
  | some name => .tagged name v
  | none => v

/-- Reads the entries of a mapping with a reader for its parts. A key is
compared with those before it as soon as it is known. -/
def entries (part : Node → Reading Value) (before : List (Value × Value)) :
    List (Node × Node) → Reading (List (Value × Value))
  | [] => return before
  | (k, v) :: rest => do
    let key ← part k
    if before.any fun e => e.1.same key then throw .duplicateKey
    let value ← part v
    entries part (before ++ [(key, value)]) rest

/-- The value of a node, given the reader for the parts of a collection,
or none where no further collection may begin. -/
def shape (d : Document) (limit : Nat) (part? : Option (Node → Reading Value)) (n : Node) :
    Reading Value := do
  match ← target d limit n with
  | .alias _ => throw .tooManyAliases
  | .scalar tag text plain =>
    match tag, markOf tag with
    | some t, none => typed t text plain
    | _, _ => mark tag <$> untagged text plain
  | .list tag items =>
    match part? with
    | none => throw .tooDeep
    | some part => return mark tag (.list (← items.mapM part))
  | .mapping tag es =>
    match part? with
    | none => throw .tooDeep
    | some part => return mark tag (.mapping (← entries part [] es))

/-- The value of a node with so many levels of collections left. -/
def value (d : Document) (limit : Nat) : Nat → Node → Reading Value
  | 0 => shape d limit none
  | depth + 1 => shape d limit (some (value d limit depth))

end Reading

/-- The value of a document. -/
def Document.value (d : Document) : Except Error Value :=
  match d.root with
  | none => .ok .null
  | some root =>
    (Reading.value d (aliasAllowance * root.size) depthLimit root).run' 0

/-- The value that a text describes. -/
def read (text : String) : Except Error Value := do
  (← Document.read text).value

end ScriptMatrix.Yaml
