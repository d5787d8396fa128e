import ScriptMatrix.Toml.Number

/-!
# `ScriptMatrix.Toml.Document`: settings data

Settings are tables of keys. A header opens a table, or another one in an
array of tables; assignments fill it, and dotted keys reach into tables
inside. A table is opened by one header only, and dotted keys do not
reach into tables that were opened by a header.
-/

set_option autoImplicit false

namespace ScriptMatrix.Toml

/-- How a table came to be. -/
inductive Origin where
  /-- By a header of its own, or in braces. -/
  | header
  /-- By the header of a table inside it. -/
  | implied
  /-- By a dotted key. -/
  | dotted
  deriving Repr, DecidableEq

/-- What a key has. -/
inductive Item where
  | value (v : Value)
  | table (origin : Origin) (members : List (String × Item))
  /-- Tables that are opened one by one, the last one first. -/
  | tables (open_ : List (String × Item)) (before : List (List (String × Item)))
  deriving Repr

/-- The members of a table. -/
abbrev Members := List (String × Item)

/-- A table under construction. -/
structure Table where
  origin : Origin
  members : Members

/-- The members with a key's item, in its old place or at the end. -/
def setMember (key : String) (item : Item) : Members → Members
  | [] => [(key, item)]
  | m :: ms => if m.1 == key then (key, item) :: ms else m :: setMember key item ms

/-- Changes the table that a path leads to. Tables on the way that are not
there are made; the way ends at values. -/
def change (dotted : Bool) (f : Table → Except Error Table) :
    List String → Table → Except Error Table
  | [], t => f t
  | key :: path, t =>
    match t.members.lookup key with
    | none => do
      let inner ← change dotted f path ⟨if dotted then .dotted else .implied, []⟩
      return { t with members := setMember key (.table inner.origin inner.members) t.members }
    | some (.value _) => .error (.duplicateKey key)
    | some (.table origin members) =>
      if dotted && origin == .header then .error (.duplicateKey key)
      else do
        let inner ← change dotted f path ⟨origin, members⟩
        return { t with members := setMember key (.table inner.origin inner.members) t.members }
    | some (.tables last before) => do
      let inner ← change dotted f path ⟨.header, last⟩
      return { t with members := setMember key (.tables inner.members before) t.members }

/-- Opens the table of a header. -/
def openTable (key : String) (t : Table) : Except Error Table :=
  match t.members.lookup key with
  | none => .ok { t with members := setMember key (.table .header []) t.members }
  | some (.table .implied members) =>
    .ok { t with members := setMember key (.table .header members) t.members }
  | some _ => .error (.duplicateKey key)

/-- Opens another table of an array. -/
def openElement (key : String) (t : Table) : Except Error Table :=
  match t.members.lookup key with
  | none => .ok { t with members := setMember key (.tables [] []) t.members }
  | some (.tables last before) =>
    .ok { t with members := setMember key (.tables [] (last :: before)) t.members }
  | some _ => .error (.duplicateKey key)

/-- Gives a key its value. A dotted key ends in a table that dotted keys
made, any other in one that they did not. -/
def assign (isDotted : Bool) (key : String) (v : Value) (t : Table) : Except Error Table :=
  if (t.origin == .dotted) != isDotted then .error (.duplicateKey key)
  else match t.members.lookup key with
    | some _ => .error (.duplicateKey key)
    | none => .ok { t with members := setMember key (.value v) t.members }

mutual

/-- An item as a value. -/
def Item.toValue : Item → Value
  | .value v => v
  | .table _ members => .table (Item.toValues members)
  | .tables last before => .array (Item.toTables before [.table (Item.toValues last)])

/-- The tables of an array in order, in front of the given ones. -/
def Item.toTables : List (List (String × Item)) → List Value → List Value
  | [], after => after
  | t :: ts, after => Item.toTables ts (.table (Item.toValues t) :: after)

/-- Members as values. -/
def Item.toValues : List (String × Item) → List (String × Value)
  | [] => []
  | m :: ms => Item.toMember m :: Item.toValues ms

/-- A member as a value. -/
def Item.toMember : String × Item → String × Value
  | (key, item) => (key, item.toValue)

end

namespace Parse

/-- Reads a value that has no parts. -/
def simpleValue : Parse Value := do
  match ← peek with
  | some '"' | some '\'' => return .string (← string)
  | some 't' =>
    expect "true"
    return .bool true
  | some 'f' =>
    expect "false"
    return .bool false
  | _ =>
    match number? (← get) with
    | some (v, rest) =>
      set rest
      return v
    | none => fail "expected a value"

mutual

/-- Reads a value, in which arrays and tables in braces may nest so deep. -/
def value : Nat → Parse Value
  | 0 => do
    match ← peek with
    | some '[' | some '\x7b' => fail "nesting is too deep"
    | _ => simpleValue
  | depth + 1 => do
    match ← peek with
    | some '[' =>
      drop 1
      return .array (← arrayItems depth (← get).length)
    | some '\x7b' =>
      drop 1
      blanks
      if ← bumpIf "\x7d" then return .table []
      return .table (Item.toValues (← inlineMembers depth (← get).length ⟨.header, []⟩).members)
    | _ => simpleValue
termination_by depth => (depth, 0)

/-- Reads the items of an array and its closing bracket. -/
def arrayItems (depth : Nat) : Nat → Parse (List Value)
  | 0 => fail "unterminated array"
  | fuel + 1 => do
    gap ((← get).length + 1)
    if ← bumpIf "]" then return []
    let v ← value depth
    gap ((← get).length + 1)
    if ← bumpIf "," then return v :: (← arrayItems depth fuel)
    expect "]"
    return [v]
termination_by fuel => (depth, fuel + 1)

/-- Reads the members of a table in braces and its closing brace. -/
def inlineMembers (depth : Nat) : Nat → Table → Parse Table
  | 0, _ => fail "unterminated table"
  | fuel + 1, t => do
    let (path, last) ← key
    expect "="
    blanks
    let v ← value depth
    blanks
    let t ← change true (assign (!path.isEmpty) last v) path t
    if ← bumpIf "," then inlineMembers depth fuel t
    else
      expect "\x7d"
      return t
termination_by fuel => (depth, fuel + 1)

end

/-- What has been read of a text: the tables, and where assignments go. -/
structure Progress where
  root : Table
  current : List String

/-- Reads the key of a header. -/
def headerKey (closing : String) : Parse (List String × String) := do
  let k ← key
  expect closing
  lineEnd
  return k

/-- Reads a line. -/
def line (p : Progress) : Parse Progress := do
  blanks
  match ← peek with
  | none => return p
  | some '#' | some '\n' | some '\r' =>
    lineEnd
    return p
  | some '[' =>
    if ← bumpIf "[[" then
      let (path, last) ← headerKey "]]"
      return ⟨← change false (openElement last) path p.root, path ++ [last]⟩
    else
      drop 1
      let (path, last) ← headerKey "]"
      return ⟨← change false (openTable last) path p.root, path ++ [last]⟩
  | some _ =>
    let (path, last) ← key
    expect "="
    blanks
    let v ← value nestingLimit
    lineEnd
    let fill := change true (assign (!path.isEmpty) last v) path
    return { p with root := ← change false fill p.current p.root }

/-- Reads lines to the end of the text. -/
def lines : Nat → Progress → Parse Progress
  | 0, p => return p
  | fuel + 1, p => do
    if (← get).isEmpty then return p
    lines fuel (← line p)

end Parse

/-- The table that a text describes. A byte order mark in front says
nothing. -/
def read (text : String) : Except Error (List (String × Value)) := do
  let cs := match text.toList with
    | '\ufeff' :: rest => rest
    | cs => cs
  let (p, _) ← (Parse.lines (cs.length + 1) ⟨⟨.header, []⟩, []⟩).run cs
  return Item.toValues p.root.members

end ScriptMatrix.Toml
