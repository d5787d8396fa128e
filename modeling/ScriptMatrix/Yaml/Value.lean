import ScriptMatrix.Yaml.Number

/-!
# `ScriptMatrix.Yaml.Value`: values of the data language

The data of a block is a tree: null, booleans, numbers and strings are
scalars and have a text; lists, mappings and tagged values have none.
A mapping keeps its entries in the order they were written.
-/

set_option autoImplicit false

namespace ScriptMatrix.Yaml

/-- A value of block data. -/
inductive Value where
  | null
  | bool (b : Bool)
  | number (n : Number)
  | string (s : String)
  | list (items : List Value)
  | mapping (entries : List (Value × Value))
  | tagged (tag : String) (value : Value)
  deriving Repr

/-- What sort of value something is. -/
inductive Kind where
  | null
  | boolean
  | number
  | string
  | list
  | mapping
  | tagged
  deriving Repr, DecidableEq

/-- A kind as messages name it. -/
def Kind.phrase : Kind → String
  | .null => "null"
  | .boolean => "a boolean"
  | .number => "a number"
  | .string => "a string"
  | .list => "a list"
  | .mapping => "a mapping"
  | .tagged => "a tagged value"

namespace Value

/-- A tag as far as mapping keys are told apart by it: one mark in front
of further text does not count. -/
def tagIdentity (tag : String) : String :=
  match tag.toList with
  | '!' :: c :: rest => String.ofList (c :: rest)
  | _ => tag

/-- The kind of a value. -/
def kind : Value → Kind
  | .null => .null
  | .bool _ => .boolean
  | .number _ => .number
  | .string _ => .string
  | .list _ => .list
  | .mapping _ => .mapping
  | .tagged _ _ => .tagged

/-- The text of a scalar as it appears in a script; null is empty text,
and lists, mappings and tagged values have none. -/
def scalarText? : Value → Option String
  | .null => some ""
  | .bool b => some (if b then "true" else "false")
  | .number n => some n.text
  | .string s => some s
  | .list _ | .mapping _ | .tagged _ _ => none

mutual

/-- Whether two values are one mapping key: equal in kind and content,
mappings whatever the order of their entries. -/
def same : Value → Value → Bool
  | .null, .null => true
  | .bool a, .bool b => a == b
  | .number m, .number n => m.same n
  | .string s, .string t => s == t
  | .list as, .list bs => sameItems as bs
  | .mapping as, .mapping bs => as.length == bs.length && entriesIn as bs
  | .tagged s a, .tagged t b => tagIdentity s == tagIdentity t && same a b
  | _, _ => false

/-- `same` item by item. -/
def sameItems : List Value → List Value → Bool
  | [], [] => true
  | a :: as, b :: bs => same a b && sameItems as bs
  | _, _ => false

/-- Whether every entry has an equal one among `bs`. -/
def entriesIn : List (Value × Value) → List (Value × Value) → Bool
  | [], _ => true
  | e :: as, bs => bs.any (sameEntry e) && entriesIn as bs

/-- Whether two entries agree in key and value. -/
def sameEntry : Value × Value → Value × Value → Bool
  | (k, v), e => same k e.1 && same v e.2

end

end Value

end ScriptMatrix.Yaml
