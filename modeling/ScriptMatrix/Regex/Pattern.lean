/-!
# `ScriptMatrix.Regex.Pattern`: regular expressions as written

A `Pattern` is the tree of an expression before its flags are applied:
flags may be switched anywhere, and what a part means depends on those
switched before it. `Pattern.depth` measures how deeply parts nest.
-/

set_option autoImplicit false

namespace ScriptMatrix.Regex

/-- The flags of an expression. -/
inductive Flag where
  | ignoreCase
  | multiLine
  | dotAll
  | swapGreed
  | unicode
  | crlf
  | verbose
  deriving Repr, DecidableEq

/-- Flags with whether they are switched on. -/
abbrev Switches := List (Flag × Bool)

/-- A character, and whether it was written as the two digits of a byte. -/
structure Letter where
  char : Char
  byte : Bool
  deriving Repr, DecidableEq

/-- A condition on a place between characters, as written. -/
inductive Anchor where
  | caret
  | dollar
  | textStart
  | textEnd
  | word
  | notWord
  | wordStart
  | wordEnd
  | wordStartHalf
  | wordEndHalf
  deriving Repr, DecidableEq

/-- The classes with a letter of their own. -/
inductive Shorthand where
  | digit
  | blank
  | word
  deriving Repr, DecidableEq

/-- The words for a property of characters. -/
inductive PropertyName where
  | single (name : String)
  | value (name value : String)
  deriving Repr, DecidableEq

/-- What two sets in brackets are combined to. -/
inductive SetOperation where
  | intersection
  | difference
  | symmetricDifference
  deriving Repr, DecidableEq

/-- What stands between the brackets of a class. -/
inductive ClassSet where
  | letter (l : Letter)
  | range (lo hi : Letter)
  | ascii (name : String) (negated : Bool)
  | shorthand (kind : Shorthand) (negated : Bool)
  | property (name : PropertyName) (negated : Bool)
  | bracketed (negated : Bool) (inner : ClassSet)
  | union (items : List ClassSet)
  | operation (op : SetOperation) (left right : ClassSet)
  deriving Repr

/-- An expression as written. -/
inductive Pattern where
  | empty
  | flags (switches : Switches)
  | letter (l : Letter)
  | dot
  | anchor (a : Anchor)
  | shorthand (kind : Shorthand) (negated : Bool)
  | property (name : PropertyName) (negated : Bool)
  | bracketed (negated : Bool) (inner : ClassSet)
  | repeated (part : Pattern) (least : Nat) (most : Option Nat) (stingy : Bool)
  | group (switches : Switches) (part : Pattern)
  /-- A group whose match can be asked for. -/
  | captured (part : Pattern)
  | alternatives (parts : List Pattern)
  | sequence (parts : List Pattern)
  deriving Repr

/-- One part stands for itself, none for the empty class. -/
def ClassSet.ofItems : List ClassSet → ClassSet
  | [s] => s
  | items => .union items

/-- One part stands for itself, none for the empty expression. -/
def Pattern.ofParts : List Pattern → Pattern
  | [] => .empty
  | [p] => p
  | parts => .sequence parts

/-- One alternative stands for itself. -/
def Pattern.ofAlternatives : List Pattern → Pattern
  | [p] => p
  | parts => .alternatives parts

mutual

/-- How deeply the brackets of a class nest. -/
def ClassSet.depth : ClassSet → Nat
  | .letter _ | .range _ _ | .ascii _ _ | .shorthand _ _ | .property _ _ => 0
  | .bracketed _ inner => 1 + inner.depth
  | .union [] => 0
  | .union items => 1 + ClassSet.depthOfItems items
  | .operation _ left right => 1 + max left.depth right.depth

/-- The greatest depth of some class parts. -/
def ClassSet.depthOfItems : List ClassSet → Nat
  | [] => 0
  | s :: ss => max s.depth (ClassSet.depthOfItems ss)

end

mutual

/-- How deeply the parts of an expression nest. -/
def Pattern.depth : Pattern → Nat
  | .empty | .flags _ | .letter _ | .dot | .anchor _ | .shorthand _ _ | .property _ _ => 0
  | .bracketed _ inner => 1 + inner.depth
  | .repeated part _ _ _ => 1 + part.depth
  | .group _ part => 1 + part.depth
  | .captured part => 1 + part.depth
  | .alternatives parts => 1 + Pattern.depthOfParts parts
  | .sequence parts => 1 + Pattern.depthOfParts parts

/-- The greatest depth of some parts. -/
def Pattern.depthOfParts : List Pattern → Nat
  | [] => 0
  | p :: ps => max p.depth (Pattern.depthOfParts ps)

end

/-- How deeply the parts of an expression may nest. -/
def depthLimit : Nat := 250

end ScriptMatrix.Regex
