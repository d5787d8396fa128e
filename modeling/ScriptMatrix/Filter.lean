import ScriptMatrix.Error
import ScriptMatrix.Regex

/-!
# `ScriptMatrix.Filter`: choosing scripts by their descriptors

A filter is a regular expression or a text that a descriptor must
contain. Without a filter every script is chosen, and so it is with an
empty one.
-/

set_option autoImplicit false

namespace ScriptMatrix

/-- A condition on descriptors. -/
inductive Filter where
  | substring (text : String)
  | regex (r : Regex)
  deriving Repr

/-- Whether a text occurs in another. -/
def occursIn (part : List Char) : List Char → Bool
  | [] => part.isEmpty
  | c :: cs => part.isPrefixOf (c :: cs) || occursIn part cs

namespace Filter

/-- The filter that a user writes. -/
def ofText (text : String) (substring : Bool) : Except Error Filter :=
  if substring then .ok (.substring text)
  else match Regex.ofText text with
    | .ok r => .ok (.regex r)
    | .error e => .error (.invalidPattern e)

/-- Whether a filter chooses a descriptor. -/
def accepts (descriptor : String) : Filter → Bool
  | .substring text => occursIn text.toList descriptor.toList
  | .regex r => r.matchesIn descriptor

/-- Whether a descriptor is chosen where there may be no filter. -/
def chooses (filter : Option Filter) (descriptor : String) : Bool :=
  match filter with
  | none => true
  | some f => f.accepts descriptor

/-- A filter stands for the descriptors that it chooses. -/
instance : Coe (Option Filter) (String → Bool) := ⟨chooses⟩

end Filter

end ScriptMatrix
