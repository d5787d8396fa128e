import ScriptMatrix.Yaml.Value

/-!
# `ScriptMatrix.Proofs.Yaml.Equality`: equality of values can be decided

Values are trees and are compared part by part, so what a given text is read as can be
decided.
-/

set_option autoImplicit false

namespace ScriptMatrix.Yaml.Value

mutual

/-- Values of one kind are compared by their parts. A recursion of its own is needed, since
values are nested in lists. -/
def decEq : (v w : Value) → Decidable (v = w)
  | .null, w => match w with
    | .null => isTrue rfl
    | .bool _ | .number _ | .string _ | .list _ | .mapping _ | .tagged _ _ => isFalse nofun
  | .bool a, w => match w with
    | .bool b => decidable_of_iff (a = b) (by rw [bool.injEq])
    | .null | .number _ | .string _ | .list _ | .mapping _ | .tagged _ _ => isFalse nofun
  | .number m, w => match w with
    | .number n => decidable_of_iff (m = n) (by rw [number.injEq])
    | .null | .bool _ | .string _ | .list _ | .mapping _ | .tagged _ _ => isFalse nofun
  | .string s, w => match w with
    | .string t => decidable_of_iff (s = t) (by rw [string.injEq])
    | .null | .bool _ | .number _ | .list _ | .mapping _ | .tagged _ _ => isFalse nofun
  | .list as, w => match w with
    | .list bs =>
      -- A list is compared by a recursion along its items, and a mapping along its entries.
      have := decEqItems as bs
      decidable_of_iff (as = bs) (by rw [list.injEq])
    | .null | .bool _ | .number _ | .string _ | .mapping _ | .tagged _ _ => isFalse nofun
  | .mapping es, w => match w with
    | .mapping fs =>
      have := decEqEntries es fs
      decidable_of_iff (es = fs) (by rw [mapping.injEq])
    | .null | .bool _ | .number _ | .string _ | .list _ | .tagged _ _ => isFalse nofun
  | .tagged s a, w => match w with
    | .tagged t b =>
      have := decEq a b
      decidable_of_iff (s = t ∧ a = b) (by rw [tagged.injEq])
    | .null | .bool _ | .number _ | .string _ | .list _ | .mapping _ => isFalse nofun

/-- The lists of `decEq`, item by item. -/
def decEqItems : (as bs : List Value) → Decidable (as = bs)
  | [], [] => isTrue rfl
  | [], _ :: _ | _ :: _, [] => isFalse nofun
  | a :: as, b :: bs =>
    have := decEq a b
    have := decEqItems as bs
    decidable_of_iff (a = b ∧ as = bs) (by rw [List.cons.injEq])

/-- The mappings of `decEq`, entry by entry and in order. -/
def decEqEntries : (es fs : List (Value × Value)) → Decidable (es = fs)
  | [], [] => isTrue rfl
  | [], _ :: _ | _ :: _, [] => isFalse nofun
  | (k, v) :: es, (l, w) :: fs =>
    have := decEq k l
    have := decEq v w
    have := decEqEntries es fs
    decidable_of_iff ((k = l ∧ v = w) ∧ es = fs) (by rw [List.cons.injEq, Prod.mk.injEq])

end

instance : DecidableEq Value := decEq

end ScriptMatrix.Yaml.Value
