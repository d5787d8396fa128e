import ScriptMatrix.Sandbox.Program.Basic

/-!
# `ScriptMatrix.Sandbox.Program.Letters`: programs that exchange characters

A set of characters is written as characters, ranges, and names of
classes. Characters of one set give way to those of another, the last of
which stands for all that have no partner.
-/

set_option autoImplicit false

namespace ScriptMatrix.Sandbox.Program

open Sandbox.Shell

/-- All bytes as characters. -/
def allBytes : Chars := (List.range 256).map Char.ofNat

/-- A character that a set is written with, and whether it was written as
an escape. -/
def readSetChars : Nat → Chars → List (Char × Bool)
  | 0, _ => []
  | _, [] => []
  | fuel + 1, '\\' :: rest =>
    match rest with
    | [] => [('\\', false)]
    | c :: more =>
      let octal := digitsFront 3 isOctal rest
      if !octal.isEmpty then
        (byteOf (numberIn 8 octal), true) :: readSetChars fuel (rest.drop octal.length)
      else
        let one := match c with
          | 'a' => '\x07' | 'b' => '\x08' | 'f' => '\x0c' | 'n' => '\n' | 'r' => '\r'
          | 't' => '\t' | 'v' => '\x0b'
          | c => c
        (one, true) :: readSetChars fuel more
  | fuel + 1, c :: rest => (c, false) :: readSetChars fuel rest

/-- A part of a set. -/
inductive SetPart where
  | chars (cs : Chars)
  /-- A character so often, or as often as is needed. -/
  | filled (c : Char) (n : Nat)

/-- The parts of a set. -/
def readSetParts : Nat → List (Char × Bool) → List SetPart
  | 0, _ => []
  | _, [] => []
  | fuel + 1, cs =>
    let named := match cs with
      | ('[', false) :: (':', false) :: rest =>
        let name := (rest.map (·.1)).takeWhile fun c => c != ':'
        match rest.drop name.length with
        | (':', false) :: (']', false) :: after =>
          (globClasses.lookup (String.ofList name)).map fun p =>
            (SetPart.chars (allBytes.filter p), after)
        | _ => none
      | ('[', false) :: ('=', false) :: (c, _) :: ('=', false) :: (']', false) :: after =>
        some (SetPart.chars [c], after)
      | ('[', false) :: (c, _) :: ('*', false) :: rest =>
        let ds := (rest.map (·.1)).takeWhile isDigit
        match rest.drop ds.length with
        | (']', false) :: after =>
          some (SetPart.filled c (numberIn (if ds.head? == some '0' then 8 else 10) ds), after)
        | _ => none
      | _ => none
    match named with
    | some (part, after) => part :: readSetParts fuel after
    | none =>
      match cs with
      | (a, _) :: ('-', false) :: (b, _) :: rest =>
        let range := (List.range (b.toNat + 1 - a.toNat)).map fun n => Char.ofNat (a.toNat + n)
        .chars range :: readSetParts fuel rest
      | (a, _) :: rest => .chars [a] :: readSetParts fuel rest
      | [] => []

/-- The characters of a set; one that is to fill it comes as often as the
other set needs. -/
def setChars (needed : Nat) (cs : Chars) : Chars :=
  let parts := readSetParts (cs.length + 1) (readSetChars (cs.length + 1) cs)
  let fixed := (parts.map fun
    | .chars cs => cs.length
    | .filled _ n => n).foldl (· + ·) 0
  parts.flatMap fun
    | .chars cs => cs
    | .filled c n => List.replicate (if n == 0 then needed - fixed else n) c

/-- Only one of equal characters in a row, where they are to be taken
together. -/
def squeeze (p : Char → Bool) (cs : Chars) : Chars :=
  (cs.foldl (fun (done : Chars) c =>
    if done.head? == some c && p c then done else c :: done) []).reverse

/-- Exchanges, deletes or joins characters. -/
def tr : Body := fun args => do
  let args := shorten [("delete", 'd'), ("squeeze-repeats", 's'), ("complement", 'c'),
    ("truncate-set1", 't')] args
  match Options.read "dscCt" "" args with
  | .error t => complainOptions "tr" 1 t
  | .ok o =>
    let sets := o.arguments
    let deletes := o.has 'd'
    let squeezes := o.has 's'
    let complement := o.has 'c' || o.has 'C'
    let wanted := if deletes == squeezes then 2 else 1
    match sets with
    | [] =>
      complain "tr" "missing operand".toList
      return 1
    | first :: others =>
      if sets.length < wanted then
        complain "tr" ("missing operand after ".toList ++ quoted first)
        return 1
      if 2 < sets.length || (deletes && !squeezes && !others.isEmpty) then
        complain "tr"
          ("extra operand ".toList ++ quoted ((sets[if deletes then 1 else 2]?).getD []))
        return 1
      let from₀ := setChars 0 first
      let from' := if complement then allBytes.filter (!from₀.contains ·) else from₀
      let text ← Act.takeAll 0
      match others.head? with
      | none =>
        let text := if deletes then text.filter (!from'.contains ·) else text
        Act.write 1 (if squeezes then squeeze from'.contains text else text)
        return 0
      | some second =>
        let images := setChars from'.length second
        if deletes then
          Act.write 1 (squeeze images.contains (text.filter (!from'.contains ·)))
          return 0
        if images.isEmpty then
          complain "tr" "when not truncating set1, string2 must be non-empty".toList
          return 1
        let last := images.getLastD ' '
        let from' := if o.has 't' then from'.take images.length else from'
        let images := images ++ List.replicate (from'.length - images.length) last
        -- Of several partners the last one counts.
        let table := (from'.zip images).reverse
        let swapped := text.map fun c => (table.lookup c).getD c
        Act.write 1 (if squeezes then squeeze images.contains swapped else swapped)
        return 0

end ScriptMatrix.Sandbox.Program
