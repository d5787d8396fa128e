import ScriptMatrix.Sandbox.Shell.Builtin.Basic

/-!
# `ScriptMatrix.Sandbox.Shell.Builtin.Jump`: leaving what is being done

Loops, functions and scripts can be left before their end. How many loops,
or which status, is a number; what is no number is refused.
-/

set_option autoImplicit false

namespace ScriptMatrix.Sandbox.Shell.Act

/-- Gives up on a command that has more arguments than it takes. -/
def refuseMore {α : Type} (command : Chars) : Act α := do
  complainOf command "too many arguments".toList
  status 1
  throw (.abandoned true)

/-- The status that an argument of `exit` or `return` asks for. -/
def statusOf (command : Chars) (args : List Chars) : Act Nat := do
  let p ← process
  let now := p.trapStatus.getD p.status
  match ← isExtended, args with
  | _, [] => return now
  | true, a :: rest =>
    match number? a with
    | none =>
      complainOf command (a ++ ": numeric argument required".toList)
      return 2
    | some i => if rest.isEmpty then return (i % 256).toNat else refuseMore command
  | false, a :: _ =>
    match plainNumber? a with
    | some n => return n
    | none =>
      complainOf command ("Illegal number: ".toList ++ a)
      giveUp

/-- Ends the script. -/
def exit (args : List Chars) : Act Nat := do
  let args := if args.head? == some ['-', '-'] then args.drop 1 else args
  throw (.exited ((← statusOf "exit".toList args) % 256))

/-- Leaves a function or a script that is read into this one. -/
def return_ (args : List Chars) : Act Nat := do
  let args := if args.head? == some ['-', '-'] then args.drop 1 else args
  let p ← process
  let inside := !p.calls.isEmpty || 0 < p.sources
  if p.dialect == .extended && !inside then
    complainOf "return".toList
      ("can only ".toList ++ [Char.ofNat 96] ++ "return' from a function or sourced script".toList)
    return 2
  let n ← if args.isEmpty then pure p.status else statusOf "return".toList args
  throw (.returned (if p.dialect == .extended then n % 256 else n))

/-- Leaves loops, given what to do with how many. -/
def leaveLoops (command : String) (leave : Nat → Halt) (args : List Chars) : Act Nat := do
  let p ← process
  let command := command.toList
  match p.dialect with
  | .extended =>
    let args := if args.head? == some ['-', '-'] then args.drop 1 else args
    if p.loops == 0 then
      let q := Char.ofNat 96
      complainOf command ("only meaningful in a ".toList ++ [q] ++ "for', ".toList ++ [q] ++
        "while', or ".toList ++ [q] ++ "until' loop".toList)
      return 0
    match args with
    | [] =>
      status 0
      throw (leave 1)
    | a :: rest =>
      match number? a with
      | none =>
        complainOf command (a ++ ": numeric argument required".toList)
        throw (.exited (p.status ||| 128))
      | some i =>
        if !rest.isEmpty then refuseMore command
        if i < 1 then
          complainOf command (a ++ ": loop count out of range".toList)
          alter fun p => { p with status := 1 }
          throw (.broken p.loops)
        status 0
        throw (leave (min i.toNat p.loops))
  | .plain =>
    let n ← match args with
      | [] => pure 1
      | a :: _ =>
        match plainNumber? a with
        | some (n + 1) => pure (n + 1)
        | _ =>
          complainOf command ("Illegal number: ".toList ++ a)
          giveUp
    if p.loops == 0 then return 0
    status 0
    throw (leave (min n p.loops))

/-- Leaves loops. -/
def break_ (args : List Chars) : Act Nat := leaveLoops "break" .broken args

/-- Goes on with the next round of a loop. -/
def continue_ (args : List Chars) : Act Nat := leaveLoops "continue" .continued args

/-- Drops arguments from the front. -/
def shift (args : List Chars) : Act Nat := do
  let p ← process
  let args := if args.head? == some ['-', '-'] then args.drop 1 else args
  match p.dialect with
  | .extended =>
    match args.head?.elim (some 1) number? with
    | none =>
      complainOf "shift".toList (args.headD [] ++ ": numeric argument required".toList)
      return 1
    | some i =>
      if 1 < args.length then refuseMore "shift".toList
      else if i < 0 then
        complainOf "shift".toList (args.headD [] ++ ": shift count out of range".toList)
        return 1
      else if p.arguments.length < i.toNat then return 1
      else
        alter fun p => { p with arguments := p.arguments.drop i.toNat }
        return 0
  | .plain =>
    match args.head?.elim (some 1) plainNumber? with
    | none =>
      complainOf "shift".toList ("Illegal number: ".toList ++ args.headD [])
      giveUp
    | some n =>
      if p.arguments.length < n then
        complainOf "shift".toList "can't shift that many".toList
        giveUp
      alter fun p => { p with arguments := p.arguments.drop n }
      return 0

end ScriptMatrix.Sandbox.Shell.Act
