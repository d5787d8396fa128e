import ScriptMatrix.Sandbox.Shell.Builtin.Basic

/-!
# `ScriptMatrix.Sandbox.Shell.Builtin.Limit`: limits of the machine

A limit has a letter and is a number, or there is none. A shell can set
limits for itself and for what it starts; here they are kept and shown, and
bind nobody.
-/

set_option autoImplicit false

namespace ScriptMatrix.Sandbox.Shell

/-- The letters of the limits of a dialect. -/
def limitLetters : Dialect → String
  | .extended => "cdefilmnpqrstuvxR"
  | .plain => "cdflmnprstvw"

/-- The limits from the start, by letter; all others are none. -/
def initialLimits : List (Char × String) :=
  [('c', "0"), ('e', "0"), ('n', "1048576"), ('p', "8"), ('q', "819200"), ('r', "0"), ('s', "8192")]

/-- Shows or sets a limit. -/
def Act.ulimit (args : List Chars) : Act Nat := do
  let command := "ulimit".toList
  let p ← process
  match Options.read ("SHa" ++ limitLetters p.dialect) "" args with
  | .error e => complainOptions command e
  | .ok o =>
    let chosen := (o.letters.map (·.1)).filter fun c => ! ['S', 'H', 'a'].contains c
    let letter := chosen.headD 'f'
    match o.arguments with
    | [] =>
      let text := (p.limits.lookup letter).getD
        ((initialLimits.lookup letter).getD "unlimited").toList
      write 1 (text ++ ['\n'])
      return 0
    | value :: _ =>
      if (natural? value).isSome ||
          ["unlimited", "hard", "soft"].contains (String.ofList value) then
        alter fun p => { p with limits := (letter, value) :: p.limits.filter (·.1 != letter) }
        return 0
      if p.dialect == .extended then complainOf command (value ++ ": invalid number".toList)
      else complainOf command "bad number".toList
      failing 1 2

end ScriptMatrix.Sandbox.Shell
