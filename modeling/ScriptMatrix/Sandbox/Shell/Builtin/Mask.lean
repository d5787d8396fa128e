import ScriptMatrix.Sandbox.Shell.Builtin.Basic

/-!
# `ScriptMatrix.Sandbox.Shell.Builtin.Mask`: what new files are not allowed

The mask has three bits for each of the owner, the group and the others. It
is written in octal digits, or by clauses that say what is allowed: for
whom, a sign, and the permissions that are added, taken away or set.
-/

set_option autoImplicit false

namespace ScriptMatrix.Sandbox.Shell

namespace Mask

/-- The bits of the classes that a clause is for. -/
def whoBits : Char → Option Nat
  | 'u' => some 0o700
  | 'g' => some 0o070
  | 'o' => some 0o007
  | 'a' => some 0o777
  | _ => none

/-- The bits of a permission for all classes. With `plain`, a clause can
also name another class, whose permissions are taken, or ask for starting
programs only if anybody can; `allowed` is what has been allowed so far. -/
def permissionBits (plain : Bool) (allowed : Nat) : Char → Option Nat
  | 'r' => some 0o444
  | 'w' => some 0o222
  | 'x' => some 0o111
  | c =>
    if !plain then none
    else match c with
      | 'X' => some (if allowed &&& 0o111 == 0 then 0 else 0o111)
      | 's' | 't' => some 0
      | 'u' => some (allowed / 64 % 8 * 0o111)
      | 'g' => some (allowed / 8 % 8 * 0o111)
      | 'o' => some (allowed % 8 * 0o111)
      | _ => none

/-- What is wrong with a clause. -/
inductive Trouble where
  | operator (c : Char)
  | permission (c : Char)

/-- What is allowed after clauses. -/
def allow (plain : Bool) : Nat → Nat → Chars → Except Trouble Nat
  | 0, allowed, _ => .ok allowed
  | fuel + 1, allowed, cs =>
    let who := cs.takeWhile fun c => (whoBits c).isSome
    let bits := (who.filterMap whoBits).foldl (· ||| ·) 0
    let bits := if who.isEmpty then 0o777 else bits
    match cs.drop who.length with
    | [] => .error (.operator '\x00')
    | op :: rest =>
      if ! ['+', '-', '='].contains op then .error (.operator op)
      else
        let given := rest.takeWhile fun c => (permissionBits plain allowed c).isSome
        let chosen := (given.filterMap (permissionBits plain allowed)).foldl (· ||| ·) 0 &&& bits
        let allowed := match op with
          | '+' => allowed ||| chosen
          | '-' => allowed &&& (0o777 ^^^ chosen)
          | _ => (allowed &&& (0o777 ^^^ bits)) ||| chosen
        match rest.drop given.length with
        | [] => .ok allowed
        | c :: more =>
          if c == ',' then allow plain fuel allowed more
          else if plain && ['+', '-', '='].contains c then
            allow plain fuel allowed (who ++ c :: more)
          else .error (.permission c)

/-- What is allowed, as clauses. -/
def clauses (allowed : Nat) : Chars :=
  let letters := fun (d : Nat) => (['r', 'w', 'x'].zip [4, 2, 1]).filterMap fun (c, bit) =>
    if d / bit % 2 == 1 then some c else none
  joinWith [','] ((['u', 'g', 'o'].zip [allowed / 64 % 8, allowed / 8 % 8, allowed % 8]).map
    fun (c, d) => c :: '=' :: letters d)

/-- The mask in four octal digits. -/
def octal (n : Nat) : Chars :=
  '0' :: [n / 64 % 8, n / 8 % 8, n % 8].map fun d => Char.ofNat (48 + d)

end Mask

/-- Shows or sets what new files are not allowed. -/
def Act.umask (args : List Chars) : Act Nat := do
  let command := "umask".toList
  let extended ← isExtended
  match Options.read (if extended then "pS" else "S") "" args with
  | .error e => complainOptions command e
  | .ok o =>
    let n := (← process).mask
    let set := fun (mask : Nat) => alter fun p => { p with mask := mask % 512 }
    match o.arguments with
    | [] =>
      if extended && o.has 'p' then
        write 1 (command ++ (if o.has 'S' then " -S " else " ").toList)
      write 1 ((if o.has 'S' then Mask.clauses (511 - n) else Mask.octal n) ++ ['\n'])
      return 0
    | cs :: _ =>
      if cs.head?.any isDigit then
        let isOctal := cs.all fun c => '0' ≤ c && c ≤ '7'
        if isOctal && (!extended || numberIn 8 cs ≤ 0o7777) then
          set (numberIn 8 cs)
          if extended && o.has 'S' then write 1 (Mask.clauses (511 - numberIn 8 cs % 512) ++ ['\n'])
          return 0
        if extended then complainOf command (cs ++ ": octal number out of range".toList)
        else complainOf command ("Illegal number: ".toList ++ cs)
        refuse 1
      else
        match Mask.allow (!extended) (cs.length + 1) (511 - n) cs with
        | .ok allowed =>
          set (511 - allowed)
          if extended && o.has 'S' then write 1 (Mask.clauses allowed ++ ['\n'])
          return 0
        | .error trouble =>
          if extended then
            let (c, what) := match trouble with
              | .operator c => (c, "operator")
              | .permission c => (c, "character")
            complainOf command (Char.ofNat 96 :: c :: ("': invalid symbolic mode " ++ what).toList)
          else complainOf command ("Illegal mode: ".toList ++ cs)
          refuse 1

end ScriptMatrix.Sandbox.Shell
