import ScriptMatrix.Sandbox.Chars

/-!
# `ScriptMatrix.Sandbox.Options`: the options of a command

Options are single letters behind a hyphen, several of them together if
they like; some take what follows as a value. Two hyphens end them.
-/

set_option autoImplicit false

namespace ScriptMatrix.Sandbox

/-- Options with their values, and the arguments behind them. -/
structure Options where
  letters : List (Char × Chars)
  arguments : List Chars

namespace Options

/-- Whether an option is given. -/
def has (o : Options) (c : Char) : Bool := o.letters.any (·.1 == c)

/-- The last value of an option. -/
def value? (o : Options) (c : Char) : Option Chars := o.letters.reverse.lookup c

/-- What is wrong with options. -/
inductive Trouble where
  | unknown (option : Chars)
  | missing (letter : Char)
  deriving Repr, DecidableEq

/-- Reads letters that stand together; a value is what is left of them, or
the next argument. -/
def readLetters (flags valued : Chars) : Chars → List Chars →
    Except Trouble (List (Char × Chars) × List Chars)
  | [], args => .ok ([], args)
  | c :: cs, args =>
    if valued.contains c then
      if !cs.isEmpty then .ok ([(c, cs)], args)
      else match args with
        | a :: rest => .ok ([(c, a)], rest)
        | [] => .error (.missing c)
    else if flags.contains c then
      match readLetters flags valued cs args with
      | .ok (more, rest) => .ok ((c, []) :: more, rest)
      | .error e => .error e
    else .error (.unknown ['-', c])

/-- Reads options up to the first argument that is none. With `anywhere`
options may stand behind arguments. -/
def readFrom (flags valued : Chars) (anywhere : Bool) : Nat → List Chars → Except Trouble Options
  | 0, args => .ok ⟨[], args⟩
  | fuel + 1, args =>
    match args with
    | [] => .ok ⟨[], []⟩
    | ['-', '-'] :: rest => .ok ⟨[], rest⟩
    | ('-' :: c :: cs) :: rest =>
      match readLetters flags valued (c :: cs) rest with
      | .error e => .error e
      | .ok (letters, rest) =>
        match readFrom flags valued anywhere fuel rest with
        | .ok o => .ok { o with letters := letters ++ o.letters }
        | .error e => .error e
    | a :: rest =>
      if anywhere then
        match readFrom flags valued anywhere fuel rest with
        | .ok o => .ok { o with arguments := a :: o.arguments }
        | .error e => .error e
      else .ok ⟨[], a :: rest⟩

/-- Reads the options in front of arguments. -/
def read (flags valued : String) (args : List Chars) : Except Trouble Options :=
  readFrom flags.toList valued.toList false (args.length + 1) args

/-- Reads the options among arguments. -/
def readAnywhere (flags valued : String) (args : List Chars) : Except Trouble Options :=
  readFrom flags.toList valued.toList true (args.length + 1) args

end Options

end ScriptMatrix.Sandbox
