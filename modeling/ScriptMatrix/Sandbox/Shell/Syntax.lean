import ScriptMatrix.Sandbox.Chars

/-!
# `ScriptMatrix.Sandbox.Shell.Syntax`: words and commands

A word is put together from pieces, which say how it was written: with or
without quotes, or as something whose value takes its place. Commands are
made of words and of other commands.
-/

set_option autoImplicit false

namespace ScriptMatrix.Sandbox.Shell

/-- The two shells. -/
inductive Dialect where
  /-- The shell with arrays, conditions in double brackets and more. -/
  | extended
  /-- The shell that knows little more than its standard asks for. -/
  | plain
  deriving Repr, DecidableEq

/-- What an operand in a parameter's braces is used for. -/
inductive Remedy where
  /-- In place of a value that is missing. -/
  | fallback
  /-- As `fallback`, and it becomes the value. -/
  | assigned
  /-- As a complaint, if the value is missing. -/
  | demanded
  /-- In place of a value that is there. -/
  | alternative
  deriving Repr, DecidableEq

/-- Where a pattern has to match for something to be replaced. -/
inductive Spot where
  | first
  | everywhere
  | front
  | back
  deriving Repr, DecidableEq

/-- How letters are changed. -/
inductive LetterCase where
  | upper
  | lower
  | swapped
  deriving Repr, DecidableEq

/-- What a redirection does. -/
inductive RedirectMode where
  | read
  | write
  /-- Writes also where files are not to be written over. -/
  | overwrite
  | append
  | readWrite
  /-- The stream becomes another one, by its number. -/
  | sameInput
  | sameOutput
  /-- Both output and errors are written. -/
  | both
  | appendBoth
  /-- The target is the text itself. -/
  | document
  /-- The target is the text itself, with a newline behind it. -/
  | line
  deriving Repr, DecidableEq

/-- How the branch of a case ends. -/
inductive BranchEnd where
  | stop
  /-- The next branch is carried out as well. -/
  | fallThrough
  /-- The next patterns are tried. -/
  | goOn
  deriving Repr, DecidableEq

mutual

/-- A part of a word. -/
inductive Piece where
  /-- Characters without quotes. -/
  | plain (cs : Chars)
  /-- Characters that stand for themselves; there may be none. -/
  | quoted (cs : Chars)
  /-- Pieces between double quotes. -/
  | double (pieces : List Piece)
  /-- What is made of the value of a parameter; the text is how it was
  written. -/
  | parameter (written : Chars) (name : Chars) (index : Index) (indirect : Bool) (use : Use)
  /-- What commands write to their output. -/
  | output (body : List Command)
  /-- What a script writes to its output. -/
  | outputOf (script : Chars)
  /-- The value of a sum. -/
  | sum (pieces : List Piece)
  /-- A file from which the output of commands can be read, or to which
  their input can be written. -/
  | channel (reads : Bool) (body : List Command)
  /-- Braces that make no sense. -/
  | nonsense (written : Chars)

/-- Which elements of an array are meant. -/
inductive Index where
  /-- The variable itself. -/
  | none
  /-- All elements, as one text with `star`. -/
  | all (star : Bool)
  | element (index : List Piece)

/-- What is made of a value. -/
inductive Use where
  | value
  /-- The number of its characters or elements. -/
  | size
  /-- The operand comes in for the value; with `emptyToo`, an empty value
  counts as missing. -/
  | remedy (r : Remedy) (emptyToo : Bool) (operand : List Piece)
  /-- The value without its front or back, as far as it matches. -/
  | trimmed (front longest : Bool) (pattern : List Piece)
  | replaced (spot : Spot) (pattern replacement : List Piece)
  /-- The part from an offset on, with a length that may be missing. -/
  | part (offset : List Piece) (length : Option (List Piece))
  /-- Letters that match are changed, only the first one or all. -/
  | inCase (how : LetterCase) (all : Bool) (pattern : List Piece)
  /-- The value as a letter says. -/
  | transformed (letter : Char)
  /-- The names of the variables that begin alike. -/
  | names (star : Bool)
  /-- The indices of an array. -/
  | keys (star : Bool)

/-- A redirection. Without a stream of its own it is that of the mode. -/
inductive Redirect where
  /-- With `named`, the stream is a new one whose number a variable gets. -/
  | mk (stream : Option Nat) (named : Option Chars) (mode : RedirectMode) (target : List Piece)

/-- The value in an assignment. -/
inductive AssignedValue where
  | text (w : List Piece)
  /-- Elements, some with an index of their own. -/
  | elements (es : List Element)

/-- An element of an array. -/
inductive Element where
  | next (w : List Piece)
  | at (index : List Piece) (append : Bool) (w : List Piece)

/-- An assignment. -/
inductive Assignment where
  | mk (name : Chars) (index : Option (List Piece)) (append : Bool) (value : AssignedValue)

/-- A word of a simple command, or an assignment in place of one. -/
inductive Argument where
  | word (w : List Piece)
  | assignment (a : Assignment)

/-- What double brackets ask for. -/
inductive Condition where
  | word (w : List Piece)
  | unary (op : Chars) (w : List Piece)
  | binary (op : Chars) (left right : List Piece)
  | negated (c : Condition)
  | both (a b : Condition)
  | either (a b : Condition)

/-- A command; some know the line they stand on. -/
inductive Command where
  | simple (line : Nat) (assignments : List Assignment) (arguments : List Argument)
      (redirects : List Redirect)
  /-- Commands of which each reads what the one before writes. -/
  | pipeline (parts : List Command)
  | negated (c : Command)
  | timed (c : Command)
  | both (first second : Command)
  | either (first second : Command)
  /-- Commands that nobody waits for. -/
  | background (c : Command)
  | group (body : List Command)
  | subshell (body : List Command)
  | redirected (line : Nat) (c : Command) (redirects : List Redirect)
  | function (name : Chars) (body : Command)
  /-- The body behind the first condition that holds, or the last body. -/
  | choice (branches : List Branch) (otherwise : List Command)
  | select (line : Nat) (subject : List Piece) (cases : List Case)
  | loop (until_ : Bool) (condition body : List Command)
  /-- A loop with three sums: before it, before each round, after each. -/
  | count (line : Nat) (start condition step : List Piece) (body : List Command)
  | each (line : Nat) (name : Chars) (words : Option (List (List Piece))) (body : List Command)
  /-- A loop that asks for a choice before each round. -/
  | menu (line : Nat) (name : Chars) (words : Option (List (List Piece))) (body : List Command)
  | sum (line : Nat) (pieces : List Piece)
  | condition (line : Nat) (c : Condition)

/-- A condition with a body. -/
inductive Branch where
  | mk (condition body : List Command)

/-- Patterns with a body. -/
inductive Case where
  | mk (patterns : List (List Piece)) (body : List Command) (ending : BranchEnd)

end

/-- The parameters that are a single character. -/
def specialParameters : Chars := ['@', '*', '#', '?', '-', '$', '!']

/-- A word before expansion. -/
abbrev Word := List Piece

instance : Inhabited Command := ⟨.group []⟩

instance : Inhabited Piece := ⟨.plain []⟩

end ScriptMatrix.Sandbox.Shell
