/-!
# `ScriptMatrix.Json`: JSON text

Bindings and listings are written as JSON: in one line without blanks, or
indented by two spaces a level. Members stay in their order. In strings
only quotes, backslashes and control characters are escaped.
-/

set_option autoImplicit false

namespace ScriptMatrix

/-- The JSON values that listings consist of. -/
inductive Json where
  | string (s : String)
  | array (items : List Json)
  | object (members : List (String × Json))
  deriving Repr

namespace Json

/-- A digit of a `\u` escape. -/
def hexDigit (n : Nat) : Char := Nat.digitChar n

/-- A character inside a string. -/
def escape (c : Char) : List Char :=
  if c == '"' then ['\\', '"']
  else if c == '\\' then ['\\', '\\']
  else if c == '\n' then ['\\', 'n']
  else if c == '\r' then ['\\', 'r']
  else if c == '\t' then ['\\', 't']
  else if c.toNat == 0x08 then ['\\', 'b']
  else if c.toNat == 0x0c then ['\\', 'f']
  else if c.toNat < 0x20 then
    ['\\', 'u', '0', '0', hexDigit (c.toNat / 16), hexDigit (c.toNat % 16)]
  else [c]

/-- A string in quotes. -/
def quoted (s : String) : String := "\"" ++ String.ofList (s.toList.flatMap escape) ++ "\""

mutual

/-- A value in one line. -/
def compact : Json → String
  | .string s => quoted s
  | .array items => "[" ++ ",".intercalate (compactItems items) ++ "]"
  | .object members => "\x7b" ++ ",".intercalate (compactMembers members) ++ "\x7d"

/-- Each item in one line. -/
def compactItems : List Json → List String
  | [] => []
  | j :: js => j.compact :: compactItems js

/-- Each member in one line. -/
def compactMembers : List (String × Json) → List String
  | [] => []
  | m :: ms => compactMember m :: compactMembers ms

/-- A member in one line. -/
def compactMember : String × Json → String
  | (key, j) => quoted key ++ ":" ++ j.compact

end

/-- The beginning of a line at a level. -/
def newline (level : Nat) : String := "\n" ++ String.ofList (List.replicate (2 * level) ' ')

/-- Parts between brackets, each on a line of its own. -/
def bracketed (opening closing : String) (level : Nat) (parts : List String) : String :=
  if parts.isEmpty then opening ++ closing
  else opening ++ ",".intercalate (parts.map (newline (level + 1) ++ ·)) ++ newline level ++ closing

mutual

/-- A value over several lines, itself at the given level. -/
def pretty (level : Nat) : Json → String
  | .string s => quoted s
  | .array items => bracketed "[" "]" level (prettyItems (level + 1) items)
  | .object members => bracketed "\x7b" "\x7d" level (prettyMembers (level + 1) members)

/-- Each item at a level. -/
def prettyItems (level : Nat) : List Json → List String
  | [] => []
  | j :: js => j.pretty level :: prettyItems level js

/-- Each member at a level. -/
def prettyMembers (level : Nat) : List (String × Json) → List String
  | [] => []
  | m :: ms => prettyMember level m :: prettyMembers level ms

/-- A member at a level. -/
def prettyMember (level : Nat) : String × Json → String
  | (key, j) => quoted key ++ ": " ++ j.pretty level

end

/-- Names with their texts as an object. -/
def ofEntries (entries : List (String × String)) : Json :=
  .object (entries.map fun e => (e.1, .string e.2))

end Json

end ScriptMatrix
