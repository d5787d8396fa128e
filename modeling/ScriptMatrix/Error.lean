import ScriptMatrix.Axis.Block
import ScriptMatrix.Defaults
import ScriptMatrix.Fault
import ScriptMatrix.Path
import ScriptMatrix.Regex.Error
import ScriptMatrix.Text.Utf8
import ScriptMatrix.Toml.Error
import ScriptMatrix.Yaml.Error

/-!
# `ScriptMatrix.Error`: everything that can go wrong

An `Error` is a cause with what the user needs to find it. Its wording is
in `Error.message`; the words of the three data readers can be replaced
through `Wording`, since they say nothing about a matrix.
-/

set_option autoImplicit false

namespace ScriptMatrix

/-- A line of a document. -/
structure Place where
  path : Path
  /-- The number of the line, from one. -/
  line : Nat
  deriving Repr, DecidableEq

/-- A place in text, the way messages give it. -/
def Place.text (p : Place) : String := p.path.text ++ ":" ++ toString p.line

/-- What is wrong with a block: it is no text, no data, or data of the
wrong shape. -/
inductive BlockFault (Shape : Type) where
  | encoding (fault : Text.Utf8Fault)
  | data (error : Yaml.Error)
  | shape (fault : Shape)
  deriving Repr, DecidableEq

/-- What can go wrong. -/
inductive Error where
  | documentNotFound (path : Path)
  | resourceNotFound (path : String) (searched : List Path)
  | includeCycle (path : Path)
  | unterminatedBlock (block : String) (header : Place)
  | malformedAxes (fault : BlockFault AxisFault) (header : Option Place)
  | malformedDefaults (fault : BlockFault DefaultsFault) (header : Option Place)
  | invalidOverride (text : String)
  | invalidPattern (error : Regex.Error)
  /-- A script ended with an exit code, or was killed. -/
  | scriptFailed (descriptor : String) (code : Option Int)
  | scriptTimedOut (descriptor : String) (seconds : Nat)
  | interpreterNotFound (interpreter : String)
  | malformedSettings (error : Toml.Error)
  /-- A file operation failed, on no particular file. -/
  | io (fault : Fault)
  | unreadable (path : Path) (fault : Fault)
  deriving Repr, DecidableEq

/-- The words for complaints of the three data readers. -/
structure Wording where
  data : Yaml.Error → String
  pattern : Regex.Error → String
  settings : Toml.Error → String

/-- The readers' own words. -/
def Wording.plain : Wording := ⟨Yaml.Error.message, Regex.Error.message, Toml.Error.message⟩

/-- A block's fault in words. -/
def BlockFault.message {Shape : Type} (w : Wording) (shape : Shape → String) :
    BlockFault Shape → String
  | .encoding fault => fault.message
  | .data error => w.data error
  | .shape fault => shape fault

/-- What a message about a block ends with if its place is known. -/
def placeNote : Option Place → String
  | none => ""
  | some p => " (block at " ++ p.text ++ ")"

/-- The error in words, with the given words for the readers. -/
def Error.messageWith (w : Wording) : Error → String
  | .documentNotFound path => "Matrix document '" ++ path.text ++ "' not found"
  | .resourceNotFound path searched =>
    "Included document '" ++ path ++ "' not found. Searched: "
      ++ ", ".intercalate (searched.map (·.text))
  | .includeCycle path => "Include cycle: '" ++ path.text ++ "' is already being read"
  | .unterminatedBlock block header =>
    "'" ++ block ++ "' block opened at " ++ header.text ++ " has no closing 'end' line"
  | .malformedAxes fault header =>
    "Malformed params block: " ++ fault.message w AxisFault.message ++ placeNote header
  | .malformedDefaults fault header =>
    "Malformed default_params block: " ++ fault.message w DefaultsFault.message
      ++ placeNote header
  | .invalidOverride text =>
    "Invalid parameter override '" ++ text
      ++ "'. Expected KEY=VALUE with KEY a shell variable name"
  | .invalidPattern error => "Invalid filter pattern: " ++ w.pattern error
  | .scriptFailed descriptor code =>
    "Test " ++ descriptor ++ " failed with exit code "
      ++ (match code with | some c => toString c | none => "none (killed by signal)")
  | .scriptTimedOut descriptor seconds =>
    "Test " ++ descriptor ++ " timed out after " ++ toString seconds ++ " seconds"
  | .interpreterNotFound interpreter =>
    "Script interpreter '" ++ interpreter ++ "' not found on PATH"
  | .malformedSettings error => "Invalid configuration file: " ++ w.settings error
  | .io fault => "IO error: " ++ fault.message
  | .unreadable path fault =>
    "Failed to read file '" ++ path.text ++ "': " ++ fault.message

/-- The error in words. -/
def Error.message : Error → String := Error.messageWith .plain

end ScriptMatrix
