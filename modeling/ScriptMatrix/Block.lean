import ScriptMatrix.Error
import ScriptMatrix.Yaml.Reading

/-!
# `ScriptMatrix.Block`: axes and defaults from the text of a block

Block data comes as bytes. It is text first, then a value, then axes or
default parameters, and each step has its own fault.
-/

set_option autoImplicit false

namespace ScriptMatrix

/-- The data of a block, taken to its shape by `ofValue`. -/
def BlockFault.read {Shape α : Type} (ofValue : Yaml.Value → Except Shape α) (text : String) :
    Except (BlockFault Shape) α :=
  match Yaml.read text with
  | .error e => .error (.data e)
  | .ok v => (ofValue v).mapError .shape

/-- `read` on the bytes of a block. -/
def BlockFault.readBytes {Shape α : Type} (ofValue : Yaml.Value → Except Shape α)
    (bytes : Bytes) : Except (BlockFault Shape) α :=
  match Text.decode bytes with
  | .error e => .error (.encoding e)
  | .ok text => BlockFault.read ofValue text

/-- The axes that a text declares. -/
def AxisSet.parse (text : String) : Except Error AxisSet :=
  (BlockFault.read AxisSet.ofValue text).mapError fun f => .malformedAxes f none

/-- The default parameters that a text declares. -/
def Defaults.parse (text : String) : Except Error Defaults :=
  (BlockFault.read Defaults.ofValue text).mapError fun f => .malformedDefaults f none

end ScriptMatrix
