import ParticleShaders.Capability
import ParticleShaders.Stage
import ParticleShaders.Text.Quoted
import ParticleShaders.ValueType

namespace ParticleShaders

inductive Rejection
  | missingStage (stage : Stage)
  | empty
  | unknownBlock (block blockType : String)
  | unpackableAttribute (block name : String) (type : ValueType)
  | invalidName (block name : String)
  | unboundProperty (block property : String)
  | unknownParam (block property param : String)
  | paramType (block property param : String) (expected found : ValueType)
  | misplaced (block : String) (capability : Capability) (stage : Stage)
  | badSettings (stage : Stage) (reason : String)
  | twoTypes (name : String) (first second : ValueType)
  | phaseShift (name : String)
  | unmetNeed (stage : Stage) (reason : String)
  | tooManyBuffers (used max : Nat)
  | outputSignal (param : String) (type : ValueType)
  | missingValue (param : String)
  deriving DecidableEq, Repr

namespace Rejection

def message : Rejection → String
  | missingStage stage => "system is invalid: missing " ++ stage.label ++ " context"
  | empty => "system is invalid: empty"
  | unknownBlock block blockType =>
    "unknown block type: " ++ blockType ++ " (block " ++ block ++ ")"
  | unpackableAttribute block name type =>
    "block " ++ block ++ ": attribute " ++ name ++ " has non attribute type " ++ type.name
  | invalidName block name =>
    "block " ++ block ++ ": " ++ Text.quoted name ++ " is not a valid HLSL identifier"
  | unboundProperty block property =>
    "block " ++ block ++ ": property " ++ property ++ " is not bound and has no default"
  | unknownParam block property param =>
    "block " ++ block ++ ": slot " ++ property ++ " references unknown param " ++ param
  | paramType block property param expected found =>
    "block " ++ block ++ ": slot " ++ property ++ " expects " ++ expected.name ++ ", param "
      ++ param ++ " is " ++ found.name
  | misplaced block capability stage =>
    "block " ++ block ++ ": " ++ capability.name ++ " blocks are not supported in " ++ stage.label
      ++ " contexts"
  | badSettings stage reason => "invalid " ++ stage.label ++ " generator settings: " ++ reason
  | twoTypes name first second =>
    "attribute " ++ name ++ " is declared as both " ++ first.name ++ " and " ++ second.name
  | phaseShift name => "phase shift requires a " ++ name ++ " attribute"
  | unmetNeed stage reason =>
    stage.label ++ " generator cannot satisfy its attributes: " ++ reason
  | tooManyBuffers used max =>
    "too many buffers used (" ++ toString used ++ ", max is " ++ toString max ++ " + 2 reserved)"
  | outputSignal param type =>
    "cannot push " ++ type.name ++ " param " ++ param ++ " as an output uniform"
  | missingValue param => "param " ++ param ++ " is referenced but has no value"

def isCapacity : Rejection → Bool
  | tooManyBuffers .. => true
  | _ => false

end Rejection

end ParticleShaders
