import ParticleShaders.Stage

namespace ParticleShaders

inductive Level
  | debug
  | info
  | warning
  | error
  deriving DecidableEq, Repr

inductive Diagnostic
  | attributeCount (count : Nat)
  | bufferCount (count : Nat)
  | bufferLayout (index : Nat) (attributes : List String) (byteSize : Nat)
  | uninitialized (name : String)
  | tooManyBuffers (used max : Nat)
  | blockCount (stage : Stage) (count : Nat)
  | uniformCounts (shared init update output : Nat)
  | rejected (reason : String)
  deriving DecidableEq, Repr

namespace Diagnostic

def level : Diagnostic → Level
  | uninitialized _ => .warning
  | tooManyBuffers .. | rejected _ => .error
  | _ => .info

def message : Diagnostic → String
  | attributeCount count => "Nb Attributes : " ++ toString count
  | bufferCount count => "Nb Attribute buffers: " ++ toString count
  | bufferLayout index attributes byteSize =>
    "\t " ++ toString index ++ " |" ++ "|".intercalate attributes ++ "| " ++ toString byteSize
      ++ "bytes"
  | uninitialized name =>
    "WARNING: " ++ name ++ " is not initialized. Use default value"
  | tooManyBuffers used max =>
    "ERROR: too many buffers used (" ++ toString used ++ ", max is " ++ toString max
      ++ " + 2 reserved)"
  | blockCount stage count => "Nb " ++ stage.label ++ " blocks: " ++ toString count
  | uniformCounts shared init update output =>
    "Nb uniforms: global=" ++ toString shared ++ " init=" ++ toString init ++ " update="
      ++ toString update ++ " output=" ++ toString output
  | rejected reason => "System is invalid: " ++ reason

end Diagnostic

end ParticleShaders
