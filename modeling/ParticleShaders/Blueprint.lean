import ParticleShaders.Buffer
import ParticleShaders.Uniforms
/-! Everything that the shaders of a system are written from. -/

namespace ParticleShaders

structure SignalCode where
  hasColor : Bool := false
  hasFloat : Bool := false
  functions : List String := []
  deriving DecidableEq, Repr

def Bake.code (b : Bake) : SignalCode := ⟨b.hasColor, b.hasFloat, b.functions⟩

structure Blueprint where
  initBlocks : List BoundBlock := []
  updateBlocks : List BoundBlock := []
  outputBlocks : List BoundBlock := []
  hasKill : Bool := false
  hasRand : Bool := false
  phaseShift : Bool := false
  buffers : List Buffer := []
  uniforms : Uniforms
  naming : Naming := ∅
  outputNaming : Naming := ∅
  signals : SignalCode := {}

namespace Blueprint

variable (d : Blueprint)

def bufferOf? (a : Attribute) : Option Buffer := d.buffers.reverse.find? (·.attributes.contains a)

def holds (a : Attribute) : Bool := (d.bufferOf? a).isSome

/-- How code refers to an attribute. One that no buffer holds is referred to by its bare name. -/
def reference (a : Attribute) : String :=
  match d.bufferOf? a with
  | some b => "attrib" ++ toString b.index ++ "." ++ a.name
  | none => a.name

def namingOf (stage : Stage) : Naming :=
  match stage with
  | .output => d.outputNaming
  | _ => d.naming

end Blueprint

end ParticleShaders
