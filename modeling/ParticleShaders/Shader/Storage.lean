import ParticleShaders.Blueprint
import ParticleShaders.Source.Declaration

namespace ParticleShaders

namespace Buffer

def structName (b : Buffer) : String := "Attribute" ++ toString b.index

def variableName (b : Buffer) : String := "attribBuffer" ++ toString b.index

def readOnlyName (b : Buffer) : String := b.variableName ++ "_RO"

def padding (b : Buffer) : List Field :=
  (List.range ((b.stride - b.byteSize) / 4)).map fun i => ⟨"uint", "_PADDING_" ++ toString i⟩

def members (b : Buffer) : List Field :=
  b.attributes.map (fun a => ⟨a.type.shaderType, a.name⟩) ++ b.padding

def struct (b : Buffer) : Declaration := .struct b.structName b.members

end Buffer

namespace ParamSet

def fields (s : ParamSet) (naming : Naming) : List Field :=
  s.params.map fun p => ⟨p.type.shaderType, naming.nameOf p.id⟩

def constants (s : ParamSet) (naming : Naming) (name : String) : List Declaration :=
  if s.isEmpty then [] else [.constants name (s.fields naming)]

def samplers (s : ParamSet) (naming : Naming) : List Declaration :=
  if s.isEmpty then [] else [.globals (s.fields naming), .blank]

end ParamSet

namespace Blueprint

variable (d : Blueprint)

def simulationNames : References := ⟨d.reference, fun p => d.naming.nameOf p.id⟩

def drawingNames : References := ⟨d.reference, fun p => d.outputNaming.nameOf p.id⟩

end Blueprint

end ParticleShaders
