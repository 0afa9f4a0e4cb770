import ParticleShaders.ValueType

namespace ParticleShaders

/-- Two attributes of one name and different types are different attributes. -/
structure Attribute where
  name : String
  type : ValueType
  deriving DecidableEq, Repr

namespace Attribute

def components (a : Attribute) : Nat := a.type.components?.getD 0

def byteSize (a : Attribute) : Nat := 4 * a.components

def label (a : Attribute) : String := a.name ++ ":" ++ a.type.name

def seed : Attribute := ⟨"seed", .uint⟩

def position : Attribute := ⟨"position", .float3⟩

def velocity : Attribute := ⟨"velocity", .float3⟩

def color : Attribute := ⟨"color", .float3⟩

def alpha : Attribute := ⟨"alpha", .float⟩

def phase : Attribute := ⟨"phase", .float⟩

def size : Attribute := ⟨"size", .float2⟩

def lifetime : Attribute := ⟨"lifetime", .float⟩

def age : Attribute := ⟨"age", .float⟩

def angle : Attribute := ⟨"angle", .float⟩

end Attribute

end ParticleShaders
