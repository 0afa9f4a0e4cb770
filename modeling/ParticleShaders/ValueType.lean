
namespace ParticleShaders

inductive ValueType
  | float
  | float2
  | float3
  | float4
  | int
  | uint
  | texture2D
  | texture3D
  | transform
  | colorGradient
  | curve
  deriving DecidableEq, Repr

namespace ValueType

def all : List ValueType :=
  [float, float2, float3, float4, int, uint, texture2D, texture3D, transform, colorGradient, curve]

def name : ValueType → String
  | float => "float"
  | float2 => "float2"
  | float3 => "float3"
  | float4 => "float4"
  | int => "int"
  | uint => "uint"
  | texture2D => "texture2D"
  | texture3D => "texture3D"
  | transform => "transform"
  | colorGradient => "colorGradient"
  | curve => "curve"

def ofName? (name : String) : Option ValueType := all.find? (·.name = name)

/-- The type a shader declares the value with. A texture is a sampler. A signal is declared as what
selects it: a gradient by the height of its row in the lookup texture, a curve by four numbers. -/
def shaderType : ValueType → String
  | float => "float"
  | float2 => "float2"
  | float3 => "float3"
  | float4 => "float4"
  | int => "int"
  | uint => "uint"
  | texture2D => "sampler2D"
  | texture3D => "sampler3D"
  | transform => "float4x4"
  | colorGradient => "float"
  | curve => "float4"

def components? : ValueType → Option Nat
  | float | int | uint => some 1
  | float2 => some 2
  | float3 => some 3
  | float4 => some 4
  | _ => none

def isTexture : ValueType → Bool
  | texture2D | texture3D => true
  | _ => false

def isSignal : ValueType → Bool
  | colorGradient | curve => true
  | _ => false

@[simp] theorem ofName?_name (t : ValueType) : ofName? t.name = some t := by cases t <;> decide

end ValueType

end ParticleShaders
