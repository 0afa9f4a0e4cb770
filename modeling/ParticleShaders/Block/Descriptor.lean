import ParticleShaders.Attribute
import ParticleShaders.Rejection
import ParticleShaders.Text.Identifier

namespace ParticleShaders

structure AttributeDecl where
  name : String
  type : ValueType
  writable : Bool := false
  deriving DecidableEq, Repr

structure PropertyDecl where
  name : String
  type : ValueType
  fallback : Option String := none
  deriving DecidableEq, Repr

structure Descriptor where
  functionName : Option String := none
  capabilities : List Capability := []
  attributes : List AttributeDecl := []
  properties : List PropertyDecl := []
  source : List String := []
  deriving DecidableEq, Repr

def AttributeDecl.toAttribute (d : AttributeDecl) : Attribute := ⟨d.name, d.type⟩

namespace Descriptor

def needs (d : Descriptor) (c : Capability) : Bool := d.capabilities.contains c

def function (d : Descriptor) (blockType : String) : String :=
  Text.toIdentifier (d.functionName.getD blockType)

def names (d : Descriptor) : List String := d.attributes.map (·.name) ++ d.properties.map (·.name)

def check (d : Descriptor) (owner : String) : Except Rejection Unit :=
  match d.names.find? (!Text.isIdentifier ·) with
  | some name => .error (.invalidName owner name)
  | none =>
    match d.attributes.find? (·.type.components?.isNone) with
    | some a => .error (.unpackableAttribute owner a.name a.type)
    | none => .ok ()

end Descriptor

end ParticleShaders
