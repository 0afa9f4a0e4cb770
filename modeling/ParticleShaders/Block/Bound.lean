import ParticleShaders.Block.Library
import ParticleShaders.ParticleSystem.Basic

namespace ParticleShaders

inductive Argument
  | param (p : Param)
  | expr (source : String)
  deriving DecidableEq, Repr

namespace Argument

def param? : Argument → Option Param
  | param p => some p
  | expr _ => none

end Argument

structure BoundBlock where
  id : String
  function : String
  descriptor : Descriptor
  arguments : List Argument
  deriving DecidableEq, Repr

namespace BoundBlock

def params (b : BoundBlock) : List Param := b.arguments.filterMap (·.param?)

end BoundBlock

def Binding.resolve (params : ParamTable) (owner property : String) (expected : ValueType) :
    Binding → Except Rejection Argument
  | .expr source => .ok (.expr source)
  | .param id =>
    match params.param? id with
    | none => .error (.unknownParam owner property id)
    | some p =>
      if p.type = expected then .ok (.param p)
      else .error (.paramType owner property id expected p.type)

namespace Block

def describe? (b : Block) (library : Library) : Option Descriptor :=
  b.descriptor <|> library.find? b.type

def argument (b : Block) (params : ParamTable) (p : PropertyDecl) : Except Rejection Argument :=
  match b.slots.find? p.name, p.fallback with
  | some binding, _ => binding.resolve params b.id p.name p.type
  | none, some source => .ok (.expr source)
  | none, none => .error (.unboundProperty b.id p.name)

def misplaced? (stage : Stage) (d : Descriptor) : Option Capability :=
  match stage with
  | .init => if d.needs .kill then some .kill else none
  | .update => none
  | .output =>
    if d.needs .rand then some .rand else if d.needs .kill then some .kill else none

def bind (library : Library) (params : ParamTable) (stage : Stage) (b : Block) :
    Except Rejection BoundBlock := do
  match b.describe? library with
  | none => .error (.unknownBlock b.id b.type)
  | some d =>
    d.check b.id
    let arguments ← d.properties.mapM (b.argument params)
    match misplaced? stage d with
    | some capability => .error (.misplaced b.id capability stage)
    | none => return ⟨b.id, d.function b.type, d, arguments⟩

end Block

end ParticleShaders
