import ParticleShaders.Block.Descriptor
import ParticleShaders.Param.Table

namespace ParticleShaders

inductive BlendMode
  | masked
  | additive
  | alpha
  deriving DecidableEq, Repr

namespace BlendMode

def name : BlendMode → String
  | masked => "masked"
  | additive => "additive"
  | alpha => "alpha"

def ofName? : String → Option BlendMode
  | "masked" => some masked
  | "additive" => some additive
  | "alpha" => some alpha
  | _ => none

@[simp] theorem ofName?_name (b : BlendMode) : ofName? b.name = some b := by cases b <;> rfl

end BlendMode

inductive Binding
  | param (id : String)
  | expr (source : String)
  deriving DecidableEq, Repr

structure Block where
  id : String
  type : String
  slots : Dict Binding := ∅
  descriptor : Option Descriptor := none

structure Context where
  id : String
  stage : Stage
  settings : Dict Json.Value := ∅
  blocks : List Block := []

structure Metadata where
  name : String
  created : Option String := none
  modified : Option String := none
  deriving DecidableEq, Repr

structure ParticleSystem where
  version : String
  metadata : Metadata
  id : String
  blendMode : BlendMode := .additive
  phaseShift : Bool := false
  params : List ParamDecl := []
  contexts : List Context

end ParticleShaders
