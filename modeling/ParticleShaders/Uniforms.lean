import ParticleShaders.Param.Naming
import ParticleShaders.Plan
import ParticleShaders.Signal.Bake

namespace ParticleShaders

structure Sharing where
  both : ParamSet
  init : ParamSet
  update : ParamSet
  output : ParamSet

namespace Sharing

def split (init update output : ParamSet) : Sharing where
  both := init.inter update
  init := init.diff update
  update := update.diff init
  output := output

end Sharing

structure Uniforms where
  plain : Sharing
  samplers : Sharing

namespace Uniforms

def naming (u : Uniforms) : Naming :=
  (∅ : Naming)
    |>.nameAll u.plain.both "globalUniform"
    |>.nameAll u.plain.init "initUniform"
    |>.nameAll u.plain.update "updateUniform"
    |>.nameAll u.samplers.both "globalSampler"
    |>.nameAll u.samplers.init "initSampler"
    |>.nameAll u.samplers.update "updateSampler"

def outputNaming (u : Uniforms) : Naming :=
  (∅ : Naming)
    |>.nameAll u.plain.output "outputUniform"
    |>.nameAll u.samplers.output "outputSampler"

end Uniforms

namespace Plan

def blockParams (blocks : List BoundBlock) : List Param := blocks.flatMap (·.params)

def initParams (plan : Plan) : ParamSet :=
  .ofList (blockParams plan.initBlocks ++ plan.init.params)

def updateParams (plan : Plan) : ParamSet := .ofList (blockParams plan.updateBlocks)

def outputParams (plan : Plan) : ParamSet :=
  .ofList (blockParams plan.outputBlocks ++ plan.output.params)

def uniforms (plan : Plan) : Uniforms where
  plain := .split plan.initParams.withoutTextures plan.updateParams.withoutTextures
    plan.outputParams.withoutTextures
  samplers := .split plan.initParams.textures plan.updateParams.textures plan.outputParams.textures

def signals (plan : Plan) : List Param :=
  plan.initParams.signals.params ++ plan.updateParams.signals.params

def bake (plan : Plan) (params : ParamTable) (before : Bake) : Bake × Except Rejection Unit :=
  match before.clear.add params plan.signals with
  | (b, .ok ()) => (b.generate, .ok ())
  | failed => failed

end Plan

end ParticleShaders
