import ParticleShaders.Diagnostic
import ParticleShaders.Host.Layout
import ParticleShaders.Shader.Drawing
import ParticleShaders.Shader.Simulation
/-! Compiling a particle system: from its description to its shaders and the layout for the host. -/

namespace ParticleShaders

structure Options where
  phaseShift : Bool := false
  bufferLimit : Nat := UsageTable.defaultBufferLimit
  deriving DecidableEq, Repr

def Options.ofSystem (s : ParticleSystem) : Options := { phaseShift := s.phaseShift }

structure Compiled where
  systemId : String
  simulation : String
  drawing : String
  blueprint : Blueprint
  layout : HostLayout

def shaderName (systemId : String) : String := "VFX_" ++ systemId

def Compiled.name (c : Compiled) : String := shaderName c.systemId

/-- What a compilation leaves behind, whether it succeeded or not. -/
structure Outcome where
  result : Except Rejection Compiled
  diagnostics : List Diagnostic
  options : Options
  bake : Bake

namespace Plan

def usages (plan : Plan) : Except Rejection (UsageTable × Demands) := do
  let declared :=
    ((UsageTable.ofBlocks .init plan.initBlocks).merge
      (.ofBlocks .update plan.updateBlocks)).merge (.ofBlocks .output plan.outputBlocks)
  let (afterInit, initNeeds) := Need.meetAll .init plan.init.needs declared
  let initTakes ← initNeeds
  let (afterUpdate, updateNeeds) := Need.meetAll .update plan.update.needs afterInit
  let updateTakes ← updateNeeds
  let (table, outputNeeds) := Need.meetAll .output plan.output.needs afterUpdate
  let _ ← outputNeeds
  return (table, {
    initRand := plan.demands.initRand || initTakes.contains .rand
    updateRand := plan.demands.updateRand || updateTakes.contains .rand
    updateKill := plan.demands.updateKill || updateTakes.contains .kill })

def blueprint (plan : Plan) (ruled : UsageTable.Ruled) (buffers : List Buffer) (phaseShift : Bool)
    (bake : Bake) : Blueprint where
  initBlocks := plan.initBlocks
  updateBlocks := plan.updateBlocks
  outputBlocks := plan.outputBlocks
  hasKill := ruled.demands.updateKill
  hasRand := ruled.demands.rand
  phaseShift := phaseShift
  buffers := buffers
  uniforms := plan.uniforms
  naming := plan.uniforms.naming
  outputNaming := plan.uniforms.outputNaming
  signals := bake.code

def compiled (plan : Plan) (system : ParticleSystem) (d : Blueprint) : Compiled where
  systemId := system.id
  simulation := d.simulationText plan.init plan.update
  drawing := d.drawingText system.id system.blendMode plan.output
  blueprint := d
  layout := d.hostLayout plan.output

end Plan

namespace Diagnostic

def ofBuffers (table : UsageTable) (buffers : List Buffer) : List Diagnostic :=
  [attributeCount table.size, bufferCount buffers.length]
    ++ buffers.map fun b => bufferLayout b.index (b.attributes.map (·.name)) b.byteSize

def ofPlan (plan : Plan) : List Diagnostic :=
  [.blockCount .init plan.initBlocks.length,
   .blockCount .update plan.updateBlocks.length,
   .blockCount .output plan.outputBlocks.length,
   .uniformCounts plan.uniforms.plain.both.size plan.uniforms.plain.init.size
    plan.uniforms.plain.update.size plan.uniforms.plain.output.size]

def ofRejection : Rejection → Diagnostic
  | .tooManyBuffers used max => .tooManyBuffers used max
  | e => .rejected e.message

end Diagnostic

namespace ParticleSystem

def reject (e : Rejection) (told : List Diagnostic) (options : Options) (bake : Bake) : Outcome :=
  ⟨.error e, told ++ [.ofRejection e], options, bake⟩

def layOut (table : UsageTable) (limit : Nat) : Except Rejection (List Buffer) := do
  table.checkNames
  table.pack limit

def finish (system : ParticleSystem) (plan : Plan) (ruled : UsageTable.Ruled)
    (buffers : List Buffer) (told : List Diagnostic) (params : ParamTable) (options : Options)
    (before : Bake) : Outcome :=
  match plan.bake params before with
  | (bake, .error e) => reject e told options bake
  | (bake, .ok ()) =>
    { result := .ok (plan.compiled system (plan.blueprint ruled buffers options.phaseShift bake))
      diagnostics := told ++ Diagnostic.ofPlan plan
      options
      bake }

/-- A phase shift that the system cannot have is taken out of the options. -/
def compile (system : ParticleSystem) (library : Library) (params : ParamTable) (options : Options)
    (bake : Bake) : Outcome :=
  match Plan.ofSystem system library params with
  | .error e => reject e [] options bake
  | .ok plan =>
    match plan.usages with
    | .error e => reject e [] options bake
    | .ok (table, demands) =>
      match table.applyRules demands options.phaseShift with
      | .error e => reject e [] { options with phaseShift := false } bake
      | .ok ruled =>
        let warnings := ruled.defaulted.map Diagnostic.uninitialized
        match layOut ruled.table options.bufferLimit with
        | .error e => reject e warnings options bake
        | .ok buffers =>
          finish system plan ruled buffers (warnings ++ Diagnostic.ofBuffers ruled.table buffers)
            params options bake

end ParticleSystem

end ParticleShaders
