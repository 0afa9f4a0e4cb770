import ParticleShaders.Generator.Basic
import ParticleShaders.UsageTable.Rules
/-! The plan of a system: for each stage its generator and its blocks, bound and in order. -/

namespace ParticleShaders

structure Plan where
  initBlocks : List BoundBlock
  updateBlocks : List BoundBlock
  outputBlocks : List BoundBlock
  demands : Demands
  init : InitGenerator
  update : UpdateGenerator
  output : OutputGenerator

namespace Plan

structure Found where
  init : Option InitGenerator := none
  update : Option UpdateGenerator := none
  output : Option OutputGenerator := none

def settle (params : ParamTable) (found : Found) (c : Context) : Except Rejection Found :=
  match c.stage with
  | .init => (InitGenerator.ofSettings c.settings params).map fun g => { found with init := some g }
  | .update => .ok { found with update := some (UpdateGenerator.ofSettings c.settings) }
  | .output =>
    (OutputGenerator.ofSettings c.settings params).map fun g => { found with output := some g }

def orMissing {α : Type} (stage : Stage) : Option α → Except Rejection α
  | some g => .ok g
  | none => .error (.missingStage stage)

def stagedBlocks (contexts : List Context) : List (Stage × Block) :=
  contexts.flatMap fun c => c.blocks.map (c.stage, ·)

def bindStaged (library : Library) (params : ParamTable) (b : Stage × Block) :
    Except Rejection (Stage × BoundBlock) :=
  (b.2.bind library params b.1).map (b.1, ·)

def blocksOf (stage : Stage) (blocks : List (Stage × BoundBlock)) : List BoundBlock :=
  (blocks.filter (·.1 = stage)).map (·.2)

def anyNeeds (c : Capability) (blocks : List BoundBlock) : Bool :=
  blocks.any (·.descriptor.needs c)

/-- The plan of a system. Settings are looked at first, in all contexts; then the blocks. -/
def ofSystem (system : ParticleSystem) (library : Library) (params : ParamTable) :
    Except Rejection Plan := do
  let found ← system.contexts.foldlM (settle params) {}
  let init ← orMissing .init found.init
  let update ← orMissing .update found.update
  let output ← orMissing .output found.output
  let blocks ← (stagedBlocks system.contexts).mapM (bindStaged library params)
  let initBlocks := blocksOf .init blocks
  let updateBlocks := blocksOf .update blocks
  if initBlocks.isEmpty && updateBlocks.isEmpty then .error .empty
  else return {
    initBlocks
    updateBlocks
    outputBlocks := blocksOf .output blocks
    demands := {
      initRand := anyNeeds .rand initBlocks
      updateRand := anyNeeds .rand updateBlocks
      updateKill := anyNeeds .kill updateBlocks }
    init
    update
    output }

end Plan

end ParticleShaders
