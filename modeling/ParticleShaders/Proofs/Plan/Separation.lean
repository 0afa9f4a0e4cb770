import ParticleShaders.Proofs.Plan.Stages
import ParticleShaders.Proofs.Uniforms.Partition

namespace ParticleShaders

namespace Block

def attributes (library : Library) (b : Block) : List Attribute :=
  (b.describe? library).elim [] fun d => d.attributes.map (·.toAttribute)

theorem flatMap_attributes {library : Library} {params : ParamTable} {stage : Stage}
    {blocks : List Block} {bound : List BoundBlock}
    (h : blocks.mapM (·.bind library params stage) = .ok bound) :
    bound.flatMap (fun b => b.descriptor.attributes.map (·.toAttribute))
      = blocks.flatMap (·.attributes library) := by
  have bound := forall₂_of_mapM_eq_ok h
  clear h
  induction bound with
  | nil => rfl
  | cons first _ ih =>
    rw [List.flatMap_cons, List.flatMap_cons, ih, attributes, (Block.bind_eq_ok first).1]
    rfl

end Block

namespace ParticleSystem

def outputKind? (system : ParticleSystem) : Option (Except Rejection OutputKind) :=
  (lastSettings? system.contexts .output).map OutputGenerator.kind?

/-- Whether two systems differ only in what they draw, and draw by the same attributes. Slots,
properties, sources and settings of the drawing are free, and so is everything beside the stages. -/
structure AlikeButDrawing (library : Library) (system other : ParticleSystem) : Prop where
  init : system.contextsOf .init = other.contextsOf .init
  update : system.contextsOf .update = other.contextsOf .update
  kind : system.outputKind? = other.outputKind?
  attributes : (system.blocksOf .output).flatMap (·.attributes library)
    = (other.blocksOf .output).flatMap (·.attributes library)

end ParticleSystem

namespace Plan

structure SimulatesLike (plan other : Plan) : Prop where
  initBlocks : plan.initBlocks = other.initBlocks
  updateBlocks : plan.updateBlocks = other.updateBlocks
  demands : plan.demands = other.demands
  init : plan.init = other.init
  update : plan.update = other.update
  kind : plan.output.kind = other.output.kind
  declares : plan.outputBlocks.flatMap (fun b => b.descriptor.attributes.map (·.toAttribute))
    = other.outputBlocks.flatMap fun b => b.descriptor.attributes.map (·.toAttribute)

variable {system other : ParticleSystem} {library : Library} {params : ParamTable}
  {plan plan' : Plan}

theorem kind_of_ofSettings {settings : Settings} {g : OutputGenerator}
    (h : OutputGenerator.ofSettings settings params = .ok g) :
    OutputGenerator.kind? settings = .ok g.kind := by
  obtain ⟨kind, known, h⟩ := bind_eq_ok_iff.1 h
  obtain ⟨_, -, h⟩ := bind_eq_ok_iff.1 h
  cases h
  exact known

theorem Staged.outputKind? (s : plan.Staged system library params) :
    system.outputKind? = some (.ok plan.output.kind) := by
  obtain ⟨settings, last, made⟩ := Option.map_eq_some_iff.1 s.output
  rw [ParticleSystem.outputKind?, last, Option.map_some, kind_of_ofSettings made]

theorem Staged.blocks_eq (s : plan.Staged system library params)
    (s' : plan'.Staged other library params) {stage : Stage}
    (same : system.contextsOf stage = other.contextsOf stage) :
    plan.blocks stage = plan'.blocks stage := by
  have blocks := s.blocks stage
  rw [ParticleSystem.blocksOf, same] at blocks
  exact Except.ok.inj (blocks.symm.trans (s'.blocks stage))

theorem Staged.simulatesLike (s : plan.Staged system library params)
    (s' : plan'.Staged other library params) (alike : system.AlikeButDrawing library other) :
    plan.SimulatesLike plan' := by
  have initBlocks : plan.initBlocks = plan'.initBlocks := s.blocks_eq s' alike.init
  have updateBlocks : plan.updateBlocks = plan'.updateBlocks := s.blocks_eq s' alike.update
  constructor
  case initBlocks => exact initBlocks
  case updateBlocks => exact updateBlocks
  case demands => rw [s.demands, s'.demands, initBlocks, updateBlocks]
  case init =>
    have made := s.init
    rw [ParticleSystem.lastSettings?_congr alike.init, s'.init] at made
    exact (Except.ok.inj (Option.some.inj made)).symm
  case update =>
    have made := s.update
    rw [ParticleSystem.lastSettings?_congr alike.update, s'.update] at made
    exact (Option.some.inj made).symm
  case kind =>
    have same := alike.kind
    rw [s.outputKind?, s'.outputKind?] at same
    exact Except.ok.inj (Option.some.inj same)
  case declares =>
    have declared := Block.flatMap_attributes (s.blocks .output)
    rw [alike.attributes, ← Block.flatMap_attributes (s'.blocks .output)] at declared
    exact declared

end Plan

def Uniforms.simulationPart (u : Uniforms) : Uniforms :=
  ⟨{ u.plain with output := ∅ }, { u.samplers with output := ∅ }⟩

theorem Uniforms.naming_simulationPart {u : Uniforms} : u.simulationPart.naming = u.naming := rfl

theorem Uniforms.set_simulationPart {u : Uniforms} {k : UniformSet}
    (hk : k ∈ UniformSet.ofStage .init) : u.simulationPart.set k = u.set k := by
  obtain ⟨isSampler, part⟩ := k
  cases isSampler <;> cases part <;> first | rfl | exact absurd hk (by decide)

def Blueprint.simulationPart (d : Blueprint) : Blueprint :=
  { d with outputBlocks := [], uniforms := d.uniforms.simulationPart, outputNaming := ∅ }

theorem Blueprint.simulationText_simulationPart {d : Blueprint} {init : Option InitGenerator}
    {update : Option UpdateGenerator} :
    d.simulationPart.simulationText init update = d.simulationText init update := rfl

theorem UsageTable.ofBlocks_output (blocks : List BoundBlock) :
    ofBlocks .output blocks = addAll ∅
      ((blocks.flatMap fun b => b.descriptor.attributes.map (·.toAttribute)).map
        (·, .declared .output false)) := by
  rw [ofBlocks, List.map_flatMap]
  simp only [List.map_map]
  rfl

namespace Plan.SimulatesLike

variable {plan other : Plan} (like : plan.SimulatesLike other)

include like

theorem usages_eq : plan.usages = other.usages := by
  have needs : plan.output.needs = other.output.needs := by
    unfold OutputGenerator.needs OutputGenerator.reads
    rw [like.kind]
  simp only [usages, UsageTable.ofBlocks_output, like.initBlocks, like.updateBlocks, like.demands,
    like.init, like.update, like.declares, needs]

theorem initParams_eq : plan.initParams = other.initParams := by
  rw [initParams, like.initBlocks, like.init, initParams]

theorem updateParams_eq : plan.updateParams = other.updateParams := by
  rw [updateParams, like.updateBlocks, updateParams]

theorem bake_eq (params : ParamTable) (before : Bake) :
    plan.bake params before = other.bake params before := by
  rw [bake, signals, like.initParams_eq, like.updateParams_eq]
  rfl

theorem uniforms_eq : plan.uniforms.simulationPart = other.uniforms.simulationPart := by
  simp only [Uniforms.simulationPart, uniforms, Sharing.split, like.initParams_eq,
    like.updateParams_eq]

theorem blueprint_eq (ruled : UsageTable.Ruled) (buffers : List Buffer) (phaseShift : Bool)
    (bake : Bake) : (plan.blueprint ruled buffers phaseShift bake).simulationPart
      = (other.blueprint ruled buffers phaseShift bake).simulationPart := by
  have naming : plan.uniforms.naming = other.uniforms.naming := by
    rw [← Uniforms.naming_simulationPart, like.uniforms_eq, Uniforms.naming_simulationPart]
  simp only [Blueprint.simulationPart, blueprint, like.initBlocks, like.updateBlocks,
    like.uniforms_eq, naming]

end Plan.SimulatesLike

namespace ParticleSystem

variable {system other : ParticleSystem} {library : Library} {params : ParamTable}
  {options : Options} {before before' : Bake} {c c' : Compiled}

/-- What a system draws does not show in its simulation, nor in what is baked for it. -/
theorem compile_separates (alike : system.AlikeButDrawing library other)
    (h : (system.compile library params options before).result = .ok c)
    (h' : (other.compile library params options before').result = .ok c') :
    c.simulation = c'.simulation ∧ c.blueprint.buffers = c'.blueprint.buffers ∧
      c.blueprint.naming = c'.blueprint.naming ∧ c.layout.uniforms = c'.layout.uniforms ∧
      (∀ k ∈ UniformSet.ofStage .init, c.blueprint.uniforms.set k = c'.blueprint.uniforms.set k) ∧
      (system.compile library params options before).bake
        = (other.compile library params options before').bake := by
  obtain ⟨s, rfl⟩ := Compilation.result_eq_ok_iff.1 h
  obtain ⟨t, rfl⟩ := Compilation.result_eq_ok_iff.1 h'
  have like : s.plan.SimulatesLike t.plan := (Plan.staged_of_ofSystem s.planned).simulatesLike
    (Plan.staged_of_ofSystem t.planned) alike
  have used := like.usages_eq
  rw [s.used, t.used] at used
  obtain ⟨table, demands⟩ := Prod.mk.inj (Except.ok.inj used)
  have settled := s.settled
  rw [table, demands, t.settled] at settled
  have ruled : s.ruled = t.ruled := (Except.ok.inj settled).symm
  have laidOut := s.laidOut
  rw [ruled, t.laidOut] at laidOut
  have buffers : s.buffers = t.buffers := (Except.ok.inj laidOut).symm
  have signals := s.signals
  rw [like.bake_eq, t.signals] at signals
  have baked : s.baked = t.baked := congrArg Prod.fst signals.symm
  have blueprint : s.blueprint.simulationPart = t.blueprint.simulationPart := by
    unfold Compilation.blueprint
    rw [ruled, buffers, baked, like.blueprint_eq]
  have naming : s.blueprint.naming = t.blueprint.naming := congrArg (·.naming) blueprint
  have uniforms : s.blueprint.uniforms.simulationPart = t.blueprint.uniforms.simulationPart :=
    congrArg (·.uniforms) blueprint
  refine ⟨?_, buffers, naming, naming, fun k hk => ?_, ?_⟩
  · show s.blueprint.simulationText s.plan.init s.plan.update
      = t.blueprint.simulationText t.plan.init t.plan.update
    rw [← Blueprint.simulationText_simulationPart, blueprint, like.init, like.update,
      Blueprint.simulationText_simulationPart]
  · show s.blueprint.uniforms.set k = t.blueprint.uniforms.set k
    rw [← Uniforms.set_simulationPart hk, uniforms, Uniforms.set_simulationPart hk]
  · rw [s.compile_eq, t.compile_eq]
    exact baked

end ParticleSystem

def moths : ParticleSystem where
  version := "2"
  metadata := { name := "Moths" }
  id := "moths"
  blendMode := .alpha
  contexts := [
    { id := "drawing", stage := .output,
      settings := .ofList
        [("kind", ⟨.string "billboard", trivial⟩), ("size", ⟨.number (.int 3), trivial⟩),
         ("texture", ⟨.object [("param", .string "mask")], by simp, trivial, trivial⟩)],
      blocks := [
        { id := "flutter", type := "Flutter",
          slots := .ofList [("by", .param "swell"), ("tint", .param "glow")],
          descriptor := some
            { properties := [⟨"by", .curve, none⟩, ⟨"tint", .colorGradient, none⟩] } }] }]
    ++ lanterns.contexts.filter (·.stage ≠ .output)

theorem lanterns_alike_moths : lanterns.AlikeButDrawing ∅ moths where
  init := rfl
  update := rfl
  kind := by decide +kernel
  attributes := by decide +kernel

theorem moths_separates :
    ∃ c c', (lanterns.compile ∅ lanternValues (.ofSystem lanterns) .empty).result = .ok c ∧
      (moths.compile ∅ lanternValues (.ofSystem lanterns) .empty).result = .ok c' ∧
      c.blueprint.outputNaming.ids = ["drift", "paper"] ∧
      c'.blueprint.outputNaming.ids = ["swell", "glow", "mask"] ∧
      c.simulation = c'.simulation ∧ c.blueprint.buffers = c'.blueprint.buffers := by
  have lit : (lanterns.compile ∅ lanternValues (.ofSystem lanterns) .empty).result.toOption.map
      (·.blueprint.outputNaming.ids) = some ["drift", "paper"] := by
    decide +kernel
  have flown : (moths.compile ∅ lanternValues (.ofSystem lanterns) .empty).result.toOption.map
      (·.blueprint.outputNaming.ids) = some ["swell", "glow", "mask"] := by
    decide +kernel
  obtain ⟨c, h, drawn⟩ := exists_of_toOption lit
  obtain ⟨c', h', drawn'⟩ := exists_of_toOption flown
  obtain ⟨simulation, buffers, -⟩ := ParticleSystem.compile_separates lanterns_alike_moths h h'
  exact ⟨c, c', h, h', drawn, drawn', simulation, buffers⟩

end ParticleShaders
