import ParticleShaders.Proofs.Renaming.Pushing
import ParticleShaders.Proofs.Renaming.Shaders
import ParticleShaders.Proofs.Usage.Rejections

namespace ParticleShaders

def Compiled.rename (ρ : String ↪ String) (c : Compiled) : Compiled where
  systemId := c.systemId
  simulation := c.simulation
  drawing := c.drawing
  blueprint := c.blueprint.rename ρ
  layout := c.layout.rename ρ

structure Outcome.SameButNames (ρ : String ↪ String) (o o' : Outcome) : Prop where
  result : o'.result = renameResult ρ (·.rename ρ) o.result
  compiled : ∀ c, o.result = .ok c → o'.diagnostics = o.diagnostics ∧
    o'.bake.colorTexture? = o.bake.colorTexture? ∧ o'.bake.floatTexture? = o.bake.floatTexture? ∧
    ∀ values, (c.rename ρ).layout.pushes (values.rename ρ) o'.bake
      = renameResult ρ (fun pushes => pushes) (c.layout.pushes values o.bake)

namespace Plan

variable (ρ : String ↪ String) (plan : Plan)

theorem ofBlocks_rename (stage : Stage) (blocks : List BoundBlock) :
    UsageTable.ofBlocks stage (blocks.map (·.rename ρ)) = .ofBlocks stage blocks := by
  rw [UsageTable.ofBlocks, List.flatMap_map]
  rfl

theorem usages_rename : (plan.rename ρ).usages = plan.usages := by
  have needs : (plan.init.rename ρ).needs = plan.init.needs := by
    rw [InitGenerator.needs, InitGenerator.rename, Option.isSome_map]
    rfl
  unfold usages
  simp only [rename, ofBlocks_rename, needs]
  rfl

theorem blueprint_rename (ruled : UsageTable.Ruled) (buffers : List Buffer) (phaseShift : Bool)
    (bake : Bake) : (plan.rename ρ).blueprint ruled buffers phaseShift (bake.rename ρ)
      = (plan.blueprint ruled buffers phaseShift bake).rename ρ := by
  simp only [blueprint, uniforms_rename, Uniforms.naming_rename, Uniforms.outputNaming_rename,
    Bake.code_rename]
  rfl

theorem diagnostics_rename : Diagnostic.ofPlan (plan.rename ρ) = Diagnostic.ofPlan plan := by
  rw [Diagnostic.ofPlan, plan.uniforms_rename]
  simp only [rename, List.length_map, Uniforms.rename, Sharing.rename, ParamSet.size_rename]
  rfl

end Plan

namespace Compilation

variable {system : ParticleSystem} {library : Library} {params : ParamTable} {options : Options}
  (ρ : String ↪ String) (s : Compilation system library params options)

def rename : Compilation (system.rename ρ) library (params.rename ρ) options where
  plan := s.plan.rename ρ
  table := s.table
  demands := s.demands
  ruled := s.ruled
  buffers := s.buffers
  baked := s.baked.rename ρ
  planned := by
    rw [Plan.ofSystem_rename fun id _ => ParamTable.param?_rename ρ.injective params id, s.planned]
    rfl
  used := by rw [Plan.usages_rename, s.used]
  settled := s.settled
  laidOut := s.laidOut
  signals := by
    rw [Plan.bake_rename ρ s.plan params .empty, s.signals]
    rfl

theorem compiled_rename : (s.rename ρ).compiled = s.compiled.rename ρ := by
  have blueprint : (s.rename ρ).blueprint = s.blueprint.rename ρ :=
    s.plan.blueprint_rename ρ s.ruled s.buffers options.phaseShift s.baked
  have simulation : (s.blueprint.rename ρ).simulationText (s.plan.rename ρ).init
      (s.plan.rename ρ).update = s.blueprint.simulationText s.plan.init s.plan.update :=
    s.names.simulationText_rename ρ
  have drawing : (s.blueprint.rename ρ).drawingText system.id system.blendMode
      (s.plan.rename ρ).output
      = s.blueprint.drawingText system.id system.blendMode s.plan.output :=
    s.names.drawingText_rename ρ system.id system.blendMode
  show (s.plan.rename ρ).compiled (system.rename ρ) (s.rename ρ).blueprint = _
  rw [blueprint, Plan.compiled, simulation]
  show Compiled.mk system.id _ ((s.blueprint.rename ρ).drawingText system.id system.blendMode
    (s.plan.rename ρ).output) _ _ = _
  rw [drawing]
  rfl

end Compilation

namespace ParticleSystem

variable (ρ : String ↪ String) (system : ParticleSystem) (library : Library) (params : ParamTable)
  (options : Options)

/-- Behind the plan no rejection speaks of parameters. -/
theorem result_rename (before before' : Bake) :
    ((system.rename ρ).compile library (params.rename ρ) options before').result
      = renameResult ρ (·.rename ρ) (system.compile library params options before).result := by
  have renamed : Plan.ofSystem (system.rename ρ) library (params.rename ρ)
      = renameResult ρ (·.rename ρ) (Plan.ofSystem system library params) :=
    Plan.ofSystem_rename (fun id _ => ParamTable.param?_rename ρ.injective params id) library
  cases planned : Plan.ofSystem system library params with
  | error e =>
    rw [planned] at renamed
    rw [compile, compile, planned, renamed]
    rfl
  | ok plan =>
    rw [planned] at renamed
    rcases compile_cases_of_planned planned options with ⟨s, -⟩ | ⟨e, told, left, about, failed⟩
    · rw [s.compile_eq, (s.rename ρ).compile_eq, s.compiled_rename]
      rfl
    · have nameless : e.rename ρ = e := by
        cases e with
        | unknownParam block property param => cases about
        | paramType block property param expected found => cases about
        | outputSignal param type => cases about
        | missingValue param => cases about
        | _ => rfl
      rw [failed planned rfl, failed renamed (plan.usages_rename ρ)]
      exact congrArg Except.error nameless.symm

/-- Parameters are only names. By new names, however they read, a system compiles to the same
shaders and buffers or is rejected for the same reason; what is baked is the same, and so is what
is pushed. -/
theorem compile_rename (before before' : Bake) :
    (system.compile library params options before).SameButNames ρ
      ((system.rename ρ).compile library (params.rename ρ) options before') := by
  refine ⟨result_rename ρ system library params options before before', fun c h => ?_⟩
  obtain ⟨s, rfl⟩ := Compilation.result_eq_ok_iff.1 h
  rw [s.compile_eq, (s.rename ρ).compile_eq]
  have told := congrArg (s.ruled.defaulted.map Diagnostic.uninitialized
    ++ Diagnostic.ofBuffers s.ruled.table s.buffers ++ ·) (s.plan.diagnostics_rename ρ)
  exact ⟨told, s.baked.colorTexture?_rename ρ, s.baked.floatTexture?_rename ρ,
    fun values => s.compiled.layout.pushes_rename ρ values s.baked⟩

end ParticleSystem

theorem lanterns_renamed : ∃ ρ : String ↪ String, ∃ c,
    (lanterns.compile ∅ lanternValues (.ofSystem lanterns) .empty).result = .ok c ∧
      ((lanterns.rename ρ).compile ∅ (lanternValues.rename ρ) (.ofSystem lanterns) .empty).result
        = .ok (c.rename ρ) ∧
      (c.rename ρ).blueprint.naming.entries =
        [("globalSampler0", "globalUniform0"), ("span", "initUniform0"), ("glow", "updateUniform0"),
         ("swell", "updateUniform1"), ("grain", "globalSampler0"), ("mask", "updateSampler0")] := by
  let ρ : String ↪ String := (Equiv.swap "drift" "globalSampler0").toEmbedding
  have compiled :
      (lanterns.compile ∅ lanternValues (.ofSystem lanterns) .empty).result.toOption.map
        (·.blueprint.naming.entries) = some
        [("drift", "globalUniform0"), ("span", "initUniform0"), ("glow", "updateUniform0"),
         ("swell", "updateUniform1"), ("grain", "globalSampler0"), ("mask", "updateSampler0")] := by
    decide +kernel
  obtain ⟨c, h, named⟩ := exists_of_toOption compiled
  have same := (ParticleSystem.compile_rename ρ lanterns ∅ lanternValues (.ofSystem lanterns)
    .empty .empty).result
  rw [h] at same
  refine ⟨ρ, c, h, same, ?_⟩
  show c.blueprint.naming.entries.map (fun e => (ρ e.1, e.2)) = _
  rw [named]
  decide +kernel

end ParticleShaders
