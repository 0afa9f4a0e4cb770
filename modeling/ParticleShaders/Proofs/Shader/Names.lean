import ParticleShaders.Proofs.Param.Types
import ParticleShaders.Proofs.Shader.Accesses
import ParticleShaders.Proofs.Usage.Grouping

namespace ParticleShaders

namespace Declaration

/-- The names of functions that a declaration gives besides those of blocks. The functions that
sample signals are taken over as text. -/
def functionNames : Declaration → List String
  | routine name _ _ => [name]
  | line text =>
    if text = "float4 sampleSignal(float v,float u)"
      || text = "float sampleSignal(float4 curveData,float u)" then ["sampleSignal"] else []
  | _ => []

/-- No parameter of a function, no member of a struct and no function of a block bears a name that
is taken already. -/
structure NoRepeats (shader : List Declaration) : Prop where
  parameters : ∀ f, blockFunction f ∈ shader → (f.parameters.map (·.name)).Nodup
  members : ∀ name fields, struct name fields ∈ shader → (fields.map (·.name)).Nodup
  functions : ∀ f, blockFunction f ∈ shader → f.function ∉ shader.flatMap (·.functionNames)

end Declaration

structure Descriptor.NamesApart (d : Descriptor) : Prop where
  distinct : d.names.Nodup
  seed : d.needs .rand → "seed" ∉ d.names
  kill : d.needs .kill → "kill" ∉ d.names

theorem BoundBlock.nodup_parameters_iff {b : BoundBlock} :
    (b.parameters.map (·.name)).Nodup ↔ b.descriptor.NamesApart := by
  have names : b.parameters.map (·.name) = b.descriptor.names
      ++ ((if b.descriptor.needs .rand then ["seed"] else [])
        ++ if b.descriptor.needs .kill then ["kill"] else []) := by
    unfold parameters Descriptor.names
    cases b.descriptor.needs .rand <;> cases b.descriptor.needs .kill <;>
      simp [Function.comp_def]
  have own : ((if b.descriptor.needs .rand then ["seed"] else [])
      ++ if b.descriptor.needs .kill then ["kill"] else []).Nodup := by
    split <;> split <;> decide
  rw [names, List.nodup_append', List.disjoint_right]
  simp only [own, true_and, List.mem_append, List.mem_ite_nil_right, List.mem_singleton]
  constructor
  · rintro ⟨distinct, apart⟩
    exact ⟨distinct, fun rand => apart (.inl ⟨rand, rfl⟩), fun kill => apart (.inr ⟨kill, rfl⟩)⟩
  · rintro ⟨distinct, seed, kill⟩
    refine ⟨distinct, ?_⟩
    rintro name (⟨needed, rfl⟩ | ⟨needed, rfl⟩)
    · exact seed needed
    · exact kill needed

def Buffer.PaddingApart (b : Buffer) : Prop :=
  b.byteSize = 12 → "_PADDING_0" ∉ b.attributes.map (·.name)

theorem Buffer.nodup_members_iff {b : Buffer} (distinct : (b.attributes.map (·.name)).Nodup) :
    (b.members.map (·.name)).Nodup ↔ b.PaddingApart := by
  have padding : b.padding.map (·.name) = if b.byteSize = 12 then ["_PADDING_0"] else [] := by
    unfold Buffer.padding Buffer.stride
    split
    · next twelve =>
      rw [twelve]
      rfl
    · simp
  have names : b.members.map (·.name) = b.attributes.map (·.name) ++ b.padding.map (·.name) := by
    simp [members, Function.comp_def]
  have own : (if b.byteSize = 12 then ["_PADDING_0"] else []).Nodup := by
    split <;> decide
  rw [names, padding, List.nodup_append', List.disjoint_right]
  simp only [distinct, own, true_and, List.mem_ite_nil_right, List.mem_singleton]
  constructor
  · intro apart twelve
    exact apart ⟨twelve, rfl⟩
  · rintro apart name ⟨twelve, rfl⟩
    exact apart twelve

namespace Plan

variable (plan : Plan) (phaseShift : Bool)

def ownFunctions : Stage → List String
  | .init | .update =>
    ["CSVFXInit", "CSVFXUpdate"] ++ (if plan.isRandom phaseShift then ["rand"] else [])
      ++ if plan.simulates .colorGradient || plan.simulates .curve then ["sampleSignal"] else []
  | .output =>
    ["vert", "frag"]
      ++ if plan.output.isQuad && plan.packs phaseShift .angle then ["rotateCorner"] else []

end Plan

def Blueprint.structured (d : Blueprint) : Stage → List Buffer
  | .init | .update => d.buffers
  | .output => d.outputBuffers

namespace Plan

variable {plan : Plan} {d : Blueprint} {stage : Stage} {name : String}

theorem struct_mem_shader {fields : List Field} :
    Declaration.struct name fields ∈ plan.shader d stage ↔
      (∃ b ∈ d.structured stage, b.struct = .struct name fields) ∨
        stage = .output ∧ d.vertexStruct plan.output = .struct name fields := by
  have noFunction : Declaration.struct name fields ∉
      Declaration.blockFunctions (functionBlocks d.blocks stage) := fun mem => by
    obtain ⟨_, h⟩ := Declaration.exists_of_mem_functionsBeside mem
    cases h
  rw [shader_eq, List.mem_append, List.mem_append, or_iff_left noFunction]
  cases stage with
  | output =>
    simp [preface, programs, Blueprint.outputDeclarations, ParamSet.constants, ParamSet.samplers,
      Declaration.blank, OutputGenerator.functions, Blueprint.vertexProgram,
      Blueprint.fragmentProgram, Blueprint.structured, @eq_comm _ (Declaration.struct name fields)]
  | _ =>
    simp [preface, programs, Declaration.lines, Blueprint.frameConstants, Blueprint.spawnConstants,
      Blueprint.paramDeclarations, ParamSet.constants, ParamSet.samplers,
      Blueprint.lookupTextures, Blueprint.bufferDeclarations, Blueprint.lifeDeclarations,
      Blueprint.randFunction, Blueprint.sampleFunctions, Declaration.blank, Blueprint.initKernel,
      Blueprint.updateKernel, Blueprint.structured]

theorem functionNames_preface :
    (plan.preface d stage).flatMap Declaration.functionNames =
      match stage with
      | .init | .update => (if d.hasRand then ["rand"] else [])
        ++ d.sampleFunctions.flatMap Declaration.functionNames
      | .output => [] := by
  cases stage with
  | output =>
    simp [preface, Blueprint.outputDeclarations, Blueprint.vertexStruct, ParamSet.constants,
      ParamSet.samplers, Declaration.blank, List.flatMap_map, apply_ite (List.flatMap _),
      Buffer.struct, Declaration.functionNames]
  | _ =>
    simp [preface, Declaration.lines, Blueprint.pragmas, Blueprint.preamble,
      Blueprint.frameConstants, Blueprint.spawnConstants, Blueprint.paramDeclarations,
      ParamSet.constants, ParamSet.samplers, Blueprint.lookupTextures, Blueprint.bufferDeclarations,
      Blueprint.lifeDeclarations, Blueprint.randFunction, Declaration.blank, List.flatMap_map,
      apply_ite (List.flatMap _), Buffer.struct, Declaration.functionNames]

theorem functionNames_programs :
    (plan.programs d stage).flatMap Declaration.functionNames =
      match stage with
      | .init | .update => ["CSVFXInit", "CSVFXUpdate"]
      | .output => (if plan.output.turns d then ["rotateCorner"] else []) ++ ["vert", "frag"] := by
  cases stage with
  | output =>
    simp [programs, OutputGenerator.functions, Blueprint.vertexProgram, Blueprint.fragmentProgram,
      apply_ite (List.flatMap _), Declaration.functionNames]
  | _ => rfl

theorem mem_functionNames_shader : name ∈ (plan.shader d stage).flatMap (·.functionNames) ↔
    name ∈ (plan.preface d stage).flatMap Declaration.functionNames ∨
      name ∈ (plan.programs d stage).flatMap Declaration.functionNames := by
  have noFunction : (Declaration.blockFunctions (functionBlocks d.blocks stage)).flatMap
      Declaration.functionNames = [] := by
    rw [List.flatMap_eq_nil_iff]
    intro m hm
    obtain ⟨b, rfl⟩ := Declaration.exists_of_mem_functionsBeside hm
    rfl
  rw [shader_eq, List.flatMap_append, List.flatMap_append, noFunction, List.append_nil,
    List.mem_append]

theorem functionNames_sampleFunctions {b : Bake} (code : d.signals = b.code) :
    d.sampleFunctions.flatMap Declaration.functionNames =
      (if b.hasColor then ["sampleSignal"] else [])
        ++ if b.hasFloat then ["sampleSignal"] else [] := by
  rw [Blueprint.sampleFunctions, code, Bake.code, Bake.functions]
  cases b.hasColor <;> cases b.hasFloat <;> decide

end Plan

namespace Compilation

variable {system : ParticleSystem} {library : Library} {params : ParamTable} {options : Options}
  (s : Compilation system library params options) {stage : Stage}

theorem turns_eq : s.plan.output.turns s.blueprint
    = (s.plan.output.isQuad && s.plan.packs options.phaseShift .angle) := by
  rw [OutputGenerator.turns, Bool.eq_iff_iff.2 s.holds_iff]

theorem functionNames_sampleFunctions :
    s.blueprint.sampleFunctions.flatMap Declaration.functionNames =
      (if s.plan.simulates .colorGradient then ["sampleSignal"] else [])
        ++ if s.plan.simulates .curve then ["sampleSignal"] else [] := by
  have r := Plan.resolved_of_ofSystem s.planned
  obtain ⟨baked, signals, shown⟩ := r.bake_eq_ok
  obtain rfl : baked = s.baked := congrArg Prod.fst (signals.symm.trans s.signals)
  have code : s.blueprint.signals = s.baked.code := rfl
  rw [Plan.functionNames_sampleFunctions code, Bake.hasColor_eq, Bake.hasFloat_eq,
    r.isSome_colorTexture? shown, r.isSome_floatTexture? shown]

theorem mem_functionNames {name : String} :
    name ∈ (s.plan.shader s.blueprint stage).flatMap (·.functionNames) ↔
      name ∈ s.plan.ownFunctions options.phaseShift stage := by
  rw [Plan.mem_functionNames_shader, Plan.functionNames_preface, Plan.functionNames_programs]
  cases stage with
  | output =>
    simp only [s.turns_eq, Plan.ownFunctions]
    grind
  | _ =>
    simp only [s.functionNames_sampleFunctions, s.hasRand_eq, Plan.ownFunctions]
    grind

theorem nodup_names_attributes {b : Buffer} (hb : b ∈ s.buffers) :
    (b.attributes.map (·.name)).Nodup := by
  refine (UsageTable.grouping_of_pack s.packed).nodup_attributes hb |>.map_on ?_
  intro a ha c hc same
  exact UsageTable.eq_of_name_eq s.named ((UsageTable.exists_buffer_iff s.packed).1 ⟨b, hb, ha⟩)
    ((UsageTable.exists_buffer_iff s.packed).1 ⟨b, hb, hc⟩) same

theorem noRepeats_iff : Declaration.NoRepeats (s.plan.shader s.blueprint stage) ↔
    (∀ f, (functionBlocks s.plan.blocks stage).find? (·.function = f.function) = some f →
      f.descriptor.NamesApart ∧ f.function ∉ s.plan.ownFunctions options.phaseShift stage) ∧
    ∀ b ∈ s.blueprint.structured stage, b.PaddingApart := by
  have functions {f : BoundBlock} : Declaration.blockFunction f ∈ s.plan.shader s.blueprint stage ↔
      (functionBlocks s.plan.blocks stage).find? (·.function = f.function) = some f := by
    rw [Plan.blockFunction_mem_shader, show s.blueprint.blocks = _ from s.blocks_eq]
  have packed {b : Buffer} (hb : b ∈ s.blueprint.structured stage) : b ∈ s.buffers := by
    cases stage with
    | output => exact List.mem_of_mem_filter hb
    | _ => exact hb
  constructor
  · rintro ⟨parameters, members, apart⟩
    refine ⟨fun f first => ⟨?_, ?_⟩, fun b hb => ?_⟩
    · exact BoundBlock.nodup_parameters_iff.1 (parameters f (functions.2 first))
    · exact fun own => apart f (functions.2 first) (s.mem_functionNames.2 own)
    · have written : b.struct ∈ s.plan.shader s.blueprint stage :=
        Plan.struct_mem_shader.2 (.inl ⟨b, hb, rfl⟩)
      exact (Buffer.nodup_members_iff (s.nodup_names_attributes (packed hb))).1
        (members _ _ written)
  · rintro ⟨blocks, padding⟩
    refine ⟨fun f hf => ?_, fun name fields written => ?_, fun f hf own => ?_⟩
    · exact BoundBlock.nodup_parameters_iff.2 (blocks f (functions.1 hf)).1
    · rcases Plan.struct_mem_shader.1 written with ⟨b, hb, same⟩ | ⟨-, same⟩
      · cases same
        exact (Buffer.nodup_members_iff (s.nodup_names_attributes (packed hb))).2 (padding b hb)
      · -- no buffer gives the struct of the vertices, and its members have fixed names
        cases same
        unfold OutputGenerator.vertexFields
        cases s.blueprint.isColored <;> cases s.plan.output.kind <;> decide
    · exact (blocks f (functions.1 hf)).2 (s.mem_functionNames.1 own)

end Compilation

/-- The names of a compiled system are apart where blocks keep to names of their own. -/
theorem ParticleSystem.compile_names {system : ParticleSystem} {library : Library}
    {params : ParamTable} {options : Options} {bake : Bake} {c : Compiled}
    (h : (system.compile library params options bake).result = .ok c) :
    ∃ plan, Plan.ofSystem system library params = .ok plan ∧
      c = plan.compiled system c.blueprint ∧ ∀ stage,
        (Declaration.NoRepeats (plan.shader c.blueprint stage) ↔
          (∀ f, (functionBlocks plan.blocks stage).find? (·.function = f.function) = some f →
            f.descriptor.NamesApart ∧
              f.function ∉ plan.ownFunctions options.phaseShift stage) ∧
          ∀ b ∈ c.blueprint.structured stage, b.PaddingApart) := by
  obtain ⟨s, rfl⟩ := Compilation.result_eq_ok_iff.1 h
  exact ⟨s.plan, s.planned, rfl, fun _ => s.noRepeats_iff⟩

def echoes : ParticleSystem where
  version := "1"
  metadata := { name := "Echoes" }
  id := "echoes"
  contexts := [
    { id := "birth", stage := .init,
      blocks := [
        { id := "place", type := "Place", descriptor := some
            { attributes := [⟨"position", .float3, true⟩], source := ["position = 0.0;"] } },
        { id := "echo", type := "rand", descriptor := some
            { capabilities := [.rand],
              attributes := [⟨"_PADDING_0", .float3, true⟩],
              properties := [{ name := "seed", type := .float, fallback := some "1.0" }],
              source := ["_PADDING_0 = seed;"] } }] },
    { id := "life", stage := .update },
    { id := "drawing", stage := .output }]

theorem echoes_names : ∃ c, (echoes.compile ∅ ∅ (.ofSystem echoes) .empty).result = .ok c ∧
    ∃ plan, Plan.ofSystem echoes ∅ ∅ = .ok plan ∧ c = plan.compiled echoes c.blueprint ∧
      ∀ stage, (Declaration.NoRepeats (plan.shader c.blueprint stage) ↔
        (∀ f, (functionBlocks plan.blocks stage).find? (·.function = f.function) = some f →
          f.descriptor.NamesApart ∧ f.function ∉ plan.ownFunctions false stage) ∧
        ∀ b ∈ c.blueprint.structured stage, b.PaddingApart) := by
  have compiled : (echoes.compile ∅ ∅ (.ofSystem echoes) .empty).result.toOption.map
      (·.blueprint.initBlocks.length) = some 2 := by
    decide +kernel
  obtain ⟨c, h, -⟩ := exists_of_toOption compiled
  exact ⟨c, h, ParticleSystem.compile_names h⟩

theorem echoes_repeat : ∃ c, (echoes.compile ∅ ∅ (.ofSystem echoes) .empty).result = .ok c ∧
    ∃ plan, Plan.ofSystem echoes ∅ ∅ = .ok plan ∧ c = plan.compiled echoes c.blueprint ∧
      ¬ Declaration.NoRepeats (plan.shader c.blueprint .init) ∧
      (∃ f, Declaration.blockFunction f ∈ plan.shader c.blueprint .init ∧
        f.parameters.map (·.name) = ["_PADDING_0", "seed", "seed"] ∧
        f.function ∈ (plan.shader c.blueprint .init).flatMap (·.functionNames)) ∧
      ∃ name fields, Declaration.struct name fields ∈ plan.shader c.blueprint .init ∧
        fields.map (·.name) = ["_PADDING_0", "_PADDING_0"] := by
  have compiled : (echoes.compile ∅ ∅ (.ofSystem echoes) .empty).result.toOption.map
      (fun c => (c.blueprint.hasRand,
        ((functionBlocks c.blueprint.blocks .init).find? (·.function = "rand")).map
          (·.parameters.map (·.name)),
        c.blueprint.buffers[1]?.map (·.members.map (·.name))))
      = some (true, some ["_PADDING_0", "seed", "seed"], some ["_PADDING_0", "_PADDING_0"]) := by
    decide +kernel
  obtain ⟨c, h, same⟩ := exists_of_toOption compiled
  obtain ⟨s, rfl⟩ := Compilation.result_eq_ok_iff.1 h
  obtain ⟨random, same⟩ := Prod.mk.inj same
  obtain ⟨echo, padded⟩ := Prod.mk.inj same
  obtain ⟨f, first, parameters⟩ := Option.map_eq_some_iff.1 echo
  obtain ⟨b, found, members⟩ := Option.map_eq_some_iff.1 padded
  have named : f.function = "rand" := by simpa using List.find?_some first
  have function : Declaration.blockFunction f ∈ s.plan.shader s.blueprint .init :=
    (s.plan.blockFunction_mem_shader _).2 (named.symm ▸ first)
  have struct : b.struct ∈ s.plan.shader s.blueprint .init :=
    Plan.struct_mem_shader.2 (.inl ⟨b, List.mem_of_getElem? found, rfl⟩)
  have own : f.function ∈ (s.plan.shader s.blueprint .init).flatMap (·.functionNames) := by
    rw [Plan.mem_functionNames_shader, Plan.functionNames_preface, named,
      show s.blueprint.hasRand = true from random]
    simp
  refine ⟨s.compiled, h, s.plan, s.planned, rfl, fun apart => ?_, ⟨f, function, parameters, own⟩,
    _, _, struct, members⟩
  exact apart.functions f function own

end ParticleShaders
