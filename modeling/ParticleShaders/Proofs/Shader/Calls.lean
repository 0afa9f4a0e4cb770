import ParticleShaders.Proofs.Shader.Program

namespace ParticleShaders

structure Descriptor.Alike (d e : Descriptor) : Prop where
  attributes : d.attributes.map (fun a => (a.type, a.writable))
    = e.attributes.map fun a => (a.type, a.writable)
  properties : d.properties.map (·.type) = e.properties.map (·.type)
  rand : d.needs .rand = e.needs .rand
  kill : d.needs .kill = e.needs .kill
  source : d.source = e.source

namespace BoundBlock

/-- Whether a call of `b` in a program is a call of a function that stands above it and is that of
the block. -/
def CallMatches (b : BoundBlock) (shader : List Declaration) (program : Declaration) : Prop :=
  ∃ before after f, shader = before ++ program :: after ∧ Declaration.blockFunction f ∈ before ∧
    f.function = b.function ∧ f.parameters.length = b.callWords.length ∧
    f.descriptor.Alike b.descriptor

theorem length_parameters {f b : BoundBlock} (alike : f.descriptor.Alike b.descriptor)
    (bound : b.arguments.length = b.descriptor.properties.length) :
    f.parameters.length = b.callWords.length := by
  have attributes := congrArg List.length alike.attributes
  have properties := congrArg List.length alike.properties
  rw [List.length_map, List.length_map] at attributes properties
  simp only [parameters, callWords, List.length_append, List.length_map, attributes, properties,
    alike.rand, alike.kill, bound]
  cases b.descriptor.needs .rand <;> cases b.descriptor.needs .kill <;> rfl

end BoundBlock

namespace Declaration

theorem exists_of_mem_functionsBeside {taken : List String} {blocks : List BoundBlock}
    {m : Declaration} (hm : m ∈ functionsBeside taken blocks) : ∃ b, m = blockFunction b := by
  induction blocks generalizing taken with
  | nil => cases hm
  | cons b rest ih =>
    unfold functionsBeside at hm
    split at hm
    · exact ih hm
    · rcases List.mem_cons.1 hm with rfl | hm
      · exact ⟨b, rfl⟩
      · exact ih hm

theorem mem_functionsBeside {taken : List String} {blocks : List BoundBlock} {f : BoundBlock} :
    blockFunction f ∈ functionsBeside taken blocks ↔
      f.function ∉ taken ∧ blocks.find? (·.function = f.function) = some f := by
  induction blocks generalizing taken with
  | nil => simp [functionsBeside]
  | cons b rest ih =>
    unfold functionsBeside
    -- The first block of the name decides: either it is the head, or the head has another name.
    by_cases same : b.function = f.function
    · rw [List.find?_cons_of_pos (by simpa using same)]
      split
      · next known =>
        rw [ih]
        simp_all
      · next fresh =>
        rw [List.mem_cons, ih]
        simp_all [eq_comm]
    · rw [List.find?_cons_of_neg (by simpa using same)]
      split
      · exact ih
      · have other : f ≠ b := fun h => same (h ▸ rfl)
        simp [ih, Ne.symm same, other]

theorem mem_blockFunctions {blocks : List BoundBlock} {f : BoundBlock} :
    blockFunction f ∈ blockFunctions blocks ↔
      blocks.find? (·.function = f.function) = some f := by
  unfold blockFunctions
  rw [mem_functionsBeside]
  simp

theorem exists_first {blocks : List BoundBlock} {b : BoundBlock} (hb : b ∈ blocks) :
    ∃ f, blocks.find? (·.function = b.function) = some f ∧ f.function = b.function := by
  obtain ⟨f, first⟩ : ∃ f, blocks.find? (·.function = b.function) = some f :=
    Option.isSome_iff_exists.1 (List.find?_isSome.2 ⟨b, hb, by simp⟩)
  exact ⟨f, first, by simpa using List.find?_some first⟩

end Declaration

def functionBlocks (blocks : Stage → List BoundBlock) : Stage → List BoundBlock
  | .init | .update => blocks .init ++ blocks .update
  | .output => blocks .output

namespace Blueprint

variable (d : Blueprint)

theorem exists_of_mem_randFunction {m : Declaration} (hm : m ∈ d.randFunction) :
    ∃ heading texts, m = .routine "rand" heading (.ofTexts texts) := by
  unfold randFunction at hm
  split at hm
  · exact ⟨_, _, List.mem_singleton.1 hm⟩
  · cases hm

theorem exists_of_mem_functions {g : OutputGenerator} {m : Declaration} (hm : m ∈ g.functions d) :
    ∃ heading texts, m = .routine "rotateCorner" heading (.ofTexts texts) := by
  unfold OutputGenerator.functions at hm
  split at hm
  · exact ⟨_, _, List.mem_singleton.1 hm⟩
  · cases hm

end Blueprint

namespace Plan

variable (plan : Plan) (d : Blueprint)

def preface : Stage → List Declaration
  | .init | .update =>
    Declaration.lines (Blueprint.pragmas plan.init plan.update)
      ++ Declaration.lines Blueprint.preamble ++ [d.frameConstants, Blueprint.spawnConstants]
      ++ d.paramDeclarations ++ d.lookupTextures ++ d.bufferDeclarations ++ d.lifeDeclarations
      ++ d.randFunction ++ d.sampleFunctions
  | .output => d.outputDeclarations ++ [d.vertexStruct plan.output]

def programs : Stage → List Declaration
  | .init | .update => [d.initKernel plan.init, d.updateKernel plan.update]
  | .output =>
    plan.output.functions d ++ [d.vertexProgram plan.output, d.fragmentProgram plan.output]

theorem shader_eq (stage : Stage) : plan.shader d stage = plan.preface d stage
    ++ Declaration.blockFunctions (functionBlocks d.blocks stage) ++ plan.programs d stage := by
  cases stage with
  | output => simp [shader, Blueprint.drawing, preface, functionBlocks,
      Blueprint.blocks, programs]
  | _ => simp [shader, Blueprint.simulation, preface, functionBlocks,
      Blueprint.blocks, programs]

theorem program_mem_programs (stage : Stage) : plan.program d stage ∈ plan.programs d stage := by
  cases stage <;> simp [program, programs]

theorem blockFunction_not_mem_preface (stage : Stage) (f : BoundBlock) :
    Declaration.blockFunction f ∉ plan.preface d stage := by
  cases stage with
  | output =>
    simp [preface, Blueprint.outputDeclarations, Blueprint.vertexStruct, ParamSet.constants,
      ParamSet.samplers, Buffer.struct, Declaration.blank]
  | _ =>
    simp [preface, Declaration.lines, Blueprint.frameConstants, Blueprint.spawnConstants,
      Blueprint.paramDeclarations, ParamSet.constants, ParamSet.samplers,
      Blueprint.lookupTextures, Blueprint.bufferDeclarations, Buffer.struct,
      Blueprint.lifeDeclarations, Blueprint.randFunction, Blueprint.sampleFunctions,
      Declaration.blank]

theorem blockFunction_not_mem_programs (stage : Stage) (f : BoundBlock) :
    Declaration.blockFunction f ∉ plan.programs d stage := by
  cases stage with
  | output =>
    simp [programs, OutputGenerator.functions, Blueprint.vertexProgram, Blueprint.fragmentProgram]
  | _ => simp [programs, Blueprint.initKernel, Blueprint.updateKernel]

theorem blockFunction_mem_shader {stage : Stage} {f : BoundBlock} :
    Declaration.blockFunction f ∈ plan.shader d stage ↔
      (functionBlocks d.blocks stage).find? (·.function = f.function) = some f := by
  rw [shader_eq, ← Declaration.mem_blockFunctions]
  simp [blockFunction_not_mem_preface, blockFunction_not_mem_programs]

theorem callMatches_iff {stage : Stage} {b : BoundBlock}
    (bound : b.arguments.length = b.descriptor.properties.length) :
    b.CallMatches (plan.shader d stage) (plan.program d stage) ↔
      ∃ f, (functionBlocks d.blocks stage).find? (·.function = b.function) = some f ∧
        f.descriptor.Alike b.descriptor := by
  constructor
  · rintro ⟨before, after, f, split, above, named, -, alike⟩
    have written : Declaration.blockFunction f ∈ plan.shader d stage := by
      rw [split]
      exact List.mem_append_left _ above
    rw [blockFunction_mem_shader, named] at written
    exact ⟨f, written, alike⟩
  · rintro ⟨f, first, alike⟩
    have named : f.function = b.function := by simpa using List.find?_some first
    have written := Declaration.mem_blockFunctions.2 (named.symm ▸ first)
    obtain ⟨others, after, split⟩ := List.append_of_mem (plan.program_mem_programs d stage)
    refine ⟨plan.preface d stage
      ++ Declaration.blockFunctions (functionBlocks d.blocks stage) ++ others, after, f, ?_, ?_,
      named, BoundBlock.length_parameters alike bound, alike⟩
    · simp [shader_eq, split]
    · simp [written]

end Plan

/-- A call in a compiled system is matched if the first block of its name is like its own block;
functions are told apart by their names alone. -/
theorem ParticleSystem.compile_calls {system : ParticleSystem} {library : Library}
    {params : ParamTable} {options : Options} {bake : Bake} {c : Compiled}
    (h : (system.compile library params options bake).result = .ok c) :
    ∃ plan, Plan.ofSystem system library params = .ok plan ∧
      c = plan.compiled system c.blueprint ∧ ∀ stage b,
        (Line.call b ∈ (plan.program c.blueprint stage).code.lines ↔ b ∈ plan.blocks stage) ∧
        (b ∈ plan.blocks stage →
          (b.CallMatches (plan.shader c.blueprint stage) (plan.program c.blueprint stage) ↔
            ∃ f, (functionBlocks plan.blocks stage).find? (·.function = b.function) = some f ∧
              f.descriptor.Alike b.descriptor)) := by
  obtain ⟨s, rfl⟩ := Compilation.result_eq_ok_iff.1 h
  refine ⟨s.plan, s.planned, rfl, fun stage b => ⟨?_, fun hb => ?_⟩⟩
  · rw [Plan.call_mem_program, s.blocks_eq]
  · rw [Plan.callMatches_iff _ _ (s.sound.arguments stage b hb), s.blocks_eq]

def twins : ParticleSystem where
  version := "1"
  metadata := { name := "Twins" }
  id := "twins"
  contexts := [
    { id := "birth", stage := .init,
      blocks := [
        { id := "place", type := "Place", descriptor := some
            { attributes := [⟨"position", .float3, true⟩], source := ["position = 0.0;"] } },
        { id := "warm", type := "Place", descriptor := some
            { attributes := [⟨"heat", .float, true⟩],
              properties := [{ name := "v", type := .float, fallback := some "1.0" }],
              source := ["heat = v;"] } }] },
    { id := "life", stage := .update },
    { id := "drawing", stage := .output }]

theorem twins_calls : ∃ c, (twins.compile ∅ ∅ (.ofSystem twins) .empty).result = .ok c ∧
    ∃ plan, Plan.ofSystem twins ∅ ∅ = .ok plan ∧ c = plan.compiled twins c.blueprint ∧
      ∀ stage b,
        (Line.call b ∈ (plan.program c.blueprint stage).code.lines ↔ b ∈ plan.blocks stage) ∧
        (b ∈ plan.blocks stage →
          (b.CallMatches (plan.shader c.blueprint stage) (plan.program c.blueprint stage) ↔
            ∃ f, (functionBlocks plan.blocks stage).find? (·.function = b.function) = some f ∧
              f.descriptor.Alike b.descriptor)) := by
  have compiled : (twins.compile ∅ ∅ (.ofSystem twins) .empty).result.toOption.map
      (·.blueprint.initBlocks.length) = some 2 := by
    decide +kernel
  obtain ⟨c, h, -⟩ := exists_of_toOption compiled
  exact ⟨c, h, ParticleSystem.compile_calls h⟩

/-- The second twin is called with two arguments, and the one function of that name takes one. -/
theorem twins_mismatched : ∃ c, (twins.compile ∅ ∅ (.ofSystem twins) .empty).result = .ok c ∧
    ∃ plan, Plan.ofSystem twins ∅ ∅ = .ok plan ∧ c = plan.compiled twins c.blueprint ∧
      ∃ b, Line.call b ∈ (plan.program c.blueprint .init).code.lines ∧
        b.function = "Place" ∧ b.callWords = [.ref ⟨"heat", .float⟩, .text "1.0"] ∧
        ¬ b.CallMatches (plan.shader c.blueprint .init) (plan.program c.blueprint .init) := by
  have compiled : (twins.compile ∅ ∅ (.ofSystem twins) .empty).result.toOption.map
      (fun c => (c.blueprint.initBlocks[1]?.map fun b => (b.function, b.callWords),
        (functionBlocks c.blueprint.blocks .init).find? (·.function = "Place")
          |>.map (·.parameters.length)))
        = some (some ("Place", [.ref ⟨"heat", .float⟩, .text "1.0"]), some 1) := by
    decide +kernel
  obtain ⟨c, h, same⟩ := exists_of_toOption compiled
  obtain ⟨s, rfl⟩ := Compilation.result_eq_ok_iff.1 h
  obtain ⟨second, first⟩ := Prod.mk.inj same
  obtain ⟨b, found, called⟩ := Option.map_eq_some_iff.1 second
  obtain ⟨named, words⟩ := Prod.mk.inj called
  have hb : b ∈ s.compiled.blueprint.blocks .init := List.mem_of_getElem? found
  refine ⟨s.compiled, h, s.plan, s.planned, rfl, b, (s.plan.call_mem_program _).2 hb, named, words,
    fun matched => ?_⟩
  have bound := s.sound.arguments .init b (s.blocks_eq ▸ hb)
  obtain ⟨f, written, alike⟩ := (Plan.callMatches_iff _ _ bound).1 matched
  have short : f.parameters.length = 1 := by
    rw [named] at written
    rw [written] at first
    exact Option.some.inj first
  have long := BoundBlock.length_parameters alike bound
  rw [short, words] at long
  exact absurd long (by decide)

end ParticleShaders
