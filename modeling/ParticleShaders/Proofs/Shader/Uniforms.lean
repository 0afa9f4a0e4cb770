import ParticleShaders.Proofs.Shader.Calls
import ParticleShaders.Proofs.Uniforms.Partition
/-! Where the shaders declare what they refer to. Each parameter that a program is given has a name
that its shader declares once, with the type of what the parameter is bound to; the variables that
shaders have of their own begin otherwise. -/

namespace ParticleShaders

namespace Declaration

/-- The variables that are declared for all functions of a shader. Structs and functions are none;
functions have names of their own, or those that the blocks of a system give. -/
def shared : Declaration → List Field
  | constants _ fields | globals fields => fields
  | _ => []

def variableNames (shader : List Declaration) : List String :=
  (shader.flatMap (·.shared)).map (·.name)

@[simp] theorem variableNames_nil : variableNames [] = [] := rfl

@[simp] theorem variableNames_cons (m : Declaration) (shader : List Declaration) :
    variableNames (m :: shader) = m.shared.map (·.name) ++ variableNames shader := by
  simp [variableNames]

@[simp] theorem variableNames_append (ms shader : List Declaration) :
    variableNames (ms ++ shader) = variableNames ms ++ variableNames shader := by
  simp [variableNames]

theorem variableNames_eq_nil {shader : List Declaration} (h : ∀ m ∈ shader, m.shared = []) :
    variableNames shader = [] := by
  rw [variableNames, List.flatMap_eq_nil_iff.2 h]
  rfl

@[simp] theorem variableNames_lines (texts : List String) : variableNames (lines texts) = [] :=
  variableNames_eq_nil (by simp [lines, shared])

@[simp] theorem variableNames_structs (bs : List Buffer) :
    variableNames (bs.map (·.struct)) = [] :=
  variableNames_eq_nil (by simp [Buffer.struct, shared])

@[simp] theorem variableNames_blockFunctions (blocks : List BoundBlock) :
    variableNames (blockFunctions blocks) = [] :=
  variableNames_eq_nil fun m hm => by
    obtain ⟨_, rfl⟩ := exists_of_mem_functionsBeside hm
    rfl

def Lists (shader : List Declaration) (samplers : Bool) (fields : List Field) : Prop :=
  if samplers then .globals fields ∈ shader else ∃ group, .constants group fields ∈ shader

theorem Lists.mono {ms shader : List Declaration} {samplers : Bool} {fields : List Field}
    (h : Lists ms samplers fields) (within : ms ⊆ shader) : Lists shader samplers fields := by
  cases samplers with
  | true => exact within h
  | false =>
    obtain ⟨group, h⟩ := h
    exact ⟨group, within h⟩

structure Declares (shader : List Declaration) (name : String) (type : ValueType) : Prop where
  once : (variableNames shader).count name = 1
  typed : ∃ fields, Lists shader type.isTexture fields ∧ ⟨type.shaderType, name⟩ ∈ fields

end Declaration

namespace ParamSet

variable (s : ParamSet) (naming : Naming)

@[simp] theorem variableNames_constants (group : String) :
    Declaration.variableNames (s.constants naming group)
      = s.params.map (naming.nameOf ·.id) := by
  unfold constants isEmpty
  split
  · next none => simp [List.isEmpty_iff.1 none]
  · simp [Declaration.shared, fields]

@[simp] theorem variableNames_samplers :
    Declaration.variableNames (s.samplers naming) = s.params.map (naming.nameOf ·.id) := by
  unfold samplers isEmpty
  split
  · next none => simp [List.isEmpty_iff.1 none]
  · simp [Declaration.shared, Declaration.blank, fields]

end ParamSet

namespace UniformSet

variable {stage : Stage} {k : UniformSet} {name suffix : String}

def Foreign (stage : Stage) (name : String) : Prop :=
  ∀ k ∈ ofStage stage, ¬ k.stem.toList <+: name.toList

instance : Decidable (Foreign stage name) :=
  inferInstanceAs (Decidable (∀ k ∈ ofStage stage, ¬ k.stem.toList <+: name.toList))

theorem Foreign.ne (h : Foreign stage name) (hk : k ∈ ofStage stage) : name ≠ k.stem ++ suffix := by
  rintro rfl
  exact h k hk ⟨suffix.toList, (String.toList_append ..).symm⟩

theorem foreign_attribBuffer : Foreign stage ("attribBuffer" ++ suffix) := by
  intro k hk starts
  have apart : ∀ k ∈ ofStage stage, ¬ k.stem.toList <+: "attribBuffer".toList ∧
      ¬ "attribBuffer".toList <+: k.stem.toList := by
    cases stage <;> decide
  rw [String.toList_append] at starts
  exact (List.prefix_or_prefix_of_prefix starts (List.prefix_append ..)).elim
    (apart k hk).1 (apart k hk).2

end UniformSet

namespace Blueprint

variable (d : Blueprint)

def fixedNames : List String :=
  ["deltaTime", "totalTime", "nbMax", "systemSeed", "nbSpawned", "spawnIndex", "gradientTexture",
    "curveTexture", "flags", "deadListIn", "deadListOut", "deadListCount"]

def ownNames : List String :=
  fixedNames ++ d.buffers.flatMap fun b => [b.variableName, b.readOnlyName]

theorem foreign_of_mem_fixedNames {stage : Stage} :
    ∀ name ∈ fixedNames, UniformSet.Foreign stage name := by
  cases stage <;> decide

theorem foreign_of_mem_ownNames {stage : Stage} {name : String} (h : name ∈ d.ownNames) :
    UniformSet.Foreign stage name := by
  rcases List.mem_append.1 h with h | h
  · exact foreign_of_mem_fixedNames name h
  · obtain ⟨b, -, h⟩ := List.mem_flatMap.1 h
    rcases List.mem_pair.1 h with rfl | rfl
    · exact UniformSet.foreign_attribBuffer
    · unfold Buffer.readOnlyName Buffer.variableName
      rw [String.append_assoc]
      exact UniformSet.foreign_attribBuffer

theorem variableNames_frame :
    Declaration.variableNames [d.frameConstants, spawnConstants] ⊆ d.ownNames := by
  unfold frameConstants spawnConstants
  cases d.hasRand <;> simp [Declaration.shared, ownNames, fixedNames]

theorem variableNames_lookupTextures :
    Declaration.variableNames d.lookupTextures ⊆ d.ownNames := by
  unfold lookupTextures
  cases d.signals.hasColor <;> cases d.signals.hasFloat <;>
    simp [Declaration.shared, Declaration.blank, ownNames, fixedNames]

theorem names_mem_ownNames {b : Buffer} (hb : b ∈ d.buffers) :
    b.variableName ∈ d.ownNames ∧ b.readOnlyName ∈ d.ownNames := by
  constructor <;> exact List.mem_append_right _ (List.mem_flatMap.2 ⟨b, hb, by simp⟩)

theorem variableNames_bufferDeclarations :
    Declaration.variableNames d.bufferDeclarations ⊆ d.ownNames := by
  intro name hname
  obtain ⟨f, ⟨b, hb, hf⟩, rfl⟩ :
      ∃ f, (∃ b ∈ d.buffers, f ∈ bufferVariables b) ∧ f.name = name := by
    unfold bufferDeclarations at hname
    split at hname
    · simp at hname
    · simpa [Declaration.shared, Declaration.blank] using hname
  unfold bufferVariables at hf
  rcases List.mem_append.1 hf with hf | hf
  · rw [List.mem_singleton.1 hf]
    exact (d.names_mem_ownNames hb).1
  · split at hf
    · rw [List.mem_singleton.1 hf]
      exact (d.names_mem_ownNames hb).2
    · cases hf

theorem variableNames_lifeDeclarations :
    Declaration.variableNames d.lifeDeclarations ⊆ d.ownNames := by
  unfold lifeDeclarations
  cases d.hasKill <;> simp [Declaration.shared, Declaration.blank, ownNames, fixedNames]

theorem variableNames_helpers :
    Declaration.variableNames (d.randFunction ++ d.sampleFunctions) = [] := by
  unfold randFunction sampleFunctions
  cases d.hasRand <;> cases d.signals.functions <;> simp [Declaration.shared, Declaration.blank]

def groupName (k : UniformSet) : String :=
  match k.part with
  | .both => "GlobalUniforms"
  | .init => "initUniforms"
  | .update => "updateUniforms"
  | .output => "outputUniforms"

def declareSet (stage : Stage) (k : UniformSet) : List Declaration :=
  if k.isSampler then (d.uniforms.set k).samplers (d.namingOf stage)
  else (d.uniforms.set k).constants (d.namingOf stage) (groupName k)

def declareSets (stage : Stage) : List Declaration :=
  (UniformSet.ofStage stage).flatMap (d.declareSet stage)

theorem declareSets_simulation {stage : Stage} (h : stage ≠ .output) :
    d.declareSets stage = d.paramDeclarations := by
  cases stage with
  | output => exact absurd rfl h
  | _ =>
    simp [paramDeclarations, declareSets, declareSet, groupName, UniformSet.ofStage, Uniforms.set,
      Sharing.part, namingOf]

theorem declareSets_output : d.declareSets .output =
    d.uniforms.plain.output.constants d.outputNaming "outputUniforms"
      ++ d.uniforms.samplers.output.samplers d.outputNaming := by
  simp [declareSets, declareSet, groupName, UniformSet.ofStage, Uniforms.set, Sharing.part,
    namingOf]

theorem variableNames_declareSets (stage : Stage) :
    Declaration.variableNames (d.declareSets stage) = (UniformSet.ofStage stage).flatMap
      fun k => (d.uniforms.set k).params.map ((d.namingOf stage).nameOf ·.id) := by
  unfold declareSets
  induction UniformSet.ofStage stage with
  | nil => rfl
  | cons k rest ih =>
    have head : Declaration.variableNames (d.declareSet stage k)
        = (d.uniforms.set k).params.map ((d.namingOf stage).nameOf ·.id) := by
      unfold declareSet
      split <;> simp
    rw [List.flatMap_cons, Declaration.variableNames_append, head, ih, List.flatMap_cons]

theorem lists_declareSets {stage : Stage} {k : UniformSet} {p : Param}
    (hk : k ∈ UniformSet.ofStage stage) (hp : p ∈ (d.uniforms.set k).params) :
    Declaration.Lists (d.declareSets stage) k.isSampler
      ((d.uniforms.set k).fields (d.namingOf stage)) := by
  have filled : (d.uniforms.set k).isEmpty = false := by
    simpa [ParamSet.isEmpty] using List.ne_nil_of_mem hp
  unfold Declaration.Lists
  split
  · next sampler =>
    refine List.mem_flatMap.2 ⟨k, hk, ?_⟩
    simp [declareSet, sampler, ParamSet.samplers, filled]
  · next sampler =>
    refine ⟨groupName k, List.mem_flatMap.2 ⟨k, hk, ?_⟩⟩
    simp [declareSet, sampler, ParamSet.constants, filled]

def outputVariables (g : OutputGenerator) : List Declaration :=
  d.outputBuffers.map (·.struct)
    ++ [Declaration.globals (d.outputBuffers.map fun b =>
        ⟨"StructuredBuffer<" ++ b.structName ++ ">", b.variableName⟩)]
    ++ (if d.hasKill then [Declaration.globals [⟨"StructuredBuffer<int>", "flags"⟩]] else [])
    ++ [Declaration.blank] ++ [d.vertexStruct g]

theorem variableNames_outputVariables (g : OutputGenerator) :
    Declaration.variableNames (d.outputVariables g) ⊆ d.ownNames := by
  intro name hname
  have known : (∃ b ∈ d.buffers, b.variableName = name) ∨ name = "flags" := by
    unfold outputVariables vertexStruct outputBuffers at hname
    cases kill : d.hasKill <;>
      simp [kill, Declaration.shared, Declaration.blank] at hname <;> grind
  rcases known with ⟨b, hb, rfl⟩ | rfl
  · exact (d.names_mem_ownNames hb).1
  · simp [ownNames, fixedNames]

end Blueprint

namespace Plan

variable (plan : Plan) (d : Blueprint)

theorem variableNames_programs (stage : Stage) :
    Declaration.variableNames (plan.programs d stage) = [] := by
  apply Declaration.variableNames_eq_nil
  cases stage with
  | output =>
    simp [programs, OutputGenerator.functions, Blueprint.vertexProgram, Blueprint.fragmentProgram,
      Declaration.shared, or_imp, forall_and]
  | _ => simp [programs, Blueprint.initKernel, Blueprint.updateKernel, Declaration.shared]

theorem exists_shader_eq (stage : Stage) : ∃ above below,
    plan.shader d stage = above ++ d.declareSets stage ++ below ∧
      Declaration.variableNames (above ++ below) ⊆ d.ownNames := by
  cases stage with
  | output =>
    refine ⟨[], d.outputVariables plan.output
      ++ Declaration.blockFunctions (functionBlocks d.blocks .output)
      ++ plan.programs d .output, ?_, ?_⟩
    · simp [shader_eq, preface, Blueprint.outputDeclarations, d.declareSets_output,
        Blueprint.outputVariables]
    · simpa [variableNames_programs] using d.variableNames_outputVariables plan.output
  | _ =>
    refine ⟨Declaration.lines (Blueprint.pragmas plan.init plan.update)
      ++ Declaration.lines Blueprint.preamble ++ [d.frameConstants, Blueprint.spawnConstants],
      d.lookupTextures ++ d.bufferDeclarations ++ d.lifeDeclarations
      ++ (d.randFunction ++ d.sampleFunctions)
      ++ Declaration.blockFunctions (functionBlocks d.blocks .init) ++ plan.programs d .init,
      ?_, ?_⟩
    · simp [shader_eq, preface, d.declareSets_simulation, functionBlocks, programs]
    · simp only [Declaration.variableNames_append, Declaration.variableNames_lines,
        d.variableNames_helpers, Declaration.variableNames_blockFunctions, variableNames_programs,
        List.append_subset, List.nil_subset, d.variableNames_frame, d.variableNames_lookupTextures,
        d.variableNames_bufferDeclarations, d.variableNames_lifeDeclarations, and_true]

structure Equips (plan : Plan) (d : Blueprint) : Prop where
  uniforms : d.uniforms = plan.uniforms
  naming : ∀ stage, d.namingOf stage = plan.uniforms.namingOf stage

end Plan

theorem Compilation.equips {system : ParticleSystem} {library : Library} {params : ParamTable}
    {options : Options} (s : Compilation system library params options) :
    s.plan.Equips s.compiled.blueprint where
  uniforms := rfl
  naming stage := by cases stage <;> rfl

namespace Blueprint

def names (d : Blueprint) : Stage → References
  | .output => d.drawingNames
  | _ => d.simulationNames

def Declares (d : Blueprint) (stage : Stage) (shader : List Declaration) (p : Param)
    (type : ValueType) : Prop :=
  ∃ name, (d.namingOf stage).find? p.id = some name ∧
    (∃ k ∈ UniformSet.ofStage stage, ∃ i : Nat, name = k.stem ++ toString i) ∧
    (Word.param p).render (d.names stage) = name ∧ Declaration.Declares shader name type

theorem render_param (d : Blueprint) (stage : Stage) (p : Param) :
    (Word.param p).render (d.names stage) = (d.namingOf stage).nameOf p.id := by
  cases stage <;> rfl

end Blueprint

namespace Plan.Resolved

variable {params : ParamTable} {plan : Plan} (r : plan.Resolved params) {d : Blueprint}
  (equips : plan.Equips d) {stage : Stage} {p : Param}

include r equips

theorem variableNames_declareSets : Declaration.variableNames (d.declareSets stage) =
    (plan.uniforms.namingOf stage).entries.map (·.2) := by
  rw [d.variableNames_declareSets, equips.uniforms, equips.naming, r.entries_namingOf,
    List.map_flatMap]
  apply List.flatMap_congr
  intro k hk
  apply Naming.map_nameOf
  intro e he
  rw [r.entries_namingOf]
  exact List.mem_flatMap_of_mem hk he

theorem count_variableNames {id name : String}
    (named : (id, name) ∈ (plan.uniforms.namingOf stage).entries) :
    (Declaration.variableNames (plan.shader d stage)).count name = 1 := by
  obtain ⟨above, below, shader, own⟩ := plan.exists_shader_eq d stage
  obtain ⟨k, hk, i, _, -, -, numbered⟩ := r.mem_entries.1 named
  have foreign : name ∉ Declaration.variableNames (above ++ below) := fun mem =>
    (d.foreign_of_mem_ownNames (own mem)).ne hk numbered
  rw [Declaration.variableNames_append, List.mem_append, not_or] at foreign
  have once : ((plan.uniforms.namingOf stage).entries.map (·.2)).count name = 1 :=
    List.count_eq_one_of_mem (r.nodup_names stage) (List.mem_map_of_mem named)
  rw [shader, Declaration.variableNames_append, Declaration.variableNames_append,
    r.variableNames_declareSets equips, List.count_append, List.count_append,
    List.count_eq_zero_of_not_mem foreign.1, List.count_eq_zero_of_not_mem foreign.2, once]

theorem declares (refers : plan.ShaderRefersTo stage p) :
    d.Declares stage (plan.shader d stage) p p.type := by
  have hk := plan.setOf_mem stage p
  have hp := (r.mem_set hk).2 ⟨refers, rfl⟩
  obtain ⟨i, found⟩ := List.mem_iff_getElem?.1 hp
  have named : (p.id, (plan.setOf stage p).stem ++ toString i)
      ∈ (plan.uniforms.namingOf stage).entries :=
    r.mem_entries.2 ⟨_, hk, i, p, found, rfl, rfl⟩
  refine ⟨_, ?_, ⟨_, hk, i, rfl⟩, ?_, r.count_variableNames equips named, ?_⟩
  · rw [equips.naming]
    exact Naming.find?_eq_some_iff.2 named
  · rw [d.render_param, equips.naming]
    exact Naming.nameOf_eq named
  · obtain ⟨above, below, shader, -⟩ := plan.exists_shader_eq d stage
    rw [← equips.uniforms] at hp
    refine ⟨_, (d.lists_declareSets hk hp).mono fun m hm => ?_, List.mem_map.2 ⟨p, hp, ?_⟩⟩
    · rw [shader]
      exact List.mem_append_left _ (List.mem_append_right _ hm)
    · rw [equips.naming, Naming.nameOf_eq named]

end Plan.Resolved

end ParticleShaders
