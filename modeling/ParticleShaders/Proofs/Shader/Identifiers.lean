import ParticleShaders.Proofs.Plan.Attributes
import ParticleShaders.Proofs.Shader.CallOrder
import ParticleShaders.Proofs.Shader.Names
import ParticleShaders.Proofs.Text.Identifier

namespace ParticleShaders

theorem Descriptor.isIdentifier_function (d : Descriptor) (blockType : String) :
    Text.isIdentifier (d.function blockType) :=
  Text.isIdentifier_toIdentifier _

namespace Declaration

def defined? : Declaration → Option BoundBlock
  | blockFunction b => some b
  | _ => none

def namedFunctions (m : Declaration) : List String :=
  m.functionNames ++ (m.defined?.toList ++ m.calls).map (·.function)

theorem CallsOnce.mem_calls {shader : List Declaration}
    {programs : List (String × List BoundBlock)} {blocks : List BoundBlock}
    (h : CallsOnce shader programs blocks) {m : Declaration} (hm : m ∈ shader) {b : BoundBlock}
    (hb : b ∈ m.calls) : ∃ program ∈ programs, b ∈ program.2 := by
  cases named : m.programName? with
  | none =>
    rw [h.others m hm named] at hb
    cases hb
  | some name =>
    refine ⟨(name, m.calls), ?_, hb⟩
    rw [← h.programs, List.mem_filterMap]
    exact ⟨m, hm, by rw [called?, named]; rfl⟩

end Declaration

namespace Plan

variable (plan : Plan) {d : Blueprint} {stage : Stage}

theorem mem_functionBlocks_of_mem_calls {m : Declaration} (hm : m ∈ plan.shader d stage)
    {b : BoundBlock} (hb : b ∈ m.calls) : b ∈ functionBlocks d.blocks stage := by
  cases stage with
  | output =>
    obtain ⟨program, mem, called⟩ := (d.callsOnce_drawing plan.output).mem_calls hm hb
    obtain rfl := List.mem_singleton.1 mem
    exact called
  | _ =>
    obtain ⟨program, mem, called⟩ :=
      (d.callsOnce_simulation (some plan.init) (some plan.update)).mem_calls hm hb
    rcases List.mem_pair.1 mem with rfl | rfl
    · exact List.mem_append_left _ called
    · exact List.mem_append_right _ called

theorem isIdentifier_of_mem_ownFunctions (phaseShift : Bool) {name : String}
    (h : name ∈ plan.ownFunctions phaseShift stage) : Text.isIdentifier name := by
  have fixed : ∀ name ∈ ["CSVFXInit", "CSVFXUpdate", "rand", "sampleSignal", "vert", "frag",
      "rotateCorner"], Text.isIdentifier name := by
    decide +kernel
  refine fixed name ?_
  cases stage <;> simp only [ownFunctions] at h <;> grind

end Plan

namespace Compilation

variable {system : ParticleSystem} {library : Library} {params : ParamTable} {options : Options}
  (s : Compilation system library params options) {stage : Stage}

theorem mem_namedFunctions {name : String} :
    name ∈ (s.plan.shader s.blueprint stage).flatMap (·.namedFunctions) ↔
      name ∈ s.plan.ownFunctions options.phaseShift stage ∨
        ∃ b ∈ functionBlocks s.plan.blocks stage, b.function = name := by
  have blocks : s.blueprint.blocks = s.plan.blocks := s.blocks_eq
  rw [List.mem_flatMap, ← s.mem_functionNames, List.mem_flatMap]
  constructor
  · rintro ⟨m, hm, named⟩
    rcases List.mem_append.1 named with own | named
    · exact .inl ⟨m, hm, own⟩
    · obtain ⟨b, hb, rfl⟩ := List.mem_map.1 named
      refine .inr ⟨b, ?_, rfl⟩
      rw [← blocks]
      rcases List.mem_append.1 hb with defined | called
      · cases m with
        | blockFunction f =>
          obtain rfl := List.mem_singleton.1 defined
          exact List.mem_of_find?_eq_some ((s.plan.blockFunction_mem_shader _).1 hm)
        | _ => cases defined
      · exact s.plan.mem_functionBlocks_of_mem_calls hm called
  · rintro (⟨m, hm, own⟩ | ⟨b, hb, rfl⟩)
    · exact ⟨m, hm, List.mem_append_left _ own⟩
    · obtain ⟨f, first, same⟩ := Declaration.exists_first hb
      have written : Declaration.blockFunction f ∈ s.plan.shader s.blueprint stage := by
        rw [s.plan.blockFunction_mem_shader, blocks, same]
        exact first
      exact ⟨_, written, by simp [Declaration.namedFunctions, Declaration.defined?, same]⟩

theorem isIdentifier_of_mem_functionBlocks {b : BoundBlock}
    (hb : b ∈ functionBlocks s.plan.blocks stage) : Text.isIdentifier b.function := by
  obtain ⟨stage, hb⟩ : ∃ stage, b ∈ s.plan.blocks stage := by
    cases stage with
    | output => exact ⟨.output, hb⟩
    | _ => exact (List.mem_append.1 hb).elim (⟨.init, ·⟩) (⟨.update, ·⟩)
  obtain ⟨block, bound⟩ := Plan.exists_block_of_mem s.planned hb
  rw [(Block.bind_eq_ok bound).2.1]
  exact Descriptor.isIdentifier_function ..

theorem isIdentifier_of_mem_namedFunctions {name : String}
    (h : name ∈ (s.plan.shader s.blueprint stage).flatMap (·.namedFunctions)) :
    Text.isIdentifier name := by
  rcases s.mem_namedFunctions.1 h with own | ⟨b, hb, rfl⟩
  · exact s.plan.isIdentifier_of_mem_ownFunctions _ own
  · exact s.isIdentifier_of_mem_functionBlocks hb

end Compilation

/-- A text is made into an identifier, and changed only if it is none. So every function that a
compiled system names, where it is defined and where it is called, has an identifier for its name,
whatever its block is called; and besides its own a shader names just those of its blocks. -/
theorem ParticleSystem.compile_identifiers :
    (∀ s, (Text.isIdentifier s ↔ Text.Spelled s.toList) ∧ Text.isIdentifier (Text.toIdentifier s) ∧
      (Text.toIdentifier s = s ↔ Text.isIdentifier s) ∧
      Text.toIdentifier (Text.toIdentifier s) = Text.toIdentifier s) ∧
    (∀ (d : Descriptor) blockType, Text.isIdentifier (d.function blockType)) ∧
    ∀ (system : ParticleSystem) library params options bake c,
      (system.compile library params options bake).result = .ok c →
      ∃ plan, Plan.ofSystem system library params = .ok plan ∧
        c = plan.compiled system c.blueprint ∧ ∀ stage name,
          (name ∈ (plan.shader c.blueprint stage).flatMap (·.namedFunctions) ↔
            name ∈ plan.ownFunctions options.phaseShift stage ∨
              ∃ b ∈ functionBlocks plan.blocks stage, b.function = name) ∧
          (name ∈ (plan.shader c.blueprint stage).flatMap (·.namedFunctions) →
            Text.isIdentifier name) := by
  refine ⟨fun s => ⟨Text.isIdentifier_iff_spelled, Text.isIdentifier_toIdentifier s,
    Text.toIdentifier_eq_self_iff s, Text.toIdentifier_toIdentifier s⟩,
    Descriptor.isIdentifier_function, fun system library params options bake c h => ?_⟩
  obtain ⟨s, rfl⟩ := Compilation.result_eq_ok_iff.1 h
  exact ⟨s.plan, s.planned, rfl, fun stage name =>
    ⟨s.mem_namedFunctions, s.isIdentifier_of_mem_namedFunctions⟩⟩

def scripts : ParticleSystem where
  version := "1"
  metadata := { name := "Scripts" }
  id := "scripts"
  contexts := [
    { id := "birth", stage := .init,
      blocks := [
        { id := "place", type := "", descriptor := some
            { attributes := [⟨"position", .float3, true⟩], source := ["position = 0.0;"] } },
        { id := "flat", type := "3d", descriptor := some {} },
        { id := "spin", type := "٣d spin", descriptor := some {} },
        { id := "scale", type := "Scale", descriptor := some { functionName := some "größe" } }] },
    { id := "life", stage := .update },
    { id := "drawing", stage := .output }]

theorem scripts_identifiers :
    ∃ c, (scripts.compile ∅ ∅ (.ofSystem scripts) .empty).result = .ok c ∧
      c.blueprint.initBlocks.map (·.function) = ["_", "_3d", "_d_spin", "gr__e"] ∧
      ∃ plan, Plan.ofSystem scripts ∅ ∅ = .ok plan ∧ ∀ stage,
        ∀ name ∈ (plan.shader c.blueprint stage).flatMap (·.namedFunctions),
          Text.isIdentifier name := by
  have compiled : (scripts.compile ∅ ∅ (.ofSystem scripts) .empty).result.toOption.map
      (·.blueprint.initBlocks.map (·.function)) = some ["_", "_3d", "_d_spin", "gr__e"] := by
    decide +kernel
  obtain ⟨c, h, functions⟩ := exists_of_toOption compiled
  obtain ⟨plan, planned, -, named⟩ := ParticleSystem.compile_identifiers.2.2 _ _ _ _ _ _ h
  exact ⟨c, h, functions, plan, planned, fun stage name => (named stage name).2⟩

end ParticleShaders
