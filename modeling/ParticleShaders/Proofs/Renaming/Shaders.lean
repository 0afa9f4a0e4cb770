import ParticleShaders.Proofs.Renaming.Code
import ParticleShaders.Proofs.Renaming.Naming
import ParticleShaders.Proofs.Shader.Uniforms

namespace ParticleShaders

namespace Naming

variable (ρ : String ↪ String) {n : Naming} {s : ParamSet}

theorem nameOf_rename {id : String} (h : id ∈ n.ids) :
    (n.rename ρ).nameOf (ρ id) = n.nameOf id := by
  have named : (n.find? id).isSome := by
    obtain ⟨e, he, rfl⟩ := List.mem_map.1 h
    exact List.lookup_isSome_iff.2 ⟨e, he, by simp⟩
  obtain ⟨name, found⟩ := Option.isSome_iff_exists.1 named
  rw [nameOf, find?_rename, found, nameOf, found]
  rfl

theorem fields_rename (h : s.ids ⊆ n.ids) :
    (s.rename ρ).fields (n.rename ρ) = s.fields n := by
  unfold ParamSet.fields ParamSet.rename
  rw [List.map_map]
  refine List.map_congr_left fun p hp => ?_
  show Field.mk p.type.shaderType ((n.rename ρ).nameOf (ρ p.id)) = _
  rw [nameOf_rename ρ (h (List.mem_map_of_mem hp))]

theorem constants_rename (h : s.ids ⊆ n.ids) (name : String) :
    (s.rename ρ).constants (n.rename ρ) name = s.constants n name := by
  rw [ParamSet.constants, fields_rename ρ h, ParamSet.isEmpty, ParamSet.rename, List.isEmpty_map]
  rfl

theorem samplers_rename (h : s.ids ⊆ n.ids) :
    (s.rename ρ).samplers (n.rename ρ) = s.samplers n := by
  rw [ParamSet.samplers, fields_rename ρ h, ParamSet.isEmpty, ParamSet.rename, List.isEmpty_map]
  rfl

end Naming

namespace Blueprint

variable (ρ : String ↪ String) (d : Blueprint)

def rename : Blueprint :=
  { d with
    initBlocks := d.initBlocks.map (·.rename ρ)
    updateBlocks := d.updateBlocks.map (·.rename ρ)
    outputBlocks := d.outputBlocks.map (·.rename ρ)
    uniforms := d.uniforms.rename ρ
    naming := d.naming.rename ρ
    outputNaming := d.outputNaming.rename ρ }

theorem calls_rename (blocks : List BoundBlock) :
    (blocks.map (·.rename ρ)).map Line.call = (blocks.map Line.call).map (·.rename ρ) := by
  rw [List.map_map, List.map_map]
  rfl

theorem params_calls (blocks : List BoundBlock) :
    (blocks.map Line.call).flatMap (·.params) = Plan.blockParams blocks := by
  rw [List.flatMap_map]
  rfl

theorem params_seeding : d.seeding.flatMap (·.params) = [] := by
  unfold seeding
  cases d.hasRand <;> cases d.phaseShift <;> rfl

theorem params_shiftPhase (operator : String) :
    (d.shiftPhase operator).flatMap (·.params) = [] := by
  unfold shiftPhase
  cases d.phaseShift <;> rfl

theorem params_map {α : Type} {xs : List α} {line : α → Line} (h : ∀ x, (line x).params = []) :
    (xs.map line).flatMap (·.params) = [] := by
  rw [List.flatMap_map]
  exact List.flatMap_eq_nil_iff.2 fun x _ => h x

theorem closing_rename (g : InitGenerator) :
    (g.rename ρ).closing = g.closing.map (·.rename ρ) := by
  unfold InitGenerator.closing InitGenerator.rename
  cases g.lifetime with
  | none => rfl
  | some a => cases a <;> rfl

theorem params_closing_init (g : InitGenerator) : g.closing.flatMap (·.params) = g.params := by
  unfold InitGenerator.closing InitGenerator.params
  cases g.lifetime with
  | none => rfl
  | some a => cases a <;> rfl

theorem params_closing_update (g : UpdateGenerator) : g.closing.flatMap (·.params) = [] := by
  obtain ⟨integrate, age, reap⟩ := g
  cases integrate <;> cases age <;> cases reap <;> rfl

theorem params_closing_output (g : OutputGenerator) :
    (g.closing d).flatMap (·.params) = [] := by
  unfold OutputGenerator.closing OutputGenerator.extent
  cases g.kind with
  | point => rfl
  | billboard => cases d.holds .size <;> cases g.turns d <;> rfl

theorem params_coloring : d.coloring.flatMap (·.params) = [] := by
  unfold coloring
  cases d.isColored <;> cases d.holds .color <;> cases d.holds .alpha <;> rfl

theorem initLines_rename (g : InitGenerator) :
    (d.rename ρ).initLines (g.rename ρ) = (d.initLines g).map (·.rename ρ) := by
  have cleared : (d.buffers.map (Line.clear ·.index)).flatMap (·.params) = [] :=
    params_map fun _ => rfl
  have stored : (d.buffers.map fun b => Line.store b.index b.variableName).flatMap (·.params)
      = [] := params_map fun _ => rfl
  simp only [initLines, List.map_append, Line.map_rename_of_params d.params_seeding,
    Line.map_rename_of_params (d.params_shiftPhase _), Line.map_rename_of_params cleared,
    Line.map_rename_of_params stored, ← closing_rename, ← calls_rename]
  cases h : d.hasKill <;> simp only [rename, h] <;> rfl

theorem params_initLines (g : InitGenerator) :
    (d.initLines g).flatMap (·.params) = Plan.blockParams d.initBlocks ++ g.params := by
  have cleared : (d.buffers.map (Line.clear ·.index)).flatMap (·.params) = [] :=
    params_map fun _ => rfl
  have stored : (d.buffers.map fun b => Line.store b.index b.variableName).flatMap (·.params)
      = [] := params_map fun _ => rfl
  simp only [initLines, List.flatMap_append, params_seeding, params_shiftPhase, cleared, stored,
    params_calls, params_closing_init]
  cases d.hasKill <;> simp [Line.params, Line.blank, Line.plain, Word.param?]

theorem updateLines_rename (g : UpdateGenerator) :
    (d.rename ρ).updateLines g = (d.updateLines g).map (·.rename ρ) := by
  have loaded : d.updateLoads.flatMap (·.params) = [] := params_map fun _ => rfl
  simp only [updateLines, List.map_append, Line.map_rename_of_params (d.params_shiftPhase _),
    Line.map_rename_of_params loaded, Line.map_rename_of_params (params_closing_update g),
    ← calls_rename]
  cases h : d.hasKill <;> simp only [rename, h] <;> rfl

theorem params_updateLines (g : UpdateGenerator) :
    (d.updateLines g).flatMap (·.params) = Plan.blockParams d.updateBlocks := by
  have loaded : d.updateLoads.flatMap (·.params) = [] := params_map fun _ => rfl
  simp only [updateLines, List.flatMap_append, params_shiftPhase, loaded, params_calls,
    params_closing_update]
  cases d.hasKill <;> simp [Line.params, Line.blank, Line.plain, Word.param?]

theorem outputCalls_rename :
    (d.rename ρ).outputCalls = d.outputCalls.map (·.rename ρ) := by
  unfold outputCalls
  show (if (d.outputBlocks.map (·.rename ρ)).isEmpty then _ else _) = _
  rw [List.isEmpty_map]
  split
  · rfl
  · rw [List.map_append, ← calls_rename]
    rfl

theorem params_outputCalls :
    d.outputCalls.flatMap (·.params) = Plan.blockParams d.outputBlocks := by
  unfold outputCalls
  split
  · next none => rw [List.isEmpty_iff.1 none]; rfl
  · rw [List.flatMap_append, params_calls]
    exact List.append_nil _

theorem vertexLines_rename (g : OutputGenerator) :
    (d.rename ρ).vertexLines (g.rename ρ) = (d.vertexLines g).map (·.rename ρ) := by
  have loaded : d.outputLoads.flatMap (·.params) = [] := params_map fun _ => rfl
  have opened : g.opening.map (·.rename ρ) = g.opening := by
    unfold OutputGenerator.opening
    cases g.kind <;> rfl
  simp only [vertexLines, List.map_append, opened, outputCalls_rename,
    Line.map_rename_of_params loaded, Line.map_rename_of_params (d.params_closing_output g),
    Line.map_rename_of_params d.params_coloring]
  rfl

theorem params_vertexLines (g : OutputGenerator) :
    (d.vertexLines g).flatMap (·.params) = Plan.blockParams d.outputBlocks := by
  have loaded : d.outputLoads.flatMap (·.params) = [] := params_map fun _ => rfl
  have opened : g.opening.flatMap (·.params) = [] := by
    unfold OutputGenerator.opening
    cases g.kind <;> rfl
  simp only [vertexLines, List.flatMap_append, loaded, opened, params_outputCalls,
    params_closing_output, params_coloring]
  simp [Line.params, Line.blank, Line.plain, Word.param?]

theorem code_initKernel_rename (g : InitGenerator) :
    ((d.rename ρ).initKernel (g.rename ρ)).code = (d.initKernel g).code.rename ρ := by
  simp only [initKernel, Declaration.code, Code.rename_append, Code.rename_ofTexts,
    Code.rename_braces, Code.rename_ofLines, initLines_rename]
  rfl

theorem code_updateKernel_rename (g : UpdateGenerator) :
    ((d.rename ρ).updateKernel g).code = (d.updateKernel g).code.rename ρ := by
  have killed : d.killBranch.rename ρ = d.killBranch := by
    unfold killBranch
    cases d.hasKill <;> rfl
  have stored : d.updateStores.flatMap (·.params) = [] := params_map fun _ => rfl
  simp only [updateKernel, Declaration.code, Code.rename_append, Code.rename_ofTexts,
    Code.rename_braces, Code.rename_ofLines, updateLines_rename, killed,
    Line.map_rename_of_params stored]
  rfl

theorem code_vertexProgram_rename (g : OutputGenerator) :
    ((d.rename ρ).vertexProgram (g.rename ρ)).code = (d.vertexProgram g).code.rename ρ := by
  have index : [Line.plain "ps_input o;", g.index].map (·.rename ρ)
      = [.plain "ps_input o;", g.index] := by
    unfold OutputGenerator.index
    cases g.kind <;> rfl
  have kill : (d.rename ρ).hasKill = d.hasKill := rfl
  have dead : (d.rename ρ).deadLines = d.deadLines := rfl
  have index' : (g.rename ρ).index = g.index := rfl
  simp only [vertexProgram, vertexBody, Declaration.code, Code.rename_append, Code.rename_ofTexts,
    Code.rename_braces, Code.rename_ofLines, vertexLines_rename, index, index', kill, dead,
    apply_ite (Code.rename ρ)]

theorem code_fragmentProgram_rename (g : OutputGenerator) :
    ((d.rename ρ).fragmentProgram (g.rename ρ)).code = (d.fragmentProgram g).code.rename ρ := by
  have pixels : (g.rename ρ).pixels = g.pixels.map (·.rename ρ) := by
    unfold OutputGenerator.pixels OutputGenerator.rename
    cases g.kind <;> cases g.texture <;> rfl
  simp only [fragmentProgram, Declaration.code, Code.rename_append, Code.rename_ofTexts,
    Code.rename_braces, Code.rename_ofLines, List.map_append, pixels]
  rfl

theorem params_initKernel (g : InitGenerator) :
    (d.initKernel g).code.params = Plan.blockParams d.initBlocks ++ g.params := by
  simp [initKernel, Declaration.code, params_initLines]

theorem params_updateKernel (g : UpdateGenerator) :
    (d.updateKernel g).code.params = Plan.blockParams d.updateBlocks := by
  have killed : d.killBranch.params = [] := by
    unfold killBranch
    cases d.hasKill <;> rfl
  have stored : d.updateStores.flatMap (·.params) = [] := params_map fun _ => rfl
  simp [updateKernel, Declaration.code, params_updateLines, killed, stored]

theorem params_vertexProgram (g : OutputGenerator) :
    (d.vertexProgram g).code.params = Plan.blockParams d.outputBlocks := by
  have index : [Line.plain "ps_input o;", g.index].flatMap (·.params) = [] := by
    unfold OutputGenerator.index
    cases g.kind <;> rfl
  cases h : d.hasKill <;>
    simp [vertexProgram, vertexBody, Declaration.code, params_vertexLines, h, index]

theorem params_fragmentProgram (g : OutputGenerator) :
    (d.fragmentProgram g).code.params ⊆ g.params := by
  have pixels : g.pixels.flatMap (·.params) ⊆ g.params := by
    unfold OutputGenerator.pixels OutputGenerator.params
    cases g.kind <;> cases g.texture <;> simp [Line.params, Line.plain, Word.param?]
  simpa [fragmentProgram, Declaration.code, Line.params, Line.plain, Word.param?] using pixels

end Blueprint

namespace Declaration

variable {ρ : String → String} {names names' : References}

theorem commands_codeOf (names : References) (ds : List Declaration) :
    (codeOf ds).commands names = ds.flatMap (·.code.commands names) := by
  induction ds with
  | nil => rfl
  | cons d rest ih =>
    show (d.code ++ codeOf rest).commands names = _
    rw [Code.commands_append, ih, List.flatMap_cons]

theorem params_code {d : Declaration} (h : ∀ name heading body, d ≠ routine name heading body) :
    d.code.params = [] := by
  cases d with
  | routine name heading body => exact absurd rfl (h name heading body)
  | struct name members =>
    show (Code.ofTexts _ ++ Code.structBraces (.ofTexts _) ++ Code.ofTexts [""]).params = []
    rw [Code.params_append, Code.params_append, Code.params_ofTexts, Code.params_ofTexts]
    simp [Code.structBraces, Code.params, Code.lines, Line.params, Line.plain, Word.param?]
  | _ => simp [code]

theorem commands_of_params {ds : List Declaration} (h : ∀ d ∈ ds, d.code.params = [])
    (ref : ∀ a, names'.ref a = names.ref a) :
    ds.flatMap (·.code.commands names') = ds.flatMap (·.code.commands names) :=
  List.flatMap_congr fun d hd => Code.commands_of_params (h d hd) ref

theorem code_functionsBeside_rename (taken : List String) (blocks : List BoundBlock) :
    (functionsBeside taken (blocks.map (·.rename ρ))).map (·.code)
      = (functionsBeside taken blocks).map (·.code) := by
  induction blocks generalizing taken with
  | nil => rfl
  | cons b rest ih =>
    rw [List.map_cons, functionsBeside, functionsBeside]
    show List.map _ (if taken.contains b.function then _ else _) = _
    split
    · exact ih taken
    · exact congrArg (_ :: ·) (ih _)

theorem commands_blockFunctions_rename (blocks : List BoundBlock)
    (ref : ∀ a, names'.ref a = names.ref a) :
    (blockFunctions (blocks.map (·.rename ρ))).flatMap (·.code.commands names')
      = (blockFunctions blocks).flatMap (·.code.commands names) := by
  have codes := code_functionsBeside_rename (ρ := ρ) [] blocks
  have plain : ∀ d ∈ blockFunctions blocks, d.code.params = [] := by
    intro d hd
    obtain ⟨b, rfl⟩ := exists_of_mem_functionsBeside hd
    exact params_code nofun
  calc
    (blockFunctions (blocks.map (·.rename ρ))).flatMap (·.code.commands names')
        = ((blockFunctions (blocks.map (·.rename ρ))).map (·.code)).flatMap
          (·.commands names') := by rw [List.flatMap_map]
    _ = ((blockFunctions blocks).map (·.code)).flatMap (·.commands names') := by
      rw [blockFunctions, codes, blockFunctions]
    _ = (blockFunctions blocks).flatMap (·.code.commands names') := by rw [List.flatMap_map]
    _ = _ := commands_of_params plain ref

end Declaration

namespace Plan

variable (ρ : String ↪ String) (plan : Plan) (d : Blueprint)

theorem params_preface (stage : Stage) : ∀ m ∈ plan.preface d stage, m.code.params = [] := by
  intro m hm
  cases m with
  | routine name heading body =>
    cases stage with
    | output =>
      simp [preface, Blueprint.outputDeclarations, Blueprint.vertexStruct, ParamSet.constants,
        ParamSet.samplers, Buffer.struct, Declaration.blank] at hm
    | _ =>
      simp [preface, Declaration.lines, Blueprint.frameConstants, Blueprint.spawnConstants,
        Blueprint.paramDeclarations, ParamSet.constants, ParamSet.samplers,
        Blueprint.lookupTextures, Blueprint.bufferDeclarations, Buffer.struct,
        Blueprint.lifeDeclarations, Blueprint.randFunction, Blueprint.sampleFunctions,
        Declaration.blank] at hm
      obtain ⟨-, -, -, rfl⟩ := hm
      simp [Declaration.code]
  | _ => exact Declaration.params_code (by simp)

theorem refersTo_of_mem_params (same : d.blocks = plan.blocks) {stage : Stage}
    {m : Declaration} (hm : m ∈ plan.programs d stage) {p : Param} (hp : p ∈ m.code.params) :
    plan.ShaderRefersTo stage p := by
  have blocks (s : Stage) : d.blocks s = plan.blocks s := congrFun same s
  cases stage with
  | output =>
    rcases List.mem_append.1 hm with hm | hm
    · obtain ⟨_, _, rfl⟩ := d.exists_of_mem_functions hm
      simp [Declaration.code] at hp
    · rcases List.mem_pair.1 hm with rfl | rfl
      · rw [d.params_vertexProgram, show d.outputBlocks = _ from blocks .output] at hp
        exact plan.shaderRefersTo_of_mem_mentions (List.mem_append_left _ hp)
      · exact plan.shaderRefersTo_of_mem_mentions
          (List.mem_append_right _ (d.params_fragmentProgram _ hp))
  | _ =>
    rcases List.mem_pair.1 hm with rfl | rfl
    · have hp : p ∈ plan.mentions .init := by
        rwa [d.params_initKernel, show d.initBlocks = _ from blocks .init] at hp
      have refers := plan.shaderRefersTo_of_mem_mentions hp
      exact refers
    · have hp : p ∈ plan.mentions .update := by
        rw [d.params_updateKernel, show d.updateBlocks = _ from blocks .update] at hp
        exact List.mem_append_left _ hp
      have refers := plan.shaderRefersTo_of_mem_mentions hp
      exact refers

theorem code_programs_rename (stage : Stage) :
    ((plan.rename ρ).programs (d.rename ρ) stage).map (·.code)
      = (plan.programs d stage).map fun m => m.code.rename ρ := by
  cases stage with
  | output =>
    have functions : (plan.output.functions d).map (·.code)
        = (plan.output.functions d).map fun m => m.code.rename ρ := by
      unfold OutputGenerator.functions
      split <;> simp [Declaration.code]
    show (plan.output.functions d ++ [(d.rename ρ).vertexProgram (plan.output.rename ρ),
      (d.rename ρ).fragmentProgram (plan.output.rename ρ)]).map (·.code) = _
    rw [List.map_append, functions, List.map_cons, List.map_cons, d.code_vertexProgram_rename,
      d.code_fragmentProgram_rename, programs, List.map_append]
    rfl
  | _ =>
    show [(d.rename ρ).initKernel (plan.init.rename ρ),
      (d.rename ρ).updateKernel plan.update].map (·.code) = _
    rw [List.map_cons, List.map_cons, d.code_initKernel_rename, d.code_updateKernel_rename]
    rfl

structure Names (plan : Plan) (d : Blueprint) : Prop where
  blocks : d.blocks = plan.blocks
  sets : ∀ stage, ∀ k ∈ UniformSet.ofStage stage,
    (d.uniforms.set k).ids ⊆ (d.namingOf stage).ids
  refers : ∀ stage p, plan.ShaderRefersTo stage p → p.id ∈ (d.namingOf stage).ids

end Plan

theorem Compilation.names {system : ParticleSystem} {library : Library} {params : ParamTable}
    {options : Options} (s : Compilation system library params options) :
    s.plan.Names s.compiled.blueprint := by
  have r := Plan.resolved_of_ofSystem s.planned
  have sets (stage : Stage) (k : UniformSet) (hk : k ∈ UniformSet.ofStage stage) :
      (s.compiled.blueprint.uniforms.set k).ids ⊆ (s.compiled.blueprint.namingOf stage).ids := by
    rw [s.equips.uniforms, s.equips.naming]
    intro id hid
    obtain ⟨p, hp, rfl⟩ := List.mem_map.1 hid
    obtain ⟨i, found⟩ := List.mem_iff_getElem?.1 hp
    exact List.mem_map.2 ⟨_, r.mem_entries.2 ⟨k, hk, i, p, found, rfl, rfl⟩, rfl⟩
  refine ⟨s.blocks_eq, sets, fun stage p refers => ?_⟩
  have placed := (r.mem_set (s.plan.setOf_mem stage p)).2 ⟨refers, rfl⟩
  exact sets stage _ (s.plan.setOf_mem stage p) (List.mem_map_of_mem placed)

namespace Plan.Names

variable {plan : Plan} {d : Blueprint} (names : plan.Names d) (ρ : String ↪ String)

include names

theorem declareSets_rename (stage : Stage) :
    (d.rename ρ).declareSets stage = d.declareSets stage := by
  have naming : (d.rename ρ).namingOf stage = (d.namingOf stage).rename ρ := by
    cases stage <;> rfl
  refine List.flatMap_congr fun k hk => ?_
  have set : (d.rename ρ).uniforms.set k = (d.uniforms.set k).rename ρ := by
    obtain ⟨isSampler, part⟩ := k
    cases isSampler <;> cases part <;> rfl
  unfold Blueprint.declareSet
  rw [naming, set, Naming.samplers_rename ρ (names.sets stage k hk),
    Naming.constants_rename ρ (names.sets stage k hk)]

theorem preface_rename (stage : Stage) :
    (plan.rename ρ).preface (d.rename ρ) stage = plan.preface d stage := by
  have apart : Stage.init ≠ .output := by decide
  have simulated : (d.rename ρ).paramDeclarations = d.paramDeclarations := by
    rw [← Blueprint.declareSets_simulation _ apart, ← Blueprint.declareSets_simulation _ apart,
      names.declareSets_rename]
  cases stage with
  | output =>
    unfold preface Blueprint.outputDeclarations
    rw [← Blueprint.declareSets_output, ← Blueprint.declareSets_output,
      names.declareSets_rename]
    rfl
  | _ =>
    simp only [preface, simulated]
    rfl

theorem renames {stage : Stage} {ps : List Param}
    (refers : ∀ p ∈ ps, plan.ShaderRefersTo stage p) :
    (d.names stage).Renames ρ ((d.rename ρ).names stage) ps := by
  constructor
  · intro a
    cases stage <;> rfl
  · intro p hp
    have named := Naming.nameOf_rename ρ (names.refers stage p (refers p hp))
    cases stage <;> exact named

theorem commands_programs_rename (stage : Stage) :
    ((plan.rename ρ).programs (d.rename ρ) stage).flatMap
        (·.code.commands ((d.rename ρ).names stage))
      = (plan.programs d stage).flatMap (·.code.commands (d.names stage)) :=
  calc
    _ = (((plan.rename ρ).programs (d.rename ρ) stage).map (·.code)).flatMap
        (·.commands ((d.rename ρ).names stage)) := by rw [List.flatMap_map]
    _ = (plan.programs d stage).flatMap
        fun m => (m.code.rename ρ).commands ((d.rename ρ).names stage) := by
      rw [plan.code_programs_rename, List.flatMap_map]
    _ = _ := List.flatMap_congr fun m hm => Code.commands_rename <|
      names.renames ρ fun p hp => plan.refersTo_of_mem_params d names.blocks hm hp

theorem commands_shader_rename (stage : Stage) :
    (Declaration.codeOf ((plan.rename ρ).shader (d.rename ρ) stage)).commands
        ((d.rename ρ).names stage)
      = (Declaration.codeOf (plan.shader d stage)).commands (d.names stage) := by
  have none : ∀ p ∈ ([] : List Param), plan.ShaderRefersTo stage p := by simp
  have ref := (names.renames ρ none).ref
  have functions : functionBlocks (d.rename ρ).blocks stage
      = (functionBlocks d.blocks stage).map (·.rename ρ) := by
    cases stage with
    | output => rfl
    | _ => exact List.map_append.symm
  rw [shader_eq, shader_eq, Declaration.commands_codeOf, Declaration.commands_codeOf,
    List.flatMap_append, List.flatMap_append, List.flatMap_append, List.flatMap_append,
    names.preface_rename, functions, Declaration.commands_blockFunctions_rename _ ref,
    Declaration.commands_of_params (plan.params_preface d stage) ref,
    names.commands_programs_rename]

theorem simulationText_rename :
    (d.rename ρ).simulationText (plan.init.rename ρ) plan.update
      = d.simulationText plan.init plan.update := by
  have commands := names.commands_shader_rename ρ .init
  exact congrArg (fun commands => (Writer.run {} commands).text) commands

theorem drawingText_rename (systemId : String) (blend : BlendMode) :
    (d.rename ρ).drawingText systemId blend (plan.output.rename ρ)
      = d.drawingText systemId blend plan.output := by
  have none : ∀ p ∈ ([] : List Param), plan.ShaderRefersTo .output p := by simp
  have ref := (names.renames ρ none).ref
  have fixed (texts : List String) :
      (Code.ofTexts texts).commands (d.rename ρ).drawingNames
        = (Code.ofTexts texts).commands d.drawingNames :=
    Code.commands_of_params (Code.params_ofTexts texts) ref
  have commands : (Declaration.codeOf ((d.rename ρ).drawing (plan.output.rename ρ))).commands
        (d.rename ρ).drawingNames
      = (Declaration.codeOf (d.drawing plan.output)).commands d.drawingNames :=
    names.commands_shader_rename ρ .output
  simp only [Blueprint.drawingText, Blueprint.drawingCode, Code.text, Code.commands_append,
    Code.commands_braces, fixed, commands]

end Plan.Names

end ParticleShaders
