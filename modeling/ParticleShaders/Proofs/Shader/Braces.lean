import ParticleShaders.Proofs.Shader.CallOrder
import ParticleShaders.Proofs.Shader.Uniforms
import ParticleShaders.Proofs.Source.Braces
import ParticleShaders.Proofs.Text.Identifier
/-! The braces of shaders, as far as they are not in names. A shader has those of its scopes and
those that its blocks bring: in the bodies of their functions, and in the expressions that their
calls and the birth of particles take over. If these are balanced, all of them are. -/

namespace ParticleShaders

open Text (Balanced)

namespace Text

theorem marks_of_isIdentifier {s : String} (h : isIdentifier s) : marks s = [] := by
  simp only [isIdentifier, Bool.and_eq_true, List.all_eq_true] at h
  exact marks_eq_nil h.2 (by decide)

theorem marks_toIdentifier (s : String) : marks (toIdentifier s) = [] :=
  marks_of_isIdentifier (isIdentifier_toIdentifier s)

theorem marks_literal (x : Float32) : marks (Number.literal x) = [] := by
  unfold Number.literal
  split
  · obtain ⟨l, _, denotes, -, text, -⟩ :=
      Number.literalStyle.exists_literal .binary32 (Number.singleBits x)
    exact marks_eq_nil (text ▸ Literal.isWordChar_of_mem_text denotes.wellFormed) (by decide)
  · rfl

end Text

namespace Declaration

/-- The braces of declarations, but for those in the names of what they refer to. -/
def marks (ds : List Declaration) : List Char := ds.flatMap (·.code.marks)

@[simp] theorem marks_append (ds es : List Declaration) : marks (ds ++ es) = marks ds ++ marks es :=
  List.flatMap_append

@[simp] theorem marks_nil : marks [] = [] := rfl

@[simp] theorem marks_cons (m : Declaration) (ds : List Declaration) :
    marks (m :: ds) = m.code.marks ++ marks ds := rfl

@[simp] theorem marks_lines (texts : List String) :
    marks (lines texts) = texts.flatMap Text.marks := by
  simp [marks, lines, List.flatMap_map, code]

theorem marks_codeOf (ds : List Declaration) : (codeOf ds).marks = marks ds := by
  induction ds with
  | nil => rfl
  | cons m rest ih =>
    show (m.code ++ codeOf rest).marks = _
    rw [Code.marks_append, ih, marks_cons]

theorem balanced_marks {ds : List Declaration} (h : ∀ m ∈ ds, Balanced m.code.marks) :
    Balanced (marks ds) := Balanced.flatMap h

end Declaration

theorem flatMap_ite_eq_nil {α β : Type} {c : Prop} [Decidable c] {xs : List α} {f : α → List β}
    (h : xs.flatMap f = []) : (if c then xs else []).flatMap f = [] := by
  split
  · exact h
  · rfl

section Storage

theorem ValueType.marks_shaderType (t : ValueType) : Text.marks t.shaderType = [] := by
  cases t <;> rfl

theorem Field.marks_text {f : Field} (type : Text.marks f.type = [])
    (name : Text.marks f.name = []) : Text.marks f.text = [] := by
  simp [text, type, name, show Text.marks " " = [] from rfl, show Text.marks ";" = [] from rfl]

theorem Buffer.marks_structName (b : Buffer) : Text.marks b.structName = [] := by
  simp [structName, show Text.marks "Attribute" = [] from rfl]

theorem Buffer.marks_variableName (b : Buffer) : Text.marks b.variableName = [] := by
  simp [variableName, show Text.marks "attribBuffer" = [] from rfl]

theorem Buffer.marks_readOnlyName (b : Buffer) : Text.marks b.readOnlyName = [] := by
  simp [readOnlyName, b.marks_variableName, show Text.marks "_RO" = [] from rfl]

namespace Declaration

variable {name : String} {fields : List Field} (bare : ∀ f ∈ fields, Text.marks f.text = [])

include bare

theorem marks_globals : (globals fields).code.marks = [] := by
  simpa [code, List.flatMap_map] using bare

theorem marks_constants (named : Text.marks name = []) :
    (constants name fields).code.marks = [] := by
  have indented : ∀ f ∈ fields, Text.marks ("\t" ++ f.text) = [] := fun f hf => by
    simp [bare f hf, show Text.marks "\t" = [] from rfl]
  have fixed : ∀ piece ∈ ["CBUFFER_START(", ")", "CBUFFER_END", ""], Text.marks piece = [] := by
    decide +kernel
  simpa [code, List.flatMap_map, named, fixed] using indented

theorem balanced_struct (named : Text.marks name = []) :
    Balanced (struct name fields).code.marks := by
  have members : (fields.map (·.text)).flatMap Text.marks = [] := by
    simpa [List.flatMap_map] using bare
  have marks : (struct name fields).code.marks = ['\x7b', '\x7d'] := by
    simp [code, named, members, show Text.marks "struct " = [] from rfl]
  rw [marks]
  decide

end Declaration

theorem Buffer.balanced_struct (b : Buffer) (named : ∀ a ∈ b.attributes, Text.marks a.name = []) :
    Balanced b.struct.code.marks := by
  refine Declaration.balanced_struct (fun f hf => ?_) b.marks_structName
  rcases List.mem_append.1 hf with hf | hf
  · obtain ⟨a, ha, rfl⟩ := List.mem_map.1 hf
    exact Field.marks_text a.type.marks_shaderType (named a ha)
  · obtain ⟨n, -, rfl⟩ := List.mem_map.1 hf
    exact Field.marks_text (show Text.marks "uint" = [] from rfl)
      (by simp [show Text.marks "_PADDING_" = [] from rfl])

theorem Declaration.balanced_structs {buffers : List Buffer}
    (named : ∀ b ∈ buffers, ∀ a ∈ b.attributes, Text.marks a.name = []) :
    Balanced (marks (buffers.map (·.struct))) := by
  refine balanced_marks fun m hm => ?_
  obtain ⟨b, hb, rfl⟩ := List.mem_map.1 hm
  exact b.balanced_struct (named b hb)

namespace ParamSet

variable {s : ParamSet} {naming : Naming}
  (named : ∀ p ∈ s.params, Text.marks (naming.nameOf p.id) = [])

include named

theorem marks_fields : ∀ f ∈ s.fields naming, Text.marks f.text = [] := by
  intro f hf
  obtain ⟨p, hp, rfl⟩ := List.mem_map.1 hf
  exact Field.marks_text p.type.marks_shaderType (named p hp)

theorem marks_constants {group : String} (titled : Text.marks group = []) :
    Declaration.marks (s.constants naming group) = [] := by
  unfold constants
  split
  · rfl
  · rw [Declaration.marks_cons, Declaration.marks_constants (marks_fields named) titled]
    rfl

theorem marks_samplers : Declaration.marks (s.samplers naming) = [] := by
  unfold samplers
  split
  · rfl
  · rw [Declaration.marks_cons, Declaration.marks_globals (marks_fields named)]
    rfl

end ParamSet

end Storage

section Blocks

def Argument.Braced : Argument → Prop
  | .param _ => True
  | .expr source => Balanced source.toList

instance (a : Argument) : Decidable a.Braced :=
  match a with
  | .param _ => isTrue trivial
  | .expr source => inferInstanceAs (Decidable (Balanced source.toList))

theorem Argument.Braced.marks_word {a : Argument} (h : a.Braced) : Balanced a.word.marks := by
  cases a with
  | param p => exact .nil
  | expr source => exact Text.balanced_marks.2 h

namespace BoundBlock

variable {b : BoundBlock}

structure Braced (b : BoundBlock) : Prop where
  source : Balanced (String.join b.descriptor.source).toList
  arguments : ∀ a ∈ b.arguments, a.Braced

instance (b : BoundBlock) : Decidable b.Braced :=
  decidable_of_iff (Balanced (String.join b.descriptor.source).toList ∧
    ∀ a ∈ b.arguments, a.Braced) ⟨fun h => ⟨h.1, h.2⟩, fun h => ⟨h.source, h.arguments⟩⟩

structure Bare (b : BoundBlock) : Prop where
  function : Text.marks b.function = []
  names : ∀ name ∈ b.descriptor.names, Text.marks name = []

theorem Bare.marks_parameters (h : b.Bare) : ∀ p ∈ b.parameters, Text.marks p.text = [] := by
  have fixed : ∀ piece ∈ ["inout ", "", " ", "uint", "bool", "seed", "kill"],
      Text.marks piece = [] := by
    decide +kernel
  have own {p : Parameter} (type : Text.marks p.type = []) (name : Text.marks p.name = []) :
      Text.marks p.text = [] := by
    unfold Parameter.text
    split <;> simp [type, name, fixed]
  intro p hp
  simp only [parameters, List.mem_append, List.mem_map, List.mem_ite_nil_right,
    List.mem_singleton] at hp
  rcases hp with ((⟨d, hd, rfl⟩ | ⟨d, hd, rfl⟩) | ⟨-, rfl⟩) | ⟨-, rfl⟩
  · exact own d.type.marks_shaderType
      (h.names _ (List.mem_append_left _ (List.mem_map_of_mem hd)))
  · exact own d.type.marks_shaderType
      (h.names _ (List.mem_append_right _ (List.mem_map_of_mem hd)))
  · exact own (fixed _ (by simp)) (fixed _ (by simp))
  · exact own (fixed _ (by simp)) (fixed _ (by simp))

theorem Bare.marks_heading (h : b.Bare) : Text.marks b.heading = [] := by
  have fixed : ∀ piece ∈ ["void ", "(", ")", ","], Text.marks piece = [] := by decide +kernel
  have parameters : b.parameters.flatMap (Text.marks ·.text) = [] :=
    List.flatMap_eq_nil_iff.2 h.marks_parameters
  simp [heading, h.function, Text.marks_intercalate, List.flatMap_map, fixed, parameters]

theorem balanced_function (bare : b.Bare) (braced : b.Braced) :
    Balanced (Declaration.blockFunction b).code.marks := by
  have source : Balanced (b.descriptor.source.flatMap Text.marks) := by
    rw [← Text.marks_join]
    exact Text.balanced_marks.2 braced.source
  have scope := source.enclose
  simpa [Declaration.code, bare.marks_heading] using scope

theorem balanced_call (bare : b.Bare) (braced : b.Braced) : Balanced (Line.call b).marks := by
  rw [Line.marks, bare.function]
  refine Balanced.flatMap fun w hw => ?_
  simp only [callWords, List.mem_append, List.mem_map, List.mem_ite_nil_right,
    List.mem_singleton] at hw
  rcases hw with ((⟨d, -, rfl⟩ | ⟨a, ha, rfl⟩) | ⟨-, rfl⟩) | ⟨-, rfl⟩
  · exact .nil
  · exact (braced.arguments a ha).marks_word
  · exact .nil
  · decide +kernel

end BoundBlock

section

variable {blocks : List BoundBlock} (fine : ∀ b ∈ blocks, b.Bare ∧ b.Braced)

include fine

theorem Declaration.balanced_blockFunctions : Balanced (marks (blockFunctions blocks)) := by
  refine balanced_marks fun m hm => ?_
  obtain ⟨b, rfl⟩ := exists_of_mem_functionsBeside hm
  obtain ⟨bare, braced⟩ := fine b (List.mem_of_find?_eq_some (mem_blockFunctions.1 hm))
  exact BoundBlock.balanced_function bare braced

theorem Line.balanced_calls : Balanced ((blocks.map call).flatMap marks) := by
  rw [List.flatMap_map]
  exact Balanced.flatMap fun b hb => BoundBlock.balanced_call (fine b hb).1 (fine b hb).2

end

end Blocks

namespace BlendMode

variable (blend : BlendMode)

theorem marks_state : blend.state.flatMap Text.marks = [] := by
  unfold state
  split <;>
    (simp only [List.flatMap_cons, List.flatMap_nil]
     repeat rw [Text.marks_ofList]
     rfl)

theorem balanced_tags : Balanced (blend.tags.flatMap Text.marks) := by
  unfold tags
  split
  · exact .nil
  · simp only [List.flatMap_cons, List.flatMap_nil, Text.marks_append]
    repeat rw [Text.marks_ofList]
    decide

end BlendMode

structure Blueprint.Bare (d : Blueprint) : Prop where
  attributes : ∀ b ∈ d.buffers, ∀ a ∈ b.attributes, Text.marks a.name = []
  params : ∀ stage, ∀ k ∈ UniformSet.ofStage stage, ∀ p ∈ (d.uniforms.set k).params,
    Text.marks ((d.namingOf stage).nameOf p.id) = []

namespace Blueprint

variable {d : Blueprint} (bare : d.Bare)

section Preface

theorem marks_pragmas (init : Option InitGenerator) (update : Option UpdateGenerator) :
    (pragmas init update).flatMap Text.marks = [] := by
  rw [pragmas, List.flatMap_append, List.flatMap_append, flatMap_ite_eq_nil, flatMap_ite_eq_nil]
  · rfl
  · exact Text.flatMap_marks_ofList rfl
  · exact Text.flatMap_marks_ofList rfl

theorem marks_preamble : preamble.flatMap Text.marks = ['\x7b', '\x7d'] := by
  simp only [preamble, List.flatMap_cons, List.flatMap_nil]
  repeat rw [Text.marks_ofList]
  rfl

theorem marks_frameConstants : d.frameConstants.code.marks = [] := by
  refine Declaration.marks_constants (List.forall_mem_append.2 ⟨by decide +kernel, ?_⟩) rfl
  cases d.hasRand <;> decide +kernel

theorem marks_spawnConstants : spawnConstants.code.marks = [] :=
  Declaration.marks_constants (by decide +kernel) rfl

theorem balanced_fixed (init : Option InitGenerator) (update : Option UpdateGenerator) :
    Balanced (Declaration.marks (Declaration.lines (pragmas init update)
      ++ Declaration.lines preamble ++ [d.frameConstants]
      ++ (if init.isSome then [spawnConstants] else []))) := by
  have spawn : Declaration.marks (if init.isSome then [spawnConstants] else []) = [] :=
    flatMap_ite_eq_nil (by simp [marks_spawnConstants])
  have braces : Balanced ['\x7b', '\x7d'] := by decide
  simpa [marks_pragmas, marks_preamble, marks_frameConstants, spawn] using braces

theorem balanced_sampleFunctions {b : Bake} (code : d.signals = b.code) :
    Balanced (Declaration.marks d.sampleFunctions) := by
  have functions : Balanced (b.functions.flatMap Text.marks) := by
    rw [Bake.functions, List.flatMap_append]
    refine Balanced.append ?_ ?_
    · split
      · simp only [List.flatMap_cons, List.flatMap_nil]
        repeat rw [Text.marks_ofList]
        decide
      · exact .nil
    · split
      · simp only [List.flatMap_cons, List.flatMap_nil, Text.marks_append]
        repeat rw [Text.marks_ofList]
        decide
      · exact .nil
  rw [sampleFunctions, code]
  split
  · exact .nil
  · simpa [Bake.code, Declaration.blank, Declaration.code] using functions

theorem marks_lookupTextures : Declaration.marks d.lookupTextures = [] := by
  unfold lookupTextures
  cases d.signals.hasColor <;> cases d.signals.hasFloat <;> rfl

theorem marks_lifeDeclarations : Declaration.marks d.lifeDeclarations = [] := by
  unfold lifeDeclarations
  cases d.hasKill <;> rfl

theorem balanced_randFunction : Balanced (Declaration.marks d.randFunction) := by
  unfold randFunction
  cases d.hasRand <;> decide +kernel

theorem marks_bufferVariables (b : Buffer) : ∀ f ∈ bufferVariables b, Text.marks f.text = [] := by
  have fixed : ∀ piece ∈ ["RWStructuredBuffer<", "StructuredBuffer<", ">"],
      Text.marks piece = [] := by
    decide +kernel
  intro f hf
  rcases List.mem_append.1 hf with hf | hf
  · obtain rfl := List.mem_singleton.1 hf
    exact Field.marks_text (by simp [b.marks_structName, fixed]) b.marks_variableName
  · split at hf
    · obtain rfl := List.mem_singleton.1 hf
      exact Field.marks_text (by simp [b.marks_structName, fixed]) b.marks_readOnlyName
    · cases hf

include bare

theorem Bare.marks_declareSets (stage : Stage) : Declaration.marks (d.declareSets stage) = [] := by
  rw [Declaration.marks, declareSets, List.flatMap_assoc, List.flatMap_eq_nil_iff]
  intro k hk
  show Declaration.marks (d.declareSet stage k) = []
  unfold declareSet
  split
  · exact ParamSet.marks_samplers (bare.params stage k hk)
  · refine ParamSet.marks_constants (bare.params stage k hk) ?_
    unfold groupName
    split <;> rfl

theorem Bare.balanced_bufferDeclarations : Balanced (Declaration.marks d.bufferDeclarations) := by
  have structs := Declaration.balanced_structs bare.attributes
  have globals : Declaration.marks [.globals (d.buffers.flatMap bufferVariables), .blank] = [] := by
    have named : ∀ f ∈ d.buffers.flatMap bufferVariables, Text.marks f.text = [] := by
      intro f hf
      obtain ⟨b, -, hf⟩ := List.mem_flatMap.1 hf
      exact marks_bufferVariables b f hf
    rw [Declaration.marks_cons, Declaration.marks_globals named]
    rfl
  rw [bufferDeclarations, Declaration.marks_append]
  refine structs.append ?_
  split
  · exact .nil
  · rw [globals]
    exact .nil

theorem Bare.balanced_simulationPreface {b : Bake} (baked : d.signals = b.code)
    (init : Option InitGenerator) (update : Option UpdateGenerator) :
    Balanced (Declaration.marks (d.simulationPreface init update)) := by
  have params : Declaration.marks d.paramDeclarations = [] := by
    rw [← d.declareSets_simulation (show Stage.init ≠ .output by decide), bare.marks_declareSets]
  have frame := balanced_fixed (d := d) init update
  have buffers := bare.balanced_bufferDeclarations
  have helpers := (balanced_randFunction (d := d)).append (balanced_sampleFunctions baked)
  have parts := (frame.append buffers).append helpers
  simpa only [simulationPreface, Declaration.marks_append, params, marks_lookupTextures,
    marks_lifeDeclarations, List.nil_append, List.append_nil, List.append_assoc] using parts

theorem Bare.balanced_drawingPreface (g : OutputGenerator) :
    Balanced (Declaration.marks (d.outputDeclarations ++ [d.vertexStruct g])) := by
  have params :
      Declaration.marks (d.uniforms.plain.output.constants d.outputNaming "outputUniforms")
        ++ Declaration.marks (d.uniforms.samplers.output.samplers d.outputNaming) = [] := by
    rw [← Declaration.marks_append, ← declareSets_output, bare.marks_declareSets]
  obtain ⟨constants, samplers⟩ := List.append_eq_nil_iff.1 params
  have structs : Balanced (Declaration.marks (d.outputBuffers.map (·.struct))) :=
    Declaration.balanced_structs fun b hb => bare.attributes b (List.mem_of_mem_filter hb)
  have globals : Declaration.marks [.globals (d.outputBuffers.map fun b =>
      ⟨"StructuredBuffer<" ++ b.structName ++ ">", b.variableName⟩)] = [] := by
    have fixed : ∀ piece ∈ ["StructuredBuffer<", ">"], Text.marks piece = [] := by decide +kernel
    refine congrArg (· ++ []) (Declaration.marks_globals fun f hf => ?_)
    obtain ⟨b, -, rfl⟩ := List.mem_map.1 hf
    exact Field.marks_text (by simp [b.marks_structName, fixed]) b.marks_variableName
  have flags : Declaration.marks (if d.hasKill then
      [Declaration.globals [⟨"StructuredBuffer<int>", "flags"⟩]] else []) = [] :=
    flatMap_ite_eq_nil (congrArg (· ++ []) (Declaration.marks_globals (by decide +kernel)))
  have blank : Declaration.marks [.blank] = [] := rfl
  have vertices : Balanced (Declaration.marks [d.vertexStruct g]) := by
    refine (Declaration.balanced_struct (List.forall_mem_append.2
      ⟨List.forall_mem_append.2 ⟨by decide +kernel, ?_⟩, ?_⟩) rfl).append .nil
    · cases d.isColored <;> decide +kernel
    · unfold OutputGenerator.vertexFields
      cases g.kind <;> decide +kernel
  have parts := structs.append vertices
  simpa only [outputDeclarations, Declaration.marks_append, constants, samplers, globals, flags,
    blank, List.nil_append, List.append_nil, List.append_assoc] using parts

end Preface

section Programs

variable {g : OutputGenerator}

theorem marks_seeding : d.seeding.flatMap Line.marks = [] := by
  rw [seeding, List.flatMap_append, flatMap_ite_eq_nil, flatMap_ite_eq_nil]
  · rfl
  · rfl
  · simp only [List.flatMap_cons, List.flatMap_nil, Line.marks_plain, Line.marks_assign,
      Line.marks_blank, Word.marks_text]
    repeat rw [Text.marks_ofList]
    rfl

theorem marks_shiftPhase {operator : String} (h : Text.marks operator = []) :
    (d.shiftPhase operator).flatMap Line.marks = [] := by
  refine flatMap_ite_eq_nil ?_
  simp only [List.flatMap_cons, Line.marks_assign, h]
  rfl

theorem marks_closing_update (g : UpdateGenerator) : g.closing.flatMap Line.marks = [] := by
  obtain ⟨integrate, age, reap⟩ := g
  cases integrate <;> cases age <;> cases reap <;> rfl

theorem marks_extent : (g.extent d).marks = [] := by
  have fixed : ∀ piece ∈ ["float2(", ",", ")"], Text.marks piece = [] := by decide +kernel
  unfold OutputGenerator.extent
  split
  · rfl
  · simp [Text.marks_literal, fixed]

theorem marks_closing_output : (g.closing d).flatMap Line.marks = [] := by
  unfold OutputGenerator.closing
  cases g.kind with
  | point =>
    simp only [List.flatMap_cons, List.flatMap_nil, Line.marks_words, Line.marks_blank,
      Word.marks_text, Word.marks_ref]
    repeat rw [Text.marks_ofList]
    rfl
  | billboard =>
    have turned : (if g.turns d then [Line.words [.text "corner = rotateCorner(corner, ",
        .ref .angle, .text ");"]] else []).flatMap Line.marks = [] := flatMap_ite_eq_nil rfl
    simp only [List.flatMap_append, turned, List.flatMap_cons, List.flatMap_nil, Line.marks_words,
      Line.marks_plain, Line.marks_blank, Word.marks_text, Word.marks_ref, marks_extent]
    repeat rw [Text.marks_ofList]
    rfl

theorem marks_opening : g.opening.flatMap Line.marks = [] := by
  unfold OutputGenerator.opening
  cases g.kind <;> rfl

theorem marks_coloring : d.coloring.flatMap Line.marks = [] := by
  unfold coloring
  cases d.isColored <;> cases d.holds .color <;> cases d.holds .alpha <;> rfl

theorem marks_map {α : Type} {xs : List α} {line : α → Line} (h : ∀ x, (line x).marks = []) :
    (xs.map line).flatMap Line.marks = [] := by
  rw [List.flatMap_map, List.flatMap_eq_nil_iff]
  exact fun x _ => h x

theorem marks_updateLoads : d.updateLoads.flatMap Line.marks = [] := by
  refine marks_map fun b => ?_
  show Text.marks (updateSource b) = []
  unfold updateSource
  split
  · exact b.marks_variableName
  · exact b.marks_readOnlyName

theorem balanced_closing_init {g : InitGenerator} (lifetime : ∀ a ∈ g.lifetime, a.Braced) :
    Balanced (g.closing.flatMap Line.marks) := by
  unfold InitGenerator.closing
  cases found : g.lifetime with
  | none => exact .nil
  | some a =>
    have value := (lifetime a found).marks_word
    simpa [Line.marks, Word.marks, Line.blank, Line.plain, show Text.marks "=" = [] from rfl,
      show Text.marks "0.0" = [] from rfl] using value

theorem balanced_initLines {g : InitGenerator}
    (blocks : ∀ b ∈ d.initBlocks, b.Bare ∧ b.Braced)
    (lifetime : ∀ a ∈ g.lifetime, a.Braced) : Balanced ((d.initLines g).flatMap Line.marks) := by
  have cleared : (d.buffers.map (Line.clear ·.index)).flatMap Line.marks = [] :=
    marks_map fun _ => rfl
  have stored : (d.buffers.map fun b => Line.store b.index b.variableName).flatMap Line.marks
      = [] := marks_map fun b => b.marks_variableName
  have first : [Line.plain (if d.hasKill then "uint index = deadListIn.Consume();"
      else "uint index = id.x + spawnIndex;"), .blank].flatMap Line.marks = [] := by
    cases d.hasKill <;> rfl
  have last : (if d.hasKill then [Line.blank, .plain "flags[index] = 1;"] else []).flatMap
      Line.marks = [] := by
    cases d.hasKill <;> rfl
  have blank : [Line.blank].flatMap Line.marks = [] := rfl
  have parts := (Line.balanced_calls blocks).append (balanced_closing_init lifetime)
  simpa only [initLines, List.flatMap_append, first, last, blank, cleared, stored, marks_seeding,
    marks_shiftPhase (d := d) (show Text.marks "-=" = [] from rfl), List.nil_append,
    List.append_nil, List.append_assoc] using parts

theorem balanced_updateLines (g : UpdateGenerator)
    (blocks : ∀ b ∈ d.updateBlocks, b.Bare ∧ b.Braced) :
    Balanced ((d.updateLines g).flatMap Line.marks) := by
  have first : [Line.plain "uint index = id.x;"].flatMap Line.marks = [] := rfl
  have kill : (if d.hasKill then [Line.plain "bool kill = false;"] else []).flatMap Line.marks
      = [] := flatMap_ite_eq_nil rfl
  have blank : [Line.blank].flatMap Line.marks = [] := rfl
  simpa only [updateLines, List.flatMap_append, first, kill, blank, marks_updateLoads,
    marks_shiftPhase (d := d) (show Text.marks "+=" = [] from rfl),
    marks_shiftPhase (d := d) (show Text.marks "-=" = [] from rfl), marks_closing_update,
    List.nil_append, List.append_nil] using Line.balanced_calls blocks

theorem balanced_vertexLines (blocks : ∀ b ∈ d.outputBlocks, b.Bare ∧ b.Braced) :
    Balanced ((d.vertexLines g).flatMap Line.marks) := by
  have loaded : d.outputLoads.flatMap Line.marks = [] := marks_map fun b => b.marks_variableName
  have blank : [Line.blank].flatMap Line.marks = [] := rfl
  have called : Balanced (d.outputCalls.flatMap Line.marks) := by
    unfold outputCalls
    split
    · exact .nil
    · rw [List.flatMap_append]
      exact (Line.balanced_calls blocks).append .nil
  simpa only [vertexLines, List.flatMap_append, loaded, blank, marks_opening, marks_closing_output,
    marks_coloring, List.nil_append, List.append_nil] using called

theorem balanced_routine {name : String} {heading : List String} {body : Code}
    (headed : heading.flatMap Text.marks = []) (balanced : Balanced body.marks) :
    Balanced (Declaration.routine name heading body).code.marks := by
  have scope := balanced.enclose
  simpa [Declaration.code, headed] using scope

theorem marks_kernelHeading {name : String} (named : Text.marks name = []) :
    (kernelHeading name).flatMap Text.marks = [] := by
  simp only [kernelHeading, List.flatMap_cons, List.flatMap_nil, Text.marks_append, named]
  repeat rw [Text.marks_ofList]
  rfl

theorem balanced_initKernel {g : InitGenerator}
    (blocks : ∀ b ∈ d.initBlocks, b.Bare ∧ b.Braced)
    (lifetime : ∀ a ∈ g.lifetime, a.Braced) : Balanced (d.initKernel g).code.marks := by
  have guarded : (Code.ofTexts [if d.hasKill then "if (id.x < min(nbSpawned,deadListCount[0]))"
      else "if (id.x < nbSpawned)"]).marks = [] := by
    rw [Code.marks_ofTexts]
    split <;> exact Text.flatMap_marks_ofList rfl
  refine balanced_routine (marks_kernelHeading rfl) ?_
  rw [Code.marks_append, guarded, Code.marks_braces, Code.marks_ofLines]
  exact (balanced_initLines blocks lifetime).enclose

theorem balanced_killBranch : Balanced d.killBranch.marks := by
  unfold killBranch
  split
  · simp only [Code.marks_append, Code.marks_braces, Code.marks_ofTexts, List.flatMap_cons,
      List.flatMap_nil]
    repeat rw [Text.marks_ofList]
    decide
  · exact .nil

theorem balanced_updateKernel (g : UpdateGenerator)
    (blocks : ∀ b ∈ d.updateBlocks, b.Bare ∧ b.Braced) :
    Balanced (d.updateKernel g).code.marks := by
  have guarded : (Code.ofTexts [if d.hasKill then "if (id.x < nbMax && flags[id.x] == 1)"
      else "if (id.x < nbMax)"]).marks = [] := by
    rw [Code.marks_ofTexts]
    split <;> exact Text.flatMap_marks_ofList rfl
  have stored : d.updateStores.flatMap Line.marks = [] := marks_map fun b => b.marks_variableName
  refine balanced_routine (marks_kernelHeading rfl) ?_
  rw [Code.marks_append, guarded, Code.marks_braces, Code.marks_append, Code.marks_append,
    Code.marks_ofLines, Code.marks_ofLines, stored, List.append_nil]
  exact ((balanced_updateLines g blocks).append balanced_killBranch).enclose

theorem balanced_vertexProgram (blocks : ∀ b ∈ d.outputBlocks, b.Bare ∧ b.Braced) :
    Balanced (d.vertexProgram g).code.marks := by
  have lines := balanced_vertexLines (g := g) blocks
  have first : (Code.ofLines [.plain "ps_input o;", g.index]).marks = [] := by
    unfold OutputGenerator.index
    cases g.kind <;> rfl
  have last : (Code.ofTexts ["return o;"]).marks = [] := rfl
  refine balanced_routine (Text.flatMap_marks_ofList rfl) ?_
  rw [vertexBody, Code.marks_append, Code.marks_append, first, last, List.append_nil,
    List.nil_append]
  split
  · have living : (Code.ofTexts ["if (flags[index] == 1)"]).marks = [] := by
      rw [Code.marks_ofTexts, Text.flatMap_marks_ofList rfl]
    have dead : Balanced (Code.ofTexts ["else"] ++ Code.braces (.ofTexts d.deadLines)
        ++ Code.ofTexts [""]).marks := by
      unfold deadLines
      cases d.isColored <;> decide +kernel
    have both := lines.enclose.append dead
    simpa only [Code.marks_append, living, Code.marks_braces, Code.marks_ofLines, List.nil_append,
      List.append_assoc] using both
  · rwa [Code.marks_ofLines]

theorem marks_pixels : g.pixels.flatMap Line.marks = [] := by
  unfold OutputGenerator.pixels
  split
  · rfl
  · rfl
  · simp only [List.flatMap_cons, List.flatMap_nil, Line.marks_plain]
    repeat rw [Text.marks_ofList]
    rfl

theorem balanced_fragmentProgram : Balanced (d.fragmentProgram g).code.marks := by
  have color : [Line.plain (if d.isColored then "float4 color = i.col;"
      else "float4 color = float4(1.0,1.0,1.0,0.5);")].flatMap Line.marks = [] := by
    rw [List.flatMap_singleton, Line.marks_plain]
    split <;> exact Text.marks_ofList _
  have last : [Line.plain "return color;"].flatMap Line.marks = [] := rfl
  refine balanced_routine (Text.flatMap_marks_ofList rfl) ?_
  rw [Code.marks_ofLines, List.flatMap_append, List.flatMap_append, color, marks_pixels, last]
  exact .nil

theorem balanced_functions : Balanced (Declaration.marks (g.functions d)) := by
  unfold OutputGenerator.functions
  split
  · refine (balanced_routine (Text.flatMap_marks_ofList rfl) ?_).append .nil
    simp only [Code.marks_ofTexts, List.flatMap_cons, List.flatMap_nil]
    repeat rw [Text.marks_ofList]
    exact .nil
  · exact .nil

end Programs

include bare

theorem Bare.balanced_simulation {b : Bake} (baked : d.signals = b.code) {init : InitGenerator}
    (update : UpdateGenerator) (lifetime : ∀ a ∈ init.lifetime, a.Braced)
    (blocks : ∀ b ∈ d.initBlocks ++ d.updateBlocks, b.Bare ∧ b.Braced) :
    Balanced (Declaration.marks (d.simulation (some init) (some update))) := by
  obtain ⟨born, updated⟩ := List.forall_mem_append.1 blocks
  have functions := Declaration.balanced_blockFunctions blocks
  rw [simulation_eq, Declaration.marks_append, Declaration.marks_append]
  refine ((bare.balanced_simulationPreface baked _ _).append functions).append ?_
  refine Declaration.balanced_marks fun m hm => ?_
  rcases List.mem_pair.1 hm with rfl | rfl
  · exact balanced_initKernel born lifetime
  · exact balanced_updateKernel update updated

theorem Bare.balanced_drawing (g : OutputGenerator)
    (blocks : ∀ b ∈ d.outputBlocks, b.Bare ∧ b.Braced) :
    Balanced (Declaration.marks (d.drawing g)) := by
  have functions := Declaration.balanced_blockFunctions blocks
  unfold drawing
  rw [Declaration.marks_append, Declaration.marks_append, Declaration.marks_append]
  refine (((bare.balanced_drawingPreface g).append functions).append balanced_functions).append ?_
  refine Declaration.balanced_marks fun m hm => ?_
  rcases List.mem_pair.1 hm with rfl | rfl
  · exact balanced_vertexProgram blocks
  · exact balanced_fragmentProgram

theorem Bare.balanced_drawingCode {systemId : String} (free : Text.marks systemId = [])
    (blend : BlendMode) (g : OutputGenerator)
    (blocks : ∀ b ∈ d.outputBlocks, b.Bare ∧ b.Braced) :
    Balanced (d.drawingCode systemId blend g).marks := by
  have drawn : Balanced (Declaration.codeOf (d.drawing g)).marks := by
    rw [Declaration.marks_codeOf]
    exact bare.balanced_drawing g blocks
  have titled : (Code.ofTexts ["Shader \"Custom/VFX_" ++ systemId ++ "\""]).marks = [] := by
    simp [free, show Text.marks "Shader \"Custom/VFX_" = [] from rfl,
      show Text.marks "\"" = [] from rfl]
  have state : (Code.ofTexts (blend.state
      ++ ["CGPROGRAM", "#pragma target 5.0", "", "#pragma vertex vert", "#pragma fragment frag", "",
        "#include \"UnityCG.cginc\"", ""])).marks = [] := by
    rw [Code.marks_ofTexts, List.flatMap_append, blend.marks_state]
    simp only [List.flatMap_cons, List.flatMap_nil]
    repeat rw [Text.marks_ofList]
    rfl
  have tags : Balanced (Code.ofTexts (blend.tags ++ ["Pass"])).marks := by
    rw [Code.marks_ofTexts, List.flatMap_append]
    exact blend.balanced_tags.append .nil
  have shader : (Code.ofTexts ["SubShader"]).marks = [] := rfl
  have ending : (Code.ofTexts ["ENDCG"]).marks = [] := rfl
  have fallback : (Code.ofTexts ["FallBack Off"]).marks = [] := rfl
  have parts := (tags.append drawn.enclose).enclose.enclose
  simpa only [drawingCode, Code.marks_append, Code.marks_braces, titled, state, shader, ending,
    fallback, List.nil_append, List.append_nil] using parts

end Blueprint

end ParticleShaders
