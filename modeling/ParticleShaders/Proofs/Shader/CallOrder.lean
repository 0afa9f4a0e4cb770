import ParticleShaders.Proofs.Shader.Calls

namespace ParticleShaders

namespace Line

def call? : Line → Option BoundBlock
  | call b => some b
  | _ => none

def shift (operator : String) : Line :=
  .assign .position operator [.text "(", .ref .phase, .text " * deltaTime) * ", .ref .velocity]

@[simp] theorem filterMap_call?_map_call (blocks : List BoundBlock) :
    (blocks.map call).filterMap call? = blocks := by
  simp [List.filterMap_map, Function.comp_def, call?]

theorem filterMap_call?_of_isPlain {ls : List Line} (plain : ∀ l ∈ ls, l.IsPlain) :
    ls.filterMap call? = [] := by
  rw [List.filterMap_eq_nil_iff]
  intro l hl
  obtain ⟨text, rfl⟩ := plain l hl
  rfl

end Line

namespace Declaration

def calls (m : Declaration) : List BoundBlock := m.code.lines.filterMap Line.call?

def programName? : Declaration → Option String
  | routine name _ _ => if name ∈ ["CSVFXInit", "CSVFXUpdate", "vert"] then some name else none
  | _ => none

def called? (m : Declaration) : Option (String × List BoundBlock) := m.programName?.map (·, m.calls)

/-- A shader has one function of the name of a block, that of the first of the blocks that bear the
name, and it stands above all programs. -/
def DefinedOnce (shader : List Declaration) (blocks : List BoundBlock) (b : BoundBlock) : Prop :=
  ∃ above f below, shader = above ++ blockFunction f :: below ∧
    blocks.find? (·.function = b.function) = some f ∧
    (∀ g, blockFunction g ∈ above ++ below → g.function ≠ b.function) ∧
    ∀ m ∈ above, m.programName? = none

structure CallsOnce (shader : List Declaration) (programs : List (String × List BoundBlock))
    (blocks : List BoundBlock) : Prop where
  programs : shader.filterMap called? = programs
  others : ∀ m ∈ shader, m.programName? = none → m.calls = []
  defined : ∀ b ∈ blocks, DefinedOnce shader blocks b

structure Idle (m : Declaration) : Prop where
  programName? : m.programName? = none
  calls : m.calls = []
  noFunction : ∀ f, m ≠ blockFunction f

theorem Idle.called? {m : Declaration} (h : m.Idle) : m.called? = none := by
  rw [Declaration.called?, h.programName?, Option.map_none]

def isData : Declaration → Bool
  | line _ | constants .. | globals _ | struct .. => true
  | _ => false

@[simp] theorem isData_line (text : String) : (line text).isData := rfl

@[simp] theorem isData_constants (name : String) (fields : List Field) :
    (constants name fields).isData := rfl

@[simp] theorem isData_globals (fields : List Field) : (globals fields).isData := rfl

@[simp] theorem isData_struct (name : String) (members : List Field) :
    (struct name members).isData := rfl

theorem isPlain_of_isData {m : Declaration} (h : m.isData) : ∀ l ∈ m.code.lines, l.IsPlain := by
  cases m with
  | blockFunction b | routine name heading body => cases h
  | _ => simp [code, Code.structBraces, Code.lines, or_imp, forall_and]

theorem isPlain_routine {name : String} {heading texts : List String} :
    ∀ l ∈ (routine name heading (.ofTexts texts)).code.lines, l.IsPlain := by
  simp [code, or_imp, forall_and]

theorem isPlain_blockFunction (b : BoundBlock) :
    ∀ l ∈ (blockFunction b).code.lines, l.IsPlain := by
  simp [code, or_imp, forall_and]

theorem idle_of_isData {m : Declaration} (h : m.isData) : m.Idle := by
  cases m with
  | blockFunction b | routine name heading body => cases h
  | _ => exact ⟨rfl, Line.filterMap_call?_of_isPlain (isPlain_of_isData h), nofun⟩

theorem idle_routine {name : String} {heading texts : List String}
    (other : name ∉ ["CSVFXInit", "CSVFXUpdate", "vert"]) :
    (routine name heading (.ofTexts texts)).Idle :=
  ⟨if_neg other, Line.filterMap_call?_of_isPlain isPlain_routine, nofun⟩

theorem calls_blockFunction (b : BoundBlock) : (blockFunction b).calls = [] :=
  Line.filterMap_call?_of_isPlain (isPlain_blockFunction b)

theorem exists_functionsBeside_eq (taken : List String) (blocks : List BoundBlock) :
    ∃ firsts : List BoundBlock, functionsBeside taken blocks = firsts.map blockFunction ∧
      (firsts.map (·.function)).Nodup ∧ ∀ f ∈ firsts, f.function ∉ taken := by
  induction blocks generalizing taken with
  | nil => exact ⟨[], rfl, .nil, nofun⟩
  | cons b rest ih =>
    unfold functionsBeside
    split
    · exact ih taken
    · next fresh =>
      have fresh : b.function ∉ taken := fun known => fresh (List.contains_iff_mem.2 known)
      obtain ⟨firsts, same, distinct, apart⟩ := ih (b.function :: taken)
      refine ⟨b :: firsts, by rw [same]; rfl, List.nodup_cons.2 ⟨fun mem => ?_, distinct⟩,
        List.forall_mem_cons.2 ⟨fresh, fun f hf known => ?_⟩⟩
      · obtain ⟨f, hf, named⟩ := List.mem_map.1 mem
        exact apart f hf (named ▸ List.mem_cons_self)
      · exact apart f hf (List.mem_cons_of_mem _ known)

theorem definedOnce_blockFunctions {blocks : List BoundBlock} {b : BoundBlock} (hb : b ∈ blocks) :
    DefinedOnce (blockFunctions blocks) blocks b := by
  obtain ⟨f, first, named⟩ := exists_first hb
  have written : blockFunction f ∈ blockFunctions blocks := mem_blockFunctions.2 (named ▸ first)
  obtain ⟨firsts, same, distinct, -⟩ := exists_functionsBeside_eq [] blocks
  have same : blockFunctions blocks = firsts.map blockFunction := same
  obtain ⟨f', hf, eq⟩ := List.mem_map.1 (same ▸ written)
  obtain rfl : f' = f := blockFunction.inj eq
  obtain ⟨before, after, rfl⟩ := List.append_of_mem hf
  refine ⟨before.map blockFunction, f', after.map blockFunction, by simp [same], first, ?_, ?_⟩
  · intro g written other
    rw [← List.map_append] at written
    obtain ⟨g', hg, eq⟩ := List.mem_map.1 written
    obtain rfl : g' = g := blockFunction.inj eq
    rw [List.map_append, List.map_cons, List.perm_middle.nodup_iff, List.nodup_cons,
      ← List.map_append] at distinct
    exact distinct.1 (List.mem_map.2 ⟨g', hg, other.trans named.symm⟩)
  · intro m hm
    obtain ⟨g, -, rfl⟩ := List.mem_map.1 hm
    rfl

theorem callsOnce_of_parts (blocks : List BoundBlock) {preface programs : List Declaration}
    (idle : ∀ m ∈ preface, m.Idle) (others : ∀ m ∈ programs, m.programName? = none → m.Idle) :
    CallsOnce (preface ++ blockFunctions blocks ++ programs)
      (programs.filterMap called?) blocks := by
  have function {m : Declaration} (hm : m ∈ blockFunctions blocks) : ∃ b, m = blockFunction b :=
    exists_of_mem_functionsBeside hm
  constructor
  case programs =>
    have prefaced : preface.filterMap called? = [] :=
      List.filterMap_eq_nil_iff.2 fun m hm => (idle m hm).called?
    have defined : (blockFunctions blocks).filterMap called? = [] :=
      List.filterMap_eq_nil_iff.2 fun m hm => by
        obtain ⟨b, rfl⟩ := function hm
        rfl
    rw [List.filterMap_append, List.filterMap_append, prefaced, defined]
    rfl
  case others =>
    intro m hm unnamed
    simp only [List.mem_append] at hm
    rcases hm with (hm | hm) | hm
    · exact (idle m hm).calls
    · obtain ⟨b, rfl⟩ := function hm
      exact calls_blockFunction b
    · exact (others m hm unnamed).calls
  case defined =>
    intro b hb
    obtain ⟨above, f, below, same, first, alone, plain⟩ := definedOnce_blockFunctions hb
    refine ⟨preface ++ above, f, below ++ programs, by simp [same], first, fun g hg => ?_,
      fun m hm => ?_⟩
    · have mem : blockFunction g ∈ above ++ below := by
        simp only [List.mem_append] at hg ⊢
        have notBefore : blockFunction g ∉ preface := fun hg => (idle _ hg).noFunction g rfl
        have notAfter : blockFunction g ∉ programs := fun hg => (others _ hg rfl).noFunction g rfl
        tauto
      exact alone g mem
    · rcases List.mem_append.1 hm with hm | hm
      · exact (idle m hm).programName?
      · exact plain m hm

end Declaration

namespace Plan

variable (plan : Plan) (d : Blueprint)

theorem calls_of_mem_glue (stage : Stage) (ls : List Line)
    (h : ∀ l ∈ ls, l ∈ plan.glue d stage) : ls.filterMap Line.call? = [] := by
  rw [List.filterMap_eq_nil_iff]
  intro l hl
  have glued := plan.isGlue_of_mem_glue d l (h l hl)
  cases l with
  | call b => cases glued
  | _ => rfl

theorem calls_work (stage : Stage) : (plan.work d stage).filterMap Line.call? = d.blocks stage := by
  have blank : [Line.blank].filterMap Line.call? = [] := rfl
  cases stage with
  | init =>
    have seeding := plan.calls_of_mem_glue d .init d.seeding
      (by simp +contextual [glue])
    have closing := plan.calls_of_mem_glue d .init plan.init.closing
      (by simp +contextual [glue])
    have shift := plan.calls_of_mem_glue d .init (d.shiftPhase "-=")
      (by simp +contextual [glue])
    simp only [work, List.filterMap_append, Line.filterMap_call?_map_call, blank, seeding, closing,
      shift, List.nil_append, List.append_nil, Blueprint.blocks]
  | update =>
    have forth := plan.calls_of_mem_glue d .update (d.shiftPhase "+=")
      (by simp +contextual [glue])
    have closing := plan.calls_of_mem_glue d .update plan.update.closing
      (by simp +contextual [glue])
    have back := plan.calls_of_mem_glue d .update (d.shiftPhase "-=")
      (by simp +contextual [glue])
    simp only [work, List.filterMap_append, Line.filterMap_call?_map_call, blank, forth, closing,
      back, List.nil_append, List.append_nil, Blueprint.blocks]
  | output =>
    have opening := plan.calls_of_mem_glue d .output plan.output.opening
      (by simp +contextual [glue])
    have closing := plan.calls_of_mem_glue d .output (plan.output.closing d)
      (by simp +contextual [glue])
    have coloring := plan.calls_of_mem_glue d .output d.coloring
      (by simp +contextual [glue])
    have calls : d.outputCalls.filterMap Line.call? = d.outputBlocks := by
      unfold Blueprint.outputCalls
      split
      · next none => rw [List.isEmpty_iff.1 none, List.filterMap_nil]
      · rw [List.filterMap_append, Line.filterMap_call?_map_call, blank, List.append_nil]
    simp only [work, List.filterMap_append, calls, blank, opening, closing, coloring,
      List.nil_append, List.append_nil, Blueprint.blocks]

theorem calls_program (stage : Stage) : (plan.program d stage).calls = d.blocks stage := by
  obtain ⟨first, between, last, lines, plain⟩ := plan.lines_program d stage
  have text (ls : List Line) (h : ∀ l ∈ ls, l ∈ first ++ between ++ last) :
      ls.filterMap Line.call? = [] :=
    Line.filterMap_call?_of_isPlain fun l hl => plain l (h l hl)
  have opened : (opening d stage).filterMap Line.call? = [] := by
    cases stage <;> simp [opening, Blueprint.updateLoads, Blueprint.outputLoads, Line.call?]
  have stored : (stores d stage).filterMap Line.call? = [] := by
    cases stage <;> simp [stores, Blueprint.updateStores, Line.call?]
  rw [Declaration.calls, lines]
  simp only [List.filterMap_append, opened, stored, calls_work,
    text first (by simp +contextual), text between (by simp +contextual),
    text last (by simp +contextual), List.nil_append, List.append_nil]

def ofGenerators (init : InitGenerator) (update : UpdateGenerator) (output : OutputGenerator) :
    Plan :=
  ⟨[], [], [], {}, init, update, output⟩

end Plan

namespace Blueprint

variable (d : Blueprint)

theorem called?_initKernel (g : InitGenerator) :
    (d.initKernel g).called? = some ("CSVFXInit", d.initBlocks) :=
  congrArg (fun calls => some ("CSVFXInit", calls))
    ((Plan.ofGenerators g {} {}).calls_program d .init)

theorem called?_updateKernel (g : UpdateGenerator) :
    (d.updateKernel g).called? = some ("CSVFXUpdate", d.updateBlocks) :=
  congrArg (fun calls => some ("CSVFXUpdate", calls))
    ((Plan.ofGenerators {} g {}).calls_program d .update)

theorem called?_vertexProgram (g : OutputGenerator) :
    (d.vertexProgram g).called? = some ("vert", d.outputBlocks) :=
  congrArg (fun calls => some ("vert", calls))
    ((Plan.ofGenerators {} {} g).calls_program d .output)

def simulationPreface (init : Option InitGenerator) (update : Option UpdateGenerator) :
    List Declaration :=
  Declaration.lines (pragmas init update) ++ Declaration.lines preamble ++ [d.frameConstants]
    ++ (if init.isSome then [spawnConstants] else []) ++ d.paramDeclarations ++ d.lookupTextures
    ++ d.bufferDeclarations ++ d.lifeDeclarations ++ d.randFunction ++ d.sampleFunctions

theorem isData_of_mem_simulationPreface (init : Option InitGenerator)
    (update : Option UpdateGenerator) :
    ∀ m ∈ d.simulationPreface init update, m.isData ∨ m ∈ d.randFunction := by
  have sampling : ∀ m ∈ d.sampleFunctions, m.isData := by
    unfold sampleFunctions
    split
    · nofun
    · simp [Declaration.lines, Declaration.blank, or_imp, forall_and]
  simp +contextual [simulationPreface, Declaration.lines, frameConstants, spawnConstants,
    paramDeclarations, ParamSet.constants, ParamSet.samplers, lookupTextures, bufferDeclarations,
    lifeDeclarations, sampling, Declaration.blank, Buffer.struct, or_imp, forall_and]

theorem idle_simulationPreface (init : Option InitGenerator) (update : Option UpdateGenerator) :
    ∀ m ∈ d.simulationPreface init update, m.Idle := by
  intro m hm
  rcases d.isData_of_mem_simulationPreface init update m hm with plain | random
  · exact Declaration.idle_of_isData plain
  · obtain ⟨_, _, rfl⟩ := d.exists_of_mem_randFunction random
    exact Declaration.idle_routine (by decide)

theorem simulation_eq (init : Option InitGenerator) (update : Option UpdateGenerator) :
    d.simulation init update = d.simulationPreface init update
      ++ Declaration.blockFunctions (d.initBlocks ++ d.updateBlocks)
      ++ ((init.map d.initKernel).toList ++ (update.map d.updateKernel).toList) := by
  simp only [simulation, simulationPreface, List.append_assoc]

theorem callsOnce_simulation (init : Option InitGenerator) (update : Option UpdateGenerator) :
    Declaration.CallsOnce (d.simulation init update)
      ((init.map fun _ => ("CSVFXInit", d.initBlocks)).toList
        ++ (update.map fun _ => ("CSVFXUpdate", d.updateBlocks)).toList)
      (d.initBlocks ++ d.updateBlocks) := by
  have others : ∀ m ∈ (init.map d.initKernel).toList ++ (update.map d.updateKernel).toList,
      m.programName? = none → m.Idle := by
    cases init <;> cases update <;> simp [initKernel, updateKernel, Declaration.programName?]
  have called : ((init.map d.initKernel).toList
      ++ (update.map d.updateKernel).toList).filterMap Declaration.called?
        = (init.map fun _ => ("CSVFXInit", d.initBlocks)).toList
          ++ (update.map fun _ => ("CSVFXUpdate", d.updateBlocks)).toList := by
    cases init <;> cases update <;> simp [called?_initKernel, called?_updateKernel]
  have parts := Declaration.callsOnce_of_parts (d.initBlocks ++ d.updateBlocks)
    (d.idle_simulationPreface init update) others
  rwa [called, ← simulation_eq] at parts

theorem idle_functions {g : OutputGenerator} : ∀ m ∈ g.functions d, m.Idle := by
  intro m hm
  obtain ⟨_, _, rfl⟩ := d.exists_of_mem_functions hm
  exact Declaration.idle_routine (by decide)

theorem idle_fragmentProgram (g : OutputGenerator) : (d.fragmentProgram g).Idle := by
  refine ⟨rfl, ?_, nofun⟩
  unfold fragmentProgram OutputGenerator.pixels
  cases g.kind <;> cases g.texture <;> rfl

theorem isData_of_mem_drawingPreface (g : OutputGenerator) :
    ∀ m ∈ d.outputDeclarations ++ [d.vertexStruct g], m.isData := by
  simp +contextual [outputDeclarations, vertexStruct, ParamSet.constants, ParamSet.samplers,
    Declaration.blank, Buffer.struct, or_imp]

theorem idle_drawingPreface (g : OutputGenerator) :
    ∀ m ∈ d.outputDeclarations ++ [d.vertexStruct g], m.Idle :=
  fun m hm => Declaration.idle_of_isData (d.isData_of_mem_drawingPreface g m hm)

theorem callsOnce_drawing (g : OutputGenerator) :
    Declaration.CallsOnce (d.drawing g) [("vert", d.outputBlocks)] d.outputBlocks := by
  have others : ∀ m ∈ g.functions d ++ [d.vertexProgram g, d.fragmentProgram g],
      m.programName? = none → m.Idle := by
    intro m hm unnamed
    simp only [List.mem_append, List.mem_cons, List.not_mem_nil, or_false] at hm
    rcases hm with hm | rfl | rfl
    · exact d.idle_functions m hm
    · cases unnamed
    · exact d.idle_fragmentProgram g
  have turning : (g.functions d).filterMap Declaration.called? = [] :=
    List.filterMap_eq_nil_iff.2 fun m hm => (d.idle_functions m hm).called?
  have called : (g.functions d ++ [d.vertexProgram g, d.fragmentProgram g]).filterMap
      Declaration.called? = [("vert", d.outputBlocks)] := by
    rw [List.filterMap_append, turning, List.nil_append,
      List.filterMap_cons_some (d.called?_vertexProgram g),
      List.filterMap_cons_none (d.idle_fragmentProgram g).called?, List.filterMap_nil]
  have parts := Declaration.callsOnce_of_parts d.outputBlocks
    (d.idle_drawingPreface g) others
  simpa only [called, drawing, List.append_assoc] using parts

section Shift

def updateOpening : List Line :=
  (kernelHeading "CSVFXUpdate").map Line.plain
    ++ [Line.plain
      (if d.hasKill then "if (id.x < nbMax && flags[id.x] == 1)" else "if (id.x < nbMax)"),
      Line.plain "uint index = id.x;"]
    ++ (if d.hasKill then [Line.plain "bool kill = false;"] else []) ++ [Line.blank]
    ++ d.updateLoads ++ [Line.blank]

def updateShifted (g : UpdateGenerator) : List Line :=
  [Line.blank] ++ d.updateBlocks.map Line.call ++ [Line.blank] ++ g.closing

def updateEnding : List Line :=
  [Line.blank] ++ d.killBranch.lines ++ d.updateStores ++ [Line.blank]

/-- The lines of an update that moves particles by their phases: forth before all calls, and back
after them and what the generator adds, but before particles are killed and anything is stored. -/
structure ShiftsAround (lines : List Line) (g : UpdateGenerator) : Prop where
  split : lines
    = d.updateOpening ++ Line.shift "+=" :: d.updateShifted g ++ Line.shift "-=" :: d.updateEnding
  calls : d.updateOpening.filterMap Line.call? = [] ∧
    (d.updateShifted g).filterMap Line.call? = d.updateBlocks ∧
    d.updateEnding.filterMap Line.call? = []
  kept : ∀ l ∈ d.updateOpening ++ d.updateShifted g,
    l ≠ .plain "if (kill)" ∧ ∀ n target, l ≠ .store n target
  forth : lines.count (Line.shift "+=") = 1
  back : lines.count (Line.shift "-=") = 1

variable {d} {l : Line} {g : UpdateGenerator}

theorem mem_updateOpening (h : l ∈ d.updateOpening) :
    (∃ text, l = .plain text ∧ text ≠ "if (kill)") ∨ ∃ n source, l = .load n source := by
  simp only [updateOpening, kernelHeading, updateLoads, List.mem_append, List.map_cons,
    List.map_nil, List.mem_cons, List.not_mem_nil, or_false, List.mem_map] at h
  rcases h with ((((((rfl | rfl) | rfl | rfl) | h) | rfl) | ⟨b, -, rfl⟩) | rfl)
  · exact .inl ⟨_, rfl, by decide⟩
  · exact .inl ⟨_, rfl, by decide⟩
  · exact .inl ⟨_, rfl, by split <;> decide⟩
  · exact .inl ⟨_, rfl, by decide⟩
  · split at h
    · obtain rfl := List.mem_singleton.1 h
      exact .inl ⟨_, rfl, by decide⟩
    · cases h
  · exact .inl ⟨_, rfl, by decide⟩
  · exact .inr ⟨_, _, rfl⟩
  · exact .inl ⟨_, rfl, by decide⟩

theorem mem_update_closing (h : l ∈ g.closing) :
    l.call? = none ∧ l ≠ .plain "if (kill)" ∧ (∀ n target, l ≠ .store n target) ∧
      ∀ operator, l ≠ .shift operator := by
  simp only [UpdateGenerator.closing, List.mem_append, List.mem_ite_nil_right,
    List.mem_singleton] at h
  rcases h with ((⟨-, rfl⟩ | ⟨-, rfl⟩) | ⟨-, rfl⟩) | ⟨-, rfl⟩ <;>
    exact ⟨rfl, by decide, fun _ _ => Line.noConfusion,
      by simp [Line.shift, Line.blank, Line.plain]⟩

theorem mem_updateShifted (h : l ∈ d.updateShifted g) :
    l = .blank ∨ (∃ b, l = .call b) ∨ l ∈ g.closing := by
  simp only [updateShifted, List.mem_append, List.mem_singleton, List.mem_map] at h
  rcases h with ((blank | ⟨b, -, rfl⟩) | blank) | added
  · exact .inl blank
  · exact .inr (.inl ⟨b, rfl⟩)
  · exact .inl blank
  · exact .inr (.inr added)

theorem mem_updateEnding (h : l ∈ d.updateEnding) :
    l.IsPlain ∨ ∃ n target, l = .store n target := by
  have kill : ∀ l ∈ d.killBranch.lines, l.IsPlain := by
    unfold killBranch
    split
    · simp [or_imp, forall_and]
    · nofun
  simp only [updateEnding, List.mem_append, List.mem_singleton, updateStores, List.mem_map] at h
  rcases h with ((rfl | h) | ⟨b, -, rfl⟩) | rfl
  · exact .inl ⟨_, rfl⟩
  · exact .inl (kill l h)
  · exact .inr ⟨_, _, rfl⟩
  · exact .inl ⟨_, rfl⟩

theorem lines_updateKernel (shifted : d.phaseShift) : (d.updateKernel g).code.lines
    = d.updateOpening ++ Line.shift "+=" :: d.updateShifted g
      ++ Line.shift "-=" :: d.updateEnding := by
  simp [updateKernel, Declaration.code, updateLines, updateOpening, updateShifted, updateEnding,
    shiftPhase, shifted, Line.shift, Line.blank]

theorem count_shift {operator other : String} (h : other ≠ operator) (rest : List Line) :
    d.updateOpening.count (Line.shift operator) = 0 ∧
      (d.updateShifted g).count (Line.shift operator) = 0 ∧
      d.updateEnding.count (Line.shift operator) = 0 ∧
      (Line.shift other :: rest).count (Line.shift operator)
        = rest.count (Line.shift operator) := by
  refine ⟨List.count_eq_zero.2 fun h => ?_, List.count_eq_zero.2 fun h => ?_,
    List.count_eq_zero.2 fun h => ?_, List.count_cons_of_ne fun same => h ?_⟩
  · obtain ⟨text, no, -⟩ | ⟨n, source, no⟩ := mem_updateOpening h <;> cases no
  · obtain no | ⟨b, no⟩ | h := mem_updateShifted h
    · cases no
    · cases no
    · exact (mem_update_closing h).2.2.2 operator rfl
  · obtain ⟨text, no⟩ | ⟨n, target, no⟩ := mem_updateEnding h <;> cases no
  · exact (Line.assign.inj same).2.1

theorem shiftsAround_updateKernel (shifted : d.phaseShift) (g : UpdateGenerator) :
    d.ShiftsAround (d.updateKernel g).code.lines g := by
  refine ⟨lines_updateKernel shifted, ⟨?_, ?_, ?_⟩, fun l hl => ?_, ?_, ?_⟩
  · rw [List.filterMap_eq_nil_iff]
    intro l hl
    obtain ⟨text, rfl, -⟩ | ⟨n, source, rfl⟩ := mem_updateOpening hl <;> rfl
  · have added : g.closing.filterMap Line.call? = [] :=
      List.filterMap_eq_nil_iff.2 fun l hl => (mem_update_closing hl).1
    have blank : [Line.blank].filterMap Line.call? = [] := rfl
    simp only [updateShifted, List.filterMap_append, Line.filterMap_call?_map_call, blank, added,
      List.nil_append, List.append_nil]
  · rw [List.filterMap_eq_nil_iff]
    intro l hl
    obtain ⟨text, rfl⟩ | ⟨n, target, rfl⟩ := mem_updateEnding hl <;> rfl
  · rcases List.mem_append.1 hl with hl | hl
    · obtain ⟨text, rfl, other⟩ | ⟨n, source, rfl⟩ := mem_updateOpening hl
      · exact ⟨fun same => other (by simpa [Line.plain] using same),
          fun _ _ => Line.noConfusion⟩
      · exact ⟨Line.noConfusion, fun _ _ => Line.noConfusion⟩
    · obtain rfl | ⟨b, rfl⟩ | hl := mem_updateShifted hl
      · exact ⟨by decide, fun _ _ => Line.noConfusion⟩
      · exact ⟨Line.noConfusion, fun _ _ => Line.noConfusion⟩
      · obtain ⟨-, kill, store, -⟩ := mem_update_closing hl
        exact ⟨kill, store⟩
  · obtain ⟨opening, middle, ending, other⟩ :=
      count_shift (d := d) (g := g) (by decide : "-=" ≠ "+=") d.updateEnding
    rw [lines_updateKernel shifted, List.count_append, List.count_append, List.count_cons_self,
      other, opening, middle, ending]
  · obtain ⟨opening, middle, ending, other⟩ :=
      count_shift (d := d) (g := g) (by decide : "+=" ≠ "-=") (d.updateShifted g)
    rw [lines_updateKernel shifted, List.count_append, List.count_append, List.count_cons_self,
      other, opening, middle, ending]

end Shift

theorem eq_updateKernel_of_mem {init : Option InitGenerator} {update : Option UpdateGenerator}
    {m : Declaration} (hm : m ∈ d.simulation init update)
    (named : m.programName? = some "CSVFXUpdate") : ∃ g ∈ update, m = d.updateKernel g := by
  rw [simulation_eq, List.mem_append, List.mem_append, List.mem_append] at hm
  rcases hm with (hm | hm) | hm | hm
  · cases (d.idle_simulationPreface init update m hm).programName?.symm.trans named
  · obtain ⟨b, rfl⟩ := Declaration.exists_of_mem_functionsBeside hm
    cases named
  · obtain ⟨g, -, rfl⟩ := Option.map_eq_some_iff.1 (Option.mem_toList.1 hm)
    simp [initKernel, Declaration.programName?] at named
  · obtain ⟨g, hg, rfl⟩ := Option.map_eq_some_iff.1 (Option.mem_toList.1 hm)
    exact ⟨g, hg, rfl⟩

/-- Every block of a stage is called once by the program of the stage, in the order of the blocks,
and defined once for each name; and a phase shift is made around the calls of update. -/
theorem calls_in_order (init : Option InitGenerator) (update : Option UpdateGenerator)
    (output : OutputGenerator) :
    Declaration.CallsOnce (d.simulation init update)
      ((init.map fun _ => ("CSVFXInit", d.initBlocks)).toList
        ++ (update.map fun _ => ("CSVFXUpdate", d.updateBlocks)).toList)
      (d.initBlocks ++ d.updateBlocks) ∧
    Declaration.CallsOnce (d.drawing output) [("vert", d.outputBlocks)] d.outputBlocks ∧
    (d.phaseShift → ∀ m ∈ d.simulation init update, m.programName? = some "CSVFXUpdate" →
      ∃ g ∈ update, d.ShiftsAround m.code.lines g) := by
  refine ⟨d.callsOnce_simulation init update, d.callsOnce_drawing output, ?_⟩
  intro shifted m hm named
  obtain ⟨g, hg, rfl⟩ := d.eq_updateKernel_of_mem hm named
  exact ⟨g, hg, shiftsAround_updateKernel shifted g⟩

end Blueprint

def pushing (id : String) (source : List String) : BoundBlock :=
  ⟨id, "Push", { attributes := [⟨"velocity", .float3, true⟩], source }, []⟩

def drift : Blueprint where
  initBlocks := [pushing "launch" ["velocity = 1.0;"]]
  updateBlocks := [pushing "wind" ["velocity += 0.1;"], pushing "drag" ["velocity *= 0.9;"]]
  hasKill := true
  hasRand := true
  phaseShift := true
  uniforms := ⟨⟨∅, ∅, ∅, ∅⟩, ⟨∅, ∅, ∅, ∅⟩⟩

theorem drift_calls : drift.phaseShift ∧
    Declaration.CallsOnce (drift.simulation (some {}) (some { integrate := true }))
      [("CSVFXInit", drift.initBlocks), ("CSVFXUpdate", drift.updateBlocks)]
      (drift.initBlocks ++ drift.updateBlocks) ∧
    Declaration.CallsOnce (drift.drawing {}) [("vert", [])] [] ∧
    drift.ShiftsAround (drift.updateKernel { integrate := true }).code.lines
      { integrate := true } := by
  obtain ⟨simulation, drawing, shifts⟩ :=
    drift.calls_in_order (some {}) (some { integrate := true }) {}
  refine ⟨rfl, simulation, drawing, ?_⟩
  have mem : drift.updateKernel { integrate := true }
      ∈ drift.simulation (some {}) (some { integrate := true }) := by
    rw [Blueprint.simulation_eq]
    simp
  obtain ⟨g, hg, shifted⟩ := shifts rfl _ mem rfl
  cases hg
  exact shifted

example : (Declaration.blockFunctions (drift.initBlocks ++ drift.updateBlocks)).length = 1 ∧
    ((drift.initBlocks ++ drift.updateBlocks).find? (·.function = "Push")).map (·.id)
      = some "launch" := by
  decide

end ParticleShaders
