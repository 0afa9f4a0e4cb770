import ParticleShaders.Proofs.Compilation

namespace ParticleShaders

section Splits

variable {α : Type} {xs ys before after : List α} {x : α} (h : xs ++ ys = before ++ x :: after)

include h

theorem exists_append_of_not_mem (hx : x ∉ xs) : ∃ rest, before = xs ++ rest := by
  rcases List.append_eq_append_iff.1 h with ⟨rest, rfl, -⟩ | ⟨rest, rfl, same⟩
  · exact ⟨rest, rfl⟩
  · cases rest with
    | nil => exact ⟨[], by simp⟩
    | cons y rest =>
      cases same
      exact absurd (List.mem_append_right _ List.mem_cons_self) hx

theorem exists_append_of_not_mem_right (hx : x ∉ ys) : ∃ rest, after = rest ++ ys := by
  rcases List.append_eq_append_iff.1 h with ⟨rest, rfl, same⟩ | ⟨rest, rfl, same⟩
  · exact absurd (same ▸ List.mem_append_right _ List.mem_cons_self) hx
  · cases rest with
    | nil =>
      obtain rfl : x :: after = ys := same
      exact absurd List.mem_cons_self hx
    | cons y rest =>
      cases same
      exact ⟨rest, rfl⟩

end Splits

namespace Code

@[simp] theorem lines_ofTexts (texts : List String) :
    (ofTexts texts).lines = texts.map Line.plain := lines_ofLines _

@[simp] theorem lines_braces (c : Code) : (braces c).lines = c.lines := List.append_nil _

end Code

namespace Line

def IsPlain (l : Line) : Prop := ∃ text, l = plain text

@[simp] theorem isPlain_plain (text : String) : (plain text).IsPlain := ⟨text, rfl⟩

def isGlue : Line → Bool
  | .words _ | .assign .. => true
  | _ => false

theorem not_isPlain_of_isGlue {l : Line} (h : l.isGlue = false) : ¬ l.IsPlain := by
  rintro ⟨text, rfl⟩
  cases h

end Line

def Blueprint.blocks (d : Blueprint) : Stage → List BoundBlock
  | .init => d.initBlocks
  | .update => d.updateBlocks
  | .output => d.outputBlocks

namespace Plan

variable (plan : Plan) (d : Blueprint)

def shader : Stage → List Declaration
  | .init | .update => d.simulation plan.init plan.update
  | .output => d.drawing plan.output

def program : Stage → Declaration
  | .init => d.initKernel plan.init
  | .update => d.updateKernel plan.update
  | .output => d.vertexProgram plan.output

theorem program_mem_shader (stage : Stage) : plan.program d stage ∈ plan.shader d stage := by
  cases stage with
  | init => simp [program, shader, Blueprint.simulation]
  | update => simp [program, shader, Blueprint.simulation]
  | output => simp [program, shader, Blueprint.drawing]

def opening : Stage → List Line
  | .init => d.buffers.map (Line.clear ·.index)
  | .update => d.updateLoads
  | .output => d.outputLoads

def work : Stage → List Line
  | .init =>
    [Line.blank] ++ d.seeding ++ d.initBlocks.map Line.call ++ [Line.blank] ++ plan.init.closing
      ++ d.shiftPhase "-="
  | .update =>
    [Line.blank] ++ d.shiftPhase "+=" ++ d.updateBlocks.map Line.call ++ [Line.blank]
      ++ plan.update.closing ++ d.shiftPhase "-="
  | .output =>
    [Line.blank] ++ plan.output.opening ++ d.outputCalls ++ plan.output.closing d ++ d.coloring

def stores : Stage → List Line
  | .init => d.buffers.map fun b => Line.store b.index b.variableName
  | .update => d.updateStores
  | .output => []

theorem lines_program (stage : Stage) : ∃ first between last,
    (plan.program d stage).code.lines =
      first ++ opening d stage ++ plan.work d stage ++ between ++ stores d stage ++ last ∧
      ∀ l ∈ first ++ between ++ last, l.IsPlain := by
  cases stage with
  | init =>
    refine ⟨(Blueprint.kernelHeading "CSVFXInit").map Line.plain ++
      [Line.plain (if d.hasKill then "if (id.x < min(nbSpawned,deadListCount[0]))"
        else "if (id.x < nbSpawned)"),
       Line.plain (if d.hasKill then "uint index = deadListIn.Consume();"
        else "uint index = id.x + spawnIndex;"), Line.blank], [],
      (if d.hasKill then [Line.blank, Line.plain "flags[index] = 1;"] else []) ++ [Line.blank],
      ?_, ?_⟩
    · simp [program, Blueprint.initKernel, Declaration.code, Blueprint.initLines, opening, work,
        stores, Line.blank]
    · cases d.hasKill <;> simp [Blueprint.kernelHeading, Line.blank]
  | update =>
    refine ⟨(Blueprint.kernelHeading "CSVFXUpdate").map Line.plain ++
      [Line.plain (if d.hasKill then "if (id.x < nbMax && flags[id.x] == 1)"
        else "if (id.x < nbMax)"), Line.plain "uint index = id.x;"]
      ++ (if d.hasKill then [Line.plain "bool kill = false;"] else []) ++ [Line.blank],
      d.killBranch.lines, [Line.blank], ?_, ?_⟩
    · simp [program, Blueprint.updateKernel, Declaration.code, Blueprint.updateLines, opening, work,
        stores, Line.blank]
    · unfold Blueprint.killBranch
      cases d.hasKill <;> simp [Blueprint.kernelHeading, Line.blank, Code.lines]
  | output =>
    refine ⟨[Line.plain "ps_input vert (uint id : SV_VertexID, uint instanceID : SV_InstanceID)",
      Line.plain "ps_input o;", plan.output.index]
      ++ (if d.hasKill then [Line.plain "if (flags[index] == 1)"] else []),
      (if d.hasKill then Line.plain "else" :: d.deadLines.map Line.plain ++ [Line.blank] else []),
      [Line.plain "return o;", Line.blank], ?_, ?_⟩
    · cases h : d.hasKill <;> simp [program, Blueprint.vertexProgram, Blueprint.vertexBody, h,
        Declaration.code, Blueprint.vertexLines, opening, work, stores, Line.blank]
    · unfold OutputGenerator.index Blueprint.deadLines
      cases d.hasKill <;> cases plan.output.kind <;> cases d.isColored <;> simp [Line.blank]

theorem mem_lines_program {stage : Stage} {l : Line} (h : ¬ l.IsPlain) :
    l ∈ (plan.program d stage).code.lines ↔
      l ∈ opening d stage ∨ l ∈ plan.work d stage ∨ l ∈ stores d stage := by
  obtain ⟨first, between, last, lines, plain⟩ := plan.lines_program d stage
  have foreign : l ∉ first ∧ l ∉ between ∧ l ∉ last := by
    refine ⟨fun mem => h (plain l ?_), fun mem => h (plain l ?_), fun mem => h (plain l ?_)⟩ <;>
      simp [mem]
  simp [lines, foreign]

theorem mem_program_of_stores (stage : Stage) :
    ∀ x ∈ stores d stage, x ∈ (plan.program d stage).code.lines := by
  obtain ⟨first, between, last, lines, -⟩ := plan.lines_program d stage
  intro x hx
  simp [lines, hx]

theorem split_lines_program {stage : Stage} {l : Line} {before after : List Line}
    (h : (plan.program d stage).code.lines = before ++ l :: after) (foreign : ¬ l.IsPlain)
    (opened : l ∉ opening d stage) (stored : l ∉ stores d stage) :
    l ∈ plan.work d stage ∧ (∀ x ∈ opening d stage, x ∈ before) ∧
      ∀ x ∈ stores d stage, x ∈ after := by
  have mem : l ∈ (plan.program d stage).code.lines := by simp [h]
  have work : l ∈ plan.work d stage :=
    (((plan.mem_lines_program d foreign).1 mem).resolve_left opened).resolve_right stored
  obtain ⟨first, between, last, lines, plain⟩ := plan.lines_program d stage
  have outside : l ∉ first ++ between ++ last := fun mem => foreign (plain l mem)
  simp only [List.mem_append, not_or] at outside
  obtain ⟨⟨notFirst, notBetween⟩, notLast⟩ := outside
  have lead : first ++ opening d stage ++ (plan.work d stage ++ between ++ stores d stage ++ last)
      = before ++ l :: after := by
    simp only [← h, lines, List.append_assoc]
  have trail : first ++ opening d stage ++ plan.work d stage ++ (between ++ stores d stage ++ last)
      = before ++ l :: after := by
    simp only [← h, lines, List.append_assoc]
  obtain ⟨rest, rfl⟩ := exists_append_of_not_mem lead (by simp [notFirst, opened])
  obtain ⟨rest, rfl⟩ :=
    exists_append_of_not_mem_right trail (by simp [notBetween, stored, notLast])
  exact ⟨work, fun x hx => by simp [hx], fun x hx => by simp [hx]⟩

def glue : Stage → List Line
  | .init => [Line.blank] ++ d.seeding ++ plan.init.closing ++ d.shiftPhase "-="
  | .update =>
    [Line.blank] ++ d.shiftPhase "+=" ++ plan.update.closing ++ d.shiftPhase "-="
  | .output => [Line.blank] ++ plan.output.opening ++ plan.output.closing d ++ d.coloring

theorem mem_work {stage : Stage} {l : Line} :
    l ∈ plan.work d stage ↔ l ∈ (d.blocks stage).map Line.call ∨ l ∈ plan.glue d stage := by
  cases stage with
  | init =>
    simp only [work, glue, Blueprint.blocks, List.mem_append, List.mem_singleton]
    grind
  | update =>
    simp only [work, glue, Blueprint.blocks, List.mem_append, List.mem_singleton]
    grind
  | output =>
    simp only [work, glue, Blueprint.blocks, Blueprint.outputCalls, List.mem_append,
      List.mem_singleton]
    cases d.outputBlocks <;> grind

theorem isGlue_of_mem_glue {stage : Stage} : ∀ l ∈ plan.glue d stage, l.isGlue := by
  cases stage with
  | init =>
    unfold glue Blueprint.seeding Blueprint.shiftPhase InitGenerator.closing
    cases plan.init.lifetime <;>
      simp [Line.isGlue, Line.blank, Line.plain, or_imp, forall_and]
  | update =>
    unfold glue Blueprint.shiftPhase UpdateGenerator.closing
    simp [Line.isGlue, Line.blank, Line.plain, or_imp, forall_and]
  | output =>
    unfold glue Blueprint.coloring OutputGenerator.opening OutputGenerator.closing
    cases plan.output.kind <;>
      simp [Line.isGlue, Line.blank, Line.plain, or_imp, forall_and]

theorem mem_lines_of_not_glue {stage : Stage} {l : Line} (notGlue : l.isGlue = false)
    (notCall : ∀ b, l ≠ .call b) : l ∈ (plan.program d stage).code.lines ↔
      l ∈ opening d stage ∨ l ∈ stores d stage := by
  have idle : l ∉ plan.work d stage := by
    rw [mem_work, not_or]
    refine ⟨fun mem => ?_, fun mem => ?_⟩
    · obtain ⟨b, -, rfl⟩ := List.mem_map.1 mem
      exact notCall b rfl
    · rw [plan.isGlue_of_mem_glue d l mem] at notGlue
      cases notGlue
  rw [mem_lines_program _ _ (Line.not_isPlain_of_isGlue notGlue), or_iff_right idle]

theorem call_mem_program {stage : Stage} {b : BoundBlock} :
    Line.call b ∈ (plan.program d stage).code.lines ↔ b ∈ d.blocks stage := by
  have opened : Line.call b ∉ opening d stage := by
    cases stage <;> simp [opening, Blueprint.updateLoads, Blueprint.outputLoads]
  have stored : Line.call b ∉ stores d stage := by
    cases stage <;> simp [stores, Blueprint.updateStores]
  have glued : Line.call b ∉ plan.glue d stage := fun mem => by
    cases plan.isGlue_of_mem_glue d _ mem
  rw [mem_lines_program _ _ (Line.not_isPlain_of_isGlue rfl), mem_work]
  simp [opened, stored, glued]

end Plan

theorem Compilation.blocks_eq {system : ParticleSystem} {library : Library} {params : ParamTable}
    {options : Options} (s : Compilation system library params options) :
    s.compiled.blueprint.blocks = s.plan.blocks := by
  funext stage
  cases stage <;> rfl

end ParticleShaders
