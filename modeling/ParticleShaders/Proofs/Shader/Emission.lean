import ParticleShaders.Proofs.Renaming.Shaders
import ParticleShaders.Proofs.Shader.CallOrder
/-! Shaders command by command. Here a scope is opened and closed by commands of their own, under
conditions of their own and in parts that follow each other, and nothing pairs the one with the
other. These are the commands of the code of the shaders. -/

namespace ParticleShaders

@[simp] theorem Line.render_plain (names : References) (text : String) :
    (Line.plain text).render names = text := by
  show String.join [text] = text
  rw [String.join_cons, String.join_nil, String.append_empty]

namespace Code

variable (names : References)

@[simp] theorem commands_ofLines (ls : List Line) :
    (ofLines ls).commands names = ls.map fun l => .line (l.render names) := by
  induction ls with
  | nil => rfl
  | cons l rest ih => exact congrArg (_ :: ·) ih

@[simp] theorem commands_ofTexts (texts : List String) :
    (ofTexts texts).commands names = texts.map .line := by
  rw [ofTexts, commands_ofLines, List.map_map]
  exact List.map_congr_left fun text _ => congrArg Command.line (Line.render_plain names text)

@[simp] theorem commands_structBraces (c : Code) :
    (structBraces c).commands names = .enter :: c.commands names ++ [.exitStruct] := rfl

end Code

def Line.writeAll (names : References) (ls : List Line) : List Command :=
  ls.map fun l => .line (l.render names)

namespace Declaration

variable (names : References)

def write : Declaration → List Command
  | line text => [Command.line text]
  | constants name fields =>
    [Command.line ("CBUFFER_START(" ++ name ++ ")")]
      ++ fields.map (fun f => Command.line ("\t" ++ f.text))
      ++ [Command.line "CBUFFER_END", .line ""]
  | globals fields => fields.map (Command.line ·.text)
  | struct name members =>
    [Command.line ("struct " ++ name), .enter] ++ members.map (Command.line ·.text)
      ++ [Command.exitStruct, .line ""]
  | blockFunction b =>
    [Command.line b.heading, .enter] ++ b.descriptor.source.map Command.line
      ++ [Command.exit, .line ""]
  | routine _ heading body =>
    heading.map Command.line ++ [Command.enter] ++ Line.writeAll names body.lines
      ++ [Command.exit, .line ""]

def writeAll (ds : List Declaration) : List Command := ds.flatMap (write names)

def IsFlat : Declaration → Prop
  | routine _ _ body => body = .ofLines body.lines
  | _ => True

theorem isFlat_of_isData {m : Declaration} (h : m.isData) : m.IsFlat := by
  cases m with
  | routine => cases h
  | _ => trivial

theorem isFlat_routine {name : String} {heading : List String} {ls : List Line} :
    (routine name heading (.ofLines ls)).IsFlat := by
  rw [IsFlat, Code.lines_ofLines]

variable {names}

theorem write_eq {m : Declaration} (h : m.IsFlat) : m.write names = m.code.commands names := by
  cases m with
  | routine name heading body =>
    -- Only here could there be scopes that are not written.
    rw [IsFlat] at h
    rw [write, code, Code.commands_append, Code.commands_append, Code.commands_braces, h]
    simp [Line.writeAll]
  | _ => simp [write, code, Code.commands_braces, Function.comp_def]

theorem writeAll_eq {ds : List Declaration} (h : ∀ m ∈ ds, m.IsFlat) :
    writeAll names ds = ds.flatMap (·.code.commands names) :=
  List.flatMap_congr fun m hm => write_eq (h m hm)

end Declaration

namespace Blueprint

variable (d : Blueprint) (names : References)

def writeKernelHeading (name : String) : List Command :=
  (kernelHeading name).map Command.line ++ [Command.enter]

def writeInitKernel (g : InitGenerator) : List Command :=
  writeKernelHeading "CSVFXInit"
  ++ (if d.hasKill then [Command.line "if (id.x < min(nbSpawned,deadListCount[0]))"]
    else [Command.line "if (id.x < nbSpawned)"])
  ++ [Command.enter]
  ++ Line.writeAll names (d.initLines g)
  ++ [Command.exit, .exit, .line ""]

def writeUpdateKernel (g : UpdateGenerator) : List Command :=
  writeKernelHeading "CSVFXUpdate"
  ++ (if d.hasKill then [Command.line "if (id.x < nbMax && flags[id.x] == 1)"]
    else [Command.line "if (id.x < nbMax)"])
  ++ [Command.enter]
  ++ Line.writeAll names (d.updateLines g)
  ++ (if d.hasKill then
      [Command.line "if (kill)", .enter, .line "flags[index] = 0;",
       .line "deadListOut.Append(index);", .line "return;", .exit, .line ""]
    else [])
  ++ Line.writeAll names d.updateStores
  ++ [Command.exit, .exit, .line ""]

/-- What tells living from dead particles is opened by one condition and closed by another. -/
def writeVertexProgram (g : OutputGenerator) : List Command :=
  [Command.line "ps_input vert (uint id : SV_VertexID, uint instanceID : SV_InstanceID)", .enter,
   .line "ps_input o;"]
  ++ Line.writeAll names [g.index]
  ++ (if d.hasKill then [Command.line "if (flags[index] == 1)", .enter] else [])
  ++ Line.writeAll names (d.vertexLines g)
  ++ (if d.hasKill then
      [Command.exit, .line "else", .enter, .line "o.pos = -1.0;"]
        ++ (if d.isColored then [Command.line "o.col = 0;"] else []) ++ [Command.exit, .line ""]
    else [])
  ++ [Command.line "return o;", .exit, .line ""]

def writeSimulation (init : Option InitGenerator) (update : Option UpdateGenerator) :
    List Command :=
  Declaration.writeAll names (d.simulationPreface init update)
  ++ Declaration.writeAll names (Declaration.blockFunctions (d.initBlocks ++ d.updateBlocks))
  ++ (match init with
    | some g => d.writeInitKernel names g
    | none => [])
  ++ (match update with
    | some g => d.writeUpdateKernel names g
    | none => [])

def writeDrawing (systemId : String) (blend : BlendMode) (g : OutputGenerator) : List Command :=
  [Command.line ("Shader \"Custom/VFX_" ++ systemId ++ "\""), .enter, .line "SubShader", .enter]
  ++ blend.tags.map Command.line
  ++ [Command.line "Pass", .enter]
  ++ blend.state.map Command.line
  ++ [Command.line "CGPROGRAM", .line "#pragma target 5.0", .line "", .line "#pragma vertex vert",
      .line "#pragma fragment frag", .line "", .line "#include \"UnityCG.cginc\"", .line ""]
  ++ Declaration.writeAll names (d.outputDeclarations ++ [d.vertexStruct g])
  ++ Declaration.writeAll names (Declaration.blockFunctions d.outputBlocks ++ g.functions d)
  ++ d.writeVertexProgram names g
  ++ (d.fragmentProgram g).write names
  ++ [Command.line "ENDCG", .exit, .exit, .line "FallBack Off", .exit]

theorem writeInitKernel_eq (g : InitGenerator) :
    d.writeInitKernel names g = (d.initKernel g).code.commands names := by
  unfold writeInitKernel initKernel
  rw [Declaration.code, Code.commands_append, Code.commands_append, Code.commands_braces,
    Code.commands_append, Code.commands_braces]
  cases d.hasKill <;> simp [writeKernelHeading, Line.writeAll]

theorem commands_killBranch : d.killBranch.commands names =
    if d.hasKill then
      [.line "if (kill)", .enter, .line "flags[index] = 0;", .line "deadListOut.Append(index);",
       .line "return;", .exit, .line ""]
    else [] := by
  unfold killBranch
  split
  · rw [Code.commands_append, Code.commands_append, Code.commands_braces]
    simp
  · rfl

theorem writeUpdateKernel_eq (g : UpdateGenerator) :
    d.writeUpdateKernel names g = (d.updateKernel g).code.commands names := by
  unfold writeUpdateKernel updateKernel
  rw [Declaration.code, Code.commands_append, Code.commands_append, Code.commands_braces,
    Code.commands_append, Code.commands_braces, Code.commands_append, Code.commands_append,
    commands_killBranch]
  cases d.hasKill <;> simp [writeKernelHeading, Line.writeAll]

theorem writeVertexProgram_eq (g : OutputGenerator) :
    d.writeVertexProgram names g = (d.vertexProgram g).code.commands names := by
  unfold writeVertexProgram vertexProgram vertexBody deadLines
  cases d.hasKill <;> cases d.isColored <;>
    simp [Declaration.code, Code.commands_braces, Line.writeAll, Line.render_plain]

theorem isFlat_simulationPreface (init : Option InitGenerator) (update : Option UpdateGenerator) :
    ∀ m ∈ d.simulationPreface init update, m.IsFlat := by
  intro m hm
  rcases d.isData_of_mem_simulationPreface init update m hm with plain | random
  · exact Declaration.isFlat_of_isData plain
  · obtain ⟨_, _, rfl⟩ := d.exists_of_mem_randFunction random
    exact Declaration.isFlat_routine

theorem isFlat_blockFunctions (blocks : List BoundBlock) :
    ∀ m ∈ Declaration.blockFunctions blocks, m.IsFlat := by
  intro m hm
  obtain ⟨b, rfl⟩ := Declaration.exists_of_mem_functionsBeside hm
  trivial

theorem isFlat_functions (g : OutputGenerator) : ∀ m ∈ g.functions d, m.IsFlat := by
  intro m hm
  obtain ⟨_, _, rfl⟩ := d.exists_of_mem_functions hm
  exact Declaration.isFlat_routine

theorem writeSimulation_eq (init : Option InitGenerator) (update : Option UpdateGenerator) :
    d.writeSimulation names init update
      = (Declaration.codeOf (d.simulation init update)).commands names := by
  unfold writeSimulation
  rw [Declaration.writeAll_eq (d.isFlat_simulationPreface init update),
    Declaration.writeAll_eq (isFlat_blockFunctions _), Declaration.commands_codeOf, simulation_eq]
  cases init <;> cases update <;> simp [writeInitKernel_eq, writeUpdateKernel_eq]

theorem drawing_eq (g : OutputGenerator) :
    d.drawing g = d.outputDeclarations ++ [d.vertexStruct g]
      ++ (Declaration.blockFunctions d.outputBlocks ++ g.functions d)
      ++ [d.vertexProgram g, d.fragmentProgram g] := by
  simp only [drawing, List.append_assoc]

theorem commands_drawing (g : OutputGenerator) :
    (Declaration.codeOf (d.drawing g)).commands names
      = Declaration.writeAll names (d.outputDeclarations ++ [d.vertexStruct g])
        ++ Declaration.writeAll names (Declaration.blockFunctions d.outputBlocks ++ g.functions d)
        ++ d.writeVertexProgram names g ++ (d.fragmentProgram g).write names := by
  have preface : ∀ m ∈ d.outputDeclarations ++ [d.vertexStruct g], m.IsFlat :=
    fun m hm => Declaration.isFlat_of_isData (d.isData_of_mem_drawingPreface g m hm)
  have functions : ∀ m ∈ Declaration.blockFunctions d.outputBlocks ++ g.functions d, m.IsFlat :=
    List.forall_mem_append.2 ⟨isFlat_blockFunctions _, d.isFlat_functions g⟩
  have fragment : (d.fragmentProgram g).IsFlat := Declaration.isFlat_routine
  rw [Declaration.writeAll_eq preface, Declaration.writeAll_eq functions, writeVertexProgram_eq,
    Declaration.write_eq fragment, Declaration.commands_codeOf, drawing_eq]
  simp

theorem writeDrawing_eq (systemId : String) (blend : BlendMode) (g : OutputGenerator) :
    d.writeDrawing names systemId blend g = (d.drawingCode systemId blend g).commands names := by
  simp [writeDrawing, drawingCode, Code.commands_braces, commands_drawing]

end Blueprint

end ParticleShaders
