import ParticleShaders.Proofs.Plan.Attributes
import ParticleShaders.Proofs.Shader.Braces
import ParticleShaders.Proofs.Shader.Emission

namespace ParticleShaders

open Text (Balanced)

namespace Declaration

theorem lines_codeOf (ds : List Declaration) : (codeOf ds).lines = ds.flatMap (·.code.lines) := by
  induction ds with
  | nil => rfl
  | cons m rest ih =>
    show (m.code ++ codeOf rest).lines = _
    rw [Code.lines_append, ih, List.flatMap_cons]

end Declaration

theorem Line.marks_render_of_isPlain {l : Line} (names : References) (plain : l.IsPlain) :
    Text.marks (l.render names) = l.marks := by
  obtain ⟨text, rfl⟩ := plain
  exact Line.marks_render nofun nofun

theorem Plan.isPlain_preface (plan : Plan) (d : Blueprint) (stage : Stage) :
    ∀ m ∈ plan.preface d stage, ∀ l ∈ m.code.lines, l.IsPlain := by
  have simulated : ∀ m ∈ d.simulationPreface plan.init plan.update,
      ∀ l ∈ m.code.lines, l.IsPlain := by
    intro m hm
    rcases d.isData_of_mem_simulationPreface _ _ m hm with data | random
    · exact Declaration.isPlain_of_isData data
    · obtain ⟨_, _, rfl⟩ := d.exists_of_mem_randFunction random
      exact Declaration.isPlain_routine
  cases stage with
  | output =>
    exact fun m hm => Declaration.isPlain_of_isData (d.isData_of_mem_drawingPreface _ m hm)
  | _ => simpa [preface, Blueprint.simulationPreface] using simulated

structure Plan.Braced (plan : Plan) : Prop where
  blocks : ∀ stage, ∀ b ∈ plan.blocks stage, b.Braced
  lifetime : ∀ a ∈ plan.init.lifetime, a.Braced

instance (plan : Plan) : Decidable plan.Braced :=
  decidable_of_iff ((∀ stage ∈ Stage.all, ∀ b ∈ plan.blocks stage, b.Braced) ∧
    ∀ a ∈ plan.init.lifetime, a.Braced)
    ⟨fun h => ⟨fun stage => h.1 stage (by cases stage <;> decide), h.2⟩,
      fun h => ⟨fun stage _ => h.blocks stage, h.lifetime⟩⟩

namespace Compilation

variable {system : ParticleSystem} {library : Library} {params : ParamTable} {options : Options}
  (s : Compilation system library params options) {stage : Stage}

theorem marks_nameOf {id : String} (h : id ∈ (s.blueprint.namingOf stage).ids) :
    Text.marks ((s.blueprint.namingOf stage).nameOf id) = [] := by
  have stems : ∀ k ∈ UniformSet.ofStage stage, Text.marks k.stem = [] := by
    cases stage <;> decide +kernel
  obtain ⟨⟨_, name⟩, named, rfl⟩ := List.mem_map.1 h
  rw [Naming.nameOf_eq named]
  rw [show s.blueprint.namingOf stage = _ from s.equips.naming stage] at named
  obtain ⟨k, hk, i, _, -, -, rfl⟩ := (Plan.resolved_of_ofSystem s.planned).mem_entries.1 named
  simp [stems k hk]

theorem marks_reference {a : Attribute} (h : a.Sound) :
    Text.marks (s.blueprint.reference a) = [] := by
  have name := Text.marks_of_isIdentifier h.named
  unfold Blueprint.reference
  split
  · simp [name, show Text.marks "attrib" = [] from rfl, show Text.marks "." = [] from rfl]
  · exact name

theorem bare : s.blueprint.Bare where
  attributes _ hb _ ha := Text.marks_of_isIdentifier (s.sound_attribute hb ha).named
  params stage k hk _ hp := s.marks_nameOf (s.names.sets stage k hk (List.mem_map_of_mem hp))

theorem bare_block (stage : Stage) {b : BoundBlock} (hb : b ∈ s.plan.blocks stage) : b.Bare := by
  obtain ⟨block, bound⟩ := Plan.exists_block_of_mem s.planned hb
  refine ⟨?_, fun name hname => ?_⟩
  · rw [(Block.bind_eq_ok bound).2.1]
    exact Text.marks_toIdentifier _
  · exact Text.marks_of_isIdentifier ((Block.sound_of_bind bound).names name hname)

theorem sound_of_references (stage : Stage) {l : Line} {a : Attribute}
    (hl : l ∈ (s.plan.program s.blueprint stage).code.lines) (ha : a ∈ l.references) : a.Sound := by
  obtain ⟨before, after, split⟩ := List.append_of_mem hl
  have work := (Plan.split_of_references split ha).1
  refine Plan.sound_of_packs options.phaseShift s.planned ?_
  cases stage with
  | init => exact s.settling.packs_of_touchesAtBirth (s.touchesAtBirth_of_references work ha)
  | update => exact s.settling.packs_of_readsInUpdate (s.readsInUpdate_of_references work ha)
  | output => exact (s.readsInOutput_of_references work ha).2

theorem sound_of_mem_programs {m : Declaration} (hm : m ∈ s.plan.programs s.blueprint stage)
    {l : Line} {a : Attribute} (hl : l ∈ m.code.lines) (ha : a ∈ l.references) : a.Sound := by
  have bare (plain : l.IsPlain) : a.Sound := by
    obtain ⟨text, rfl⟩ := plain
    cases ha
  cases stage with
  | output =>
    rcases List.mem_append.1 hm with hm | hm
    · obtain ⟨_, _, rfl⟩ := s.blueprint.exists_of_mem_functions hm
      exact bare (Declaration.isPlain_routine l hl)
    · rcases List.mem_pair.1 hm with rfl | rfl
      · exact s.sound_of_references .output hl ha
      · have none : (s.blueprint.fragmentProgram s.plan.output).code.lines.flatMap Line.references
            = [] := by
          unfold Blueprint.fragmentProgram OutputGenerator.pixels
          cases s.plan.output.kind <;> cases s.plan.output.texture <;> rfl
        cases (List.flatMap_eq_nil_iff.1 none l hl) ▸ ha
  | _ =>
    rcases List.mem_pair.1 hm with rfl | rfl
    · exact s.sound_of_references .init hl ha
    · exact s.sound_of_references .update hl ha

theorem marks_render (stage : Stage) :
    ∀ l ∈ (Declaration.codeOf (s.plan.shader s.blueprint stage)).lines,
      Text.marks (l.render (s.blueprint.names stage)) = l.marks := by
  intro l hl
  rw [Declaration.lines_codeOf] at hl
  obtain ⟨m, hm, hl⟩ := List.mem_flatMap.1 hl
  rw [s.plan.shader_eq, List.mem_append, List.mem_append] at hm
  rcases hm with (hm | hm) | hm
  · exact Line.marks_render_of_isPlain _ (s.plan.isPlain_preface _ stage m hm l hl)
  · obtain ⟨b, rfl⟩ := Declaration.exists_of_mem_functionsBeside hm
    exact Line.marks_render_of_isPlain _ (Declaration.isPlain_blockFunction b l hl)
  · refine Line.marks_render (fun a ha => ?_) (fun p hp => ?_)
    · have reference : (s.blueprint.names stage).ref a = s.blueprint.reference a := by
        cases stage <;> rfl
      rw [reference]
      exact s.marks_reference (s.sound_of_mem_programs hm hl ha)
    · have refers := s.plan.refersTo_of_mem_params s.blueprint s.names.blocks hm
        (List.mem_flatMap_of_mem hl hp)
      have named := s.blueprint.render_param stage p
      rw [show (s.blueprint.names stage).param p = _ from named]
      exact s.marks_nameOf (s.names.refers stage p refers)

theorem marks_render_drawing : ∀ l ∈ (s.blueprint.drawingCode system.id system.blendMode
      s.plan.output).lines, Text.marks (l.render s.blueprint.drawingNames) = l.marks := by
  have fixed (texts : List String) : ∀ l ∈ texts.map Line.plain,
      Text.marks (l.render s.blueprint.drawingNames) = l.marks := by
    intro l hl
    obtain ⟨text, -, rfl⟩ := List.mem_map.1 hl
    exact Line.marks_render_of_isPlain _ ⟨text, rfl⟩
  simp only [Blueprint.drawingCode, Code.lines_append, Code.lines_braces, Code.lines_ofTexts,
    List.forall_mem_append]
  have drawn := s.marks_render .output
  exact ⟨fixed _, ⟨fixed _, fixed _, ⟨fixed _, drawn⟩, fixed _⟩, fixed _⟩

end Compilation

/-- The shaders of a compiled system are balanced if what its blocks and its lifetime bring into
them is, and its name has no braces. Whatever they bring, a shader is written with each scope closed
that is opened, and no other, although scopes are opened and closed by separate commands. -/
theorem ParticleSystem.compile_braces {system : ParticleSystem} {library : Library}
    {params : ParamTable} {options : Options} {bake : Bake} {c : Compiled}
    (h : (system.compile library params options bake).result = .ok c) :
    ∃ plan, Plan.ofSystem system library params = .ok plan ∧
      c = plan.compiled system c.blueprint ∧
      (plan.Braced → Balanced c.simulation.toList ∧
        (Text.marks system.id = [] → Balanced c.drawing.toList)) ∧
      Writer.Writes ((Declaration.codeOf (c.blueprint.simulation plan.init plan.update)).commands
        c.blueprint.simulationNames) c.simulation ∧
      Writer.Writes ((c.blueprint.drawingCode system.id system.blendMode plan.output).commands
        c.blueprint.drawingNames) c.drawing ∧
      (Declaration.codeOf (c.blueprint.simulation plan.init plan.update)).commands
        c.blueprint.simulationNames
          = c.blueprint.writeSimulation c.blueprint.simulationNames plan.init plan.update ∧
      (c.blueprint.drawingCode system.id system.blendMode plan.output).commands
        c.blueprint.drawingNames
          = c.blueprint.writeDrawing c.blueprint.drawingNames system.id system.blendMode
            plan.output := by
  obtain ⟨s, rfl⟩ := Compilation.result_eq_ok_iff.1 h
  refine ⟨s.plan, s.planned, rfl, fun braced => ⟨?_, fun free => ?_⟩, Code.writes _ _,
    Code.writes _ _, (Blueprint.writeSimulation_eq ..).symm, (Blueprint.writeDrawing_eq ..).symm⟩
  · refine Code.balanced_text (s.marks_render .update) ?_
    rw [Declaration.marks_codeOf]
    exact s.bare.balanced_simulation rfl _ braced.lifetime (List.forall_mem_append.2
      ⟨fun b hb => ⟨s.bare_block .init hb, braced.blocks .init b hb⟩,
        fun b hb => ⟨s.bare_block .update hb, braced.blocks .update b hb⟩⟩)
  · refine Code.balanced_text s.marks_render_drawing ?_
    exact s.bare.balanced_drawingCode free _ _ fun b hb =>
      ⟨s.bare_block .output hb, braced.blocks .output b hb⟩

/-- A block of each kind of text with braces in it: what is taken over from a slot, from a default
and from the settings, and a source whose lines are balanced only together. -/
def gates : ParticleSystem where
  version := "1"
  metadata := { name := "Gates" }
  id := "gates"
  contexts := [
    { id := "birth", stage := .init,
      settings := .ofList [("lifetime",
        ⟨.object [("expr", .string "(float)\x7b2.0\x7d")], by simp, trivial, trivial⟩)],
      blocks := [
        { id := "place", type := "Place",
          slots := .ofList [("left", .expr "(float)\x7b-1.0\x7d")],
          descriptor := some
            { attributes := [⟨"position", .float3, true⟩],
              properties := [{ name := "left", type := .float },
                { name := "right", type := .float, fallback := some "(float)\x7b1.0\x7d" }],
              source := ["position = left + right;"] } }] },
    { id := "life", stage := .update,
      blocks := [
        { id := "close", type := "Close", descriptor := some
            { capabilities := [.kill], attributes := [⟨"position", .float3, false⟩],
              source := ["if (position.y < 0.0) \x7b", "KILL", "\x7d"] } }] },
    { id := "drawing", stage := .output }]

theorem gates_braces : ∃ c, (gates.compile ∅ ∅ (.ofSystem gates) .empty).result = .ok c ∧
    ∃ plan, Plan.ofSystem gates ∅ ∅ = .ok plan ∧ c = plan.compiled gates c.blueprint ∧
      plan.Braced ∧ Balanced c.simulation.toList ∧ Balanced c.drawing.toList ∧
      Writer.Writes ((Declaration.codeOf (c.blueprint.simulation plan.init plan.update)).commands
        c.blueprint.simulationNames) c.simulation ∧
      Writer.Writes ((c.blueprint.drawingCode gates.id gates.blendMode plan.output).commands
        c.blueprint.drawingNames) c.drawing ∧
      (Declaration.codeOf (c.blueprint.simulation plan.init plan.update)).commands
        c.blueprint.simulationNames
          = c.blueprint.writeSimulation c.blueprint.simulationNames plan.init plan.update ∧
      (c.blueprint.drawingCode gates.id gates.blendMode plan.output).commands
        c.blueprint.drawingNames
          = c.blueprint.writeDrawing c.blueprint.drawingNames gates.id gates.blendMode
            plan.output := by
  have compiled : (gates.compile ∅ ∅ (.ofSystem gates) .empty).result.toOption.map
      (·.systemId) = some "gates" := by
    decide +kernel
  have braced : (Plan.ofSystem gates ∅ ∅).toOption.map (fun plan => decide plan.Braced)
      = some true := by
    decide +kernel
  obtain ⟨c, h, -⟩ := exists_of_toOption compiled
  obtain ⟨found, planned, braced⟩ := exists_of_toOption braced
  obtain ⟨plan, same, eq, balanced, written⟩ := ParticleSystem.compile_braces h
  obtain rfl : found = plan := Except.ok.inj (planned.symm.trans same)
  have braced := of_decide_eq_true braced
  obtain ⟨simulated, drawn⟩ := balanced braced
  have free : Text.marks gates.id = [] := by decide +kernel
  exact ⟨c, h, found, planned, eq, braced, simulated, drawn free, written⟩

end ParticleShaders
