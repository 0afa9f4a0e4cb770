import ParticleShaders.Proofs.Shader.Calls
import ParticleShaders.Proofs.Usage.ClosedForm

namespace ParticleShaders

def Word.ref? : Word → Option Attribute
  | .ref a => some a
  | _ => none

namespace Word

@[simp] theorem ref?_text (s : String) : (text s).ref? = none := rfl

@[simp] theorem ref?_ref (a : Attribute) : (ref a).ref? = some a := rfl

@[simp] theorem ref?_word (x : Argument) : x.word.ref? = none := by
  cases x <;> rfl

end Word

namespace BoundBlock

def changed? (argument : Parameter × Word) : Option Attribute :=
  if argument.1.isInout then argument.2.ref? else none

def inoutArguments (f b : BoundBlock) : List Attribute :=
  (f.parameters.zip b.callWords).filterMap changed?

end BoundBlock

namespace Line

def references : Line → List Attribute
  | .words ws => ws.filterMap Word.ref?
  | .assign target _ value => target :: value.filterMap Word.ref?
  | .call b => b.callWords.filterMap Word.ref?
  | _ => []

def changes : Line → List Attribute
  | .assign target _ _ => [target]
  | .call b => b.inoutArguments b
  | _ => []

@[simp] theorem references_blank : [blank].flatMap references = [] := rfl

@[simp] theorem changes_blank : [blank].flatMap changes = [] := rfl

theorem mem_references_call {b : BoundBlock} {a : Attribute} : a ∈ (call b).references ↔
    (∃ d ∈ b.descriptor.attributes, d.toAttribute = a) ∨
      (b.descriptor.needs .rand ∧ a = .seed) := by
  rw [references, BoundBlock.callWords, List.filterMap_append, List.filterMap_append,
    List.filterMap_append, List.mem_append, List.mem_append, List.mem_append]
  cases b.descriptor.needs .rand <;> cases b.descriptor.needs .kill <;> simp [@eq_comm _ _ a]

theorem mem_references_of_inout {f b : BoundBlock} {a : Attribute} (h : a ∈ f.inoutArguments b) :
    a ∈ (call b).references := by
  obtain ⟨⟨p, w⟩, mem, named⟩ := List.mem_filterMap.1 h
  simp only [BoundBlock.changed?, Option.ite_none_right_eq_some] at named
  exact List.mem_filterMap.2 ⟨w, (List.of_mem_zip mem).2, named.2⟩

theorem mem_references_of_changes {l : Line} {a : Attribute} (h : a ∈ l.changes) :
    a ∈ l.references := by
  cases l with
  | assign target operator value => exact List.mem_cons.2 (.inl (List.mem_singleton.1 h))
  | call b => exact mem_references_of_inout h
  | _ => cases h

theorem mem_changes_call {b : BoundBlock} {a : Attribute}
    (bound : b.arguments.length = b.descriptor.properties.length) : a ∈ (call b).changes ↔
      (∃ d ∈ b.descriptor.attributes, d.toAttribute = a ∧ d.writable) ∨
        (b.descriptor.needs .rand ∧ a = .seed) := by
  have properties : ((b.descriptor.properties.map
      fun d => (⟨false, d.type.shaderType, d.name⟩ : Parameter)).zip
        (b.arguments.map (·.word))).filterMap BoundBlock.changed? = [] := by
    rw [List.filterMap_eq_nil_iff]
    rintro ⟨p, w⟩ mem
    obtain ⟨x, -, rfl⟩ := List.mem_map.1 (List.of_mem_zip mem).2
    simp [BoundBlock.changed?]
  rw [changes, BoundBlock.inoutArguments, BoundBlock.parameters, BoundBlock.callWords,
    List.zip_append (by split <;> simp [bound]), List.zip_append (by simp [bound]),
    List.zip_append (by simp), List.zip_map', List.filterMap_append, List.filterMap_append,
    List.filterMap_append, properties, List.append_nil, List.mem_append, List.mem_append]
  cases b.descriptor.needs .rand <;> cases b.descriptor.needs .kill <;>
    simp [BoundBlock.changed?, @eq_comm _ _ a, and_comm]

end Line

namespace Blueprint

variable (d : Blueprint)

def LoadedBy (lines : List Line) (a : Attribute) : Prop :=
  ∃ b ∈ d.buffers, a ∈ b.attributes ∧ ∃ source, Line.load b.index source ∈ lines

def StoredBy (lines : List Line) (a : Attribute) : Prop :=
  ∃ b ∈ d.buffers, a ∈ b.attributes ∧ Line.store b.index b.variableName ∈ lines

end Blueprint

namespace Plan

variable {plan : Plan} {d : Blueprint} {l : Line} {a : Attribute}

theorem split_of_references {stage : Stage} {before after : List Line}
    (h : (plan.program d stage).code.lines = before ++ l :: after) (ha : a ∈ l.references) :
    l ∈ plan.work d stage ∧ (∀ x ∈ opening d stage, x ∈ before) ∧
      ∀ x ∈ stores d stage, x ∈ after := by
  refine plan.split_lines_program d h ?_ ?_ ?_
  · rintro ⟨text, rfl⟩
    cases ha
  · intro opened
    cases stage <;>
      (obtain ⟨b, -, rfl⟩ := List.mem_map.1 opened
       cases ha)
  · intro stored
    cases stage with
    | output => cases stored
    | _ =>
      obtain ⟨b, -, rfl⟩ := List.mem_map.1 stored
      cases ha

section Glue

theorem mem_references_shiftPhase {operator : String} :
    a ∈ (d.shiftPhase operator).flatMap Line.references ↔
      d.phaseShift ∧ a ∈ [.phase, .position, .velocity] := by
  unfold Blueprint.shiftPhase
  cases d.phaseShift <;>
    simp [Line.references, Line.blank, Line.plain, @eq_comm _ _ a, or_left_comm]

theorem mem_references_seeding : a ∈ d.seeding.flatMap Line.references ↔
    (d.hasRand ∧ a = .seed) ∨ (d.phaseShift ∧ a ∈ [.phase, .seed]) := by
  unfold Blueprint.seeding
  cases d.hasRand <;> cases d.phaseShift <;>
    simp [Line.references, Line.blank, Line.plain, @eq_comm _ _ a]

theorem mem_references_init_closing {g : InitGenerator} :
    a ∈ g.closing.flatMap Line.references ↔ g.lifetime.isSome ∧ a ∈ [.lifetime, .age] := by
  unfold InitGenerator.closing
  cases g.lifetime <;> simp [Line.references, Line.blank, Line.plain]

theorem mem_references_update_closing {g : UpdateGenerator} :
    a ∈ g.closing.flatMap Line.references ↔ (g.integrate ∧ a ∈ [.position, .velocity]) ∨
      (g.age ∧ a = .age) ∨ (g.reap ∧ a ∈ [.age, .lifetime]) := by
  unfold UpdateGenerator.closing
  cases g.integrate <;> cases g.age <;> cases g.reap <;>
    simp [Line.references, Line.blank, Line.plain, @eq_comm _ _ a, or_assoc]

theorem mem_references_output_closing {g : OutputGenerator} :
    a ∈ (g.closing d).flatMap Line.references ↔ a = .position ∨
      (g.isQuad ∧ ((d.holds .size ∧ a = .size) ∨ (d.holds .angle ∧ a = .angle))) := by
  unfold OutputGenerator.closing OutputGenerator.extent OutputGenerator.turns OutputGenerator.isQuad
  cases g.kind with
  | point => simp [Line.references, Line.blank, Line.plain, @eq_comm _ _ a]
  | billboard =>
    cases d.holds .size <;> cases d.holds .angle <;>
      simp [Line.references, Line.blank, Line.plain, @eq_comm _ _ a] <;> tauto

theorem mem_references_coloring : a ∈ d.coloring.flatMap Line.references ↔
    (d.holds .color ∧ a = .color) ∨ (d.holds .alpha ∧ a = .alpha) := by
  unfold Blueprint.coloring Blueprint.isColored
  cases d.holds .color <;> cases d.holds .alpha <;> simp [Line.references, @eq_comm _ _ a]

theorem references_opening {g : OutputGenerator} : g.opening.flatMap Line.references = [] := by
  unfold OutputGenerator.opening
  cases g.kind <;> rfl

theorem mem_references_glue_init : a ∈ (plan.glue d .init).flatMap Line.references ↔
    (d.hasRand ∧ a = .seed) ∨ (d.phaseShift ∧ a ∈ [.phase, .seed]) ∨
      (plan.init.lifetime.isSome ∧ a ∈ [.lifetime, .age]) ∨
      (d.phaseShift ∧ a ∈ [.phase, .position, .velocity]) := by
  simp only [glue, List.flatMap_append, List.mem_append, Line.references_blank, List.not_mem_nil,
    false_or, mem_references_seeding, mem_references_init_closing, mem_references_shiftPhase,
    or_assoc]

theorem mem_references_glue_update : a ∈ (plan.glue d .update).flatMap Line.references ↔
    (d.phaseShift ∧ a ∈ [.phase, .position, .velocity]) ∨
      (plan.update.integrate ∧ a ∈ [.position, .velocity]) ∨ (plan.update.age ∧ a = .age) ∨
      (plan.update.reap ∧ a ∈ [.age, .lifetime]) := by
  simp only [glue, List.flatMap_append, List.mem_append, Line.references_blank, List.not_mem_nil,
    false_or, mem_references_shiftPhase, mem_references_update_closing]
  grind

theorem mem_references_glue_output : a ∈ (plan.glue d .output).flatMap Line.references ↔
    a = .position ∨
      (plan.output.isQuad ∧ ((d.holds .size ∧ a = .size) ∨ (d.holds .angle ∧ a = .angle))) ∨
      (d.holds .color ∧ a = .color) ∨ (d.holds .alpha ∧ a = .alpha) := by
  simp only [glue, List.flatMap_append, List.mem_append, Line.references_blank, List.not_mem_nil,
    false_or, references_opening, mem_references_output_closing, mem_references_coloring, or_assoc]

theorem mem_changes_shiftPhase {operator : String} :
    a ∈ (d.shiftPhase operator).flatMap Line.changes ↔ d.phaseShift ∧ a = .position := by
  unfold Blueprint.shiftPhase
  cases d.phaseShift <;> simp [Line.changes, Line.blank, Line.plain]

theorem mem_changes_update_closing {g : UpdateGenerator} :
    a ∈ g.closing.flatMap Line.changes ↔
      (g.integrate ∧ a = .position) ∨ (g.age ∧ a = .age) := by
  unfold UpdateGenerator.closing
  cases g.integrate <;> cases g.age <;> cases g.reap <;>
    simp [Line.changes, Line.blank, Line.plain]

theorem mem_changes_glue_update : a ∈ (plan.glue d .update).flatMap Line.changes ↔
    (d.phaseShift ∧ a = .position) ∨ (plan.update.integrate ∧ a = .position) ∨
      (plan.update.age ∧ a = .age) := by
  simp only [glue, List.flatMap_append, List.mem_append, Line.changes_blank, List.not_mem_nil,
    false_or, mem_changes_shiftPhase, mem_changes_update_closing]
  grind

end Glue

end Plan

namespace Compilation

variable {system : ParticleSystem} {library : Library} {params : ParamTable} {options : Options}
  (s : Compilation system library params options) {stage : Stage} {a : Attribute}

theorem hasRand_eq : s.blueprint.hasRand = s.plan.isRandom options.phaseShift := by
  rw [← s.settling.isRandom_eq]
  exact (UsageTable.applyRules_eq_ok s.settled).2.1

theorem phaseShift_eq : s.blueprint.phaseShift = options.phaseShift := rfl

theorem holds_iff : s.blueprint.holds a ↔ s.plan.packs options.phaseShift a := by
  rw [Blueprint.bufferOf?_isSome]
  exact s.exists_buffer_iff

theorem isRandom_of_needs {b : BoundBlock} (hb : b ∈ s.plan.blocks stage)
    (needs : b.descriptor.needs .rand) :
    stage ≠ .output ∧ s.plan.isRandom options.phaseShift := by
  have placed := s.sound.placed stage b hb
  have early : stage ≠ .output := by
    rintro rfl
    simp [Block.misplaced?, needs] at placed
  have mem : b ∈ s.plan.initBlocks ++ s.plan.updateBlocks := by
    cases stage with
    | init => exact List.mem_append_left _ hb
    | update => exact List.mem_append_right _ hb
    | output => exact absurd rfl early
  exact ⟨early, Bool.or_eq_true_iff.2 (.inr (List.any_eq_true.2 ⟨b, mem, needs⟩))⟩

theorem packs_of_declares (h : declares (s.plan.blocks stage) a) :
    s.plan.packs options.phaseShift a := by
  obtain ⟨b, hb, d, hd, same⟩ := declares_iff.1 h
  have declared : declares (s.plan.initBlocks ++ s.plan.updateBlocks ++ s.plan.outputBlocks) a := by
    refine declares_iff.2 ⟨b, ?_, d, hd, same⟩
    cases stage <;> simp_all [Plan.blocks]
  exact s.settling.packs_of_mem_table (s.settling.mem_table.2 (.inl declared))

theorem used_of_call {b : BoundBlock} (hb : b ∈ s.plan.blocks stage)
    (ha : a ∈ (Line.call b).references) :
    declares (s.plan.blocks stage) a ∨
      (stage ≠ .output ∧ s.plan.isRandom options.phaseShift ∧ a = .seed) := by
  rcases Line.mem_references_call.1 ha with ⟨d, hd, rfl⟩ | ⟨needs, rfl⟩
  · exact .inl (declares_iff.2 ⟨b, hb, d, hd, rfl⟩)
  · obtain ⟨early, random⟩ := s.isRandom_of_needs hb needs
    exact .inr ⟨early, random, rfl⟩

variable {l : Line}

theorem mem_work : l ∈ s.plan.work s.blueprint stage ↔
    (∃ b ∈ s.plan.blocks stage, .call b = l) ∨ l ∈ s.plan.glue s.blueprint stage := by
  rw [Plan.mem_work, List.mem_map, ← s.blocks_eq]
  rfl

theorem touchesAtBirth_of_references (hl : l ∈ s.plan.work s.blueprint .init)
    (ha : a ∈ l.references) : s.plan.touchesAtBirth options.phaseShift a := by
  simp only [Plan.touchesAtBirth, Bool.or_eq_true, Bool.and_eq_true, decide_eq_true_eq]
  rcases s.mem_work.1 hl with ⟨b, hb, rfl⟩ | mem
  · have used : declares s.plan.initBlocks a ∨ _ := s.used_of_call hb ha
    grind
  · have named := Plan.mem_references_glue_init.1 (List.mem_flatMap_of_mem mem ha)
    -- A phase is drawn with the seed, so that a phase shift makes a system random.
    have random : options.phaseShift → s.plan.isRandom options.phaseShift :=
      fun shifted => Bool.or_eq_true_iff.2 (.inl shifted)
    rw [s.hasRand_eq, s.phaseShift_eq] at named
    grind

theorem readsInUpdate_of_references (hl : l ∈ s.plan.work s.blueprint .update)
    (ha : a ∈ l.references) : s.plan.readsInUpdate options.phaseShift a := by
  simp only [Plan.readsInUpdate, Bool.or_eq_true, Bool.and_eq_true, decide_eq_true_eq]
  rcases s.mem_work.1 hl with ⟨b, hb, rfl⟩ | mem
  · have used : declares s.plan.updateBlocks a ∨ _ := s.used_of_call hb ha
    grind
  · have named := Plan.mem_references_glue_update.1 (List.mem_flatMap_of_mem mem ha)
    rw [s.phaseShift_eq] at named
    grind

theorem readsInOutput_of_references (hl : l ∈ s.plan.work s.blueprint .output)
    (ha : a ∈ l.references) : s.plan.readsInOutput a ∧ s.plan.packs options.phaseShift a := by
  simp only [Plan.readsInOutput, Bool.or_eq_true, Bool.and_eq_true, decide_eq_true_eq]
  rcases s.mem_work.1 hl with ⟨b, hb, rfl⟩ | mem
  · rcases s.used_of_call hb ha with declared | ⟨late, -⟩
    · exact ⟨.inl (.inl declared), s.packs_of_declares declared⟩
    · cases late rfl
  · have named := Plan.mem_references_glue_output.1 (List.mem_flatMap_of_mem mem ha)
    simp only [s.holds_iff] at named
    rcases named with rfl | ⟨quad, ⟨packed, rfl⟩ | ⟨packed, rfl⟩⟩ | ⟨packed, rfl⟩ | ⟨packed, rfl⟩
    · exact ⟨.inl (.inr (by simp)), s.settling.packs_position⟩
    · exact ⟨.inr ⟨quad, by simp⟩, packed⟩
    · exact ⟨.inr ⟨quad, by simp⟩, packed⟩
    · exact ⟨.inl (.inr (by simp)), packed⟩
    · exact ⟨.inl (.inr (by simp)), packed⟩

theorem writesInUpdate_of_changes (hl : l ∈ s.plan.work s.blueprint .update)
    (ha : a ∈ l.changes) : s.plan.writesInUpdate options.phaseShift a := by
  simp only [Plan.writesInUpdate, Bool.or_eq_true, Bool.and_eq_true, decide_eq_true_eq]
  rcases s.mem_work.1 hl with ⟨b, hb, rfl⟩ | mem
  · rcases (Line.mem_changes_call (s.sound.arguments .update b hb)).1 ha with written | ⟨needs, rfl⟩
    · have declared : declaresWritable s.plan.updateBlocks a :=
        declaresWritable_iff.2 ⟨b, hb, written⟩
      grind
    · have random := (s.isRandom_of_needs hb needs).2
      grind
  · have changed := Plan.mem_changes_glue_update.1 (List.mem_flatMap_of_mem mem ha)
    rw [s.phaseShift_eq] at changed
    grind

theorem store_mem_update {n : Nat} {v : String} :
    Line.store n v ∈ (s.plan.program s.blueprint .update).code.lines ↔
      ∃ b, s.buffers[n]? = some b ∧ b.writableIn .update ∧ b.variableName = v := by
  rw [Plan.mem_lines_of_not_glue _ _ rfl (by simp)]
  simp only [Plan.opening, Plan.stores, Blueprint.updateLoads, Blueprint.updateStores,
    List.mem_map, List.mem_filter, reduceCtorEq, and_false, exists_false, false_or,
    Line.store.injEq]
  constructor
  · rintro ⟨b, ⟨hb, writable⟩, rfl, named⟩
    exact ⟨b, UsageTable.getElem?_index s.packed hb, writable, named⟩
  · rintro ⟨b, found, writable, named⟩
    have index := ((UsageTable.getElem?_pack s.packed).1 found).2.1
    exact ⟨b, ⟨List.mem_of_getElem? found, writable⟩, index, named⟩

theorem storedBy_iff {lines : List Line} (all : ∀ x ∈ Plan.stores s.blueprint .update, x ∈ lines)
    (only : ∀ x ∈ lines, x ∈ (s.plan.program s.blueprint .update).code.lines) :
    s.blueprint.StoredBy lines a ↔ s.plan.writesInUpdate options.phaseShift a := by
  constructor
  · rintro ⟨b, hb, ha, stored⟩
    obtain ⟨c, found, writable, -⟩ := s.store_mem_update.1 (only _ stored)
    -- A store names its buffer by number, and there is one buffer of that number.
    rw [UsageTable.getElem?_index s.packed hb] at found
    cases found
    rw [Buffer.writableIn, s.usage_eq hb ha] at writable
    exact writable
  · intro written
    have granted := (s.settling.grants_wanted (x := .updateWrite) (by simp)).2 written
    have packed := s.settling.packs_of_grants granted
    obtain ⟨b, hb, ha⟩ := s.exists_buffer_iff.2 packed
    have writable : b.writableIn .update := by
      rw [Buffer.writableIn, s.usage_eq hb ha]
      exact written
    exact ⟨b, hb, ha, all _ (List.mem_map.2 ⟨b, List.mem_filter.2 ⟨hb, writable⟩, rfl⟩)⟩

theorem loadedBy_of_uses {lines : List Line} (early : stage ≠ .init)
    (all : ∀ x ∈ Plan.opening s.blueprint stage, x ∈ lines) {b : Buffer} (hb : b ∈ s.buffers)
    (ha : a ∈ b.attributes) (used : b.usedIn stage) : s.blueprint.LoadedBy lines a := by
  refine ⟨b, hb, ha, ?_⟩
  cases stage with
  | init => exact absurd rfl early
  | update => exact ⟨_, all _ (List.mem_map.2 ⟨b, List.mem_filter.2 ⟨hb, used⟩, rfl⟩)⟩
  | output => exact ⟨_, all _ (List.mem_map.2 ⟨b, List.mem_filter.2 ⟨hb, used⟩, rfl⟩)⟩

end Compilation

namespace Plan

/-- What the programs of a plan do to attributes, when they are written from a blueprint. -/
structure AccessesSound (plan : Plan) (d : Blueprint) : Prop where
  packed : ∀ stage, ∀ l ∈ (plan.program d stage).code.lines, ∀ a ∈ l.references,
    ∃ b ∈ d.buffers, a ∈ b.attributes ∧ d.reference a = Blueprint.memberOf b a
  distinct : ∀ a b, d.holds a → d.holds b → d.reference a = d.reference b → a = b
  loaded : ∀ stage ≠ .init, ∀ before l after,
    (plan.program d stage).code.lines = before ++ l :: after →
      ∀ a ∈ l.references, d.LoadedBy before a
  stored : ∀ before l after, (plan.program d .update).code.lines = before ++ l :: after →
    ∀ a ∈ l.changes, d.StoredBy after a
  spared : ∀ n v, Line.store n v ∈ (plan.program d .update).code.lines →
    ∃ b, d.buffers[n]? = some b ∧ b.writableIn .update

/-- Update stores whatever the functions that it calls may change, as its shader has them. -/
def InoutStored (plan : Plan) (d : Blueprint) : Prop :=
  ∀ before b after f, (plan.program d .update).code.lines = before ++ .call b :: after →
    Declaration.blockFunction f ∈ plan.shader d .update → f.function = b.function →
      ∀ a ∈ f.inoutArguments b, d.StoredBy after a

end Plan

namespace Compilation

variable {system : ParticleSystem} {library : Library} {params : ParamTable} {options : Options}
  (s : Compilation system library params options) {stage : Stage} {l : Line} {a : Attribute}

theorem exists_buffer_of_references (hl : l ∈ s.plan.work s.blueprint stage)
    (ha : a ∈ l.references) : ∃ b ∈ s.buffers, a ∈ b.attributes ∧ b.usedIn stage := by
  have used : s.plan.packs options.phaseShift a ∧
      (s.plan.usageOf options.phaseShift a).usedIn stage := by
    cases stage with
    | init =>
      have touched := s.touchesAtBirth_of_references hl ha
      exact ⟨s.settling.packs_of_touchesAtBirth touched, rfl⟩
    | update =>
      have read := s.readsInUpdate_of_references hl ha
      exact ⟨s.settling.packs_of_readsInUpdate read, Bool.or_eq_true_iff.2 (.inl read)⟩
    | output =>
      obtain ⟨read, packed⟩ := s.readsInOutput_of_references hl ha
      exact ⟨packed, read⟩
  obtain ⟨b, hb, mem⟩ := s.exists_buffer_iff.2 used.1
  refine ⟨b, hb, mem, ?_⟩
  rw [Buffer.usedIn, s.usage_eq hb mem]
  exact used.2

theorem accessesSound : s.plan.AccessesSound s.blueprint := by
  constructor
  case packed =>
    intro stage l hl a ha
    obtain ⟨before, after, split⟩ := List.append_of_mem hl
    obtain ⟨work, -⟩ := Plan.split_of_references split ha
    obtain ⟨b, hb, mem, -⟩ := s.exists_buffer_of_references work ha
    exact ⟨b, hb, mem, Blueprint.reference_eq_memberOf s.packed hb mem⟩
  case distinct =>
    intro a b ha hb same
    obtain ⟨p, hp, ha⟩ := Blueprint.bufferOf?_isSome.1 ha
    obtain ⟨q, hq, hb⟩ := Blueprint.bufferOf?_isSome.1 hb
    rw [Blueprint.reference_eq_memberOf s.packed hp ha,
      Blueprint.reference_eq_memberOf s.packed hq hb] at same
    exact UsageTable.eq_of_name_eq s.named ((UsageTable.exists_buffer_iff s.packed).1 ⟨p, hp, ha⟩)
      ((UsageTable.exists_buffer_iff s.packed).1 ⟨q, hq, hb⟩)
      (Blueprint.name_eq_of_memberOf_eq same)
  case loaded =>
    intro stage early before l after split a ha
    obtain ⟨work, opened, -⟩ := Plan.split_of_references split ha
    obtain ⟨b, hb, mem, used⟩ := s.exists_buffer_of_references work ha
    exact s.loadedBy_of_uses early opened hb mem used
  case stored =>
    intro before l after split a ha
    obtain ⟨work, -, stored⟩ := Plan.split_of_references split (Line.mem_references_of_changes ha)
    have only : ∀ x ∈ after, x ∈ (s.plan.program s.blueprint .update).code.lines := by
      simp +contextual [split]
    exact (s.storedBy_iff stored only).2 (s.writesInUpdate_of_changes work ha)
  case spared =>
    intro n v stored
    obtain ⟨b, found, writable, -⟩ := s.store_mem_update.1 stored
    exact ⟨b, found, writable⟩

theorem inoutStored_iff : s.plan.InoutStored s.blueprint ↔
    ∀ b ∈ s.plan.updateBlocks, ∀ f,
      (functionBlocks s.plan.blocks .update).find? (·.function = b.function) = some f →
        ∀ a ∈ f.inoutArguments b, s.plan.writesInUpdate options.phaseShift a := by
  have stored {before after : List Line} {b f : BoundBlock}
      (split : (s.plan.program s.blueprint .update).code.lines = before ++ .call b :: after)
      {a : Attribute} (ha : a ∈ f.inoutArguments b) :
      s.blueprint.StoredBy after a ↔ s.plan.writesInUpdate options.phaseShift a := by
    obtain ⟨-, -, all⟩ := Plan.split_of_references split (Line.mem_references_of_inout ha)
    apply s.storedBy_iff all
    simp +contextual [split]
  have called {b : BoundBlock} : .call b ∈ (s.plan.program s.blueprint .update).code.lines ↔
      b ∈ s.plan.updateBlocks := s.plan.call_mem_program s.blueprint
  constructor
  · intro h b hb f first a ha
    obtain ⟨before, after, split⟩ := List.append_of_mem (called.2 hb)
    have named : f.function = b.function := by simpa using List.find?_some first
    have written : Declaration.blockFunction f ∈ s.plan.shader s.blueprint .update :=
      (s.plan.blockFunction_mem_shader _).2 (named.symm ▸ first)
    exact (stored split ha).1 (h before b after f split written named a ha)
  · intro h before b after f split written named a ha
    have hb : b ∈ s.plan.updateBlocks := called.1 (by simp [split])
    have first := (s.plan.blockFunction_mem_shader _).1 written
    rw [named] at first
    exact (stored split ha).2 (h b hb f first a ha)

end Compilation

/-- The programs of a compiled system use attributes soundly as far as blocks speak for themselves.
A function that another block of the same name gave may change an attribute besides, and update
stores it just in case it is written for another reason. -/
theorem ParticleSystem.compile_accesses {system : ParticleSystem} {library : Library}
    {params : ParamTable} {options : Options} {bake : Bake} {c : Compiled}
    (h : (system.compile library params options bake).result = .ok c) :
    ∃ plan, Plan.ofSystem system library params = .ok plan ∧
      c = plan.compiled system c.blueprint ∧ plan.AccessesSound c.blueprint ∧
      (plan.InoutStored c.blueprint ↔ ∀ b ∈ plan.updateBlocks, ∀ f,
        (functionBlocks plan.blocks .update).find? (·.function = b.function) = some f →
          ∀ a ∈ f.inoutArguments b, plan.writesInUpdate options.phaseShift a) := by
  obtain ⟨s, rfl⟩ := Compilation.result_eq_ok_iff.1 h
  exact ⟨s.plan, s.planned, rfl, s.accessesSound, s.inoutStored_iff⟩

/-- Heat is set at birth by a block of the name of one that only looks at it later. -/
def kiln : ParticleSystem where
  version := "1"
  metadata := { name := "Kiln" }
  id := "kiln"
  contexts := [
    { id := "birth", stage := .init,
      blocks := [
        { id := "place", type := "Place", descriptor := some
            { attributes := [⟨"position", .float3, true⟩], source := ["position = 0.0;"] } },
        { id := "warm", type := "Warm", descriptor := some
            { attributes := [⟨"heat", .float, true⟩], source := ["heat = 1.0;"] } }] },
    { id := "life", stage := .update,
      blocks := [
        { id := "look", type := "Warm", descriptor := some
            { attributes := [⟨"heat", .float, false⟩] } }] },
    { id := "drawing", stage := .output }]

theorem kiln_accesses : ∃ c, (kiln.compile ∅ ∅ (.ofSystem kiln) .empty).result = .ok c ∧
    ∃ plan, Plan.ofSystem kiln ∅ ∅ = .ok plan ∧ c = plan.compiled kiln c.blueprint ∧
      plan.AccessesSound c.blueprint ∧
      (plan.InoutStored c.blueprint ↔ ∀ b ∈ plan.updateBlocks, ∀ f,
        (functionBlocks plan.blocks .update).find? (·.function = b.function) = some f →
          ∀ a ∈ f.inoutArguments b, plan.writesInUpdate false a) := by
  have compiled : (kiln.compile ∅ ∅ (.ofSystem kiln) .empty).result.toOption.map
      (·.blueprint.updateBlocks.length) = some 1 := by
    decide +kernel
  obtain ⟨c, h, -⟩ := exists_of_toOption compiled
  exact ⟨c, h, ParticleSystem.compile_accesses h⟩

/-- Update passes the heat of a kiln to a parameter that its function changes, and never stores
it. -/
theorem kiln_loses_heat : ∃ c, (kiln.compile ∅ ∅ (.ofSystem kiln) .empty).result = .ok c ∧
    ∃ plan, Plan.ofSystem kiln ∅ ∅ = .ok plan ∧ c = plan.compiled kiln c.blueprint ∧
      ∃ b f, Line.call b ∈ (plan.program c.blueprint .update).code.lines ∧
        Declaration.blockFunction f ∈ plan.shader c.blueprint .update ∧
        f.function = b.function ∧ f.inoutArguments b = [⟨"heat", .float⟩] ∧
        ¬ c.blueprint.StoredBy (plan.program c.blueprint .update).code.lines ⟨"heat", .float⟩ := by
  have compiled : (kiln.compile ∅ ∅ (.ofSystem kiln) .empty).result.toOption.map
      (·.blueprint.updateBlocks.length) = some 1 := by
    decide +kernel
  have planned : (Plan.ofSystem kiln ∅ ∅).toOption.map (fun plan =>
      (plan.updateBlocks[0]?.bind fun b =>
        ((functionBlocks plan.blocks .update).find? (·.function = b.function)).map fun f =>
          f.inoutArguments b, plan.writesInUpdate false ⟨"heat", .float⟩))
        = some (some [⟨"heat", .float⟩], false) := by
    decide +kernel
  obtain ⟨c, h, -⟩ := exists_of_toOption compiled
  obtain ⟨s, rfl⟩ := Compilation.result_eq_ok_iff.1 h
  obtain ⟨plan, ok, same⟩ := exists_of_toOption planned
  obtain rfl : plan = s.plan := Except.ok.inj (ok.symm.trans s.planned)
  obtain ⟨passed, unwritten⟩ := Prod.mk.inj same
  obtain ⟨b, found, passed⟩ := Option.bind_eq_some_iff.1 passed
  obtain ⟨f, first, passed⟩ := Option.map_eq_some_iff.1 passed
  have named : f.function = b.function := by simpa using List.find?_some first
  refine ⟨s.compiled, h, s.plan, s.planned, rfl, b, f, ?_, ?_, named, passed, fun stored => ?_⟩
  · exact (s.plan.call_mem_program _).2 (List.mem_of_getElem? found)
  · exact (s.plan.blockFunction_mem_shader _).2 (named.symm ▸ first)
  · have all := s.plan.mem_program_of_stores s.blueprint .update
    have written := (s.storedBy_iff all fun x hx => hx).1 stored
    exact absurd (written.symm.trans unwritten) (by decide)

end ParticleShaders
