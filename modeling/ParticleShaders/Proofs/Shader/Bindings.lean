import ParticleShaders.Proofs.Shader.Program
import ParticleShaders.Proofs.Usage.ClosedForm

namespace ParticleShaders

def Line.transfer? : Line → Option (Nat × String)
  | .load n source => some (n, source)
  | .store n target => some (n, target)
  | _ => none

namespace Declaration

def transfers (program : Declaration) : List (Nat × String) :=
  program.code.lines.filterMap Line.transfer?

def globalNames : Declaration → List String
  | .globals fields => fields.map (·.name)
  | _ => []

end Declaration

namespace BufferBinding

def name (binding : BufferBinding) : Stage → Option String
  | .init => binding.init
  | .update => binding.update
  | .output => binding.output

/-- The variable of a binding is the one by which the program transfers the `n`-th buffer, if it
transfers it at all, and the shader declares it. -/
structure Fits (binding : BufferBinding) (stage : Stage) (n : Nat) (shader : List Declaration)
    (program : Declaration) : Prop where
  transfers : ∀ v, (n, v) ∈ program.transfers ↔ binding.name stage = some v
  declared : ∀ v, binding.name stage = some v → v ∈ shader.flatMap (·.globalNames)

end BufferBinding

namespace Buffer

theorem usedIn_of_writableIn (b : Buffer) {stage : Stage} (h : b.writableIn stage) :
    b.usedIn stage := by
  cases stage with
  | init => exact Bool.or_eq_true_iff.2 (.inr h)
  | update => exact Bool.or_eq_true_iff.2 (.inr h)
  | output => cases h

theorem readOnlyName_ne (b : Buffer) : b.readOnlyName ≠ b.variableName := by
  intro same
  have length := congrArg String.length same
  simp [readOnlyName] at length

end Buffer

namespace Plan

variable {plan : Plan} {d : Blueprint} {stage : Stage} {n : Nat} {v : String} {b : Buffer}

theorem mem_transfers_program : (n, v) ∈ (plan.program d stage).transfers ↔
    ∃ l ∈ opening d stage ++ stores d stage, l.transfer? = some (n, v) := by
  unfold Declaration.transfers
  rw [List.mem_filterMap]
  apply exists_congr
  intro l
  apply and_congr_left
  intro moved
  rw [List.mem_append]
  cases l with
  | load n source => exact plan.mem_lines_of_not_glue d rfl (by simp)
  | store n target => exact plan.mem_lines_of_not_glue d rfl (by simp)
  | _ => cases moved

section Packed

variable {t : UsageTable} {limit : Nat} (packed : t.pack limit = .ok d.buffers)
  (found : d.buffers[n]? = some b)

include packed found

theorem mem_transfers_init :
    (n, v) ∈ (plan.program d .init).transfers ↔ b.variableName = v := by
  rw [mem_transfers_program,
    ← UsageTable.exists_index_iff packed (p := fun b => b.variableName = v) found]
  simp [opening, stores, Line.transfer?, or_and_right, exists_or]

theorem mem_transfers_update : (n, v) ∈ (plan.program d .update).transfers ↔
    b.usedIn .update ∧ b.boundName .update = v := by
  rw [mem_transfers_program, ← UsageTable.exists_index_iff packed
    (p := fun b => b.usedIn .update ∧ b.boundName .update = v) found]
  simp only [opening, stores, Blueprint.updateLoads, Blueprint.updateStores, List.mem_append,
    List.mem_map, List.mem_filter]
  constructor
  · rintro ⟨l, ⟨c, ⟨hc, used⟩, rfl⟩ | ⟨c, ⟨hc, writable⟩, rfl⟩, moved⟩
    · cases moved
      exact ⟨c, hc, rfl, used, rfl⟩
    · cases moved
      exact ⟨c, hc, rfl, c.usedIn_of_writableIn writable, by rw [Buffer.boundName, if_pos writable]⟩
  · rintro ⟨c, hc, rfl, used, rfl⟩
    exact ⟨_, .inl ⟨c, ⟨hc, used⟩, rfl⟩, rfl⟩

theorem mem_transfers_output : (n, v) ∈ (plan.program d .output).transfers ↔
    b.usedIn .output ∧ b.variableName = v := by
  rw [mem_transfers_program, ← UsageTable.exists_index_iff packed
    (p := fun b => b.usedIn .output ∧ b.variableName = v) found]
  simp only [opening, stores, Blueprint.outputLoads, Blueprint.outputBuffers, List.append_nil,
    List.mem_map, List.mem_filter]
  constructor
  · rintro ⟨l, ⟨c, ⟨hc, used⟩, rfl⟩, moved⟩
    cases moved
    exact ⟨c, hc, rfl, used, rfl⟩
  · rintro ⟨c, hc, rfl, used, rfl⟩
    exact ⟨_, ⟨c, ⟨hc, used⟩, rfl⟩, rfl⟩

end Packed

theorem name_mem_simulation (hb : b ∈ d.buffers) {f : Field}
    (hf : f ∈ Blueprint.bufferVariables b) :
    f.name ∈ (plan.shader d .update).flatMap (·.globalNames) := by
  have listed : Declaration.globals (d.buffers.flatMap Blueprint.bufferVariables)
      ∈ plan.shader d .update := by
    have some := List.ne_nil_of_mem hb
    simp [shader, Blueprint.simulation, Blueprint.bufferDeclarations, some]
  exact List.mem_flatMap.2
    ⟨_, listed, List.mem_map.2 ⟨f, List.mem_flatMap.2 ⟨b, hb, hf⟩, rfl⟩⟩

theorem variableName_mem_simulation (hb : b ∈ d.buffers) :
    b.variableName ∈ (plan.shader d .update).flatMap (·.globalNames) :=
  name_mem_simulation hb List.mem_cons_self

theorem boundName_mem_simulation (hb : b ∈ d.buffers) (used : b.usedIn .update) :
    b.boundName .update ∈ (plan.shader d .update).flatMap (·.globalNames) := by
  unfold Buffer.boundName
  split
  · exact variableName_mem_simulation hb
  · next readOnly =>
    have listed : ⟨"StructuredBuffer<" ++ b.structName ++ ">", b.readOnlyName⟩
        ∈ Blueprint.bufferVariables b := by
      simp [Blueprint.bufferVariables, used, readOnly]
    exact name_mem_simulation hb listed

theorem variableName_mem_drawing (hb : b ∈ d.buffers) (used : b.usedIn .output) :
    b.variableName ∈ (plan.shader d .output).flatMap (·.globalNames) := by
  have drawn : b ∈ d.outputBuffers := List.mem_filter.2 ⟨hb, used⟩
  have listed : Declaration.globals (d.outputBuffers.map fun b =>
      ⟨"StructuredBuffer<" ++ b.structName ++ ">", b.variableName⟩) ∈ plan.shader d .output := by
    simp [shader, Blueprint.drawing, Blueprint.outputDeclarations]
  refine List.mem_flatMap.2 ⟨_, listed, ?_⟩
  simp only [Declaration.globalNames, List.map_map, List.mem_map, Function.comp_apply]
  exact ⟨b, drawn, rfl⟩

section Packed

variable {t : UsageTable} {limit : Nat} (packed : t.pack limit = .ok d.buffers)
  (found : d.buffers[n]? = some b)

include packed found

/-- Init stores every buffer by the variable for writing, while the layout looks at whether blocks
and generators write it. -/
theorem fits_init_iff (read : b.usage.initRead) :
    b.binding.Fits .init n (plan.shader d .init) (plan.program d .init) ↔ b.writableIn .init := by
  have used : b.usedIn .init := Bool.or_eq_true_iff.2 (.inl read)
  have name : b.binding.name .init = some (b.boundName .init) := if_pos used
  constructor
  · intro fits
    have bound := (fits.transfers b.variableName).1 ((mem_transfers_init packed found).2 rfl)
    rw [name] at bound
    by_contra readOnly
    rw [Buffer.boundName, if_neg readOnly] at bound
    exact b.readOnlyName_ne (Option.some.inj bound)
  · intro writable
    have bound : b.binding.name .init = some b.variableName := by
      rw [name, Buffer.boundName, if_pos writable]
    constructor
    · intro v
      rw [mem_transfers_init packed found, bound, Option.some.injEq]
    · intro v named
      rw [bound] at named
      cases named
      exact variableName_mem_simulation (List.mem_of_getElem? found)

theorem fits_update :
    b.binding.Fits .update n (plan.shader d .update) (plan.program d .update) := by
  have name : b.binding.name .update
      = if b.usedIn .update then some (b.boundName .update) else none := rfl
  constructor
  · intro v
    rw [mem_transfers_update packed found, name]
    simp
  · intro v named
    rw [name] at named
    simp only [Option.ite_none_right_eq_some, Option.some.injEq] at named
    obtain ⟨used, rfl⟩ := named
    exact boundName_mem_simulation (List.mem_of_getElem? found) used

theorem fits_output :
    b.binding.Fits .output n (plan.shader d .output) (plan.program d .output) := by
  have name : b.binding.name .output
      = if b.usedIn .output then some b.variableName else none := rfl
  constructor
  · intro v
    rw [mem_transfers_output packed found, name]
    simp
  · intro v named
    rw [name] at named
    simp only [Option.ite_none_right_eq_some, Option.some.injEq] at named
    obtain ⟨used, rfl⟩ := named
    exact variableName_mem_drawing (List.mem_of_getElem? found) used

theorem fits_iff (read : b.usage.initRead) :
    b.binding.Fits stage n (plan.shader d stage) (plan.program d stage) ↔
      (stage = .init → b.writableIn .init) := by
  cases stage with
  | init => simp [fits_init_iff packed found read]
  | update => simp [fits_update packed found]
  | output => simp [fits_output packed found]

end Packed

end Plan

namespace Compilation

variable {system : ParticleSystem} {library : Library} {params : ParamTable} {options : Options}
  (s : Compilation system library params options)

theorem initRead_of_mem {b : Buffer} (hb : b ∈ s.buffers) : b.usage.initRead := by
  obtain ⟨a, ha⟩ := UsageTable.exists_mem_buffer s.packed hb
  rw [s.usage_eq hb ha]
  rfl

end Compilation

/-- The layout of a compiled system has the variable that each program knows a buffer by, but for
buffers that init does not write by itself: it stores them all the same. -/
theorem ParticleSystem.compile_bindings {system : ParticleSystem} {library : Library}
    {params : ParamTable} {options : Options} {bake : Bake} {c : Compiled}
    (h : (system.compile library params options bake).result = .ok c) :
    ∃ plan, Plan.ofSystem system library params = .ok plan ∧
      c = plan.compiled system c.blueprint ∧
      c.layout.buffers.length = c.blueprint.buffers.length ∧
      ∀ n (b : Buffer), c.blueprint.buffers[n]? = some b →
        ∃ binding : BufferBinding, c.layout.buffers[n]? = some binding ∧ ∀ stage,
          plan.program c.blueprint stage ∈ plan.shader c.blueprint stage ∧
          (binding.Fits stage n (plan.shader c.blueprint stage) (plan.program c.blueprint stage) ↔
            (stage = .init → b.writableIn .init)) := by
  obtain ⟨s, rfl⟩ := Compilation.result_eq_ok_iff.1 h
  refine ⟨s.plan, s.planned, rfl, by simp [Compilation.compiled, Plan.compiled,
    Blueprint.hostLayout], fun n b found => ?_⟩
  refine ⟨b.binding, ?_, fun stage => ⟨s.plan.program_mem_shader _ stage, ?_⟩⟩
  · exact List.getElem?_map.trans (congrArg (·.map Buffer.binding) found)
  · exact Plan.fits_iff s.packed found (s.initRead_of_mem (List.mem_of_getElem? found))

def embers : ParticleSystem where
  version := "1"
  metadata := { name := "Embers" }
  id := "embers"
  contexts := [
    { id := "birth", stage := .init,
      blocks := [
        { id := "place", type := "Place", descriptor := some
            { attributes := [⟨"position", .float3, true⟩], source := ["position = 0.0;"] } },
        { id := "look", type := "Look", descriptor := some
            { attributes := [⟨"heat", .float, false⟩] } }] },
    { id := "life", stage := .update },
    { id := "drawing", stage := .output }]

theorem embers_bindings : ∃ c, (embers.compile ∅ ∅ (.ofSystem embers) .empty).result = .ok c ∧
    ∃ plan, Plan.ofSystem embers ∅ ∅ = .ok plan ∧ c = plan.compiled embers c.blueprint ∧
      c.layout.buffers.length = c.blueprint.buffers.length ∧
      ∀ n (b : Buffer), c.blueprint.buffers[n]? = some b →
        ∃ binding : BufferBinding, c.layout.buffers[n]? = some binding ∧ ∀ stage,
          plan.program c.blueprint stage ∈ plan.shader c.blueprint stage ∧
          (binding.Fits stage n (plan.shader c.blueprint stage) (plan.program c.blueprint stage) ↔
            (stage = .init → b.writableIn .init)) := by
  have compiled : (embers.compile ∅ ∅ (.ofSystem embers) .empty).result.toOption.map
      (·.blueprint.buffers.length) = some 2 := by
    decide +kernel
  obtain ⟨c, h, -⟩ := exists_of_toOption compiled
  exact ⟨c, h, ParticleSystem.compile_bindings h⟩

theorem embers_misbound : ∃ c, (embers.compile ∅ ∅ (.ofSystem embers) .empty).result = .ok c ∧
    ∃ plan, Plan.ofSystem embers ∅ ∅ = .ok plan ∧ c = plan.compiled embers c.blueprint ∧
      ∃ binding, c.layout.buffers[1]? = some binding ∧ binding.init = some "attribBuffer1_RO" ∧
        (1, "attribBuffer1") ∈ (plan.program c.blueprint .init).transfers ∧
        ¬ binding.Fits .init 1 (plan.shader c.blueprint .init)
          (plan.program c.blueprint .init) := by
  have compiled : (embers.compile ∅ ∅ (.ofSystem embers) .empty).result.toOption.map
      (fun c => (c.layout.buffers.map (·.init), c.blueprint.buffers.map (·.index)))
        = some ([some "attribBuffer0", some "attribBuffer1_RO"], [0, 1]) := by
    decide +kernel
  obtain ⟨c, h, same⟩ := exists_of_toOption compiled
  obtain ⟨s, rfl⟩ := Compilation.result_eq_ok_iff.1 h
  obtain ⟨inits, indices⟩ := Prod.mk.inj same
  have bound := congrArg (·[1]?) inits
  have numbered := congrArg (·[1]?) indices
  simp only [List.getElem?_map, Option.map_eq_some_iff, List.getElem?_cons_succ,
    List.getElem?_cons_zero] at bound numbered
  obtain ⟨binding, at1, bound⟩ := bound
  obtain ⟨b, found, index⟩ := numbered
  have stored : (1, "attribBuffer1") ∈ (s.plan.program s.compiled.blueprint .init).transfers := by
    apply (Plan.mem_transfers_init s.packed found).2
    rw [Buffer.variableName, index]
    rfl
  refine ⟨s.compiled, h, s.plan, s.planned, rfl, binding, at1, bound, stored, fun fits => ?_⟩
  have named := (fits.transfers _).1 stored
  rw [show binding.name .init = binding.init from rfl, bound, Option.some.injEq] at named
  exact absurd named (by decide)

end ParticleShaders
