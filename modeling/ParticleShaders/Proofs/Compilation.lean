import Mathlib.Data.List.Forall2
import ParticleShaders.Compile
/-! Compilations that succeed. A chain of steps that ends well has had each of its steps end well;
what a step promises of its result holds from there on. -/

namespace ParticleShaders

section Chains

variable {ε α β : Type}

theorem bind_eq_ok_iff {x : Except ε α} {f : α → Except ε β} {b : β} :
    (x >>= f) = .ok b ↔ ∃ a, x = .ok a ∧ f a = .ok b := by
  cases x with
  | error e => simp [bind, Except.bind]
  | ok a => simp [bind, Except.bind]

theorem map_eq_ok_iff {x : Except ε α} {f : α → β} {b : β} :
    x.map f = .ok b ↔ ∃ a, x = .ok a ∧ f a = b := by
  cases x with
  | error e => simp [Except.map]
  | ok a => simp [Except.map]

theorem bind_eq_error_iff {x : Except ε α} {f : α → Except ε β} {e : ε} :
    (x >>= f) = .error e ↔ x = .error e ∨ ∃ a, x = .ok a ∧ f a = .error e := by
  cases x with
  | error e => simp [bind, Except.bind]
  | ok a => simp [bind, Except.bind]

theorem map_eq_error_iff {x : Except ε α} {f : α → β} {e : ε} :
    x.map f = .error e ↔ x = .error e := by
  cases x with
  | error e => simp [Except.map]
  | ok a => simp [Except.map]

theorem forall₂_of_mapM_eq_ok {f : α → Except ε β} :
    ∀ {xs : List α} {ys : List β}, xs.mapM f = .ok ys → List.Forall₂ (f · = .ok ·) xs ys
  | [], ys, h => by
    cases h
    exact .nil
  | x :: xs, ys, h => by
    rw [List.mapM_cons] at h
    obtain ⟨y, hy, h⟩ := bind_eq_ok_iff.1 h
    obtain ⟨zs, hzs, h⟩ := bind_eq_ok_iff.1 h
    cases h
    exact .cons hy (forall₂_of_mapM_eq_ok hzs)

theorem exists_of_getElem?_forall₂ {R : α → β → Prop} {xs : List α} {ys : List β} {i : Nat} {y : β}
    (h : List.Forall₂ R xs ys) (hy : ys[i]? = some y) : ∃ x, xs[i]? = some x ∧ R x y := by
  obtain ⟨bound, rfl⟩ := List.getElem?_eq_some_iff.1 hy
  have within : i < xs.length := h.length_eq ▸ bound
  exact ⟨xs[i], List.getElem?_eq_getElem within, h.get within bound⟩

theorem exists_of_mem_forall₂ {R : α → β → Prop} {xs : List α} {ys : List β} {y : β}
    (h : List.Forall₂ R xs ys) (hy : y ∈ ys) : ∃ x ∈ xs, R x y := by
  obtain ⟨i, hi⟩ := List.mem_iff_getElem?.1 hy
  obtain ⟨x, hx, related⟩ := exists_of_getElem?_forall₂ h hi
  exact ⟨x, List.mem_of_getElem? hx, related⟩

theorem exists_of_mem_mapM {f : α → Except ε β} {xs : List α} {ys : List β} {y : β}
    (h : xs.mapM f = .ok ys) (hy : y ∈ ys) : ∃ x ∈ xs, f x = .ok y :=
  exists_of_mem_forall₂ (R := (f · = .ok ·)) (forall₂_of_mapM_eq_ok h) hy

theorem exists_mapM_eq_ok {f : α → Except ε β} {R : α → β → Prop} :
    ∀ {xs : List α}, (∀ x ∈ xs, ∃ y, f x = .ok y ∧ R x y) →
      ∃ ys, xs.mapM f = .ok ys ∧ List.Forall₂ R xs ys
  | [], _ => ⟨[], rfl, .nil⟩
  | x :: xs, h => by
    obtain ⟨y, hy, related⟩ := h x List.mem_cons_self
    obtain ⟨ys, hys, rest⟩ := exists_mapM_eq_ok fun z hz => h z (List.mem_cons_of_mem _ hz)
    refine ⟨y :: ys, ?_, .cons related rest⟩
    rw [List.mapM_cons, hy, hys]
    rfl

theorem mapM_eq_error {f : α → Except ε β} {before after : List α} {x : α} {e : ε}
    (fine : ∀ y ∈ before, ∃ z, f y = .ok z) (h : f x = .error e) :
    (before ++ x :: after).mapM f = .error e := by
  obtain ⟨zs, hzs, -⟩ := exists_mapM_eq_ok (R := fun _ _ => True) fun y hy =>
    (fine y hy).imp fun _ hz => ⟨hz, trivial⟩
  rw [List.mapM_append, hzs, List.mapM_cons, h]
  rfl

theorem exists_of_toOption {x : Except ε α} {f : α → β} {b : β} (h : x.toOption.map f = some b) :
    ∃ a, x = .ok a ∧ f a = b := by
  cases x with
  | error e => cases h
  | ok a => exact ⟨a, rfl, Option.some.inj h⟩

end Chains

theorem Block.bind_eq_ok {library : Library} {params : ParamTable} {stage : Stage} {b : Block}
    {bound : BoundBlock} (h : b.bind library params stage = .ok bound) :
    b.describe? library = some bound.descriptor ∧
      bound.function = bound.descriptor.function b.type ∧
      bound.descriptor.properties.mapM (b.argument params) = .ok bound.arguments ∧
      misplaced? stage bound.descriptor = none := by
  unfold Block.bind at h
  split at h
  · cases h
  · next d described =>
    obtain ⟨-, -, h⟩ := bind_eq_ok_iff.1 h
    obtain ⟨arguments, bindings, h⟩ := bind_eq_ok_iff.1 h
    split at h
    · cases h
    · next placed =>
      cases h
      exact ⟨described, rfl, bindings, placed⟩

namespace Plan

def blocks (plan : Plan) : Stage → List BoundBlock
  | .init => plan.initBlocks
  | .update => plan.updateBlocks
  | .output => plan.outputBlocks

structure Sound (plan : Plan) : Prop where
  arguments : ∀ stage, ∀ b ∈ plan.blocks stage,
    b.arguments.length = b.descriptor.properties.length
  placed : ∀ stage, ∀ b ∈ plan.blocks stage, Block.misplaced? stage b.descriptor = none
  demands : plan.demands =
    { initRand := anyNeeds .rand plan.initBlocks
      updateRand := anyNeeds .rand plan.updateBlocks
      updateKill := anyNeeds .kill plan.updateBlocks }

theorem bound_of_mem_blocksOf {library : Library} {params : ParamTable}
    {staged : List (Stage × Block)} {found : List (Stage × BoundBlock)} {stage : Stage}
    {b : BoundBlock} (h : staged.mapM (bindStaged library params) = .ok found)
    (hb : b ∈ blocksOf stage found) : ∃ block, (stage, block) ∈ staged ∧
      block.bind library params stage = .ok b := by
  simp only [blocksOf, List.mem_map, List.mem_filter, decide_eq_true_eq] at hb
  obtain ⟨⟨_, _⟩, ⟨mem, rfl⟩, rfl⟩ := hb
  obtain ⟨⟨_, block⟩, given, h⟩ := exists_of_mem_mapM h mem
  obtain ⟨_, h, same⟩ := map_eq_ok_iff.1 h
  cases same
  exact ⟨block, given, h⟩

theorem orMissing_eq_ok {α : Type} {stage : Stage} {found : Option α} {g : α}
    (h : orMissing stage found = .ok g) : found = some g := by
  cases found with
  | none => cases h
  | some g =>
    cases h
    rfl

structure Planning (system : ParticleSystem) (library : Library) (params : ParamTable)
    (plan : Plan) where
  found : Found
  bound : List (Stage × BoundBlock)
  settled : system.contexts.foldlM (settle params) {} = .ok found
  init : found.init = some plan.init
  update : found.update = some plan.update
  output : found.output = some plan.output
  bindings : (stagedBlocks system.contexts).mapM (bindStaged library params) = .ok bound
  blocks : ∀ stage, plan.blocks stage = blocksOf stage bound
  demands : plan.demands =
    { initRand := anyNeeds .rand plan.initBlocks
      updateRand := anyNeeds .rand plan.updateBlocks
      updateKill := anyNeeds .kill plan.updateBlocks }
  inhabited : ¬ (plan.initBlocks = [] ∧ plan.updateBlocks = [])

theorem exists_planning {system : ParticleSystem} {library : Library} {params : ParamTable}
    {plan : Plan} (h : ofSystem system library params = .ok plan) :
    Nonempty (Planning system library params plan) := by
  unfold ofSystem at h
  obtain ⟨found, settled, h⟩ := bind_eq_ok_iff.1 h
  obtain ⟨_, init, h⟩ := bind_eq_ok_iff.1 h
  obtain ⟨_, update, h⟩ := bind_eq_ok_iff.1 h
  obtain ⟨_, output, h⟩ := bind_eq_ok_iff.1 h
  obtain ⟨bound, bindings, h⟩ := bind_eq_ok_iff.1 h
  dsimp only at h
  split at h
  · cases h
  · next inhabited =>
    cases h
    refine ⟨⟨found, bound, settled, orMissing_eq_ok init, orMissing_eq_ok update,
      orMissing_eq_ok output, bindings, fun stage => ?_, rfl, ?_⟩⟩
    · cases stage <;> rfl
    · simpa using inhabited

theorem bake_eq (plan : Plan) (params : ParamTable) (before : Bake) :
    plan.bake params before = plan.bake params .empty := rfl

theorem sound_of_ofSystem {system : ParticleSystem} {library : Library} {params : ParamTable}
    {plan : Plan} (h : ofSystem system library params = .ok plan) : plan.Sound := by
  obtain ⟨s⟩ := exists_planning h
  refine ⟨fun stage b hb => ?_, fun stage b hb => ?_, s.demands⟩
  · rw [s.blocks] at hb
    obtain ⟨_, -, bound⟩ := bound_of_mem_blocksOf s.bindings hb
    exact (forall₂_of_mapM_eq_ok (Block.bind_eq_ok bound).2.2.1).length_eq.symm
  · rw [s.blocks] at hb
    obtain ⟨_, -, bound⟩ := bound_of_mem_blocksOf s.bindings hb
    exact (Block.bind_eq_ok bound).2.2.2

end Plan

/-- A compilation that succeeds, with what each of its steps makes. -/
structure Compilation (system : ParticleSystem) (library : Library) (params : ParamTable)
    (options : Options) where
  plan : Plan
  table : UsageTable
  demands : Demands
  ruled : UsageTable.Ruled
  buffers : List Buffer
  baked : Bake
  planned : Plan.ofSystem system library params = .ok plan
  used : plan.usages = .ok (table, demands)
  settled : table.applyRules demands options.phaseShift = .ok ruled
  laidOut : ParticleSystem.layOut ruled.table options.bufferLimit = .ok buffers
  signals : plan.bake params .empty = (baked, .ok ())

namespace Compilation

variable {system : ParticleSystem} {library : Library} {params : ParamTable} {options : Options}

section

variable (s : Compilation system library params options)

def blueprint : Blueprint := s.plan.blueprint s.ruled s.buffers options.phaseShift s.baked

def compiled : Compiled := s.plan.compiled system s.blueprint

theorem sound : s.plan.Sound := Plan.sound_of_ofSystem s.planned

theorem named : s.ruled.table.checkNames = .ok () := by
  obtain ⟨_, named, _⟩ := bind_eq_ok_iff.1 s.laidOut
  exact named

theorem packed : s.ruled.table.pack options.bufferLimit = .ok s.buffers := by
  obtain ⟨_, _, packed⟩ := bind_eq_ok_iff.1 s.laidOut
  exact packed

theorem compile_eq (before : Bake) : system.compile library params options before =
    { result := .ok s.compiled
      diagnostics := s.ruled.defaulted.map .uninitialized
        ++ Diagnostic.ofBuffers s.ruled.table s.buffers ++ Diagnostic.ofPlan s.plan
      options
      bake := s.baked } := by
  simp only [ParticleSystem.compile, s.planned, s.used, s.settled, s.laidOut,
    ParticleSystem.finish]
  rw [Plan.bake_eq, s.signals]
  rfl

end

theorem result_eq_ok_iff {bake : Bake} {c : Compiled} :
    (system.compile library params options bake).result = .ok c ↔
      ∃ s : Compilation system library params options, s.compiled = c := by
  constructor
  · intro h
    unfold ParticleSystem.compile at h
    split at h
    · cases h
    · next plan planned =>
      split at h
      · cases h
      · next table demands used =>
        split at h
        · cases h
        · next ruled settled =>
          dsimp only at h
          split at h
          · cases h
          · next buffers laidOut =>
            unfold ParticleSystem.finish at h
            split at h
            · cases h
            · next baked signals =>
              cases h
              exact ⟨⟨plan, table, demands, ruled, buffers, baked, planned, used, settled,
                laidOut, signals⟩, rfl⟩
  · rintro ⟨s, rfl⟩
    rw [s.compile_eq]

end Compilation

end ParticleShaders
