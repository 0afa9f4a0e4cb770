import ParticleShaders.Proofs.Param.Resolution
import ParticleShaders.Proofs.Renaming.Basic

namespace ParticleShaders

namespace Rejection

def rename (ρ : String → String) : Rejection → Rejection
  | unknownParam block property param => unknownParam block property (ρ param)
  | paramType block property param expected found =>
    paramType block property (ρ param) expected found
  | outputSignal param type => outputSignal (ρ param) type
  | missingValue param => missingValue (ρ param)
  | e => e

@[simp] theorem rename_id (e : Rejection) : e.rename (fun s => s) = e := by
  cases e <;> rfl

end Rejection

def renameResult {α β : Type} (ρ : String → String) (g : α → β) :
    Except Rejection α → Except Rejection β
  | .ok a => .ok (g a)
  | .error e => .error (e.rename ρ)

section Steps

variable {α β γ δ : Type} {ρ : String → String}

@[simp] theorem renameResult_ok {g : α → β} {a : α} : renameResult ρ g (.ok a) = .ok (g a) := rfl

@[simp] theorem renameResult_id (x : Except Rejection α) :
    renameResult (fun s => s) (fun a => a) x = x := by
  cases x <;> simp [renameResult]

theorem renameResult_bind {g : α → β} {g' : γ → δ} {x : Except Rejection α}
    {k : α → Except Rejection γ} {k' : β → Except Rejection δ}
    (h : ∀ a, k' (g a) = renameResult ρ g' (k a)) :
    (renameResult ρ g x >>= k') = renameResult ρ g' (x >>= k) := by
  cases x with
  | ok a => exact h a
  | error e => rfl

theorem renameResult_map {g : α → β} {g' : γ → δ} {x : Except Rejection α} {k : α → γ} {k' : β → δ}
    (h : ∀ a, k' (g a) = g' (k a)) :
    (renameResult ρ g x).map k' = renameResult ρ g' (x.map k) := by
  cases x with
  | ok a => exact congrArg Except.ok (h a)
  | error e => rfl

theorem mapM_rename {r : α → γ} {g : β → δ} {f : α → Except Rejection β}
    {f' : γ → Except Rejection δ} {xs : List α}
    (h : ∀ x ∈ xs, f' (r x) = renameResult ρ g (f x)) :
    (xs.map r).mapM f' = renameResult ρ (List.map g) (xs.mapM f) := by
  induction xs with
  | nil => rfl
  | cons x rest ih =>
    rw [List.map_cons, List.mapM_cons, List.mapM_cons, h x List.mem_cons_self,
      ih fun y hy => h y (List.mem_cons_of_mem _ hy)]
    exact renameResult_bind fun y => renameResult_bind fun ys => rfl

theorem foldlM_rename {r : α → γ} {g : β → δ} {f : β → α → Except Rejection β}
    {f' : δ → γ → Except Rejection δ} {xs : List α} (s : β)
    (h : ∀ s, ∀ x ∈ xs, f' (g s) (r x) = renameResult ρ g (f s x)) :
    (xs.map r).foldlM f' (g s) = renameResult ρ g (xs.foldlM f s) := by
  induction xs generalizing s with
  | nil => rfl
  | cons x rest ih =>
    rw [List.map_cons, List.foldlM_cons, List.foldlM_cons, h s x List.mem_cons_self]
    exact renameResult_bind fun t => ih t fun s y hy => h s y (List.mem_cons_of_mem _ hy)

end Steps

def Binding.paramIds : Binding → List String
  | .param id => [id]
  | .expr _ => []

def Block.paramIds (b : Block) : List String := b.slots.entries.flatMap (·.2.paramIds)

def Settings.paramIds (settings : Settings) (key : String) : List String :=
  match settings.binding? key with
  | .ok (some b) => b.paramIds
  | _ => []

def Context.paramIds (c : Context) : List String :=
  c.stage.bindingKey?.toList.flatMap (Settings.paramIds c.settings)
    ++ c.blocks.flatMap (·.paramIds)

def ParticleSystem.paramIds (system : ParticleSystem) : List String :=
  system.contexts.flatMap (·.paramIds)

def ParamTable.RenamedOn (ρ : String → String) (params other : ParamTable) (ids : List String) :
    Prop :=
  ∀ id ∈ ids, other.param? (ρ id) = (params.param? id).map (·.rename ρ)

theorem ParamTable.RenamedOn.mono {ρ : String → String} {params other : ParamTable}
    {ids more : List String} (h : params.RenamedOn ρ other more) (within : ids ⊆ more) :
    params.RenamedOn ρ other ids :=
  fun id hid => h id (within hid)

def Argument.rename (ρ : String → String) : Argument → Argument
  | .param p => .param (p.rename ρ)
  | .expr source => .expr source

@[simp] theorem Argument.rename_id (a : Argument) : a.rename (fun s => s) = a := by
  cases a <;> rfl

namespace BoundBlock

def rename (ρ : String → String) (b : BoundBlock) : BoundBlock :=
  { b with arguments := b.arguments.map (·.rename ρ) }

@[simp] theorem rename_id (b : BoundBlock) : b.rename (fun s => s) = b := by
  simp [rename]

end BoundBlock

namespace InitGenerator

def rename (ρ : String → String) (g : InitGenerator) : InitGenerator :=
  ⟨g.lifetime.map (·.rename ρ)⟩

@[simp] theorem rename_id (g : InitGenerator) : g.rename (fun s => s) = g := by
  simp [rename]

end InitGenerator

namespace OutputGenerator

def rename (ρ : String → String) (g : OutputGenerator) : OutputGenerator :=
  { g with texture := g.texture.map (·.rename ρ) }

@[simp] theorem rename_id (g : OutputGenerator) : g.rename (fun s => s) = g := by
  simp [rename]

end OutputGenerator

section Binding

variable {ρ : String → String} {params other : ParamTable}

theorem Binding.resolve_rename {b : Binding} (h : params.RenamedOn ρ other b.paramIds)
    (owner property : String) (expected : ValueType) :
    (b.rename ρ).resolve other owner property expected
      = renameResult ρ (·.rename ρ) (b.resolve params owner property expected) := by
  cases b with
  | expr source => rfl
  | param id =>
    simp only [rename, resolve, h id (List.mem_singleton_self id)]
    cases params.param? id with
    | none => rfl
    | some p =>
      simp only [Option.map_some, Param.rename]
      split <;> rfl

theorem Block.argument_rename {b : Block} (h : params.RenamedOn ρ other b.paramIds)
    (p : PropertyDecl) : (b.rename ρ).argument other p
      = renameResult ρ (·.rename ρ) (b.argument params p) := by
  simp only [argument, rename, Dict.find?_mapValues]
  cases found : b.slots.find? p.name with
  | none => cases p.fallback <;> rfl
  | some binding =>
    obtain ⟨before, after, split, -⟩ := List.lookup_eq_some_iff.1 found
    refine Binding.resolve_rename (h.mono fun id hid => ?_) b.id p.name p.type
    rw [paramIds, split]
    simp [hid]

theorem Block.bind_rename {b : Block} (h : params.RenamedOn ρ other b.paramIds) (library : Library)
    (stage : Stage) : (b.rename ρ).bind library other stage
      = renameResult ρ (·.rename ρ) (b.bind library params stage) := by
  have described : (b.rename ρ).describe? library = b.describe? library := rfl
  unfold bind
  rw [described]
  cases b.describe? library with
  | none => rfl
  | some d =>
    have checked : d.check b.id = renameResult ρ (fun u => u) (d.check b.id) := by
      unfold Descriptor.check
      split
      · rfl
      · split <;> rfl
    have each : ∀ p ∈ d.properties, (b.rename ρ).argument other p
        = renameResult ρ (·.rename ρ) (b.argument params p) := fun p _ => argument_rename h p
    have bound := mapM_rename (r := fun p => p) each
    rw [List.map_id'] at bound
    show (d.check b.id >>= fun _ => _) = _
    rw [checked]
    refine renameResult_bind fun _ => ?_
    show (d.properties.mapM ((b.rename ρ).argument other) >>= _) = _
    rw [bound]
    refine renameResult_bind fun arguments => ?_
    split <;> rfl

end Binding

section Generators

variable {ρ : String → String} {params other : ParamTable} {settings : Settings}

theorem Settings.renamedOn {key : String} {b : Binding}
    (h : params.RenamedOn ρ other (Settings.paramIds settings key))
    (bound : settings.binding? key = .ok (some b)) : params.RenamedOn ρ other b.paramIds := by
  rw [paramIds, bound] at h
  exact h

theorem InitGenerator.ofSettings_rename
    (h : params.RenamedOn ρ other (Settings.paramIds settings "lifetime")) :
    ofSettings (settings.rename ρ .init) other
      = renameResult ρ (·.rename ρ) (ofSettings settings params) := by
  have binding : (settings.rename ρ .init).binding? "lifetime" = _ := Settings.binding?_rename rfl
  unfold ofSettings
  rw [binding]
  cases bound : settings.binding? "lifetime" with
  | error e => rfl
  | ok setting =>
    cases setting with
    | none => rfl
    | some b =>
      show ((b.rename ρ).resolve other "init" "lifetime" .float).map _ = _
      rw [Binding.resolve_rename (Settings.renamedOn h bound)]
      exact renameResult_map fun _ => rfl

theorem OutputGenerator.texture?_rename
    (h : params.RenamedOn ρ other (Settings.paramIds settings "texture")) :
    texture? (settings.rename ρ .output) other
      = renameResult ρ (Option.map (·.rename ρ)) (texture? settings params) := by
  have binding : (settings.rename ρ .output).binding? "texture" = _ := Settings.binding?_rename rfl
  unfold texture?
  rw [binding]
  cases bound : settings.binding? "texture" with
  | error e => rfl
  | ok setting =>
    cases setting with
    | none => rfl
    | some b =>
      show ((b.rename ρ).resolve other "output" "texture" .texture2D >>= _) = _
      rw [Binding.resolve_rename (Settings.renamedOn h bound)]
      refine renameResult_bind fun a => ?_
      cases a <;> rfl

theorem OutputGenerator.ofSettings_rename
    (h : params.RenamedOn ρ other (Settings.paramIds settings "texture")) :
    ofSettings (settings.rename ρ .output) other
      = renameResult ρ (·.rename ρ) (ofSettings settings params) := by
  have name : (settings.rename ρ .output).string? "kind" = settings.string? "kind" := by
    rw [Settings.string?, Settings.find?_rename (by decide)]
    rfl
  have kind : kind? (settings.rename ρ .output) = renameResult ρ (fun k => k) (kind? settings) := by
    unfold kind?
    rw [name]
    dsimp only
    cases OutputKind.ofName? ((settings.string? "kind").getD "point") <;> rfl
  have size : (settings.rename ρ .output).single? "size" = settings.single? "size" := by
    rw [Settings.single?, Settings.find?_rename (by decide)]
    rfl
  unfold ofSettings
  rw [kind, size, texture?_rename h]
  exact renameResult_bind fun kind => renameResult_bind fun texture => rfl

end Generators

namespace Plan

def Found.rename (ρ : String → String) (found : Found) : Found where
  init := found.init.map (·.rename ρ)
  update := found.update
  output := found.output.map (·.rename ρ)

def rename (ρ : String → String) (plan : Plan) : Plan :=
  { plan with
    initBlocks := plan.initBlocks.map (·.rename ρ)
    updateBlocks := plan.updateBlocks.map (·.rename ρ)
    outputBlocks := plan.outputBlocks.map (·.rename ρ)
    init := plan.init.rename ρ
    output := plan.output.rename ρ }

@[simp] theorem rename_id (plan : Plan) : plan.rename (fun s => s) = plan := by
  simp [rename]

variable {ρ : String → String} {params other : ParamTable} {system : ParticleSystem}

theorem settle_rename {c : Context} (h : params.RenamedOn ρ other c.paramIds) (found : Found) :
    settle other (found.rename ρ) (c.rename ρ)
      = renameResult ρ (·.rename ρ) (settle params found c) := by
  obtain ⟨id, stage, settings, blocks⟩ := c
  cases stage with
  | init =>
    show (InitGenerator.ofSettings (Settings.rename ρ .init settings) other).map _ = _
    rw [InitGenerator.ofSettings_rename (h.mono (by simp [Context.paramIds, Stage.bindingKey?]))]
    exact renameResult_map fun _ => rfl
  | update =>
    show Except.ok _ = _
    rw [Context.rename, Settings.rename_update]
    rfl
  | output =>
    show (OutputGenerator.ofSettings (Settings.rename ρ .output settings) other).map _ = _
    rw [OutputGenerator.ofSettings_rename (h.mono (by simp [Context.paramIds, Stage.bindingKey?]))]
    exact renameResult_map fun _ => rfl

theorem stagedBlocks_rename (contexts : List Context) : stagedBlocks (contexts.map (·.rename ρ))
    = (stagedBlocks contexts).map fun b => (b.1, b.2.rename ρ) := by
  simp only [stagedBlocks, List.flatMap_map, List.map_flatMap, Context.rename, List.map_map]
  rfl

theorem blocksOf_rename (stage : Stage) (blocks : List (Stage × BoundBlock)) :
    blocksOf stage (blocks.map fun b => (b.1, b.2.rename ρ))
      = (blocksOf stage blocks).map (·.rename ρ) := by
  simp only [blocksOf, List.filter_map, List.map_map]
  rfl

theorem anyNeeds_rename (c : Capability) (blocks : List BoundBlock) :
    anyNeeds c (blocks.map (·.rename ρ)) = anyNeeds c blocks := by
  rw [anyNeeds, List.any_map]
  rfl

theorem orMissing_rename {α β : Type} {stage : Stage} {g : α → β} (found : Option α) :
    orMissing stage (found.map g) = renameResult ρ g (orMissing stage found) := by
  cases found <;> rfl

theorem ofSystem_rename (h : params.RenamedOn ρ other system.paramIds) (library : Library) :
    ofSystem (system.rename ρ) library other
      = renameResult ρ (·.rename ρ) (ofSystem system library params) := by
  have each (c : Context) (hc : c ∈ system.contexts) : params.RenamedOn ρ other c.paramIds :=
    h.mono fun id hid => List.mem_flatMap.2 ⟨c, hc, hid⟩
  have settled : (system.contexts.map (·.rename ρ)).foldlM (settle other) {}
      = renameResult ρ (·.rename ρ) (system.contexts.foldlM (settle params) {}) :=
    foldlM_rename (g := (·.rename ρ)) {} fun found c hc => settle_rename (each c hc) found
  have bound : (stagedBlocks (system.contexts.map (·.rename ρ))).mapM (bindStaged library other)
      = renameResult ρ (List.map fun b => (b.1, b.2.rename ρ))
        ((stagedBlocks system.contexts).mapM (bindStaged library params)) := by
    rw [stagedBlocks_rename]
    refine mapM_rename fun b hb => ?_
    obtain ⟨c, hc, mem⟩ := List.mem_flatMap.1 hb
    obtain ⟨block, within, rfl⟩ := List.mem_map.1 mem
    have known : params.RenamedOn ρ other block.paramIds := (each c hc).mono fun id hid =>
      List.mem_append_right _ (List.mem_flatMap.2 ⟨block, within, hid⟩)
    show ((block.rename ρ).bind library other c.stage).map _ = _
    rw [Block.bind_rename known]
    exact renameResult_map fun _ => rfl
  unfold ofSystem
  rw [ParticleSystem.rename, settled]
  refine renameResult_bind fun found => ?_
  simp only [Found.rename, bound]
  rw [orMissing_rename]
  refine renameResult_bind fun init => ?_
  have update : orMissing .update found.update
      = renameResult ρ (fun g => g) (orMissing .update found.update) := by
    cases found.update <;> rfl
  conv_lhs => rw [update]
  refine renameResult_bind fun update => ?_
  rw [orMissing_rename]
  refine renameResult_bind fun output => ?_
  refine renameResult_bind fun blocks => ?_
  simp only [blocksOf_rename, anyNeeds_rename, List.isEmpty_map]
  split <;> rfl

end Plan

end ParticleShaders
