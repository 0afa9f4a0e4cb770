import ParticleShaders.Proofs.Plan.Gathering

namespace ParticleShaders

/-- A step that finds these faults fails with the first of them, and only with one. -/
def Reports {ε α : Type} (x : Except ε α) (faults : List ε) : Prop :=
  match x with
  | .ok _ => faults = []
  | .error e => faults.head? = some e

namespace Reports

variable {ε α β σ : Type} {x : Except ε α} {fs gs : List ε}

theorem ok (a : α) : Reports (.ok a : Except ε α) [] := rfl

theorem error (e : ε) (rest : List ε) : Reports (.error e : Except ε α) (e :: rest) := rfl

theorem eq_error_iff (h : Reports x fs) {e : ε} : x = .error e ↔ fs.head? = some e := by
  cases x with
  | ok a =>
    obtain rfl : fs = [] := h
    simp
  | error e' =>
    have first : fs.head? = some e' := h
    simp [first]

theorem exists_eq_ok_iff (h : Reports x fs) : (∃ a, x = .ok a) ↔ fs = [] := by
  cases x with
  | ok a =>
    obtain rfl : fs = [] := h
    simp
  | error e =>
    have first : fs.head? = some e := h
    have some : fs ≠ [] := by
      rintro rfl
      cases first
    simp [some]

theorem append_of_error {e : ε} (h : fs.head? = some e) : (fs ++ gs).head? = some e := by
  rw [List.head?_append, h, Option.some_or]

theorem bind {f : α → Except ε β} (first : Reports x fs)
    (later : ∀ a, x = .ok a → Reports (f a) gs) : Reports (x >>= f) (fs ++ gs) := by
  cases x with
  | ok a =>
    obtain rfl : fs = [] := first
    exact later a rfl
  | error e => exact append_of_error first

theorem map {f : α → β} (h : Reports x fs) : Reports (x.map f) fs := by
  cases x <;> exact h

theorem mapM {f : α → Except ε β} {faults : α → List ε} (step : ∀ a, Reports (f a) (faults a))
    (as : List α) : Reports (as.mapM f) (as.flatMap faults) := by
  induction as with
  | nil => exact .ok []
  | cons a rest ih =>
    rw [List.mapM_cons, List.flatMap_cons]
    refine (step a).bind fun b _ => ?_
    rw [← List.append_nil (rest.flatMap faults)]
    exact ih.bind fun bs _ => .ok (b :: bs)

theorem foldlM {f : σ → α → Except ε σ} {faults : α → List ε}
    (step : ∀ s a, Reports (f s a) (faults a)) (as : List α) (s : σ) :
    Reports (as.foldlM f s) (as.flatMap faults) := by
  induction as generalizing s with
  | nil => exact .ok s
  | cons a rest ih =>
    rw [List.foldlM_cons, List.flatMap_cons]
    exact (step s a).bind fun s' _ => ih s'

theorem find? {items : List β} {bad : β → Bool} {fault : β → ε}
    (one : ∀ b, items.find? bad = some b → x = .error (fault b))
    (none : items.find? bad = none → Reports x gs) :
    Reports x ((items.filter bad).map fault ++ gs) := by
  cases found : items.find? bad with
  | some b =>
    rw [one b found]
    refine append_of_error ?_
    rw [List.head?_map, List.head?_filter, found, Option.map_some]
  | none =>
    have fine : items.filter bad = [] := by
      rw [← List.head?_eq_none_iff, List.head?_filter, found]
    rw [fine]
    exact none found

end Reports

section Blocks

variable (params : ParamTable)

def Binding.faults (owner property : String) (expected : ValueType) : Binding → List Rejection
  | .expr _ => []
  | .param id =>
    match params.find? id with
    | none => [.unknownParam owner property id]
    | some v => if v.type = expected then [] else [.paramType owner property id expected v.type]

theorem Binding.resolve_reports (b : Binding) (owner property : String) (expected : ValueType) :
    Reports (b.resolve params owner property expected)
      (b.faults params owner property expected) := by
  cases b with
  | expr source => exact .ok _
  | param id =>
    simp only [resolve, faults, ParamTable.param?]
    cases params.find? id with
    | none => exact .error _ _
    | some v =>
      simp only [Option.map_some]
      split
      · exact .ok _
      · exact .error _ _

def Descriptor.faults (d : Descriptor) (owner : String) : List Rejection :=
  (d.names.filter (!Text.isIdentifier ·)).map (.invalidName owner)
    ++ (d.attributes.filter (·.type.components?.isNone)).map
      fun a => .unpackableAttribute owner a.name a.type

theorem Descriptor.check_reports (d : Descriptor) (owner : String) :
    Reports (d.check owner) (d.faults owner) := by
  unfold check faults
  refine Reports.find? (fun name found => ?_) fun named => ?_
  · rw [found]
  · rw [named, ← List.append_nil (List.map _ (d.attributes.filter _))]
    refine Reports.find? (fun a found => ?_) fun packable => ?_
    · simp only [found]
    · simp only [packable]
      exact .ok ()

def Stage.bars : Stage → List Capability
  | .init => [.kill]
  | .update => []
  | .output => [.rand, .kill]

namespace Block

theorem misplaced?_eq (stage : Stage) (d : Descriptor) :
    misplaced? stage d = (stage.bars.filter d.needs).head? := by
  cases stage with
  | init => by_cases kill : d.needs .kill <;> simp [misplaced?, Stage.bars, kill]
  | update => rfl
  | output =>
    by_cases rand : d.needs .rand <;> by_cases kill : d.needs .kill <;>
      simp [misplaced?, Stage.bars, rand, kill]

def propertyFaults (b : Block) (p : PropertyDecl) : List Rejection :=
  match b.slots.find? p.name with
  | some binding => binding.faults params b.id p.name p.type
  | none => if p.fallback.isNone then [.unboundProperty b.id p.name] else []

theorem argument_reports (b : Block) (p : PropertyDecl) :
    Reports (b.argument params p) (b.propertyFaults params p) := by
  unfold argument propertyFaults
  cases b.slots.find? p.name with
  | some binding => exact binding.resolve_reports params b.id p.name p.type
  | none =>
    cases p.fallback with
    | some source => exact .ok _
    | none => exact .error _ _

variable (library : Library)

def faults (b : Block) (stage : Stage) : List Rejection :=
  match b.describe? library with
  | none => [.unknownBlock b.id b.type]
  | some d =>
    d.faults b.id ++ d.properties.flatMap (b.propertyFaults params)
      ++ (stage.bars.filter d.needs).map (.misplaced b.id · stage)

theorem bind_reports (b : Block) (stage : Stage) :
    Reports (b.bind library params stage) (b.faults params library stage) := by
  unfold Block.bind faults
  cases b.describe? library with
  | none => exact .error _ _
  | some d =>
    dsimp only
    rw [List.append_assoc]
    refine (d.check_reports b.id).bind fun _ _ => ?_
    refine (Reports.mapM (b.argument_reports params) d.properties).bind fun arguments _ => ?_
    rw [misplaced?_eq]
    cases stage.bars.filter d.needs with
    | nil => exact .ok _
    | cons capability rest => exact .error _ _

end Block

end Blocks

section Settings

variable (params : ParamTable)

def Settings.bindingFaults (settings : Settings) (stage : Stage) (key : String)
    (faults : Binding → List Rejection) : List Rejection :=
  match settings.binding? key with
  | .error e => [.badSettings stage e.message]
  | .ok b => b.toList.flatMap faults

def Binding.textureFaults : Binding → List Rejection
  | .expr _ => [.badSettings .output "texture must be bound to a texture2D param"]
  | b => b.faults params "output" "texture" .texture2D

namespace Settings

def lifetimeFaults (settings : Settings) : List Rejection :=
  settings.bindingFaults .init "lifetime" (Binding.faults params "init" "lifetime" .float)

def kindFaults (settings : Settings) : List Rejection :=
  let name := (settings.string? "kind").getD "point"
  if (OutputKind.ofName? name).isSome then []
  else [.badSettings .output ("unknown output kind: " ++ name)]

def textureFaults (settings : Settings) : List Rejection :=
  settings.bindingFaults .output "texture" (Binding.textureFaults params)

end Settings

def Context.settingsFaults (c : Context) : List Rejection :=
  match c.stage with
  | .init => Settings.lifetimeFaults params c.settings
  | .update => []
  | .output => Settings.kindFaults c.settings ++ Settings.textureFaults params c.settings

theorem InitGenerator.ofSettings_reports (settings : Settings) :
    Reports (ofSettings settings params) (settings.lifetimeFaults params) := by
  unfold ofSettings Settings.lifetimeFaults Settings.bindingFaults
  cases settings.binding? "lifetime" with
  | error e => exact .error _ _
  | ok b =>
    cases b with
    | none => exact .ok _
    | some b =>
      dsimp only
      rw [Option.toList_some, List.flatMap_singleton]
      exact (b.resolve_reports params _ _ _).map

namespace OutputGenerator

theorem kind?_reports (settings : Settings) : Reports (kind? settings) settings.kindFaults := by
  unfold kind? Settings.kindFaults
  dsimp only
  cases OutputKind.ofName? ((settings.string? "kind").getD "point") with
  | some kind => exact .ok _
  | none => exact .error _ _

theorem texture?_reports (settings : Settings) :
    Reports (texture? settings params) (settings.textureFaults params) := by
  unfold texture? Settings.textureFaults Settings.bindingFaults
  cases settings.binding? "texture" with
  | error e => exact .error _ _
  | ok b =>
    cases b with
    | none => exact .ok _
    | some b =>
      dsimp only
      rw [Option.toList_some, List.flatMap_singleton]
      cases b with
      | expr source => exact .error _ _
      | param id =>
        rw [← List.append_nil (Binding.textureFaults params (.param id))]
        refine (Binding.resolve_reports params (.param id) _ _ _).bind fun a resolved => ?_
        -- a name is never resolved to an expression
        cases a with
        | param p => exact .ok _
        | expr source =>
          simp only [Binding.resolve] at resolved
          split at resolved
          · cases resolved
          · split at resolved <;> cases resolved

theorem ofSettings_reports (settings : Settings) : Reports (ofSettings settings params)
    (settings.kindFaults ++ settings.textureFaults params) := by
  refine (kind?_reports settings).bind fun kind _ => ?_
  rw [← List.append_nil (settings.textureFaults params)]
  exact (texture?_reports params settings).bind fun texture _ => .ok _

end OutputGenerator

theorem Plan.settle_reports (found : Found) (c : Context) :
    Reports (settle params found c) (c.settingsFaults params) := by
  obtain ⟨id, stage, settings, blocks⟩ := c
  cases stage with
  | init => exact (InitGenerator.ofSettings_reports params settings).map
  | update => exact .ok _
  | output => exact (OutputGenerator.ofSettings_reports params settings).map

end Settings

namespace ParticleSystem

variable (system : ParticleSystem) (library : Library) (params : ParamTable)

def missingStage (stage : Stage) : List Rejection :=
  if system.contextsOf stage = [] then [.missingStage stage] else []

def faults : List Rejection :=
  system.contexts.flatMap (·.settingsFaults params)
    ++ Stage.all.flatMap system.missingStage
    ++ system.contexts.flatMap (fun c => c.blocks.flatMap (·.faults params library c.stage))
    ++ if system.blocksOf .init = [] ∧ system.blocksOf .update = [] then [.empty] else []

end ParticleSystem

namespace Plan

variable {system : ParticleSystem} {library : Library} {params : ParamTable}

theorem orMissing_reports {α : Type} {found : Option α} {stage : Stage}
    (h : found.isSome = (lastSettings? system.contexts stage).isSome) :
    Reports (orMissing stage found) (system.missingStage stage) := by
  have given : (lastSettings? system.contexts stage).isSome = true ↔
      system.contextsOf stage ≠ [] := by
    rw [lastSettings?, Option.isSome_map, List.getLast?_isSome]
    rfl
  unfold ParticleSystem.missingStage
  cases found with
  | some g =>
    rw [if_neg (given.1 h.symm)]
    exact .ok g
  | none =>
    have missing : system.contextsOf stage = [] := by
      by_contra some
      rw [given.2 some] at h
      cases h
    rw [if_pos missing]
    exact .error _ _

theorem blocks_reports : Reports ((stagedBlocks system.contexts).mapM (bindStaged library params))
    (system.contexts.flatMap fun c => c.blocks.flatMap (·.faults params library c.stage)) := by
  have flat : (stagedBlocks system.contexts).flatMap (fun b => b.2.faults params library b.1)
      = system.contexts.flatMap fun c => c.blocks.flatMap (·.faults params library c.stage) := by
    rw [stagedBlocks, List.flatMap_assoc]
    simp only [List.flatMap_map]
  rw [← flat]
  exact Reports.mapM (fun b => (b.2.bind_reports params library b.1).map) _

theorem blocksOf_eq_nil_iff {bound : List (Stage × BoundBlock)}
    (h : (stagedBlocks system.contexts).mapM (bindStaged library params) = .ok bound)
    (stage : Stage) : blocksOf stage bound = [] ↔ system.blocksOf stage = [] := by
  have same := mapM_bind_of_stage h stage
  rw [stagedBlocks_of_stage] at same
  have length := (forall₂_of_mapM_eq_ok same).length_eq
  rw [← List.length_eq_zero_iff, ← List.length_eq_zero_iff, ← length]
  rfl

theorem ofSystem_reports (system : ParticleSystem) (library : Library) (params : ParamTable) :
    Reports (ofSystem system library params) (system.faults library params) := by
  unfold ofSystem ParticleSystem.faults
  rw [List.append_assoc, List.append_assoc]
  refine (Reports.foldlM (settle_reports params) system.contexts {}).bind fun found settled => ?_
  have has := has_of_foldlM settled
  simp only [Stage.all, List.flatMap_cons, List.flatMap_nil, List.append_nil, List.append_assoc]
  refine (orMissing_reports (has .init)).bind fun init _ => ?_
  refine (orMissing_reports (has .update)).bind fun update _ => ?_
  refine (orMissing_reports (has .output)).bind fun output _ => ?_
  refine blocks_reports.bind fun bound bindings => ?_
  simp only [Bool.and_eq_true, List.isEmpty_iff, blocksOf_eq_nil_iff bindings]
  split
  · exact .error _ _
  · exact .ok _

end Plan

end ParticleShaders
