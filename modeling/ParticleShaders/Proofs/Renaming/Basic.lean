import Mathlib.Data.List.Nodup
import ParticleShaders.Generator.Basic
import ParticleShaders.Proofs.Json.Reading
/-! Renaming the parameters of a system, wherever it refers to one: in the slots of its blocks, in
the lifetime of what init brings forth, and in the texture of what output draws. -/

namespace ParticleShaders

section Entries

variable {α β : Type}

theorem lookup_map_value (f : String → α → β) (entries : List (String × α)) (key : String) :
    (entries.map fun e => (e.1, f e.1 e.2)).lookup key = (entries.lookup key).map (f key) := by
  induction entries with
  | nil => rfl
  | cons e rest ih =>
    obtain ⟨name, value⟩ := e
    by_cases same : key = name
    · subst same
      simp
    · simp [List.lookup_cons, beq_eq_false_iff_ne.2 same, ih]

theorem lookup_map_key {ρ : String → String} (inj : Function.Injective ρ)
    (entries : List (String × α)) (key : String) :
    (entries.map fun e => (ρ e.1, e.2)).lookup (ρ key) = entries.lookup key := by
  induction entries with
  | nil => rfl
  | cons e rest ih =>
    obtain ⟨name, value⟩ := e
    by_cases same : key = name
    · subst same
      simp
    · simp [List.lookup_cons, beq_eq_false_iff_ne.2 same, beq_eq_false_iff_ne.2 (inj.ne same), ih]

theorem nodup_map_key {ρ : String → String} (inj : Function.Injective ρ)
    {entries : List (String × α)} (distinct : (entries.map (·.1)).Nodup) :
    ((entries.map fun e => (ρ e.1, e.2)).map (·.1)).Nodup := by
  have renamed := distinct.map inj
  rw [List.map_map] at renamed ⊢
  exact renamed

end Entries

namespace Dict

variable {α β : Type}

def mapValues (f : String → α → β) (d : Dict α) : Dict β :=
  ⟨d.entries.map fun e => (e.1, f e.1 e.2), List.pairwise_map.2 d.sorted⟩

@[simp] theorem find?_mapValues (f : String → α → β) (d : Dict α) (key : String) :
    (d.mapValues f).find? key = (d.find? key).map (f key) :=
  lookup_map_value f d.entries key

@[simp] theorem mapValues_id (d : Dict α) : d.mapValues (fun _ v => v) = d :=
  Dict.ext (List.map_id' d.entries)

end Dict

namespace Json

def renameString (ρ : String → String) : Json Number → Json Number
  | .string s => .string (ρ s)
  | j => j

def renameField (ρ : String → String) (name : String) (j : Json Number) : Json Number :=
  if name = "param" then j.renameString ρ else j

def renameParam (ρ : String → String) : Json Number → Json Number
  | .object fields => .object (fields.map fun f => (f.1, renameField ρ f.1 f.2))
  | j => j

variable {ρ : String → String} {j : Json Number}

theorem canonical_renameField {name : String} (h : j.Canonical) :
    (renameField ρ name j).Canonical := by
  unfold renameField
  split
  · cases j with
    | string s => trivial
    | _ => exact h
  · exact h

theorem canonical_renameParam (h : j.Canonical) : (j.renameParam ρ).Canonical := by
  cases j with
  | object fields =>
    refine ⟨List.pairwise_map.2 h.1, canonicalFields_iff.2 fun e he => ?_⟩
    obtain ⟨f, hf, rfl⟩ := List.mem_map.1 he
    exact canonical_renameField (canonicalFields_iff.1 h.2 f hf)
  | _ => exact h

theorem string?_renameField (name : String) (j : Json Number) :
    (renameField ρ name j).string? = j.string?.map (if name = "param" then ρ else fun s => s) := by
  unfold renameField
  split
  · cases j <;> rfl
  · exact Option.map_id'.symm

@[simp] theorem renameField_id (name : String) (j : Json Number) :
    renameField (fun s => s) name j = j := by
  cases j <;> simp [renameField, renameString]

@[simp] theorem renameParam_id (j : Json Number) : j.renameParam (fun s => s) = j := by
  cases j with
  | object fields => simp [renameParam]
  | _ => rfl

end Json

def Param.rename (ρ : String → String) (p : Param) : Param := ⟨ρ p.id, p.type⟩

@[simp] theorem Param.rename_id (p : Param) : p.rename (fun s => s) = p := rfl

namespace Binding

def rename (ρ : String → String) : Binding → Binding
  | .param id => .param (ρ id)
  | .expr source => .expr source

variable {ρ : String → String} {fields : List (String × Json Number)}

@[simp] theorem rename_id (b : Binding) : b.rename (fun s => s) = b := by
  cases b <;> rfl

theorem named?_renameParam (name : String) (j : Json Number) :
    named? name (j.renameParam ρ)
      = (named? name j).map (if name = "param" then ρ else fun s => s) := by
  cases j with
  | object fields =>
    have known : (fields.map fun f => (f.1, Json.renameField ρ f.1 f.2)).filter
        (fun f => [name].contains f.1) = (fields.filter fun f => [name].contains f.1).map
          fun f => (f.1, Json.renameField ρ f.1 f.2) := List.filter_map
    simp only [named?, Json.renameParam, Json.Record.ofJson?, known, List.map_map,
      Function.comp_def]
    split
    · simp only [Option.bind_eq_bind, Option.bind_some, Json.Record.required, Json.Record.field?,
        lookup_map_value (Json.renameField ρ)]
      cases (fields.filter fun f => [name].contains f.1).lookup name with
      | none => rfl
      | some j => exact Json.string?_renameField name j
    · rfl
  | _ => rfl

theorem ofJson?_renameParam {j : Json Number} (h : j.Canonical) :
    ofJson? (j.renameParam ρ) = (ofJson? j).map (·.rename ρ) := by
  unfold ofJson?
  rw [Json.isSome_value? h, Json.isSome_value? (Json.canonical_renameParam h),
    named?_renameParam, named?_renameParam]
  cases named? "param" j with
  | some id => rfl
  | none => cases named? "expr" j <;> rfl

end Binding

def Json.Value.renameParam (ρ : String → String) (v : Json.Value) : Json.Value :=
  ⟨v.json.renameParam ρ, Json.canonical_renameParam v.canonical⟩

namespace Json.Value

variable (ρ : String → String) (v : Json.Value)

@[simp] theorem renameParam_id : v.renameParam (fun s => s) = v :=
  Value.ext (Json.renameParam_id v.json)

@[simp] theorem isNull_renameParam : (v.renameParam ρ).isNull = v.isNull := by
  obtain ⟨j, _⟩ := v
  cases j <;> rfl

@[simp] theorem number?_renameParam : (v.renameParam ρ).number? = v.number? := by
  obtain ⟨j, _⟩ := v
  cases j <;> rfl

end Json.Value

def Stage.bindingKey? : Stage → Option String
  | .init => some "lifetime"
  | .update => none
  | .output => some "texture"

namespace Settings

variable {ρ : String → String} {stage : Stage} {settings : Settings} {key : String}

def rename (ρ : String → String) (stage : Stage) (settings : Settings) : Settings :=
  settings.mapValues fun key v => if stage.bindingKey? = some key then v.renameParam ρ else v

@[simp] theorem rename_id : settings.rename (fun s => s) stage = settings := by
  simp [rename]

@[simp] theorem rename_update : settings.rename ρ .update = settings := by
  simp [rename, Stage.bindingKey?]

theorem find?_rename (other : stage.bindingKey? ≠ some key) :
    (settings.rename ρ stage).find? key = settings.find? key := by
  simp [rename, other]

theorem binding?_rename (bound : stage.bindingKey? = some key) :
    (settings.rename ρ stage).binding? key
      = (settings.binding? key).map (Option.map (·.rename ρ)) := by
  unfold binding? rename
  rw [Dict.find?_mapValues]
  cases settings.find? key with
  | none => rfl
  | some v =>
    simp only [Option.map_some, bound, if_true, Json.Value.isNull_renameParam,
      Json.Value.number?_renameParam]
    split
    · rfl
    · cases v.number? with
      | some n => rfl
      | none =>
        simp only [Json.Value.renameParam, Binding.ofJson?_renameParam v.canonical]
        cases Binding.ofJson? v.json <;> rfl

end Settings

def Block.rename (ρ : String → String) (b : Block) : Block :=
  { b with slots := b.slots.mapValues fun _ binding => binding.rename ρ }

@[simp] theorem Block.rename_id (b : Block) : b.rename (fun s => s) = b := by
  simp [rename]

def Context.rename (ρ : String → String) (c : Context) : Context :=
  { c with
    settings := Settings.rename ρ c.stage c.settings
    blocks := c.blocks.map (·.rename ρ) }

@[simp] theorem Context.rename_id (c : Context) : c.rename (fun s => s) = c := by
  simp [rename]

def ParamDecl.rename (ρ : String → String) (d : ParamDecl) : ParamDecl := { d with id := ρ d.id }

@[simp] theorem ParamDecl.rename_id (d : ParamDecl) : d.rename (fun s => s) = d := rfl

def ParticleSystem.rename (ρ : String → String) (system : ParticleSystem) : ParticleSystem :=
  { system with
    params := system.params.map (·.rename ρ)
    contexts := system.contexts.map (·.rename ρ) }

@[simp] theorem ParticleSystem.rename_id (system : ParticleSystem) :
    system.rename (fun s => s) = system := by
  simp [rename]

namespace ParamTable

def rename (ρ : String → String) (params : ParamTable) : ParamTable :=
  .ofList (params.entries.map fun e => (ρ e.1, e.2))

variable {ρ : String → String} (inj : Function.Injective ρ) (params : ParamTable) (id : String)

include inj

theorem find?_rename : (params.rename ρ).find? (ρ id) = params.find? id := by
  have distinct : (params.entries.map (·.1)).Nodup :=
    List.pairwise_map.2 (params.sorted.imp String.ne_of_lt)
  rw [rename, Dict.find?_ofList (nodup_map_key inj distinct), lookup_map_key inj]
  rfl

theorem param?_rename :
    (params.rename ρ).param? (ρ id) = (params.param? id).map (·.rename ρ) := by
  rw [param?, find?_rename inj, param?]
  cases params.find? id <;> rfl

end ParamTable

end ParticleShaders
