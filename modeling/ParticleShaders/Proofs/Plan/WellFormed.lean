import ParticleShaders.Proofs.Json.Reading
import ParticleShaders.Proofs.Plan.FirstFault

namespace ParticleShaders

namespace Json.Value

def text? (v : Value) (name : String) : Option String :=
  match v.json with
  | .object fields => fields.lookup name >>= Json.string?
  | _ => none

def NamesParam (v : Value) (params : ParamTable) (type : ValueType) : Prop :=
  ∃ id value, v.text? "param" = some id ∧ params.find? id = some value ∧ value.type = type

def IsExpression (v : Value) : Prop :=
  v.text? "param" = none ∧ ∃ source, v.text? "expr" = some source

end Json.Value

namespace Binding

open Json (Record)

theorem named?_json (v : Json.Value) (name : String) : named? name v.json = v.text? name := by
  obtain ⟨j, canonical⟩ := v
  cases j with
  | object fields =>
    rw [named?, Record.ofJson?_canonical canonical, Option.bind_eq_bind, Option.bind_some,
      Record.required, Record.field?, lookup_filter [name].contains (by simp)]
    rfl
  | _ => rfl

theorem ofJson?_json_eq_some_iff {v : Json.Value} {b : Binding} : ofJson? v.json = some b ↔
    (∃ id, v.text? "param" = some id ∧ b = .param id) ∨
      v.text? "param" = none ∧ ∃ source, v.text? "expr" = some source ∧ b = .expr source := by
  have sound : guard (f := Option) (v.json.value?.isSome = true) = some () := by
    rw [Json.value?_json]
    rfl
  rw [ofJson?, sound]
  simp only [named?_json, Option.bind_eq_bind, Option.bind_some]
  cases v.text? "param" with
  | some id => simp [eq_comm]
  | none => cases v.text? "expr" <;> simp [eq_comm]

def Serves (params : ParamTable) (type : ValueType) : Binding → Prop
  | .expr _ => True
  | .param id => ∃ value, params.find? id = some value ∧ value.type = type

theorem faults_eq_nil_iff {params : ParamTable} {owner property : String} {type : ValueType}
    (b : Binding) : b.faults params owner property type = [] ↔ b.Serves params type := by
  cases b with
  | expr source => simp [faults, Serves]
  | param id =>
    simp only [faults, Serves]
    cases params.find? id with
    | none => simp
    | some v => simp

theorem textureFaults_eq_nil_iff {params : ParamTable} (b : Binding) :
    b.textureFaults params = [] ↔ ∃ id, b = .param id ∧ b.Serves params .texture2D := by
  cases b with
  | expr source => simp [textureFaults]
  | param id => simp [textureFaults, faults_eq_nil_iff]

end Binding

namespace Settings

variable {settings : Settings} {params : ParamTable} {stage : Stage} {key : String}
  {faults : Binding → List Rejection}

theorem bindingFaults_eq_nil_iff : settings.bindingFaults stage key faults = [] ↔
    ∀ v ∈ settings.find? key, v.isNull ∨
      (∃ n, v.number? = some n ∧ faults (.expr (Number.literal n.toSingle)) = []) ∨
      ∃ b, Binding.ofJson? v.json = some b ∧ faults b = [] := by
  unfold bindingFaults binding?
  cases settings.find? key with
  | none => simp
  | some v =>
    obtain ⟨j, canonical⟩ := v
    cases j with
    | null => simp [Json.Value.isNull]
    | number n =>
      have unread (b : Binding) : Binding.ofJson? (.number n) ≠ some b := fun read => by
        have written := (@Binding.ofJson?_json_eq_some_iff ⟨.number n, canonical⟩ b).1 read
        simp [Json.Value.text?] at written
      simp [Json.Value.isNull, Json.Value.number?, unread]
    | _ =>
      simp only [Json.Value.isNull, Json.Value.number?, Option.mem_some_iff, forall_eq']
      generalize Binding.ofJson? _ = read
      cases read <;> simp

theorem lifetimeFaults_eq_nil_iff : settings.lifetimeFaults params = [] ↔
    ∀ v ∈ settings.find? "lifetime", v.isNull ∨ v.number?.isSome ∨ v.IsExpression ∨
      v.NamesParam params .float := by
  rw [lifetimeFaults, bindingFaults_eq_nil_iff]
  refine forall₂_congr fun v _ => or_congr_right (or_congr ?_ ?_)
  · simp [Binding.faults, Option.isSome_iff_exists]
  · simp only [Binding.ofJson?_json_eq_some_iff, Binding.faults_eq_nil_iff]
    constructor
    · rintro ⟨_, ⟨id, named, rfl⟩ | ⟨unnamed, source, given, rfl⟩, serves⟩
      · obtain ⟨value, known, same⟩ := serves
        exact .inr ⟨id, value, named, known, same⟩
      · exact .inl ⟨unnamed, source, given⟩
    · rintro (⟨unnamed, source, given⟩ | ⟨id, value, named, known, same⟩)
      · exact ⟨_, .inr ⟨unnamed, source, given, rfl⟩, trivial⟩
      · exact ⟨_, .inl ⟨id, named, rfl⟩, value, known, same⟩

theorem textureFaults_eq_nil_iff : settings.textureFaults params = [] ↔
    ∀ v ∈ settings.find? "texture", v.isNull ∨ v.NamesParam params .texture2D := by
  rw [textureFaults, bindingFaults_eq_nil_iff]
  refine forall₂_congr fun v _ => or_congr_right ?_
  simp only [Binding.ofJson?_json_eq_some_iff, Binding.textureFaults_eq_nil_iff]
  constructor
  · rintro (⟨n, -, id, no, -⟩ | ⟨_, read, id, rfl, value, known, same⟩)
    · cases no
    · rcases read with ⟨id', named, same'⟩ | ⟨-, source, -, no⟩
      · cases same'
        exact ⟨id, value, named, known, same⟩
      · cases no
  · rintro ⟨id, value, named, known, same⟩
    exact .inr ⟨_, .inl ⟨id, named, rfl⟩, id, rfl, value, known, same⟩

theorem kindFaults_eq_nil_iff : settings.kindFaults = [] ↔
    ∀ name ∈ settings.string? "kind", name = "point" ∨ name = "billboard" := by
  have known (name : String) :
      (OutputKind.ofName? name).isSome ↔ name = "point" ∨ name = "billboard" := by
    unfold OutputKind.ofName?
    split <;> simp_all
  unfold kindFaults
  cases settings.string? "kind" with
  | none => simp [known]
  | some name => simp [known, or_iff_not_imp_left]

end Settings

structure Context.WellSet (c : Context) (params : ParamTable) : Prop where
  lifetime : c.stage = .init → ∀ v ∈ c.settings.find? "lifetime",
    v.isNull ∨ v.number?.isSome ∨ v.IsExpression ∨ v.NamesParam params .float
  kind : c.stage = .output → ∀ name ∈ Settings.string? c.settings "kind",
    name = "point" ∨ name = "billboard"
  texture : c.stage = .output → ∀ v ∈ c.settings.find? "texture",
    v.isNull ∨ v.NamesParam params .texture2D

theorem Context.settingsFaults_eq_nil_iff {c : Context} {params : ParamTable} :
    c.settingsFaults params = [] ↔ c.WellSet params := by
  obtain ⟨id, stage, settings, blocks⟩ := c
  unfold settingsFaults
  cases stage with
  | init =>
    rw [Settings.lifetimeFaults_eq_nil_iff]
    exact ⟨fun h => ⟨fun _ => h, nofun, nofun⟩, fun h => h.lifetime rfl⟩
  | update => exact ⟨fun _ => ⟨nofun, nofun, nofun⟩, fun _ => rfl⟩
  | output =>
    rw [List.append_eq_nil_iff, Settings.kindFaults_eq_nil_iff, Settings.textureFaults_eq_nil_iff]
    exact ⟨fun h => ⟨nofun, fun _ => h.1, fun _ => h.2⟩, fun h => ⟨h.kind rfl, h.texture rfl⟩⟩

namespace Block

section

variable (b : Block) (params : ParamTable)

/-- What a block gives a property: the expression or the parameter that is bound to it, or else the
fallback. -/
inductive Gives (p : PropertyDecl) : Argument → Prop
  | expr {source : String} (bound : b.slots.find? p.name = some (.expr source)) :
    Gives p (.expr source)
  | param {id : String} {value : ParamValue} (bound : b.slots.find? p.name = some (.param id))
    (known : params.find? id = some value) (type : value.type = p.type) :
    Gives p (.param ⟨id, p.type⟩)
  | fallback {source : String} (unbound : b.slots.find? p.name = none)
    (given : p.fallback = some source) : Gives p (.expr source)

structure WellFormed (library : Library) (stage : Stage) (d : Descriptor) : Prop where
  described : b.describe? library = some d
  names : ∀ name ∈ d.names, Text.isIdentifier name
  types : ∀ a ∈ d.attributes, a.type.components?.isSome
  properties : ∀ p ∈ d.properties, ∃ a, b.Gives params p a
  init : stage = .init → d.needs .kill = false
  output : stage = .output → d.needs .kill = false ∧ d.needs .rand = false

structure BoundAs (library : Library) (bound : BoundBlock) : Prop where
  described : b.describe? library = some bound.descriptor
  function : bound.function = bound.descriptor.function b.type
  arguments : List.Forall₂ (b.Gives params) bound.descriptor.properties bound.arguments

end

variable {b : Block} {params : ParamTable} {library : Library} {stage : Stage}

theorem gives_of_argument {p : PropertyDecl} {a : Argument} (h : b.argument params p = .ok a) :
    b.Gives params p a := by
  unfold argument at h
  split at h
  · next binding bound =>
    cases binding with
    | expr source =>
      cases h
      exact .expr bound
    | param id =>
      simp only [Binding.resolve] at h
      split at h
      · cases h
      · next q found =>
        split at h
        · next same =>
          cases h
          obtain ⟨value, known, rfl⟩ := Option.map_eq_some_iff.1 found
          have given := Gives.param (b := b) (p := p) bound known same
          rwa [← same] at given
        · cases h
  · next source unbound given =>
    cases h
    exact .fallback unbound given
  · cases h

theorem propertyFaults_eq_nil_iff {p : PropertyDecl} :
    b.propertyFaults params p = [] ↔ ∃ a, b.Gives params p a := by
  constructor
  · intro fine
    obtain ⟨a, h⟩ := (b.argument_reports params p).exists_eq_ok_iff.2 fine
    exact ⟨a, gives_of_argument h⟩
  · rintro ⟨a, bound | ⟨bound, known, type⟩ | ⟨unbound, given⟩⟩
    · simp [propertyFaults, bound, Binding.faults]
    · simp [propertyFaults, bound, Binding.faults, known, type]
    · simp [propertyFaults, unbound, given]

theorem filter_bars_eq_nil_iff {d : Descriptor} : stage.bars.filter d.needs = [] ↔
    (stage = .init → d.needs .kill = false) ∧
      (stage = .output → d.needs .kill = false ∧ d.needs .rand = false) := by
  cases stage <;> simp [Stage.bars, and_comm]

theorem faults_eq_nil_iff :
    b.faults params library stage = [] ↔ ∃ d, b.WellFormed params library stage d := by
  unfold faults
  cases described : b.describe? library with
  | none =>
    simp only [List.cons_ne_nil, false_iff]
    rintro ⟨d, wellFormed⟩
    cases described.symm.trans wellFormed.described
  | some d =>
    simp only [Descriptor.faults, List.append_eq_nil_iff, List.map_eq_nil_iff,
      filter_bars_eq_nil_iff, List.flatMap_eq_nil_iff, propertyFaults_eq_nil_iff]
    constructor
    · rintro ⟨⟨⟨names, types⟩, properties⟩, init, output⟩
      refine ⟨d, described, ?_, ?_, properties, init, output⟩
      · simpa using names
      · simpa [Option.isSome_iff_ne_none] using types
    · rintro ⟨d', wellFormed⟩
      cases described.symm.trans wellFormed.described
      refine ⟨⟨⟨?_, ?_⟩, wellFormed.properties⟩, wellFormed.init, wellFormed.output⟩
      · simpa using wellFormed.names
      · simpa [Option.isSome_iff_ne_none] using wellFormed.types

theorem boundAs_of_bind {bound : BoundBlock} (h : b.bind library params stage = .ok bound) :
    b.BoundAs params library bound := by
  obtain ⟨described, function, arguments, -⟩ := bind_eq_ok h
  exact ⟨described, function, (forall₂_of_mapM_eq_ok arguments).imp fun _ _ => gives_of_argument⟩

end Block

namespace ParticleSystem

structure WellFormed (system : ParticleSystem) (library : Library) (params : ParamTable) :
    Prop where
  settings : ∀ c ∈ system.contexts, c.WellSet params
  stages : ∀ stage, ∃ c ∈ system.contexts, c.stage = stage
  blocks : ∀ c ∈ system.contexts, ∀ b ∈ c.blocks, ∃ d, b.WellFormed params library c.stage d
  inhabited : ∃ c ∈ system.contexts, c.stage ≠ .output ∧ c.blocks ≠ []

variable {system : ParticleSystem} {library : Library} {params : ParamTable}

theorem contextsOf_eq_nil_iff {stage : Stage} :
    system.contextsOf stage = [] ↔ ¬ ∃ c ∈ system.contexts, c.stage = stage := by
  simp [contextsOf]

theorem simulates_iff : ¬ (system.blocksOf .init = [] ∧ system.blocksOf .update = []) ↔
    ∃ c ∈ system.contexts, c.stage ≠ .output ∧ c.blocks ≠ [] := by
  simp only [blocksOf, contextsOf, List.flatMap_eq_nil_iff, List.mem_filter, decide_eq_true_eq]
  constructor
  · intro some
    by_contra none
    push Not at none
    refine some ⟨fun c hc => none c hc.1 ?_, fun c hc => none c hc.1 ?_⟩ <;> simp [hc.2]
  · rintro ⟨c, hc, simulated, blocks⟩ ⟨init, update⟩
    cases stage : c.stage with
    | init => exact blocks (init c ⟨hc, stage⟩)
    | update => exact blocks (update c ⟨hc, stage⟩)
    | output => exact simulated stage

theorem faults_eq_nil_iff :
    system.faults library params = [] ↔ system.WellFormed library params := by
  have stages : Stage.all.flatMap system.missingStage = [] ↔
      ∀ stage, ∃ c ∈ system.contexts, c.stage = stage := by
    have every (stage : Stage) : stage ∈ Stage.all := by cases stage <;> decide
    simp [missingStage, contextsOf_eq_nil_iff, every]
  have inhabited : (if system.blocksOf .init = [] ∧ system.blocksOf .update = []
      then [Rejection.empty] else []) = [] ↔
        ∃ c ∈ system.contexts, c.stage ≠ .output ∧ c.blocks ≠ [] := by
    rw [← simulates_iff]
    split <;> simp_all
  simp only [faults, List.append_eq_nil_iff, stages, inhabited, List.flatMap_eq_nil_iff,
    Context.settingsFaults_eq_nil_iff, Block.faults_eq_nil_iff]
  exact ⟨fun ⟨⟨⟨settings, stages⟩, blocks⟩, inhabited⟩ => ⟨settings, stages, blocks, inhabited⟩,
    fun ⟨settings, stages, blocks, inhabited⟩ => ⟨⟨⟨settings, stages⟩, blocks⟩, inhabited⟩⟩

end ParticleSystem

/-- A system has a plan if it is well formed. Its blocks are then bound in order, with what they
give their properties; and if it has none, it is rejected for the first of its faults. -/
theorem Plan.ofSystem_verdict (system : ParticleSystem) (library : Library) (params : ParamTable) :
    ((∃ plan, ofSystem system library params = .ok plan) ↔ system.WellFormed library params) ∧
      (∀ plan, ofSystem system library params = .ok plan → ∀ stage,
        List.Forall₂ (fun b bound => b.BoundAs params library bound)
          (system.blocksOf stage) (plan.blocks stage)) ∧
      ∀ e, ofSystem system library params = .error e ↔
        (system.faults library params).head? = some e := by
  have reports := ofSystem_reports system library params
  refine ⟨?_, fun plan planned stage => ?_, fun e => reports.eq_error_iff⟩
  · rw [reports.exists_eq_ok_iff, ParticleSystem.faults_eq_nil_iff]
  · exact (forall₂_of_mapM_eq_ok ((staged_of_ofSystem planned).blocks stage)).imp
      fun _ _ => Block.boundAs_of_bind

def thorns : ParticleSystem where
  version := "1"
  metadata := { name := "Thorns" }
  id := "thorns"
  contexts := [
    { id := "bud", stage := .init, blocks := [
        { id := "prick", type := "Prick", descriptor := some
            { capabilities := [.kill]
              attributes := [⟨"2nd", .float, true⟩, ⟨"grip", .curve, true⟩]
              properties := [⟨"reach", .float, none⟩] } },
        { id := "leaf", type := "Leaf" }] },
    { id := "rose", stage := .output, settings := .ofList
        [("kind", ⟨.string "petal", trivial⟩), ("texture", ⟨.number (.int 3), trivial⟩)] }]

def thornFaults : List Rejection :=
  [.badSettings .output "unknown output kind: petal",
   .badSettings .output "texture must be bound to a texture2D param", .missingStage .update,
   .invalidName "prick" "2nd", .unpackableAttribute "prick" "grip" .curve,
   .unboundProperty "prick" "reach", .misplaced "prick" .kill .init, .unknownBlock "leaf" "Leaf"]

theorem thorns_verdict : gusts.WellFormed ∅ ∅ ∧ thorns.faults ∅ ∅ = thornFaults ∧
    Plan.ofSystem thorns ∅ ∅ = .error (.badSettings .output "unknown output kind: petal") := by
  have planned : (Plan.ofSystem gusts ∅ ∅).toOption.map (·.updateBlocks.length) = some 1 := by
    decide +kernel
  have faults : thorns.faults ∅ ∅ = thornFaults := by
    decide +kernel
  obtain ⟨plan, planned, -⟩ := exists_of_toOption planned
  refine ⟨(Plan.ofSystem_verdict gusts ∅ ∅).1.1 ⟨plan, planned⟩, faults, ?_⟩
  exact ((Plan.ofSystem_verdict thorns ∅ ∅).2.2 _).2 (faults ▸ rfl)

end ParticleShaders
