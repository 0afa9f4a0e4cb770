import ParticleShaders.ParticleSystem.Format
import ParticleShaders.Proofs.Json.Reading

namespace ParticleShaders

open Json

theorem reads_valueType (t : ValueType) : Reads (valueType? isNull) (.string t.name) t :=
  reads_case t.ofName?_name

theorem Capability.reads_name (c : Capability) :
    Reads (Descriptor.capability? isNull) (.string c.name) c :=
  reads_case c.ofName?_name

theorem Stage.reads_label (s : Stage) : Reads Stage.ofJson? (.string s.label) s :=
  reads_case s.ofLabel?_label

theorem BlendMode.reads_name (b : BlendMode) :
    Reads ParticleSystem.blendMode? (.string b.name) b :=
  reads_case b.ofName?_name

theorem reads_ofOptional (text : Option String) : Reads (orNull string?) (ofOptional text) text :=
  .orNull rfl reads_string text

theorem AttributeDecl.reads_toJson (d : AttributeDecl) : Reads (ofJson? isNull) d.toJson d := by
  refine .record [⟨"name", reads_string d.name⟩, ⟨"type", reads_valueType d.type⟩,
    ⟨"writable", reads_bool d.writable⟩] (by simp) ?_
  rintro r ⟨name, type, writable⟩
  simp [name.required, type.required, writable.withDefault]

theorem PropertyDecl.reads_toJson (d : PropertyDecl) : Reads (ofJson? isNull) d.toJson d := by
  refine .record [⟨"name", reads_string d.name⟩, ⟨"type", reads_valueType d.type⟩,
    ⟨"default", reads_ofOptional d.fallback⟩] (by simp) ?_
  rintro r ⟨name, type, fallback⟩
  simp [name.required, type.required, fallback.optional]

theorem Descriptor.reads_toJson (d : Descriptor) : Reads (ofJson? isNull) d.toJson d := by
  refine .record [⟨"functionName", reads_ofOptional d.functionName⟩,
    ⟨"flags", .list Capability.reads_name d.capabilities⟩,
    ⟨"attributes", .list AttributeDecl.reads_toJson d.attributes⟩,
    ⟨"properties", .list PropertyDecl.reads_toJson d.properties⟩,
    ⟨"source", .list reads_string d.source⟩] (by simp) ?_
  rintro r ⟨functionName, capabilities, attributes, properties, source⟩
  simp [functionName.optional, capabilities.withDefault, attributes.withDefault,
    properties.withDefault, source.withDefault]

theorem ParamDecl.reads_toJson (d : ParamDecl) : Reads ofJson? d.toJson d := by
  refine .record [⟨"id", reads_string d.id⟩, ⟨"type", reads_valueType d.type⟩,
    ⟨"value", reads_value d.value⟩] (by simp) ?_
  rintro r ⟨id, type, value⟩
  simp [id.required, type.required, value.withDefault]

theorem Binding.reads_toJson (b : Binding) : Reads ofJson? b.toJson b := by
  have canonical : b.toJson.Canonical := by
    cases b <;> exact ⟨List.pairwise_singleton _ _, trivial, trivial⟩
  refine .of_canonical canonical ?_
  rw [ofJson?, isSome_value? canonical]
  cases b <;> rfl

theorem Block.reads_toJson (b : Block) : Reads ofJson? b.toJson b := by
  refine .record [⟨"id", reads_string b.id⟩, ⟨"type", reads_string b.type⟩,
    ⟨"slots", .dict Binding.reads_toJson b.slots⟩,
    ⟨"desc", .orNull rfl Descriptor.reads_toJson b.descriptor⟩] (by simp) ?_
  rintro r ⟨id, type, slots, descriptor⟩
  simp [id.required, type.required, slots.withDefault, descriptor.optional]

theorem Context.reads_toJson (c : Context) : Reads ofJson? c.toJson c := by
  refine .record [⟨"id", reads_string c.id⟩, ⟨"type", c.stage.reads_label⟩,
    ⟨"params", .dict reads_value c.settings⟩,
    ⟨"blocks", .list Block.reads_toJson c.blocks⟩] (by simp) ?_
  rintro r ⟨id, stage, settings, blocks⟩
  simp [id.required, stage.required, settings.withDefault, blocks.withDefault]

theorem Metadata.reads_toJson (m : Metadata) : Reads ofJson? m.toJson m := by
  refine .record [⟨"name", reads_string m.name⟩, ⟨"created", reads_ofOptional m.created⟩,
    ⟨"modified", reads_ofOptional m.modified⟩] (by simp) ?_
  rintro r ⟨name, created, modified⟩
  simp [name.required, created.nullable, modified.nullable]

namespace ParticleSystem

theorem reads_toJson (s : ParticleSystem) : Reads ofJson? s.toJson s := by
  refine .record [⟨"version", reads_string s.version⟩, ⟨"metadata", s.metadata.reads_toJson⟩,
    ⟨"id", reads_string s.id⟩, ⟨"blendMode", s.blendMode.reads_name⟩,
    ⟨"phaseShift", reads_bool s.phaseShift⟩,
    ⟨"params", .list ParamDecl.reads_toJson s.params⟩,
    ⟨"contexts", .list Context.reads_toJson s.contexts⟩] (by simp) ?_
  rintro r ⟨version, metadata, id, blendMode, phaseShift, params, contexts⟩
  simp [version.required, metadata.required, id.required, blendMode.withDefault,
    phaseShift.withDefault, params.withDefault, contexts.required]

def rewrite? (j : Json Number) : Option Value := ofJson? j >>= fun s => s.toJson.value?

theorem exists_value (s : ParticleSystem) :
    ∃ v, s.toJson.value? = some v ∧ ofJson? v.json = some s := by
  obtain ⟨k, settles, read⟩ := s.reads_toJson.settled
  obtain ⟨v, value, rfl⟩ := exists_value?_iff.2 settles
  exact ⟨v, value, read⟩

/-- A system is what it is written as. So a tree that has been read and written once is left as it
is when that is done again. -/
theorem roundTrip :
    (∀ s : ParticleSystem, ofJson? s.toJson = some s ∧
      ∃ v, s.toJson.value? = some v ∧ ofJson? v.json = some s) ∧
    ∀ j, (ofJson? j).isSome → ∃ v, rewrite? j = some v ∧ rewrite? v.json = some v := by
  refine ⟨fun s => ⟨s.reads_toJson.written, s.exists_value⟩, fun j accepted => ?_⟩
  obtain ⟨s, read⟩ := Option.isSome_iff_exists.1 accepted
  obtain ⟨v, value, again⟩ := s.exists_value
  refine ⟨v, ?_, ?_⟩
  · rw [rewrite?, read]
    exact value
  · rw [rewrite?, again]
    exact value

end ParticleSystem

/-- Rain in a form in which no system is written: metadata without names, a stage as an object, a
binding with both of its names, a setting that is given twice, and much that is left out. -/
def looseRain : Json Number :=
  .object [("id", .string "rain"), ("comment", .bool true), ("version", .string "1"),
    ("metadata", .array [.string "Rain", .null, .string "today"]),
    ("contexts", .array [
      .object [("type", .object [("init", .null)]), ("id", .string "birth"),
        ("params", .object [("lifetime", .null), ("lifetime", .number (.int 2))]),
        ("blocks", .array [
          .object [("id", .string "fall"), ("type", .string "Fall"),
            ("slots", .object [("speed", .object [("expr", .string "1.0"),
              ("param", .string "gust")])]),
            ("desc", .array [.null, .array [.string "rand"]])]])],
      .array [.string "life", .string "update"]])]

theorem looseRain_roundTrip :
    (ParticleSystem.ofJson? looseRain).isSome ∧
    (∃ s, ParticleSystem.ofJson? looseRain = some s ∧ ParticleSystem.ofJson? s.toJson = some s) ∧
    ∃ v, ParticleSystem.rewrite? looseRain = some v ∧ ParticleSystem.rewrite? v.json = some v := by
  have accepted : (ParticleSystem.ofJson? looseRain).isSome := by decide +kernel
  obtain ⟨s, read⟩ := Option.isSome_iff_exists.1 accepted
  exact ⟨accepted, ⟨s, read, (ParticleSystem.roundTrip.1 s).1⟩,
    ParticleSystem.roundTrip.2 looseRain accepted⟩

end ParticleShaders
