import ParticleShaders.Block.Format
import ParticleShaders.Json.Reader
import ParticleShaders.ParticleSystem.Basic

namespace ParticleShaders

open Json (Record)

def ParamDecl.ofJson? (j : Json Number) : Option ParamDecl := do
  let record ← Record.ofJson? ["id", "type", "value"] j
  return {
    id := ← record.required "id" Json.string?
    type := ← record.required "type" (Json.valueType? Json.isNull)
    value := ← record.withDefault "value" .null Json.value? }

def ParamDecl.toJson (d : ParamDecl) : Json Number :=
  .object [("id", .string d.id), ("type", .string d.type.name), ("value", d.value.json)]

namespace Binding

def named? (name : String) : Json Number → Option String
  | .object fields => do
    (← Record.ofJson? [name] (.object fields)).required name Json.string?
  | _ => none

/-- A name of a parameter is looked for first. All of a binding must be well formed. -/
def ofJson? (j : Json Number) : Option Binding := do
  guard j.value?.isSome
  match named? "param" j with
  | some id => return .param id
  | none => return .expr (← named? "expr" j)

def toJson : Binding → Json Number
  | .param id => .object [("param", .string id)]
  | .expr source => .object [("expr", .string source)]

end Binding

namespace Block

def ofJson? (j : Json Number) : Option Block := do
  let record ← Record.ofJson? ["id", "type", "slots", "desc"] j
  return {
    id := ← record.required "id" Json.string?
    type := ← record.required "type" Json.string?
    slots := ← record.withDefault "slots" ∅ (Json.dict? Binding.ofJson?)
    descriptor := ← record.optional "desc" (Descriptor.ofJson? Json.isNull) }

def toJson (b : Block) : Json Number :=
  .object [("id", .string b.id), ("type", .string b.type),
    ("slots", .object (b.slots.entries.map fun e => (e.1, e.2.toJson))),
    ("desc", b.descriptor.elim .null (·.toJson))]

end Block

def Stage.ofJson? (j : Json Number) : Option Stage := j.case? Json.isNull >>= Stage.ofLabel?

namespace Context

def ofJson? (j : Json Number) : Option Context := do
  let record ← Record.ofJson? ["id", "type", "params", "blocks"] j
  return {
    id := ← record.required "id" Json.string?
    stage := ← record.required "type" Stage.ofJson?
    settings := ← record.withDefault "params" ∅ (Json.dict? Json.value?)
    blocks := ← record.withDefault "blocks" [] (Json.list? Block.ofJson?) }

def toJson (c : Context) : Json Number :=
  .object [("id", .string c.id), ("type", .string c.stage.label),
    ("params", .object (c.settings.entries.map fun e => (e.1, e.2.json))),
    ("blocks", .array (c.blocks.map (·.toJson)))]

end Context

namespace Metadata

def ofJson? (j : Json Number) : Option Metadata := do
  let record ← Record.ofJson? ["name", "created", "modified"] j
  return {
    name := ← record.required "name" Json.string?
    created := ← record.nullable "created" Json.string?
    modified := ← record.nullable "modified" Json.string? }

def toJson (m : Metadata) : Json Number :=
  .object [("name", .string m.name), ("created", Json.ofOptional m.created),
    ("modified", Json.ofOptional m.modified)]

end Metadata

namespace ParticleSystem

def fields : List String :=
  ["version", "metadata", "id", "blendMode", "phaseShift", "params", "contexts"]

def blendMode? (j : Json Number) : Option BlendMode := j.case? Json.isNull >>= BlendMode.ofName?

def ofJson? (j : Json Number) : Option ParticleSystem := do
  let record ← Record.ofJson? fields j
  return {
    version := ← record.required "version" Json.string?
    metadata := ← record.required "metadata" Metadata.ofJson?
    id := ← record.required "id" Json.string?
    blendMode := ← record.withDefault "blendMode" .additive blendMode?
    phaseShift := ← record.withDefault "phaseShift" false Json.bool?
    params := ← record.withDefault "params" [] (Json.list? ParamDecl.ofJson?)
    contexts := ← record.required "contexts" (Json.list? Context.ofJson?) }

def toJson (s : ParticleSystem) : Json Number :=
  .object [("version", .string s.version), ("metadata", s.metadata.toJson), ("id", .string s.id),
    ("blendMode", .string s.blendMode.name), ("phaseShift", .bool s.phaseShift),
    ("params", .array (s.params.map (·.toJson))), ("contexts", .array (s.contexts.map (·.toJson)))]

def parse? (text : String) : Option ParticleSystem := Json.read? text >>= ofJson?

end ParticleSystem

end ParticleShaders
