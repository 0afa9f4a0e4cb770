import ParticleShaders.Block.Library
import ParticleShaders.Json.Record

namespace ParticleShaders

namespace Json

def isNull : Json Number → Bool
  | .null => true
  | _ => false

/-- In the fields of a library entry an empty object stands for `null` there. -/
def isVoid : Json Number → Bool
  | .null | .object [] => true
  | _ => false

def valueType? (unit : Json Number → Bool) (j : Json Number) : Option ValueType :=
  j.case? unit >>= ValueType.ofName?

def ofOptional (text : Option String) : Json Number := text.elim .null .string

end Json

open Json (Record)

def AttributeDecl.ofJson? (unit : Json Number → Bool) (j : Json Number) : Option AttributeDecl := do
  let record ← Record.ofJson? ["name", "type", "writable"] j
  return {
    name := ← record.required "name" Json.string?
    type := ← record.required "type" (Json.valueType? unit)
    writable := ← record.withDefault "writable" false Json.bool? }

def AttributeDecl.toJson (d : AttributeDecl) : Json Number :=
  .object [("name", .string d.name), ("type", .string d.type.name), ("writable", .bool d.writable)]

def PropertyDecl.ofJson? (unit : Json Number → Bool) (j : Json Number) : Option PropertyDecl := do
  let record ← Record.ofJson? ["name", "type", "default"] j
  return {
    name := ← record.required "name" Json.string?
    type := ← record.required "type" (Json.valueType? unit)
    fallback := ← record.optional "default" Json.string? }

def PropertyDecl.toJson (d : PropertyDecl) : Json Number :=
  .object [("name", .string d.name), ("type", .string d.type.name),
    ("default", Json.ofOptional d.fallback)]

namespace Descriptor

def capability? (unit : Json Number → Bool) (j : Json Number) : Option Capability :=
  j.case? unit >>= Capability.ofName?

def ofJson? (unit : Json Number → Bool) (j : Json Number) : Option Descriptor := do
  let record ← Record.ofJson? ["functionName", "flags", "attributes", "properties", "source"] j
  return {
    functionName := ← record.optional "functionName" Json.string?
    capabilities := ← record.withDefault "flags" [] (Json.list? (capability? unit))
    attributes := ← record.withDefault "attributes" [] (Json.list? (AttributeDecl.ofJson? unit))
    properties := ← record.withDefault "properties" [] (Json.list? (PropertyDecl.ofJson? unit))
    source := ← record.withDefault "source" [] (Json.list? Json.string?) }

def toJson (d : Descriptor) : Json Number :=
  .object [("functionName", Json.ofOptional d.functionName),
    ("flags", .array (d.capabilities.map (.string ·.name))),
    ("attributes", .array (d.attributes.map (·.toJson))),
    ("properties", .array (d.properties.map (·.toJson))),
    ("source", .array (d.source.map .string))]

end Descriptor

namespace Library

/-- The fields of a descriptor with the type of the block among them. All of an entry must be well
formed, also the fields that are skipped. -/
def entry? (j : Json Number) : Option (String × Descriptor) := do
  guard j.value?.isSome
  match j with
  | .object _ =>
    let record ← Record.ofJson? ["type"] j
    return (← record.required "type" Json.string?, ← Descriptor.ofJson? Json.isVoid j)
  | _ => none

def entries? (j : Json Number) : Option (List (String × Descriptor)) := do
  let record ← Record.ofJson? ["version", "blocks"] j
  let _ ← record.required "version" Json.string?
  record.withDefault "blocks" [] (Json.list? entry?)

def ofJson (j : Option (Json Number)) : Except LoadError Library :=
  match j >>= entries? with
  | none => .error .malformed
  | some entries => ofEntries entries

end Library

end ParticleShaders
