import ParticleShaders.Json.Basic

namespace ParticleShaders.Json

/-- The known fields of a record. `listed` tells the list form from the object form. -/
structure Record where
  listed : Bool
  fields : List (String × Json Number)

namespace Record

def ofJson? (names : List String) : Json Number → Option Record
  | .object fields =>
    let known := fields.filter fun f => names.contains f.1
    if (known.map (·.1)).Nodup then some ⟨false, known⟩ else none
  | .array elements =>
    if elements.length ≤ names.length then some ⟨true, names.zip elements⟩ else none
  | _ => none

def field? (r : Record) (name : String) : Option (Json Number) := r.fields.lookup name

variable {α : Type}

def required (r : Record) (name : String) (decode : Json Number → Option α) : Option α :=
  r.field? name >>= decode

def withDefault (r : Record) (name : String) (fallback : α) (decode : Json Number → Option α) :
    Option α :=
  match r.field? name with
  | none => some fallback
  | some j => decode j

def optional (r : Record) (name : String) (decode : Json Number → Option α) : Option (Option α) :=
  match r.field? name with
  | none | some .null => some none
  | some j => (decode j).map some

/-- A field that may be `null`, and may be left out of the object form only. -/
def nullable (r : Record) (name : String) (decode : Json Number → Option α) : Option (Option α) :=
  if r.listed && (r.field? name).isNone then none else r.optional name decode

end Record

def string? : Json Number → Option String
  | .string s => some s
  | _ => none

def bool? : Json Number → Option Bool
  | .bool b => some b
  | _ => none

def list? {α : Type} (decode : Json Number → Option α) : Json Number → Option (List α)
  | .array elements => elements.mapM decode
  | _ => none

def dict? {α : Type} (decode : Json Number → Option α) : Json Number → Option (Dict α)
  | .object fields => (fields.mapM fun field => (decode field.2).map (field.1, ·)).map Dict.ofList
  | _ => none

def case? (unit : Json Number → Bool) : Json Number → Option String
  | .string s => some s
  | .object [(name, j)] => if unit j then some name else none
  | _ => none

end ParticleShaders.Json
