import ParticleShaders.Json.Token

namespace ParticleShaders.Json

/-- A container part way through; what it holds stands newest first. In an object a name that is
`none` has no text. -/
inductive Frame
  | array (elements : List (Json Number))
  | object (fields : List (Option String × Json Number)) (name : Option String)

inductive Expecting
  | value
  | elementOrEnd
  | nameOrEnd
  | name
  | colon
  | separator
  deriving DecidableEq

inductive Reading
  | within (frames : List Frame) (depth : Nat) (expecting : Expecting)
  | done (j : Json Number)

namespace Reading

def depthLimit : Nat := 127

def complete (j : Json Number) (depth : Nat) : List Frame → Reading
  | [] => .done j
  | .array elements :: outer => .within (.array (j :: elements) :: outer) depth .separator
  | .object fields name :: outer =>
    .within (.object ((name, j) :: fields) name :: outer) depth .separator

def close (frame : Frame) (depth : Nat) : Json Number :=
  if depthLimit < depth then .illFormed else
  match frame with
  | .array elements => .array elements.reverse
  | .object fields _ =>
    match fields.reverse.mapM fun (name, j) => name.map (·, j) with
    | some fs => .object fs
    | none => .illFormed

def step? : Reading → Token → Option Reading
  | .done _, _ => none
  | .within frames depth expecting, token =>
    match token, expecting, frames with
    | .atom j, .value, _ | .atom j, .elementOrEnd, _ => some (complete j depth frames)
    | .text content, .value, _ | .text content, .elementOrEnd, _ =>
      some (complete (content.elim .illFormed .string) depth frames)
    | .openArray, .value, _ | .openArray, .elementOrEnd, _ =>
      some (.within (.array [] :: frames) (depth + 1) .elementOrEnd)
    | .openObject, .value, _ | .openObject, .elementOrEnd, _ =>
      some (.within (.object [] none :: frames) (depth + 1) .nameOrEnd)
    | .text content, .nameOrEnd, .object fields _ :: outer
    | .text content, .name, .object fields _ :: outer =>
      some (.within (.object fields content :: outer) depth .colon)
    | .colon, .colon, _ => some (.within frames depth .value)
    | .comma, .separator, .array _ :: _ => some (.within frames depth .value)
    | .comma, .separator, .object _ _ :: _ => some (.within frames depth .name)
    | .closeArray, .elementOrEnd, .array elements :: outer
    | .closeArray, .separator, .array elements :: outer =>
      some (complete (close (.array elements) depth) (depth - 1) outer)
    | .closeObject, .nameOrEnd, .object fields name :: outer
    | .closeObject, .separator, .object fields name :: outer =>
      some (complete (close (.object fields name) depth) (depth - 1) outer)
    | _, _, _ => none

def result? : Reading → Option (Json Number)
  | .done j => some j
  | .within .. => none

end Reading

def read? (text : String) : Option (Json Number) := do
  (← (← tokens? text).foldlM Reading.step? (.within [] 0 .value)).result?

end ParticleShaders.Json
