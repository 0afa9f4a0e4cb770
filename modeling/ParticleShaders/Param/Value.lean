import ParticleShaders.Json.Printer
import ParticleShaders.Json.Record
import ParticleShaders.ValueType

namespace ParticleShaders

structure Key (α : Type) where
  time : Float32
  value : α

abbrev Color := Vector Float32 4

/-- A texture is the path of its asset, and an empty path binds nothing. A transform is a matrix of
four columns. -/
inductive ParamValue
  | float (x : Float32)
  | float2 (v : Vector Float32 2)
  | float3 (v : Vector Float32 3)
  | float4 (v : Vector Float32 4)
  | int (i : Int32)
  | uint (n : UInt32)
  | texture2D (path : String)
  | texture3D (path : String)
  | transform (m : Vector Float32 16)
  | colorGradient (keys : List (Key Color))
  | curve (keys : List (Key Float32))

namespace ParamValue

def type : ParamValue → ValueType
  | float _ => .float
  | float2 _ => .float2
  | float3 _ => .float3
  | float4 _ => .float4
  | int _ => .int
  | uint _ => .uint
  | texture2D _ => .texture2D
  | texture3D _ => .texture3D
  | transform _ => .transform
  | colorGradient _ => .colorGradient
  | curve _ => .curve

inductive Mismatch
  | notNumbers (count : Nat) (found : Json.Value)
  | notInteger (found : Json.Value)
  | outOfRange (found : Json.Value)
  | gradientKeys
  | curveKeys

def Mismatch.message : Mismatch → String
  | .notNumbers count found =>
    "expected an array of " ++ toString count ++ " numbers, got " ++ found.json.write
  | .notInteger found => "expected an integer, got " ++ found.json.write
  | .outOfRange found => "integer " ++ found.json.write ++ " is out of range"
  | .gradientKeys => "invalid colorGradient keys"
  | .curveKeys => "invalid curve keys"

def zero : Float32 := .ofBits 0

def one : Float32 := .ofBits 0x3f800000

def single? : Json Number → Option Float32
  | .number n => some n.toSingle
  | _ => none

def numbers (count : Nat) (v : Json.Value) : Except Mismatch (Vector Float32 count) :=
  match v.json with
  | .array elements => .ok (.ofFn fun i => (elements[i.val]?.bind single?).getD zero)
  | .null => .ok (.replicate count zero)
  | _ => .error (.notNumbers count v)

def identity : Vector Float32 16 := .ofFn fun i => if i.val % 5 = 0 then one else zero

def matrix (v : Json.Value) : Except Mismatch (Vector Float32 16) :=
  if v.isNull then .ok identity else numbers 16 v

def integer (low high : Int) (v : Json.Value) : Except Mismatch Int :=
  match v.json with
  | .null => .ok 0
  | .number (.int i) => if low ≤ i ∧ i < high then .ok i else .error (.outOfRange v)
  | _ => .error (.notInteger v)

def keyNumber? : Json Number → Option Float32
  | .number n => some n.toSingleDirectly
  | _ => none

def color? (j : Json Number) : Option Color := do
  match ← Json.list? keyNumber? j with
  | [r, g, b, a] => some #v[r, g, b, a]
  | _ => none

def gradientKey? (j : Json Number) : Option (Key Color) := do
  let record ← Json.Record.ofJson? ["time", "color"] j
  return ⟨← record.required "time" keyNumber?, ← record.required "color" color?⟩

def curveKey? (j : Json Number) : Option (Key Float32) := do
  let record ← Json.Record.ofJson? ["time", "value"] j
  return ⟨← record.required "time" keyNumber?, ← record.required "value" keyNumber?⟩

def path (v : Json.Value) : String := v.string?.getD ""

def ofJson (type : ValueType) (v : Json.Value) : Except Mismatch ParamValue :=
  match type with
  | .float => .ok (.float ((single? v.json).getD zero))
  | .float2 => (numbers 2 v).map .float2
  | .float3 => (numbers 3 v).map .float3
  | .float4 => (numbers 4 v).map .float4
  | .int => (integer (-0x80000000) 0x80000000 v).map fun i => .int (.ofInt i)
  | .uint => (integer 0 0x100000000 v).map fun i => .uint (.ofNat i.toNat)
  | .texture2D => .ok (.texture2D (path v))
  | .texture3D => .ok (.texture3D (path v))
  | .transform => (matrix v).map .transform
  | .colorGradient =>
    match Json.list? gradientKey? v.json with
    | some keys => .ok (.colorGradient keys)
    | none => .error .gradientKeys
  | .curve =>
    match Json.list? curveKey? v.json with
    | some keys => .ok (.curve keys)
    | none => .error .curveKeys

end ParamValue

end ParticleShaders
