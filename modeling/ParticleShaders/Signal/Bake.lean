import ParticleShaders.Param.Set
import ParticleShaders.Param.Table
import ParticleShaders.Rejection
import ParticleShaders.Signal.Sample
/-! Baking signals into lookup textures, one row for each signal. A bake holds the signals that it
has taken in, and those that its textures show; the textures are views of the latter. -/

namespace ParticleShaders

structure Texture where
  width : Nat
  height : Nat
  channels : Nat
  data : List Float32

namespace Texture

/-- The channels at a column of a row; a column beyond the width counts on in the next rows. -/
def texel? (t : Texture) (x row : Nat) : Option (List Float32) :=
  let start := (row * t.width + x) * t.channels
  if start + t.channels ≤ t.data.length then some ((t.data.drop start).take t.channels) else none

end Texture

structure Bake where
  stored : List (String × Signal)
  shown : List (String × Signal)
  stored_distinct : (stored.map (·.1)).Nodup
  shown_distinct : (shown.map (·.1)).Nodup

namespace Bake

def empty : Bake := ⟨[], [], by simp, by simp⟩

instance : Inhabited Bake := ⟨empty⟩

def clear (_ : Bake) : Bake := empty

def store (b : Bake) (id : String) (signal : Signal) : Bake :=
  if h : id ∈ b.stored.map (·.1) then b
  else
    { b with
      stored := b.stored ++ [(id, signal)]
      stored_distinct := by
        rw [List.map_append, List.nodup_append]
        refine ⟨b.stored_distinct, by simp, fun a ha c hc => ?_⟩
        rintro rfl
        have same : a = id := by simpa using hc
        exact h (same ▸ ha) }

/-- Takes in signals with their values. One that is stored keeps its value; the first one without
the value of a signal ends it, and those before it stay. -/
def add (b : Bake) (params : ParamTable) : List Param → Bake × Except Rejection Unit
  | [] => (b, .ok ())
  | p :: rest =>
    if (b.stored.map (·.1)).contains p.id then b.add params rest
    else
      match params.find? p.id >>= Signal.ofValue? with
      | some signal => (b.store p.id signal).add params rest
      | none => (b, .error (.missingValue p.id))

def generate (b : Bake) : Bake :=
  { b with shown := b.stored, shown_distinct := b.stored_distinct }

def gradients (b : Bake) : List (String × List (Key Color)) :=
  b.shown.filterMap fun
    | (id, .gradient keys) => some (id, keys)
    | _ => none

def curves (b : Bake) : List (String × List (Key Float32)) :=
  b.shown.filterMap fun
    | (id, .curve keys) => some (id, keys)
    | _ => none

def texture? (channels : Nat) (rows : List (List Float32)) : Option Texture :=
  if rows.isEmpty then none else some ⟨Signal.rowWidth, rows.length, channels, rows.flatten⟩

def colorTexture? (b : Bake) : Option Texture :=
  texture? 4 (b.gradients.map fun g => Signal.gradientRow g.2)

def floatTexture? (b : Bake) : Option Texture :=
  texture? 1 (b.curves.map fun c => Signal.curveRow c.2)

def hasColor (b : Bake) : Bool := !b.gradients.isEmpty

def hasFloat (b : Bake) : Bool := !b.curves.isEmpty

def rowCenter (row rows : Nat) : Float32 :=
  (Number.singleOfInt row + .ofBits 0x3f000000) / Number.singleOfInt rows

def gradientUniform? (b : Bake) (id : String) : Option Float32 :=
  (b.gradients.findIdx? (·.1 = id)).map (rowCenter · b.gradients.length)

def curveUniform? (b : Bake) (id : String) : Option (Vector Float32 4) := do
  let row ← b.curves.findIdx? (·.1 = id)
  let keys ← b.curves.lookup id
  let (low, range) := Signal.extent keys
  return #v[ParamValue.one / range, -low / range, rowCenter row b.curves.length, ParamValue.zero]

def functions (b : Bake) : List String :=
  (if b.hasColor then
    ["float4 sampleSignal(float v,float u)",
     "\x7b",
     "\treturn tex2Dlod(gradientTexture,float4(0.9921875 * saturate(u) + 0.00390625,v,0,0));",
     "\x7d"]
   else [])
  ++ (if b.hasFloat then
    ["float sampleSignal(float4 curveData,float u)",
     "\x7b",
     "\tfloat uNorm = saturate(u * curveData.x + curveData.y);",
     "\treturn tex2Dlod(curveTexture,"
       ++ "float4(0.9921875 * uNorm + 0.00390625,curveData.z,0,0)).r;",
     "\x7d"]
   else [])

end Bake

end ParticleShaders
