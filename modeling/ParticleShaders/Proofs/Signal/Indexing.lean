import Mathlib.Data.List.Induction
import ParticleShaders.Proofs.Dict
import ParticleShaders.Proofs.Signal.History

namespace ParticleShaders

namespace Dict

variable {K α : Type} {value : Nat → K → α} {entries : List (String × K)}

def places (value : Nat → K → α) (entries : List (String × K)) : Dict α :=
  .ofList (entries.mapIdx fun i e => (e.1, value i e.2))

end Dict

/-- Signals, the rows that they are found in, and two textures. Nothing in the type ties these
together. -/
@[ext] structure IndexedSignals where
  values : List (String × Signal)
  gradientRows : Dict Nat
  curveRows : Dict (Nat × Float32 × Float32)
  color? : Option Texture
  float? : Option Texture

namespace IndexedSignals

instance : EmptyCollection IndexedSignals := ⟨⟨[], ∅, ∅, none, none⟩⟩

structure Filling where
  gradientRows : Dict Nat := ∅
  curveRows : Dict (Nat × Float32 × Float32) := ∅
  color : List Float32 := []
  float : List Float32 := []

/-- Gives a signal the row that is next by the rows that there are, and fills it texel by texel. -/
def Filling.take (f : Filling) : String × Signal → Filling
  | (id, .gradient keys) =>
    { f with
      gradientRows := f.gradientRows.insert id f.gradientRows.size
      color := (List.range Signal.rowWidth).foldl (fun data x =>
        data ++ (Signal.sample Signal.mixColors Signal.white keys (Signal.fraction x)).toList)
        f.color }
  | (id, .curve keys) =>
    let (low, range) := Signal.extent keys
    let time (x : Nat) : Float32 :=
      low + range * Number.singleOfInt x / Number.singleOfInt (Signal.rowWidth - 1 : Nat)
    { f with
      curveRows := f.curveRows.insert id (f.curveRows.size, low, range)
      float := (List.range Signal.rowWidth).foldl (fun data x =>
        data ++ [Signal.sample Signal.mix ParamValue.zero keys (time x)]) f.float }

def generate (r : IndexedSignals) : IndexedSignals :=
  let f := r.values.foldl Filling.take {}
  { r with
    gradientRows := f.gradientRows
    curveRows := f.curveRows
    color? := if f.gradientRows.isEmpty then none
      else some ⟨Signal.rowWidth, f.gradientRows.size, 4, f.color⟩
    float? := if f.curveRows.isEmpty then none
      else some ⟨Signal.rowWidth, f.curveRows.size, 1, f.float⟩ }

def push (r : IndexedSignals) (id : String) (signal : Signal) : IndexedSignals :=
  { r with values := r.values ++ [(id, signal)] }

def add (r : IndexedSignals) (params : ParamTable) :
    List Param → IndexedSignals × Except Rejection Unit
  | [] => (r, .ok ())
  | p :: rest =>
    if r.values.any (·.1 = p.id) then r.add params rest
    else
      match params.find? p.id with
      | some (.colorGradient keys) =>
        (r.push p.id (.gradient (Signal.sortKeys keys))).add params rest
      | some (.curve keys) => (r.push p.id (.curve (Signal.sortKeys keys))).add params rest
      | _ => (r, .error (.missingValue p.id))

def apply (r : IndexedSignals) : Bake.Call → IndexedSignals
  | .clear => ∅
  | .add params signals => (r.add params signals.params).1
  | .generate => r.generate

def after : List Bake.Call → IndexedSignals
  | [] => ∅
  | call :: earlier => (after earlier).apply call

def gradientUniform? (r : IndexedSignals) (id : String) : Option Float32 :=
  (r.gradientRows.find? id).map (Bake.rowCenter · r.gradientRows.size)

def placeIn (low range : Float32) (row rows : Nat) : Vector Float32 4 :=
  #v[ParamValue.one / range, -low / range, Bake.rowCenter row rows, ParamValue.zero]

def curveUniform? (r : IndexedSignals) (id : String) : Option (Vector Float32 4) :=
  (r.curveRows.find? id).map fun e => placeIn e.2.1 e.2.2 e.1 r.curveRows.size

def curveRow? (r : IndexedSignals) (id : String) : Option Nat := (r.curveRows.find? id).map (·.1)

structure Coherent (r : IndexedSignals) : Prop where
  distinct : (r.values.map (·.1)).Nodup
  gradients : Texture.Shows r.color? 4 r.gradientRows.find? r.gradientRows.size
    (fun id keys => (id, .gradient keys) ∈ r.values) Signal.gradientTexels
  curves : Texture.Shows r.float? 1 r.curveRow? r.curveRows.size
    (fun id keys => (id, .curve keys) ∈ r.values) Signal.curveTexels
  few : r.gradientRows.size + r.curveRows.size ≤ r.values.length
  extents : ∀ id row extent, r.curveRows.find? id = some (row, extent) →
    ∃ keys, (id, .curve keys) ∈ r.values ∧ Signal.extent keys = extent

namespace Filling

variable {gradients : List (String × List (Key Color))}
  {curves : List (String × List (Key Float32))} {id : String}

end Filling

variable {b : Bake} {id : String} {s : Signal} {params : ParamTable}

def ofBake (b : Bake) : IndexedSignals where
  values := b.stored
  gradientRows := .places (fun i _ => i) b.gradients
  curveRows := .places (fun i keys => (i, Signal.extent keys)) b.curves
  color? := b.colorTexture?
  float? := b.floatTexture?

section Rows

variable (b : Bake)

end Rows

end IndexedSignals

end ParticleShaders
