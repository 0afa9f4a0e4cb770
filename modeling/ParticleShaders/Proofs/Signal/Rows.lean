import Mathlib.Tactic.Ring
import ParticleShaders.Proofs.Signal.Baking

namespace ParticleShaders

namespace Texture

variable {K : Type} {channels : Nat} {entries : List (String × K)} {texels : K → Nat → List Float32}

/-- A texture with the rows that signals are found in, and none where no signal has a row. A texel
is at a place that 32 bits can tell as long as there are fewer rows than `2 ^ 23`. -/
structure Shows (t? : Option Texture) (channels : Nat) (row? : String → Option Nat) (rows : Nat)
    (keyed : String → K → Prop) (texels : K → Nat → List Float32) : Prop where
  isSome_iff : t?.isSome ↔ ∃ id, (row? id).isSome
  shape : ∀ t ∈ t?, t.width = 128 ∧ t.channels = channels ∧ t.height = rows ∧
    t.data.length = 128 * channels * t.height
  row_iff : ∀ t ∈ t?, ∀ r, r < t.height ↔ ∃ id, row? id = some r
  row_inj : ∀ id id' r, row? id = some r → row? id' = some r → id = id'
  texel : ∀ t ∈ t?, ∀ id r, row? id = some r → ∃ keys, keyed id keys ∧
    ∀ x < 128, t.texel? x r = some (texels keys x)
  inside : ∀ t ∈ t?, t.height < 2 ^ 23 → ∀ x < 128, ∀ r < t.height,
    (r * t.width + x) * t.channels + t.channels ≤ 2 ^ 32

section Rows

variable (uniform : ∀ keys x, (texels keys x).length = channels)

include uniform

end Rows

end Texture

namespace Signal

variable {entries : List (String × Signal)}

def gradientTexels (keys : List (Key Color)) (x : Nat) : List Float32 :=
  (sample mixColors white keys (fraction x)).toList

def curveTexels (keys : List (Key Float32)) (x : Nat) : List Float32 :=
  let (low, range) := extent keys
  [sample mix ParamValue.zero keys
    (low + range * Number.singleOfInt x / Number.singleOfInt (rowWidth - 1 : Nat))]

end Signal

end ParticleShaders
