import ParticleShaders.Proofs.Plan.Attributes
import ParticleShaders.Proofs.Shader.Names

namespace ParticleShaders

namespace Field

def components? (f : Field) : Option Nat :=
  match f.type with
  | "float" | "int" | "uint" => some 1
  | "float2" => some 2
  | "float3" => some 3
  | "float4" => some 4
  | _ => none

end Field

namespace Buffer

variable {b : Buffer}

theorem byteSize_eq_sum (b : Buffer) : b.byteSize = (b.attributes.map (·.byteSize)).sum := by
  simp [byteSize, List.sum, List.foldr_map]

def addSize? (size : UInt32) (a : Attribute) : Option UInt32 :=
  if size.toNat + a.byteSize < 2 ^ 32 then some (size + .ofNat a.byteSize) else none

def wordSize? (b : Buffer) : Option UInt32 := b.attributes.foldlM addSize? 0

theorem exists_foldlM_addSize {as : List Attribute} {done : UInt32}
    (fits : done.toNat + (as.map (·.byteSize)).sum < 2 ^ 32) :
    ∃ size, as.foldlM addSize? done = some size ∧
      size.toNat = done.toNat + (as.map (·.byteSize)).sum := by
  -- The sum so far fits together with all that is still to come.
  induction as generalizing done with
  | nil => exact ⟨done, rfl, rfl⟩
  | cons a rest ih =>
    rw [List.map_cons, List.sum_cons, ← Nat.add_assoc] at fits ⊢
    have step : (done + UInt32.ofNat a.byteSize).toNat = done.toNat + a.byteSize := by
      rw [UInt32.toNat_add, UInt32.toNat_ofNat']
      omega
    obtain ⟨size, summed, total⟩ := ih (step ▸ fits)
    refine ⟨size, ?_, step ▸ total⟩
    rw [List.foldlM_cons, addSize?, if_pos (by omega)]
    exact summed

/-- Fewer attributes than these do not overflow 32 bits, however large they are. -/
def attributeBound : Nat := 2 ^ 32 / 16

theorem byteSize_lt (few : b.attributes.length < attributeBound) : b.byteSize < 2 ^ 32 := by
  have small : ∀ size ∈ b.attributes.map (·.byteSize), size ≤ 16 := by
    intro size hsize
    obtain ⟨a, -, rfl⟩ := List.mem_map.1 hsize
    have most : a.components ≤ 4 := by
      unfold Attribute.components
      cases a.type <;> decide
    exact Nat.mul_le_mul_left 4 most
  have total := List.sum_le_card_nsmul _ 16 small
  rw [List.length_map, smul_eq_mul, ← byteSize_eq_sum] at total
  unfold attributeBound at few
  omega

/-- Below the bound, the size of a buffer is the same in 32 bits. -/
theorem exists_wordSize (few : b.attributes.length < attributeBound) :
    ∃ size, b.wordSize? = some size ∧ size.toNat = b.byteSize := by
  have fits : (0 : UInt32).toNat + (b.attributes.map (·.byteSize)).sum < 2 ^ 32 := by
    simpa [byteSize_eq_sum] using byteSize_lt few
  obtain ⟨size, summed, total⟩ := exists_foldlM_addSize fits
  exact ⟨size, summed, by simpa [byteSize_eq_sum] using total⟩

end Buffer

namespace Compilation

variable {system : ParticleSystem} {library : Library} {params : ParamTable} {options : Options}
  (s : Compilation system library params options) {n : Nat} {b : Buffer}

end Compilation

end ParticleShaders
