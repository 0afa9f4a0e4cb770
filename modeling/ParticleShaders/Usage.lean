import ParticleShaders.Stage

namespace ParticleShaders

structure Usage where
  initRead : Bool := false
  initWrite : Bool := false
  updateRead : Bool := false
  updateWrite : Bool := false
  outputRead : Bool := false
  deriving DecidableEq, Repr, Inhabited

namespace Usage

def none : Usage := {}

def init : Usage := { initRead := true, initWrite := true }

def update : Usage := { updateRead := true, updateWrite := true }

instance : Union Usage where
  union u v :=
    { initRead := u.initRead || v.initRead
      initWrite := u.initWrite || v.initWrite
      updateRead := u.updateRead || v.updateRead
      updateWrite := u.updateWrite || v.updateWrite
      outputRead := u.outputRead || v.outputRead }

def declared (stage : Stage) (writable : Bool) : Usage :=
  match stage with
  | .init => { initRead := true, initWrite := writable }
  | .update => { updateRead := true, updateWrite := writable }
  | .output => { outputRead := true }

def ofStage (stage : Stage) : Usage := declared stage true

def usedIn (u : Usage) : Stage → Bool
  | .init => u.initRead || u.initWrite
  | .update => u.updateRead || u.updateWrite
  | .output => u.outputRead

def writableIn (u : Usage) : Stage → Bool
  | .init => u.initWrite
  | .update => u.updateWrite
  | .output => false

def bits (u : Usage) : Nat :=
  u.initRead.toNat + 2 * u.initWrite.toNat + 4 * u.updateRead.toNat + 8 * u.updateWrite.toNat
    + 16 * u.outputRead.toNat

def ofBits (n : Nat) : Usage :=
  ⟨n.testBit 0, n.testBit 1, n.testBit 2, n.testBit 3, n.testBit 4⟩

@[simp] theorem ofBits_bits (u : Usage) : ofBits u.bits = u := by
  obtain ⟨a, b, c, d, e⟩ := u
  cases a <;> cases b <;> cases c <;> cases d <;> cases e <;> rfl

theorem union_eq (u v : Usage) : u ∪ v =
    ⟨u.initRead || v.initRead, u.initWrite || v.initWrite, u.updateRead || v.updateRead,
      u.updateWrite || v.updateWrite, u.outputRead || v.outputRead⟩ := rfl

theorem union_assoc (u v w : Usage) : u ∪ v ∪ w = u ∪ (v ∪ w) := by
  simp [union_eq, Bool.or_assoc]

theorem union_comm (u v : Usage) : u ∪ v = v ∪ u := by
  simp [union_eq, Bool.or_comm]

end Usage

end ParticleShaders
