import ParticleShaders.UsageTable.Basic
/-! Rules that hold for a system as a whole: phase shift, random numbers, default values. -/

namespace ParticleShaders

structure Demands where
  initRand : Bool := false
  updateRand : Bool := false
  updateKill : Bool := false
  deriving DecidableEq, Repr, Inhabited

def Demands.rand (d : Demands) : Bool := d.initRand || d.updateRand

namespace UsageTable

/-- A table to which the rules have been applied. `defaulted` lists the attributes that get a
default value for want of another, but for those where this is as it should be. -/
structure Ruled where
  table : UsageTable
  demands : Demands
  defaulted : List String

def phaseShiftLacks? (t : UsageTable) : Option Attribute :=
  [Attribute.position, Attribute.velocity].find? (!t.contains ·)

/-- A phase shift moves each particle by a random part of a frame: it needs a phase of its own,
random numbers at birth, and writes the position. -/
def phaseShiftUses : List (Attribute × Usage) :=
  [(.phase, .init ∪ .update), (.position, .init ∪ .update),
    (.velocity, { initRead := true, updateRead := true })]

def uninitialized (t : UsageTable) : List Attribute :=
  (t.entries.filter fun e => !e.2.usedIn .init).map (·.1)

def applyDefaults (t : UsageTable) (demands : Demands) : Ruled :=
  let seeded := if demands.rand then t.add .seed (.init ∪ .update) else t
  let unset := seeded.uninitialized
  { table := seeded.addAll (unset.map (·, .init))
    demands := { demands with updateRand := demands.rand }
    defaulted := (unset.filter fun a => a ≠ .seed ∧ a ≠ .age).map (·.name) }

def applyRules (t : UsageTable) (demands : Demands) (phaseShift : Bool) : Except Rejection Ruled :=
  if phaseShift then
    match t.phaseShiftLacks? with
    | some a => .error (.phaseShift a.name)
    | none => .ok ((t.addAll phaseShiftUses).applyDefaults { demands with initRand := true })
  else .ok (t.applyDefaults demands)

end UsageTable

end ParticleShaders
