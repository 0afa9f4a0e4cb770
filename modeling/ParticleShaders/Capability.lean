
namespace ParticleShaders

inductive Capability
  | rand
  | kill
  deriving DecidableEq, Repr

namespace Capability

def name : Capability → String
  | rand => "rand"
  | kill => "kill"

def ofName? : String → Option Capability
  | "rand" => some rand
  | "kill" => some kill
  | _ => none

@[simp] theorem ofName?_name (c : Capability) : ofName? c.name = some c := by cases c <;> rfl

def bits (cs : List Capability) : Nat := (cs.contains rand).toNat + 2 * (cs.contains kill).toNat

end Capability

end ParticleShaders
