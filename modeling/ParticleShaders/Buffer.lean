import ParticleShaders.UsageTable.Basic

namespace ParticleShaders

structure Buffer where
  index : Nat
  usage : Usage
  attributes : List Attribute
  deriving DecidableEq, Repr

namespace Buffer

def usedIn (b : Buffer) (stage : Stage) : Bool := b.usage.usedIn stage

def writableIn (b : Buffer) (stage : Stage) : Bool := b.usage.writableIn stage

def byteSize (b : Buffer) : Nat := b.attributes.foldr (fun a size => a.byteSize + size) 0

/-- Twelve bytes are no stride; the next that is one is sixteen. -/
def stride (b : Buffer) : Nat := if b.byteSize = 12 then 16 else b.byteSize

def isPadded (b : Buffer) : Bool := b.stride ≠ b.byteSize

end Buffer

namespace UsageTable

def defaultBufferLimit : Nat := 6

def usages (t : UsageTable) : List Usage := (t.entries.map (·.2)).eraseDups

def members (t : UsageTable) (u : Usage) : List Attribute :=
  ((t.entries.filter (·.2 = u)).map (·.1)).mergeSort fun a b => b.components ≤ a.components

def pack (t : UsageTable) (limit : Nat) : Except Rejection (List Buffer) :=
  if limit < t.usages.length then .error (.tooManyBuffers t.usages.length limit)
  else .ok (t.usages.mapIdx fun i u => ⟨i, u, t.members u⟩)

end UsageTable

end ParticleShaders
