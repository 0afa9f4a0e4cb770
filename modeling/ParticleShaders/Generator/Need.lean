import ParticleShaders.Generator.Basic
/-! What generators need of the attributes of a system, and what they add to their uses. -/

namespace ParticleShaders

/-- A task of a generator: it requires attributes to be there, uses some, and reads others where
they are there. -/
structure Need where
  task : String
  requires : List Attribute := []
  uses : List (Attribute × Usage) := []
  usesIfPresent : List (Attribute × Usage) := []
  capabilities : List Capability := []

namespace Need

def missing? (n : Need) (t : UsageTable) : Option Attribute := n.requires.find? (!t.contains ·)

def addTo (n : Need) (t : UsageTable) : UsageTable :=
  let used := t.addAll n.uses
  used.addAll (n.usesIfPresent.filter (used.contains ·.1))

/-- Meets needs in order up to the first one that cannot be met. The table has the uses of those
that were met, also then; on success the capabilities that they take are given. -/
def meetAll (stage : Stage) :
    List Need → UsageTable → UsageTable × Except Rejection (List Capability)
  | [], t => (t, .ok [])
  | n :: rest, t =>
    match n.missing? t with
    | some a => (t, .error (.unmetNeed stage (n.task ++ " requires a " ++ a.name ++ " attribute")))
    | none =>
      let (t, result) := meetAll stage rest (n.addTo t)
      (t, result.map (n.capabilities ++ ·))

end Need

def InitGenerator.needs (g : InitGenerator) : List Need :=
  if g.lifetime.isSome then
    [{ task := "aging", uses := [(.lifetime, .declared .init true), (.age, .declared .init true)] }]
  else []

def UpdateGenerator.needs (g : UpdateGenerator) : List Need :=
  let write := Usage.declared .update true
  let read := Usage.declared .update false
  (if g.integrate then
    [{ task := "integration", requires := [.position, .velocity],
       uses := [(.position, write), (.velocity, read)] }] else [])
  ++ (if g.age then [{ task := "aging", requires := [.age], uses := [(.age, write)] }] else [])
  ++ (if g.reap then
    [{ task := "reaping", requires := [.age, .lifetime], uses := [(.age, read), (.lifetime, read)],
       capabilities := [.kill] }] else [])

def OutputGenerator.reads (g : OutputGenerator) : List Attribute :=
  match g.kind with
  | .point => [.position, .color, .alpha]
  | .billboard => [.position, .color, .alpha, .size, .angle]

def OutputGenerator.needs (g : OutputGenerator) : List Need :=
  [{ task := "rendering", requires := [.position],
     usesIfPresent := g.reads.map (·, .declared .output false) }]

end ParticleShaders
