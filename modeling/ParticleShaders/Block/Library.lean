import ParticleShaders.Block.Descriptor
import ParticleShaders.Dict

namespace ParticleShaders

abbrev Library := Dict Descriptor

namespace Library

inductive LoadError
  | malformed
  | rejected (cause : Rejection)
  | duplicate (blockType : String)

def LoadError.message : LoadError → String
  | .malformed => "failed to parse block library"
  | .rejected cause => cause.message
  | .duplicate blockType => "duplicate block type in library: " ++ blockType

def add (library : Library) (entry : String × Descriptor) : Except LoadError Library :=
  match entry.2.check entry.1 with
  | .error cause => .error (.rejected cause)
  | .ok () =>
    if library.contains entry.1 then .error (.duplicate entry.1)
    else .ok (library.insert entry.1 entry.2)

def ofEntries (entries : List (String × Descriptor)) : Except LoadError Library :=
  entries.foldlM add ∅

end Library

end ParticleShaders
