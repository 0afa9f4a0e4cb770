import ParticleShaders.ValueType

namespace ParticleShaders

structure Param where
  id : String
  type : ValueType
  deriving DecidableEq, Repr

end ParticleShaders
