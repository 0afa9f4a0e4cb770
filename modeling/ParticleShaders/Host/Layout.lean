import ParticleShaders.Shader.Storage

namespace ParticleShaders

/-- A buffer with its stride, and the variable that each program knows it by; `none` where the
program has nothing to do with it. -/
structure BufferBinding where
  stride : Nat
  init : Option String
  update : Option String
  output : Option String
  deriving DecidableEq, Repr

namespace Buffer

def boundName (b : Buffer) (stage : Stage) : String :=
  if b.writableIn stage then b.variableName else b.readOnlyName

def binding (b : Buffer) : BufferBinding where
  stride := b.stride
  init := if b.usedIn .init then some (b.boundName .init) else none
  update := if b.usedIn .update then some (b.boundName .update) else none
  output := if b.usedIn .output then some b.variableName else none

end Buffer

structure HostLayout where
  buffers : List BufferBinding
  uniforms : Naming
  outputUniforms : Naming
  hasKill : Bool
  isQuad : Bool

def Blueprint.hostLayout (d : Blueprint) (g : OutputGenerator) : HostLayout where
  buffers := d.buffers.map (·.binding)
  uniforms := d.naming
  outputUniforms := d.outputNaming
  hasKill := d.hasKill
  isQuad := g.isQuad

end ParticleShaders
