import ParticleShaders.Host.Layout

namespace ParticleShaders

inductive Kernel
  | init
  | update
  deriving DecidableEq, Repr

def Kernel.name : Kernel → String
  | .init => "CSVFXInit"
  | .update => "CSVFXUpdate"

inductive PushTarget
  | compute
  | kernel (k : Kernel)
  | material
  deriving DecidableEq, Repr

def PushTarget.label : PushTarget → String
  | .compute => "compute"
  | .kernel k => k.name
  | .material => "material"

inductive PushValue
  | float (x : Float32)
  | floats (xs : List Float32)
  | vector (v : Vector Float32 4)
  | int (i : Int32)
  | matrix (m : Vector Float32 16)
  | texture (path : String)
  | baked (t : Texture)

structure Push where
  target : PushTarget
  name : String
  value : PushValue

namespace Push

def occursIn (part : List Char) : List Char → Bool
  | [] => part.isEmpty
  | c :: rest => part.isPrefixOf (c :: rest) || occursIn part rest

def samplerKernels (name : String) : List Kernel :=
  let speaksOf (part : String) : Bool := occursIn part.toList name.toList
  (if speaksOf "global" || speaksOf "init" then [Kernel.init] else [])
    ++ (if speaksOf "global" || speaksOf "update" then [Kernel.update] else [])

def ofTexture (targets : List PushTarget) (name path : String) : List Push :=
  if path = "" then [] else targets.map (⟨·, name, .texture path⟩)

def ofCompute (params : ParamTable) (bake : Bake) (id name : String) :
    Except Rejection (List Push) :=
  let one (value : PushValue) : Except Rejection (List Push) := .ok [⟨.compute, name, value⟩]
  match params.find? id with
  | none => .error (.missingValue id)
  | some (.float x) => one (.float x)
  | some (.float2 v) => one (.floats v.toList)
  | some (.float3 v) => one (.floats v.toList)
  | some (.float4 v) => one (.vector v)
  | some (.int i) => one (.int i)
  | some (.uint n) => one (.int n.toInt32)
  | some (.transform m) => one (.floats m.toList)
  | some (.texture2D path) | some (.texture3D path) =>
    .ok (ofTexture ((samplerKernels name).map .kernel) name path)
  | some (.colorGradient _) =>
    match bake.gradientUniform? id with
    | some x => one (.float x)
    | none => .error (.missingValue id)
  | some (.curve _) =>
    match bake.curveUniform? id with
    | some v => one (.vector v)
    | none => .error (.missingValue id)

/-- A uniform of the drawing. Short vectors are filled up with zeros; a signal cannot be pushed. -/
def ofMaterial (params : ParamTable) (id name : String) : Except Rejection (List Push) :=
  let one (value : PushValue) : Except Rejection (List Push) := .ok [⟨.material, name, value⟩]
  let zero := ParamValue.zero
  match params.find? id with
  | none => .error (.missingValue id)
  | some (.float x) => one (.float x)
  | some (.float2 v) => one (.vector #v[v[0], v[1], zero, zero])
  | some (.float3 v) => one (.vector #v[v[0], v[1], v[2], zero])
  | some (.float4 v) => one (.vector v)
  | some (.int i) => one (.int i)
  | some (.uint n) => one (.int n.toInt32)
  | some (.transform m) => one (.matrix m)
  | some (.texture2D path) | some (.texture3D path) => .ok (ofTexture [.material] name path)
  | some (.colorGradient _) => .error (.outputSignal id .colorGradient)
  | some (.curve _) => .error (.outputSignal id .curve)

def ofBake (bake : Bake) : List Push :=
  let toBoth (name : String) (t : Option Texture) : List Push :=
    t.toList.flatMap fun t =>
      [⟨.kernel .init, name, .baked t⟩, ⟨.kernel .update, name, .baked t⟩]
  toBoth "gradientTexture" bake.colorTexture? ++ toBoth "curveTexture" bake.floatTexture?

end Push

namespace HostLayout

def pushes (l : HostLayout) (params : ParamTable) (bake : Bake) : Except Rejection (List Push) := do
  let compute ← l.uniforms.entries.mapM fun e => Push.ofCompute params bake e.1 e.2
  let material ← l.outputUniforms.entries.mapM fun e => Push.ofMaterial params e.1 e.2
  return compute.flatten ++ material.flatten ++ Push.ofBake bake

def pushTo (l : HostLayout) (params : ParamTable) (bake : Bake) (records : List Push) :
    List Push × Except Rejection Unit :=
  match l.pushes params bake with
  | .ok new => (records ++ new, .ok ())
  | .error e => (records, .error e)

end HostLayout

end ParticleShaders
