import ParticleShaders.Generator.Settings
import ParticleShaders.UsageTable.Basic

namespace ParticleShaders

structure InitGenerator where
  lifetime : Option Argument := none
  deriving DecidableEq, Repr

structure UpdateGenerator where
  integrate : Bool := false
  age : Bool := false
  reap : Bool := false
  deriving DecidableEq, Repr

inductive OutputKind
  | point
  | billboard
  deriving DecidableEq, Repr

def OutputKind.ofName? : String → Option OutputKind
  | "point" => some .point
  | "billboard" => some .billboard
  | _ => none

structure OutputGenerator where
  kind : OutputKind := .point
  size : Float32 := .ofBits 0x3dcccccd
  texture : Option Param := none

namespace InitGenerator

def ofSettings (settings : Settings) (params : ParamTable) : Except Rejection InitGenerator :=
  match settings.binding? "lifetime" with
  | .error e => .error (.badSettings .init e.message)
  | .ok none => .ok {}
  | .ok (some b) => (b.resolve params "init" "lifetime" .float).map fun a => ⟨some a⟩

def params (g : InitGenerator) : List Param := (g.lifetime.bind (·.param?)).toList

end InitGenerator

namespace UpdateGenerator

def ofSettings (settings : Settings) : UpdateGenerator where
  integrate := (settings.bool? "integrate").getD false
  age := (settings.bool? "age").getD false
  reap := (settings.bool? "reap").getD false

end UpdateGenerator

namespace OutputGenerator

def kind? (settings : Settings) : Except Rejection OutputKind :=
  let name := (settings.string? "kind").getD "point"
  match OutputKind.ofName? name with
  | some kind => .ok kind
  | none => .error (.badSettings .output ("unknown output kind: " ++ name))

def texture? (settings : Settings) (params : ParamTable) : Except Rejection (Option Param) :=
  match settings.binding? "texture" with
  | .error e => .error (.badSettings .output e.message)
  | .ok none => .ok none
  | .ok (some b) => do
    match ← b.resolve params "output" "texture" .texture2D with
    | .param p => return some p
    | .expr _ => .error (.badSettings .output "texture must be bound to a texture2D param")

def ofSettings (settings : Settings) (params : ParamTable) : Except Rejection OutputGenerator := do
  let kind ← kind? settings
  let texture ← texture? settings params
  return {
    kind
    size := (settings.single? "size").getD ({} : OutputGenerator).size
    texture }

def params (g : OutputGenerator) : List Param := g.texture.toList

def isQuad (g : OutputGenerator) : Bool := g.kind = .billboard

end OutputGenerator

end ParticleShaders
