import ParticleShaders.Number.Style
import ParticleShaders.ParticleSystem.Format

namespace ParticleShaders

abbrev Settings := Dict Json.Value

namespace Settings

def bool? (settings : Settings) (key : String) : Option Bool := settings.find? key >>= (·.bool?)

def single? (settings : Settings) (key : String) : Option Float32 :=
  (settings.find? key >>= (·.number?)).map (·.toSingle)

def string? (settings : Settings) (key : String) : Option String :=
  settings.find? key >>= (·.string?)

structure BadBinding where
  key : String
  deriving DecidableEq, Repr

def BadBinding.message (e : BadBinding) : String :=
  "invalid slot binding for " ++ e.key
    ++ ": data did not match any variant of untagged enum SlotBinding"

/-- A binding; a bare number is short for the literal of that number, and `null` is none. -/
def binding? (settings : Settings) (key : String) : Except BadBinding (Option Binding) :=
  match settings.find? key with
  | none => .ok none
  | some v =>
    if v.isNull then .ok none else
    match v.number? with
    | some n => .ok (some (.expr (Number.literal n.toSingle)))
    | none =>
      match Binding.ofJson? v.json with
      | some b => .ok (some b)
      | none => .error ⟨key⟩

end Settings

end ParticleShaders
