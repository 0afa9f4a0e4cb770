
namespace ParticleShaders

inductive Stage
  | init
  | update
  | output
  deriving DecidableEq, Repr

namespace Stage

def all : List Stage := [init, update, output]

def label : Stage → String
  | init => "init"
  | update => "update"
  | output => "output"

def ofLabel? (label : String) : Option Stage := all.find? (·.label = label)

def index : Stage → Nat
  | init => 0
  | update => 1
  | output => 2

@[simp] theorem ofLabel?_label (s : Stage) : ofLabel? s.label = some s := by cases s <;> decide

end Stage

end ParticleShaders
