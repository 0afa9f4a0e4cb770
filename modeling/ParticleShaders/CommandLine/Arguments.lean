
namespace ParticleShaders

inductive CountFault
  | empty
  | notDigit
  | tooLarge
  deriving DecidableEq, Repr

def CountFault.message : CountFault → String
  | empty => "cannot parse integer from empty string"
  | notDigit => "invalid digit found in string"
  | tooLarge => "number too large to fit in target type"

namespace Count

def largest : Nat := 0xffffffffffffffff

def appendDigit (n : Nat) (c : Char) : Except CountFault Nat :=
  if !c.isDigit then .error .notDigit
  else
    let next := 10 * n + (c.toNat - '0'.toNat)
    if largest < next then .error .tooLarge else .ok next

def parse (text : String) : Except CountFault Nat :=
  match text.toList with
  | [] => .error .empty
  | ['+'] => .error .notDigit
  | '+' :: digits | digits => digits.foldlM appendDigit 0

end Count

inductive Flag
  | systemPath
  | outputDir
  | bufferLimit
  deriving DecidableEq, Repr

namespace Flag

def name : Flag → String
  | systemPath => "--system-json"
  | outputDir => "--outputdir"
  | bufferLimit => "--max-buffers"

def ofName? : String → Option Flag
  | "--system-json" => some systemPath
  | "--outputdir" | "--output-dir" => some outputDir
  | "--max-buffers" => some bufferLimit
  | _ => none

@[simp] theorem ofName?_name (f : Flag) : ofName? f.name = some f := by cases f <;> rfl

end Flag

structure Arguments where
  systemPath : Option String := none
  outputDir : Option String := none
  bufferLimit : Option Nat := none
  deriving DecidableEq, Repr

namespace Arguments

inductive Fault
  | missingValue (flag : Flag)
  | badLimit (value : String) (cause : CountFault)
  | unknown (argument : String)
  | noSystem
  deriving DecidableEq, Repr

def Fault.message : Fault → String
  | missingValue flag => "missing value for " ++ flag.name
  | badLimit value cause => "invalid --max-buffers value " ++ value ++ ": " ++ cause.message
  | unknown argument =>
    "unknown argument: " ++ argument
      ++ " (supported: --system-json <system.json>, --outputdir <dir>, --max-buffers <n>)"
  | noSystem => "--system-json <system.json> is required"

def set (args : Arguments) (flag : Flag) (value : String) : Except Fault Arguments :=
  match flag with
  | .systemPath => .ok { args with systemPath := some value }
  | .outputDir => .ok { args with outputDir := some value }
  | .bufferLimit =>
    match Count.parse value with
    | .ok limit => .ok { args with bufferLimit := some limit }
    | .error cause => .error (.badLimit value cause)

/-- Takes in further arguments. A value is what follows its flag, whatever it looks like. -/
def extend (args : Arguments) : List String → Except Fault Arguments
  | [] => .ok args
  | [name] =>
    match Flag.ofName? name with
    | none => .error (.unknown name)
    | some flag => .error (.missingValue flag)
  | name :: value :: rest =>
    match Flag.ofName? name with
    | none => .error (.unknown name)
    | some flag =>
      match args.set flag value with
      | .error fault => .error fault
      | .ok more => more.extend rest

def parse (arguments : List String) : Except Fault Arguments := ({} : Arguments).extend arguments

end Arguments

end ParticleShaders
