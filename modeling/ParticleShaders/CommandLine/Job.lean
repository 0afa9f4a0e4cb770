import ParticleShaders.Block.Standard
import ParticleShaders.CommandLine.Arguments
import ParticleShaders.Compile
import ParticleShaders.Files.Basic
import ParticleShaders.Host.Report

namespace ParticleShaders

structure Job where
  systemPath : String
  outputDir : String := "."
  bufferLimit : Option Nat := none
  deriving DecidableEq, Repr

def Arguments.job (args : Arguments) : Except Arguments.Fault Job :=
  match args.systemPath with
  | none => .error .noSystem
  | some systemPath =>
    .ok ⟨systemPath, args.outputDir.getD ({ systemPath } : Job).outputDir, args.bufferLimit⟩

structure LogEntry where
  level : Level
  text : String
  deriving DecidableEq, Repr

def Diagnostic.logEntry (d : Diagnostic) : LogEntry := ⟨d.level, d.message⟩

def Push.logEntry (p : Push) : LogEntry := ⟨.debug, "push " ++ p.name ++ " -> " ++ p.target.label⟩

structure Product where
  compiled : Compiled
  phaseShift : Bool
  pushes : List Push

namespace Product

def report (p : Product) : String :=
  (Report.system p.compiled.systemId p.phaseShift p.compiled.layout p.pushes).pretty
    ReportNumber.write 0

def files (p : Product) : List (String × String) :=
  let name := p.compiled.name
  [(name ++ ".compute", p.compiled.simulation), (name ++ ".shader", p.compiled.drawing),
    (name ++ ".layout.json", p.report)]

end Product

namespace Job

inductive Failure
  | unreadable (path : String) (cause : Refusal)
  | malformed
  | badParams (path : String) (cause : ParamTable.LoadError)
  | tooFewBuffers (systemId : String) (limit : Nat) (cause : Rejection)
  | rejected (systemId : String) (cause : Rejection)
  | unpushable (systemId : String) (cause : Rejection)
  | uncreatable (dir : String) (cause : Refusal)
  | unwritable (path : String) (cause : Refusal)

namespace Failure

def message : Failure → String
  | unreadable path _ => "failed to read system json at " ++ path
  | malformed => "failed to parse system json"
  | badParams path _ => "invalid params in " ++ path
  | tooFewBuffers systemId limit cause =>
    "system " ++ systemId ++ " does not fit in " ++ toString limit ++ " attribute buffers: "
      ++ cause.message
  | rejected systemId _ => "failed to compile system " ++ systemId
  | unpushable systemId _ => "failed to push uniforms for system " ++ systemId
  | uncreatable dir _ => "failed to create " ++ dir
  | unwritable path _ => "failed to write " ++ path

def cause? : Failure → Option String
  | unreadable _ cause | uncreatable _ cause | unwritable _ cause => some cause.message
  | malformed => some "the text is not the JSON form of a system"
  | badParams _ cause => some cause.message
  | rejected _ cause | unpushable _ cause => some cause.message
  | tooFewBuffers .. => none

end Failure

/-- A failure is shown with its cause below it, indented in all its lines. -/
def errorText (message : String) (cause : Option String) : String :=
  "Error: " ++ message ++ "\n" ++ match cause with
    | none => ""
    | some cause => "\nCaused by:\n    " ++ "\n    ".intercalate (cause.splitOn "\n") ++ "\n"

def options (job : Job) (system : ParticleSystem) : Options :=
  let standard := Options.ofSystem system
  { standard with bufferLimit := job.bufferLimit.getD standard.bufferLimit }

def produce (job : Job) (system : ParticleSystem) (params : ParamTable) :
    List LogEntry × Except Failure Product :=
  let outcome := system.compile Library.standard params (job.options system) Bake.empty
  let told := outcome.diagnostics.map (·.logEntry)
  match outcome.result with
  | .error e =>
    (told, .error (if e.isCapacity then .tooFewBuffers system.id outcome.options.bufferLimit e
      else .rejected system.id e))
  | .ok compiled =>
    match compiled.layout.pushes params outcome.bake with
    | .error e => (told, .error (.unpushable system.id e))
    | .ok pushes =>
      (told ++ pushes.map (·.logEntry), .ok ⟨compiled, outcome.options.phaseShift, pushes⟩)

def produceText (job : Job) (text : String) : List LogEntry × Except Failure Product :=
  match ParticleSystem.parse? text with
  | none => ([], .error .malformed)
  | some system =>
    match ParamTable.ofDecls system.params with
    | .error cause => ([], .error (.badParams job.systemPath cause))
    | .ok params => job.produce system params

structure Ending where
  log : List LogEntry
  result : Except Failure Unit

variable {m : Type → Type} [Monad m] (disk : Disk m)

def save (dir : String) : List (String × String) → m Ending
  | [] => return ⟨[], .ok ()⟩
  | (name, contents) :: rest => do
    let path := Path.join dir name
    match ← disk.write path contents with
    | .error cause => return ⟨[], .error (.unwritable path cause)⟩
    | .ok () =>
      let ending ← save dir rest
      return { ending with log := ⟨.info, "saved: " ++ path⟩ :: ending.log }

def deliver (job : Job) (p : Product) : m Ending := do
  match ← disk.makeDirectories job.outputDir with
  | .error cause => return ⟨[], .error (.uncreatable job.outputDir cause)⟩
  | .ok () => save disk job.outputDir p.files

def run (job : Job) : m Ending := do
  match ← disk.read job.systemPath with
  | .error cause => return ⟨[], .error (.unreadable job.systemPath cause)⟩
  | .ok text =>
    match job.produceText text with
    | (log, .error failure) => return ⟨log, .error failure⟩
    | (log, .ok product) =>
      let ending ← job.deliver disk product
      return { ending with log := log ++ ending.log }

def runArguments (arguments : List String) : m (Except Arguments.Fault Ending) := do
  match Arguments.parse arguments >>= Arguments.job with
  | .error fault => return .error fault
  | .ok job => return .ok (← job.run disk)

end Job

end ParticleShaders
