import ParticleShaders.CommandLine.Job

namespace ParticleShaders

def systemError? : IO.Error → Option (UInt32 × String)
  | .alreadyExists _ code details | .inappropriateType _ code details
  | .invalidArgument _ code details | .noFileOrDirectory _ code details
  | .noSuchThing _ code details | .permissionDenied _ code details
  | .resourceExhausted _ code details => some (code, details)
  | .hardwareFault code details | .illegalOperation code details | .otherError code details
  | .protocolError code details | .resourceBusy code details | .resourceVanished code details
  | .timeExpired code details | .unsatisfiedConstraints code details
  | .unsupportedOperation code details => some (code, details)
  | .interrupted _ code details => some (code, details)
  | .unexpectedEof | .userError _ => none

def refusal (e : IO.Error) : Refusal :=
  match systemError? e with
  | some (2, _) => .missing
  | some (17, _) => .alreadyThere
  | some (20, _) => .notDirectory
  | some (21, _) => .directory
  | some (36, _) => .nameTooLong
  | some (code, details) => .other (details ++ " (os error " ++ toString code ++ ")")
  | none => .other (toString e)

/-- Does something with a file. On this machine no file's name holds a NUL. -/
def attempt {α : Type} (path : String) (action : IO α) : IO (Except Refusal α) := do
  if path.contains '\x00' then return .error .nulInName
  try return .ok (← action)
  catch e => return .error (refusal e)

def readBytes (path : String) : IO ByteArray := do
  (← IO.FS.Handle.mk path .read).readBinToEnd

def machineDisk : Disk IO where
  read path := do
    match ← attempt path (readBytes path) with
    | .error cause => return .error cause
    | .ok bytes =>
      match String.fromUTF8? bytes with
      | some text => return .ok text
      | none => return .error (.other "stream did not contain valid UTF-8")
  write path contents := attempt path (IO.FS.writeFile path contents)
  makeDirectory path := attempt path (IO.FS.createDir path)
  isDirectory path := do
    match ← attempt path (readBytes path) with
    | .error .directory => return true
    | _ => return false

def Level.tag : Level → String
  | .debug => "DEBUG"
  | .info => "INFO"
  | .warning => "WARN"
  | .error => "ERROR"

def tell (ending : Job.Ending) : IO UInt32 := do
  for entry in ending.log do
    if entry.level ≠ .debug then IO.eprintln ("[" ++ entry.level.tag ++ "] " ++ entry.text)
  match ending.result with
  | .ok () => return 0
  | .error failure =>
    IO.eprint (Job.errorText failure.message failure.cause?)
    return 1

end ParticleShaders

open ParticleShaders in
def main (arguments : List String) : IO UInt32 := do
  match ← Job.runArguments machineDisk arguments with
  | .ok ending => tell ending
  | .error fault =>
    IO.eprint (Job.errorText fault.message none)
    return 1
