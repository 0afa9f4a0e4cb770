
namespace ParticleShaders

inductive Refusal
  | missing
  | alreadyThere
  | notDirectory
  | directory
  | nameTooLong
  | nulInName
  | other (reason : String)
  deriving DecidableEq, Repr

def Refusal.message : Refusal → String
  | missing => "No such file or directory (os error 2)"
  | alreadyThere => "File exists (os error 17)"
  | notDirectory => "Not a directory (os error 20)"
  | directory => "Is a directory (os error 21)"
  | nameTooLong => "File name too long (os error 36)"
  | nulInName => "file name contained an unexpected NUL byte"
  | other reason => reason

namespace Path

def parts (path : String) : List String := (path.splitOn "/").filter (· ≠ "")

def isAbsolute (path : String) : Bool := path.startsWith "/"

def join (dir name : String) : String :=
  if dir = "" then name else if dir.endsWith "/" then dir ++ name else dir ++ "/" ++ name

/-- The names that tell directories apart: a dot matters only where a relative path begins. -/
def steps (path : String) : List String :=
  match parts path with
  | "." :: rest => if isAbsolute path then rest.filter (· ≠ ".") else "." :: rest.filter (· ≠ ".")
  | names => names.filter (· ≠ ".")

def leading (count : Nat) (path : String) : String :=
  (if isAbsolute path then "/" else "") ++ "/".intercalate ((steps path).take count)

def ancestors (path : String) : List String :=
  if steps path = [] then []
  else path :: (List.range ((steps path).length - 1)).reverse.map fun i => leading (i + 1) path

end Path

structure Disk (m : Type → Type) where
  read : String → m (Except Refusal String)
  write : String → String → m (Except Refusal Unit)
  makeDirectory : String → m (Except Refusal Unit)
  isDirectory : String → m Bool

namespace Disk

variable {m : Type → Type} [Monad m] (disk : Disk m)

def ensure (dir : String) : m (Except Refusal Unit) := do
  match ← disk.makeDirectory dir with
  | .error .alreadyThere =>
    return if ← disk.isDirectory dir then .ok () else .error .alreadyThere
  | other => return other

def ensureNearest : List String → List String → m (Except Refusal (List String))
  | [], passed => return .ok passed
  | dir :: above, passed => do
    match ← disk.ensure dir with
    | .error .missing => ensureNearest above (dir :: passed)
    | .error cause => return .error cause
    | .ok () => return .ok passed

def ensureAll : List String → m (Except Refusal Unit)
  | [] => return .ok ()
  | dir :: rest => do
    match ← disk.ensure dir with
    | .error cause => return .error cause
    | .ok () => ensureAll rest

def makeDirectories (path : String) : m (Except Refusal Unit) := do
  match ← disk.ensureNearest (Path.ancestors path) [] with
  | .error cause => return .error cause
  | .ok below => disk.ensureAll below

end Disk

end ParticleShaders
