import ParticleShaders.Files.Basic
/-! A tree of files as a value. -/

namespace ParticleShaders

inductive FileNode
  | file (contents : String)
  | directory
  deriving DecidableEq, Repr

abbrev Place := List String

/-- Relative paths start from `home`. The root needs no node of its own. -/
structure FileTree where
  home : Place
  nodes : List (Place × FileNode)
  deriving DecidableEq, Repr

namespace FileTree

def node? (t : FileTree) (p : Place) : Option FileNode :=
  if p = [] then some .directory else t.nodes.lookup p

def put (t : FileTree) (p : Place) (n : FileNode) : FileTree :=
  { t with nodes := t.nodes.filter (·.1 ≠ p) ++ [(p, n)] }

def isDirectory (t : FileTree) (p : Place) : Bool := t.node? p = some .directory

def nameLimit : Nat := 255

def pathLimit : Nat := 4095

def enter (t : FileTree) (here : Place) (name : String) : Except Refusal Place :=
  if !t.isDirectory here then .error .notDirectory
  else if name = "." then .ok here
  else if name = ".." then .ok here.dropLast
  else if nameLimit < name.utf8ByteSize then .error .nameTooLong
  else if (t.node? (here ++ [name])).isNone then .error .missing
  else .ok (here ++ [name])

def place (t : FileTree) (path : String) : Except Refusal Place := do
  if path.contains '\x00' then .error .nulInName
  else if pathLimit < path.utf8ByteSize then .error .nameTooLong
  else if path = "" then .error .missing
  else
    let start := if Path.isAbsolute path then [] else t.home
    let names := Path.parts path
    let parent ← names.dropLast.foldlM t.enter start
    match names.getLast? with
    | none => return start
    | some name =>
      match t.enter parent name with
      | .error .missing => return parent ++ [name]
      | found => found

def read (t : FileTree) (path : String) : Except Refusal String := do
  match t.node? (← t.place path) with
  | none => .error .missing
  | some .directory => .error .directory
  | some (.file contents) => if path.endsWith "/" then .error .notDirectory else return contents

def write (t : FileTree) (path contents : String) : Except Refusal FileTree := do
  let p ← t.place path
  if t.isDirectory p then .error .directory else return t.put p (.file contents)

def makeDirectory (t : FileTree) (path : String) : Except Refusal FileTree := do
  let p ← t.place path
  match t.node? p with
  | none => return t.put p .directory
  | some _ => .error .alreadyThere

def leadsToDirectory (t : FileTree) (path : String) : Bool :=
  match t.place path with
  | .ok p => t.isDirectory p
  | .error _ => false

def attempt (change : FileTree → Except Refusal FileTree) : StateM FileTree (Except Refusal Unit) :=
  fun t => match change t with
    | .ok changed => (.ok (), changed)
    | .error cause => (.error cause, t)

def filesBelow (t : FileTree) (p : Place) : List (Place × String) :=
  t.nodes.filterMap fun
    | (q, .file contents) => if p.isPrefixOf q then some (q.drop p.length, contents) else none
    | (_, .directory) => none

end FileTree

def Disk.ofTree : Disk (StateM FileTree) where
  read path := fun t => (t.read path, t)
  write path contents := FileTree.attempt (·.write path contents)
  makeDirectory path := FileTree.attempt (·.makeDirectory path)
  isDirectory path := fun t => (t.leadsToDirectory path, t)

end ParticleShaders
