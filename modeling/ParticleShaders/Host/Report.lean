import ParticleShaders.Host.Push
import ParticleShaders.Json.Printer

namespace ParticleShaders

inductive ReportNumber
  | int (value : Int)
  | single (value : Float32)

namespace ReportNumber

def write : ReportNumber → String
  | .int i => toString i
  | .single x => Number.singleStyle.write .binary32 (Number.singleBits x)

end ReportNumber

namespace Report

abbrev Tree := Json ReportNumber

def count (n : Nat) : Tree := .number (.int n)

/-- What is not finite is no number in JSON. -/
def single (x : Float32) : Tree := if Number.singleIsFinite x then .number (.single x) else .null

def singles (xs : List Float32) : Tree := .array (xs.map single)

def text (s : String) : Tree := .string s

def optional (s : Option String) : Tree := s.elim .null .string

def texture (t : Texture) : Tree :=
  .object [("width", count t.width), ("height", count t.height), ("channels", count t.channels),
    ("data", singles t.data)]

def target : PushTarget → Tree
  | .compute => text "compute"
  | .kernel .init => .object [("kernel", text "init")]
  | .kernel .update => .object [("kernel", text "update")]
  | .material => text "material"

def value : PushValue → Tree
  | .float x => .object [("float", single x)]
  | .floats xs => .object [("floats", singles xs)]
  | .vector v => .object [("vector", singles v.toList)]
  | .int i => .object [("int", .number (.int i.toInt))]
  | .matrix m => .object [("matrix", singles m.toList)]
  | .texture path => .object [("texture", text path)]
  | .baked t => .object [("baked", texture t)]

def push (p : Push) : Tree :=
  .object [("target", target p.target), ("name", text p.name), ("value", value p.value)]

def pushes (ps : List Push) : Tree := .array (ps.map push)

def records (ps : List Push) : Tree := .object [("records", pushes ps)]

def naming (n : Naming) : Tree := .object (n.entries.map fun e => (e.1, text e.2))

def buffer (b : BufferBinding) : Tree :=
  .object [("size", count b.stride), ("init_name", optional b.init),
    ("update_name", optional b.update), ("output_name", optional b.output)]

def layout (l : HostLayout) : Tree :=
  .object [("buffers", .array (l.buffers.map buffer)), ("uniforms", naming l.uniforms),
    ("output_uniforms", naming l.outputUniforms), ("has_kill", .bool l.hasKill),
    ("output_type", text (if l.isQuad then "quad" else "point"))]

def system (id : String) (phaseShift : Bool) (l : HostLayout) (ps : List Push) : Tree :=
  .object [("systemId", text id), ("phaseShift", .bool phaseShift), ("runtime", layout l),
    ("pushes", pushes ps)]

end Report

end ParticleShaders
