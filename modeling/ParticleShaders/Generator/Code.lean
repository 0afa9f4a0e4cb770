import ParticleShaders.Generator.Need
import ParticleShaders.Shader.Storage

namespace ParticleShaders

def InitGenerator.closing (g : InitGenerator) : List Line :=
  match g.lifetime with
  | none => []
  | some a => [.assign .lifetime "=" [a.word], .assign .age "=" [.text "0.0"], .blank]

def UpdateGenerator.closing (g : UpdateGenerator) : List Line :=
  (if g.integrate then
    [Line.assign .position "+=" [.ref .velocity, .text " * deltaTime"]] else [])
  ++ (if g.age then [Line.assign .age "+=" [.text "deltaTime"]] else [])
  ++ (if g.reap then
    [Line.words [.text "if (", .ref .age, .text " >= ", .ref .lifetime, .text ") KILL;"]] else [])
  ++ (if g.integrate || g.age || g.reap then [Line.blank] else [])

namespace OutputGenerator

variable (g : OutputGenerator) (d : Blueprint)

def turns : Bool := g.isQuad && d.holds .angle

def functions : List Declaration :=
  if g.turns d then
    [.routine "rotateCorner" ["float2 rotateCorner(float2 corner,float angle)"] (.ofTexts
      ["float s, c;",
       "sincos(angle, s, c);",
       "return float2(c * corner.x - s * corner.y, s * corner.x + c * corner.y);"])]
  else []

def index : Line :=
  match g.kind with
  | .point => .plain "uint index = id;"
  | .billboard => .plain "uint index = id >> 2;"

def vertexFields : List Field :=
  match g.kind with
  | .point => []
  | .billboard => [⟨"float2", "offsets : TEXCOORD0"⟩]

def opening : List Line :=
  match g.kind with
  | .point => []
  | .billboard =>
    [.plain "o.offsets.x = float(id & 1);", .plain "o.offsets.y = float((id & 2) >> 1);", .blank]

def extent : Word :=
  if d.holds .size then .ref .size
  else
    let side := Number.literal g.size
    .text ("float2(" ++ side ++ "," ++ side ++ ")")

def closing : List Line :=
  match g.kind with
  | .point =>
    [.words [.text "o.pos = mul(UNITY_MATRIX_VP, float4(", .ref .position, .text ", 1.0));"],
     .blank]
  | .billboard =>
    [Line.words [.text "float2 corner = (o.offsets - 0.5) * ", g.extent d, .text ";"]]
    ++ (if g.turns d then
      [Line.words [.text "corner = rotateCorner(corner, ", .ref .angle, .text ");"]] else [])
    ++ [Line.words [.text "float3 worldPos = ", .ref .position,
          .text (" + UNITY_MATRIX_V[0].xyz * corner.x + UNITY_MATRIX_V[1].xyz * corner.y;")],
        .plain "o.pos = mul(UNITY_MATRIX_VP, float4(worldPos, 1.0));",
        .blank]

def pixels : List Line :=
  match g.kind, g.texture with
  | .point, _ => []
  | .billboard, some p => [.words [.text "color *= tex2D(", .param p, .text ", i.offsets);"]]
  | .billboard, none =>
    [.plain "float2 d = i.offsets * 2.0 - 1.0;", .plain "clip(1.0 - dot(d, d));"]

end OutputGenerator

end ParticleShaders
