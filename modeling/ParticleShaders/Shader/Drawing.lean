import ParticleShaders.Generator.Code

namespace ParticleShaders

namespace Blueprint

variable (d : Blueprint)

def outputBuffers : List Buffer := d.buffers.filter (·.usedIn .output)

def isColored : Bool := d.holds .color || d.holds .alpha

def outputDeclarations : List Declaration :=
  d.uniforms.plain.output.constants d.outputNaming "outputUniforms"
  ++ d.uniforms.samplers.output.samplers d.outputNaming
  ++ d.outputBuffers.map (·.struct)
  ++ [Declaration.globals (d.outputBuffers.map fun b =>
      ⟨"StructuredBuffer<" ++ b.structName ++ ">", b.variableName⟩)]
  ++ (if d.hasKill then [Declaration.globals [⟨"StructuredBuffer<int>", "flags"⟩]] else [])
  ++ [Declaration.blank]

def vertexStruct (g : OutputGenerator) : Declaration :=
  .struct "ps_input" ([⟨"float4", "pos : SV_POSITION"⟩]
    ++ (if d.isColored then [⟨"nointerpolation float4", "col : COLOR0"⟩] else [])
    ++ g.vertexFields)

/-- Opaque white where there is no color, and half opaque where there is no opacity. -/
def coloring : List Line :=
  if d.isColored then
    [.words ([Word.text "o.col = float4("]
      ++ (if d.holds .color then [Word.ref .color, .text ".xyz,"] else [Word.text "1.0,1.0,1.0,"])
      ++ [if d.holds .alpha then Word.ref .alpha else .text "0.5", .text ");"])]
  else []

def outputLoads : List Line := d.outputBuffers.map fun b => .load b.index b.variableName

def outputCalls : List Line :=
  if d.outputBlocks.isEmpty then [] else d.outputBlocks.map Line.call ++ [Line.blank]

def vertexLines (g : OutputGenerator) : List Line :=
  d.outputLoads ++ [Line.blank] ++ g.opening ++ d.outputCalls ++ g.closing d ++ d.coloring

def deadLines : List String :=
  ["o.pos = -1.0;"] ++ if d.isColored then ["o.col = 0;"] else []

def vertexBody (g : OutputGenerator) : Code :=
  Code.ofLines [.plain "ps_input o;", g.index]
  ++ (if d.hasKill then
      Code.ofTexts ["if (flags[index] == 1)"] ++ Code.braces (.ofLines (d.vertexLines g))
        ++ Code.ofTexts ["else"] ++ Code.braces (.ofTexts d.deadLines) ++ Code.ofTexts [""]
    else Code.ofLines (d.vertexLines g))
  ++ Code.ofTexts ["return o;"]

def vertexProgram (g : OutputGenerator) : Declaration :=
  .routine "vert" ["ps_input vert (uint id : SV_VertexID, uint instanceID : SV_InstanceID)"]
    (d.vertexBody g)

def fragmentProgram (g : OutputGenerator) : Declaration :=
  .routine "frag" ["float4 frag (ps_input i) : COLOR"]
    (.ofLines ([Line.plain (if d.isColored then "float4 color = i.col;"
        else "float4 color = float4(1.0,1.0,1.0,0.5);")]
      ++ g.pixels ++ [Line.plain "return color;"]))

def drawing (g : OutputGenerator) : List Declaration :=
  d.outputDeclarations
  ++ [d.vertexStruct g]
  ++ Declaration.blockFunctions d.outputBlocks
  ++ g.functions d
  ++ [d.vertexProgram g, d.fragmentProgram g]

end Blueprint

namespace BlendMode

def tags : BlendMode → List String
  | masked => []
  | _ =>
    ["Tags \x7b \"Queue\"=\"Transparent\" \"IgnoreProjector\"=\"True\" "
      ++ "\"RenderType\"=\"Transparent\" \x7d"]

def state : BlendMode → List String
  | masked => ["ZTest LEqual", "ZWrite On"]
  | additive => ["Blend SrcAlpha One", "ZTest LEqual", "ZWrite Off"]
  | alpha => ["Blend SrcAlpha OneMinusSrcAlpha", "ZTest LEqual", "ZWrite Off"]

end BlendMode

namespace Blueprint

variable (d : Blueprint)

def drawingCode (systemId : String) (blend : BlendMode) (g : OutputGenerator) : Code :=
  let pass : Code :=
    Code.ofTexts (blend.state
      ++ ["CGPROGRAM", "#pragma target 5.0", "",
          "#pragma vertex vert", "#pragma fragment frag", "",
          "#include \"UnityCG.cginc\"", ""])
    ++ Declaration.codeOf (d.drawing g) ++ Code.ofTexts ["ENDCG"]
  Code.ofTexts ["Shader \"Custom/VFX_" ++ systemId ++ "\""]
  ++ Code.braces (
    Code.ofTexts ["SubShader"]
    ++ Code.braces (Code.ofTexts (blend.tags ++ ["Pass"]) ++ Code.braces pass)
    ++ Code.ofTexts ["FallBack Off"])

def drawingText (systemId : String) (blend : BlendMode) (g : OutputGenerator) : String :=
  (d.drawingCode systemId blend g).text d.drawingNames

end Blueprint

end ParticleShaders
