import ParticleShaders.Generator.Code

namespace ParticleShaders

namespace Blueprint

variable (d : Blueprint)

def pragmas (init : Option InitGenerator) (update : Option UpdateGenerator) : List String :=
  (if init.isSome then ["#pragma kernel CSVFXInit"] else [])
    ++ (if update.isSome then ["#pragma kernel CSVFXUpdate"] else []) ++ [""]

def preamble : List String :=
  ["#include \"UnityCG.cginc\"", "#include \"HLSLSupport.cginc\"", "",
   "#define NB_THREADS_PER_GROUP 256", "",
   "#define RAND rand(seed)",
   "#define RAND2 float2(RAND,RAND)",
   "#define RAND3 float3(RAND,RAND,RAND)",
   "#define RAND4 float4(RAND,RAND,RAND,RAND)",
   "#define KILL \x7bkill = true;\x7d",
   "#define SAMPLE sampleSignal", ""]

def frameConstants : Declaration :=
  .constants "GlobalInfo" ([⟨"float", "deltaTime"⟩, ⟨"float", "totalTime"⟩, ⟨"uint", "nbMax"⟩]
    ++ if d.hasRand then [⟨"uint", "systemSeed"⟩] else [])

def spawnConstants : Declaration :=
  .constants "SpawnInfo" [⟨"uint", "nbSpawned"⟩, ⟨"uint", "spawnIndex"⟩]

def paramDeclarations : List Declaration :=
  d.uniforms.plain.both.constants d.naming "GlobalUniforms"
    ++ d.uniforms.plain.init.constants d.naming "initUniforms"
    ++ d.uniforms.plain.update.constants d.naming "updateUniforms"
    ++ d.uniforms.samplers.both.samplers d.naming
    ++ d.uniforms.samplers.init.samplers d.naming
    ++ d.uniforms.samplers.update.samplers d.naming

def lookupTextures : List Declaration :=
  (if d.signals.hasColor then
    [Declaration.globals [⟨"sampler2D", "gradientTexture"⟩], .blank] else [])
  ++ (if d.signals.hasFloat then
    [Declaration.globals [⟨"sampler2D", "curveTexture"⟩], .blank] else [])

/-- A buffer that update only reads is bound there for reading, besides for writing. -/
def bufferVariables (b : Buffer) : List Field :=
  [⟨"RWStructuredBuffer<" ++ b.structName ++ ">", b.variableName⟩]
    ++ if b.usedIn .update && !b.writableIn .update then
        [⟨"StructuredBuffer<" ++ b.structName ++ ">", b.readOnlyName⟩] else []

def bufferDeclarations : List Declaration :=
  d.buffers.map (·.struct)
    ++ if d.buffers.isEmpty then []
      else [Declaration.globals (d.buffers.flatMap bufferVariables), .blank]

def lifeDeclarations : List Declaration :=
  if d.hasKill then
    [.globals
      [⟨"RWStructuredBuffer<int>", "flags"⟩,
       ⟨"ConsumeStructuredBuffer<uint>", "deadListIn"⟩,
       ⟨"AppendStructuredBuffer<uint>", "deadListOut"⟩,
       ⟨"Buffer<uint>", "deadListCount"⟩],
     .blank]
  else []

def randFunction : List Declaration :=
  if d.hasRand then
    [.routine "rand" ["float rand(inout uint seed)"] (.ofTexts
      ["seed = 1664525 * seed + 1013904223;", "return float(seed) / 4294967296.0;"])]
  else []

def sampleFunctions : List Declaration :=
  if d.signals.functions.isEmpty then []
  else Declaration.lines d.signals.functions ++ [Declaration.blank]

def kernelHeading (name : String) : List String :=
  ["[numthreads(NB_THREADS_PER_GROUP,1,1)]",
   "void " ++ name ++ "(uint3 id : SV_DispatchThreadID)"]

def shiftPhase (operator : String) : List Line :=
  if d.phaseShift then
    [.assign .position operator [.text "(", .ref .phase, .text " * deltaTime) * ", .ref .velocity],
     .blank]
  else []

def seeding : List Line :=
  (if d.hasRand then
    [Line.plain "uint seed = (id.x + spawnIndex) ^ systemSeed;",
     .plain "seed = (seed ^ 61) ^ (seed >> 16);",
     .plain "seed *= 9;",
     .plain "seed = seed ^ (seed >> 4);",
     .plain "seed *= 0x27d4eb2d;",
     .plain "seed = seed ^ (seed >> 15);",
     .assign .seed "=" [.text "seed"],
     .blank]
  else [])
  ++ if d.phaseShift then
    [Line.assign .phase "=" [.text "rand(", .ref .seed, .text ")"], .blank] else []

def initLines (g : InitGenerator) : List Line :=
  [Line.plain (if d.hasKill then "uint index = deadListIn.Consume();"
    else "uint index = id.x + spawnIndex;"), .blank]
  ++ d.buffers.map (Line.clear ·.index) ++ [Line.blank]
  ++ d.seeding
  ++ d.initBlocks.map Line.call ++ [Line.blank]
  ++ g.closing
  ++ d.shiftPhase "-="
  ++ d.buffers.map (fun b => Line.store b.index b.variableName)
  ++ if d.hasKill then [Line.blank, .plain "flags[index] = 1;"] else []

def initKernel (g : InitGenerator) : Declaration :=
  .routine "CSVFXInit" (kernelHeading "CSVFXInit")
    (Code.ofTexts [if d.hasKill then "if (id.x < min(nbSpawned,deadListCount[0]))"
      else "if (id.x < nbSpawned)"]
    ++ Code.braces (.ofLines (d.initLines g)))

def updateSource (b : Buffer) : String :=
  if b.writableIn .update then b.variableName else b.readOnlyName

def updateLoads : List Line :=
  (d.buffers.filter (·.usedIn .update)).map fun b => .load b.index (updateSource b)

def updateStores : List Line :=
  (d.buffers.filter (·.writableIn .update)).map fun b => .store b.index b.variableName

def updateLines (g : UpdateGenerator) : List Line :=
  [Line.plain "uint index = id.x;"]
  ++ (if d.hasKill then [Line.plain "bool kill = false;"] else []) ++ [Line.blank]
  ++ d.updateLoads ++ [Line.blank]
  ++ d.shiftPhase "+="
  ++ d.updateBlocks.map Line.call ++ [Line.blank]
  ++ g.closing
  ++ d.shiftPhase "-="

def killBranch : Code :=
  if d.hasKill then
    Code.ofTexts ["if (kill)"]
      ++ Code.braces (.ofTexts ["flags[index] = 0;", "deadListOut.Append(index);", "return;"])
      ++ Code.ofTexts [""]
  else .done

def updateKernel (g : UpdateGenerator) : Declaration :=
  .routine "CSVFXUpdate" (kernelHeading "CSVFXUpdate")
    (Code.ofTexts
      [if d.hasKill then "if (id.x < nbMax && flags[id.x] == 1)" else "if (id.x < nbMax)"]
    ++ Code.braces
      (Code.ofLines (d.updateLines g) ++ d.killBranch ++ Code.ofLines d.updateStores))

def simulation (init : Option InitGenerator) (update : Option UpdateGenerator) : List Declaration :=
  Declaration.lines (pragmas init update)
    ++ Declaration.lines preamble
    ++ [d.frameConstants]
    ++ (if init.isSome then [spawnConstants] else [])
    ++ d.paramDeclarations
    ++ d.lookupTextures
    ++ d.bufferDeclarations
    ++ d.lifeDeclarations
    ++ d.randFunction
    ++ d.sampleFunctions
    ++ Declaration.blockFunctions (d.initBlocks ++ d.updateBlocks)
    ++ (init.map d.initKernel).toList
    ++ (update.map d.updateKernel).toList

def simulationText (init : Option InitGenerator) (update : Option UpdateGenerator) : String :=
  (Declaration.codeOf (d.simulation init update)).text d.simulationNames

end Blueprint

end ParticleShaders
