import ParticleShaders.Source.Code

namespace ParticleShaders

structure Field where
  type : String
  name : String
  deriving DecidableEq, Repr

def Field.text (f : Field) : String := f.type ++ " " ++ f.name ++ ";"

structure Parameter where
  isInout : Bool
  type : String
  name : String
  deriving DecidableEq, Repr

def Parameter.text (p : Parameter) : String :=
  (if p.isInout then "inout " else "") ++ p.type ++ " " ++ p.name

inductive Declaration
  | line (text : String)
  | constants (name : String) (fields : List Field)
  | globals (fields : List Field)
  | struct (name : String) (members : List Field)
  | blockFunction (block : BoundBlock)
  | routine (name : String) (heading : List String) (body : Code)

namespace BoundBlock

def parameters (b : BoundBlock) : List Parameter :=
  b.descriptor.attributes.map (fun d => ⟨d.writable, d.type.shaderType, d.name⟩)
    ++ b.descriptor.properties.map (fun d => ⟨false, d.type.shaderType, d.name⟩)
    ++ (if b.descriptor.needs .rand then [⟨true, "uint", "seed"⟩] else [])
    ++ (if b.descriptor.needs .kill then [⟨true, "bool", "kill"⟩] else [])

def heading (b : BoundBlock) : String :=
  "void " ++ b.function ++ "(" ++ ",".intercalate (b.parameters.map (·.text)) ++ ")"

end BoundBlock

namespace Declaration

def blank : Declaration := line ""

def lines (texts : List String) : List Declaration := texts.map line

def code : Declaration → Code
  | line text => .ofTexts [text]
  | constants name fields =>
    .ofTexts (["CBUFFER_START(" ++ name ++ ")"] ++ fields.map (fun f => "\t" ++ f.text)
      ++ ["CBUFFER_END", ""])
  | globals fields => .ofTexts (fields.map (·.text))
  | struct name members =>
    Code.ofTexts ["struct " ++ name] ++ Code.structBraces (.ofTexts (members.map (·.text)))
      ++ Code.ofTexts [""]
  | blockFunction b =>
    Code.ofTexts [b.heading] ++ Code.braces (.ofTexts b.descriptor.source) ++ Code.ofTexts [""]
  | routine _ heading body => Code.ofTexts heading ++ Code.braces body ++ Code.ofTexts [""]

def codeOf (ds : List Declaration) : Code := .concat (ds.map (·.code))

def functionsBeside (taken : List String) : List BoundBlock → List Declaration
  | [] => []
  | b :: rest =>
    if taken.contains b.function then functionsBeside taken rest
    else blockFunction b :: functionsBeside (b.function :: taken) rest

/-- The functions of the blocks, one for each name; the first block of a name gives its body. -/
def blockFunctions (blocks : List BoundBlock) : List Declaration := functionsBeside [] blocks

end Declaration

end ParticleShaders
