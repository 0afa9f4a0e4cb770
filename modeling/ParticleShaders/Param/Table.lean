import ParticleShaders.Param.Basic
import ParticleShaders.Param.Value

namespace ParticleShaders

structure ParamDecl where
  id : String
  type : ValueType
  value : Json.Value

abbrev ParamTable := Dict ParamValue

namespace ParamTable

inductive LoadError
  | value (id : String) (cause : ParamValue.Mismatch)
  | duplicate (id : String)

def LoadError.message : LoadError → String
  | .value id cause => "param " ++ id ++ ": " ++ cause.message
  | .duplicate id => "duplicate param id: " ++ id

def declare (table : ParamTable) (decl : ParamDecl) : Except LoadError ParamTable :=
  match ParamValue.ofJson decl.type decl.value with
  | .error cause => .error (.value decl.id cause)
  | .ok value =>
    if table.contains decl.id then .error (.duplicate decl.id) else .ok (table.insert decl.id value)

def ofDecls (decls : List ParamDecl) : Except LoadError ParamTable :=
  decls.foldlM declare ∅

def param? (table : ParamTable) (id : String) : Option Param :=
  (table.find? id).map fun value => ⟨id, value.type⟩

end ParamTable

end ParticleShaders
