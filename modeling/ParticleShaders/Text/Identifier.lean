
namespace ParticleShaders.Text

def isIdentifierChar (c : Char) : Bool := c.isAlphanum || c = '_'

def startsWithDigit : List Char → Bool
  | c :: _ => c.isDigit
  | [] => false

def isIdentifier (s : String) : Bool :=
  let cs := s.toList
  !cs.isEmpty && !startsWithDigit cs && cs.all isIdentifierChar

/-- The identifier nearest to a text: what may not stand in one becomes an underscore, and one
goes in front if the text is empty or begins with a digit. -/
def toIdentifier (s : String) : String :=
  let cs := s.toList.map fun c => if isIdentifierChar c then c else '_'
  String.ofList (if cs.isEmpty || startsWithDigit cs then '_' :: cs else cs)

example : toIdentifier "Set Color" = "Set_Color" ∧ toIdentifier "3d" = "_3d" := by decide +kernel

end ParticleShaders.Text
