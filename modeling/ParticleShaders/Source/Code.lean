import ParticleShaders.Block.Bound
import ParticleShaders.Source.Writer
/-! Shader code as lines and scopes. A line tells what it does to attributes and buffers as far as
that matters; how attributes and parameters are called is settled when the code is written out. -/

namespace ParticleShaders

inductive Word
  | text (s : String)
  | ref (a : Attribute)
  | param (p : Param)
  deriving DecidableEq, Repr

inductive Line
  | words (ws : List Word)
  | clear (buffer : Nat)
  | load (buffer : Nat) (source : String)
  | store (buffer : Nat) (target : String)
  | assign (target : Attribute) (operator : String) (value : List Word)
  | call (block : BoundBlock)
  deriving DecidableEq, Repr

inductive Code
  | done
  | line (l : Line) (next : Code)
  | scope (isStruct : Bool) (body next : Code)
  deriving DecidableEq, Repr

structure References where
  ref : Attribute → String
  param : Param → String

def Argument.word : Argument → Word
  | .param p => .param p
  | .expr source => .text source

namespace BoundBlock

def callWords (b : BoundBlock) : List Word :=
  b.descriptor.attributes.map (fun d => Word.ref d.toAttribute)
    ++ b.arguments.map (·.word)
    ++ (if b.descriptor.needs .rand then [Word.ref .seed] else [])
    ++ (if b.descriptor.needs .kill then [Word.text "kill"] else [])

end BoundBlock

def Word.render (names : References) : Word → String
  | .text s => s
  | .ref a => names.ref a
  | .param p => names.param p

namespace Line

def plain (text : String) : Line := .words [.text text]

def blank : Line := plain ""

def render (names : References) : Line → String
  | .words ws => String.join (ws.map (·.render names))
  | .clear buffer =>
    let i := toString buffer
    "Attribute" ++ i ++ " attrib" ++ i ++ " = (Attribute" ++ i ++ ")0;"
  | .load buffer source =>
    let i := toString buffer
    "Attribute" ++ i ++ " attrib" ++ i ++ " = " ++ source ++ "[index];"
  | .store buffer target => target ++ "[index] = attrib" ++ toString buffer ++ ";"
  | .assign target operator value =>
    names.ref target ++ " " ++ operator ++ " " ++ String.join (value.map (·.render names)) ++ ";"
  | .call b => b.function ++ "(" ++ ",".intercalate (b.callWords.map (·.render names)) ++ ");"

end Line

namespace Code

def append : Code → Code → Code
  | done, c => c
  | line l next, c => line l (next.append c)
  | scope isStruct body next, c => scope isStruct body (next.append c)

instance : Append Code := ⟨append⟩

def ofLines (ls : List Line) : Code := ls.foldr line done

def ofTexts (texts : List String) : Code := ofLines (texts.map Line.plain)

def braces (body : Code) : Code := scope false body done

def structBraces (body : Code) : Code := scope true body done

def concat (cs : List Code) : Code := cs.foldr append done

def lines : Code → List Line
  | done => []
  | line l next => l :: next.lines
  | scope _ body next => body.lines ++ next.lines

def commands (names : References) : Code → List Command
  | done => []
  | line l next => .line (l.render names) :: next.commands names
  | scope isStruct body next =>
    .enter :: body.commands names
      ++ (if isStruct then Command.exitStruct else .exit) :: next.commands names

def text (names : References) (c : Code) : String := (Writer.run {} (c.commands names)).text

@[simp] theorem append_eq (c e : Code) : c.append e = c ++ e := rfl

@[simp] theorem commands_append (names : References) (c e : Code) :
    (c ++ e).commands names = c.commands names ++ e.commands names := by
  induction c with
  | done => rfl
  | line l next ih => exact congrArg (_ :: ·) ih
  | scope isStruct body next _ ih =>
    show _ :: _ ++ _ :: (next ++ e).commands names = _
    simp [ih, commands]

@[simp] theorem lines_append (c e : Code) : (c ++ e).lines = c.lines ++ e.lines := by
  induction c with
  | done => rfl
  | line l next ih => exact congrArg (_ :: ·) ih
  | scope isStruct body next _ ih =>
    show _ ++ (next ++ e).lines = _
    simp [ih, lines]

@[simp] theorem lines_ofLines (ls : List Line) : (ofLines ls).lines = ls := by
  induction ls with
  | nil => rfl
  | cons l rest ih => exact congrArg (l :: ·) ih

end Code

end ParticleShaders
