
namespace ParticleShaders

inductive Command
  | write (text : String)
  | line (text : String)
  | blank
  | enter
  | exit
  | exitStruct
  deriving DecidableEq, Repr

structure Writer where
  finished : List String := []
  current : String := ""
  depth : Nat := 0
  deriving DecidableEq, Repr

namespace Writer

def tabs (depth : Nat) : String := "".pushn '\t' depth

def write (w : Writer) (text : String) : Writer :=
  if text = "" then w
  else { w with current := (if w.current = "" then tabs w.depth else w.current) ++ text }

def newline (w : Writer) : Writer := { w with finished := w.current :: w.finished, current := "" }

def line (w : Writer) (text : String) : Writer := (w.write text).newline

/-- The depth never falls below zero. -/
def leave (w : Writer) : Writer := { w with depth := w.depth - 1 }

def step (w : Writer) : Command → Writer
  | .write text => w.write text
  | .line text => w.line text
  | .blank => w.line ""
  | .enter => let opened := w.line "\x7b"; { opened with depth := opened.depth + 1 }
  | .exit => w.leave.line "\x7d"
  | .exitStruct => w.leave.line "\x7d;"

def run (w : Writer) (commands : List Command) : Writer := commands.foldl step w

def text (w : Writer) : String :=
  String.join (w.finished.reverse.map (· ++ "\n")) ++ w.current

@[simp] theorem run_append (w : Writer) (cs ds : List Command) :
    w.run (cs ++ ds) = (w.run cs).run ds := by
  simp [run]

end Writer

end ParticleShaders
