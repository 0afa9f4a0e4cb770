import ParticleShaders.Proofs.Source.Braces

namespace ParticleShaders

structure Piece where
  text : String
  depth : Nat
  deriving DecidableEq, Repr

namespace Command

def endsLine : Command → Bool
  | write _ => false
  | _ => true

def depthAfter (depth : Nat) : Command → Nat
  | enter => depth + 1
  | exit | exitStruct => depth - 1
  | write _ | line _ | blank => depth

def written (depth : Nat) (c : Command) : Piece :=
  ⟨c.piece, if c.closes then c.depthAfter depth else depth⟩

def lines (depth : Nat) : List Command → List (List Piece)
  | [] => [[]]
  | c :: rest =>
    let later := lines (c.depthAfter depth) rest
    if c.endsLine then [c.written depth] :: later else later.modifyHead (c.written depth :: ·)

end Command

namespace Piece

/-- The pieces of a line that are not empty, behind a tab for each scope that is open at the first
of them. -/
def lineText (line : List Piece) : String :=
  match line.filter (·.text ≠ "") with
  | [] => ""
  | first :: rest => Writer.tabs first.depth ++ String.join (first.text :: rest.map (·.text))

def addTo (line : String) (p : Piece) : String :=
  if p.text = "" then line else (if line = "" then Writer.tabs p.depth else line) ++ p.text

variable {line : String} {p : Piece} {ps : List Piece}

theorem addTo_of_empty (empty : p.text = "") : addTo line p = line := if_pos empty

theorem addTo_ne_empty (h : p.text ≠ "") : addTo line p ≠ "" := by
  rw [addTo, if_neg h]
  exact fun same => h (String.append_eq_empty_iff.1 same).2

theorem lineText_cons_of_empty (empty : p.text = "") : lineText (p :: ps) = lineText ps := by
  rw [lineText, lineText, List.filter_cons_of_neg (by simpa using empty)]

theorem join_filter (ps : List Piece) :
    String.join ((ps.filter (·.text ≠ "")).map (·.text)) = String.join (ps.map (·.text)) := by
  induction ps with
  | nil => rfl
  | cons p rest ih =>
    rw [List.filter_cons]
    split
    · rw [List.map_cons, List.map_cons, String.join_cons, String.join_cons, ih]
    · next empty =>
      have empty : p.text = "" := by simpa using empty
      rw [List.map_cons, String.join_cons, ih, empty, String.empty_append]

theorem lineText_cons (h : p.text ≠ "") :
    lineText (p :: ps) = Writer.tabs p.depth ++ p.text ++ String.join (ps.map (·.text)) := by
  rw [lineText, List.filter_cons_of_pos (by simpa using h)]
  show Writer.tabs p.depth ++ String.join (p.text :: _) = _
  rw [String.join_cons, join_filter, String.append_assoc]

theorem foldl_addTo (ps : List Piece) (line : String) : ps.foldl addTo line =
    if line = "" then lineText ps else line ++ String.join (ps.map (·.text)) := by
  induction ps generalizing line with
  | nil => split <;> simp_all [lineText]
  | cons p rest ih =>
    rw [List.foldl_cons, ih]
    -- An empty piece leaves the indentation open; any other one settles it.
    by_cases empty : p.text = ""
    · rw [addTo_of_empty empty, lineText_cons_of_empty empty, List.map_cons, String.join_cons,
        empty, String.empty_append]
    · rw [if_neg (addTo_ne_empty empty), addTo, if_neg empty, lineText_cons empty, List.map_cons,
        String.join_cons]
      split <;> rw [String.append_assoc]

theorem newline_not_mem_lineText (single : ∀ p ∈ ps, '\n' ∉ p.text.toList) :
    '\n' ∉ (lineText ps).toList := by
  unfold lineText
  split
  · simp
  · next first rest shown =>
    have indentation : '\n' ∉ (Writer.tabs first.depth).toList := by
      rw [Writer.tabs, toList_pushn]
      exact fun mem => absurd (List.eq_of_mem_replicate mem) (by decide)
    rw [String.toList_append, List.mem_append, String.toList_join, List.mem_flatMap]
    rintro (mem | ⟨text, piece, mem⟩)
    · exact indentation mem
    · obtain ⟨p, kept, rfl⟩ := List.mem_map.1 (show text ∈ (first :: rest).map (·.text) from piece)
      rw [← shown] at kept
      exact single p (List.mem_of_mem_filter kept) mem

end Piece

namespace Command

variable {depth : Nat} {commands : List Command}

theorem lines_ne_nil (depth : Nat) (commands : List Command) : lines depth commands ≠ [] := by
  induction commands generalizing depth with
  | nil => exact List.cons_ne_nil _ _
  | cons c rest ih =>
    rw [lines]
    split
    · exact List.cons_ne_nil _ _
    · exact fun none => ih _ (List.modifyHead_eq_nil_iff.1 none)

theorem flatten_lines (depth : Nat) (commands : List Command) :
    (lines depth commands).flatten.map (·.text) = commands.map (·.piece) := by
  induction commands generalizing depth with
  | nil => rfl
  | cons c rest ih =>
    have later := ih (c.depthAfter depth)
    rw [lines]
    split
    · rw [List.flatten_cons, List.map_append, later]
      rfl
    · have nonempty := lines_ne_nil (c.depthAfter depth) rest
      obtain ⟨first, more, shape⟩ := List.exists_cons_of_ne_nil nonempty
      rw [shape] at later ⊢
      rw [List.modifyHead_cons, List.flatten_cons, List.cons_append, List.map_cons,
        ← List.flatten_cons, later]
      rfl

theorem exists_of_mem_lines {line : List Piece} {p : Piece} (hl : line ∈ lines depth commands)
    (hp : p ∈ line) : ∃ c ∈ commands, c.piece = p.text := by
  have mem : p.text ∈ (lines depth commands).flatten.map (·.text) :=
    List.mem_map_of_mem (List.mem_flatten_of_mem hl hp)
  rw [flatten_lines] at mem
  exact List.mem_map.1 mem

end Command

namespace Writer

variable (w : Writer)

def lines : List String := w.finished.reverse ++ [w.current]

theorem text_eq : w.text = "\n".intercalate w.lines := by
  have joined (finished : List String) (current : String) :
      "\n".intercalate (finished ++ [current])
        = String.join (finished.map (· ++ "\n")) ++ current := by
    induction finished with
    | nil => simp
    | cons line rest ih =>
      rw [List.cons_append, String.intercalate_cons_of_ne_nil (by simp), ih, List.map_cons,
        String.join_cons, String.append_assoc, String.append_assoc, String.append_assoc]
  exact (joined w.finished.reverse w.current).symm

theorem write_eq (text : String) :
    w.write text = { w with current := Piece.addTo w.current ⟨text, w.depth⟩ } := by
  unfold write Piece.addTo
  split <;> rfl

theorem step_eq (c : Command) : w.step c =
    let current := Piece.addTo w.current (c.written w.depth)
    if c.endsLine then ⟨current :: w.finished, "", c.depthAfter w.depth⟩
    else ⟨w.finished, current, c.depthAfter w.depth⟩ := by
  cases c <;> simp only [step, line, leave, write_eq] <;> rfl

theorem depth_step (c : Command) : (w.step c).depth = c.depthAfter w.depth := by
  rw [step_eq]
  cases c.endsLine <;> rfl

theorem depth_run (commands : List Command) :
    (w.run commands).depth = commands.foldl Command.depthAfter w.depth := by
  induction commands generalizing w with
  | nil => rfl
  | cons c rest ih =>
    rw [List.foldl_cons, ← depth_step]
    exact ih (w.step c)

def continued (current : String) : List (List Piece) → List String
  | [] => []
  | first :: rest => first.foldl Piece.addTo current :: rest.map Piece.lineText

theorem continued_cons (current : String) (first : List Piece) (rest : List (List Piece)) :
    continued current (first :: rest)
      = first.foldl Piece.addTo current :: rest.map Piece.lineText := rfl

theorem continued_empty (lines : List (List Piece)) :
    continued "" lines = lines.map Piece.lineText := by
  cases lines with
  | nil => rfl
  | cons first rest => rw [continued_cons, Piece.foldl_addTo, if_pos rfl, List.map_cons]

theorem continued_modifyHead (current : String) (p : Piece) (lines : List (List Piece)) :
    continued current (lines.modifyHead (p :: ·)) = continued (p.addTo current) lines := by
  cases lines <;> rfl

theorem lines_run (commands : List Command) : (w.run commands).lines =
    w.finished.reverse ++ continued w.current (Command.lines w.depth commands) := by
  induction commands generalizing w with
  | nil => rfl
  | cons c rest ih =>
    have later : (w.run (c :: rest)).lines = _ := ih (w.step c)
    rw [later, depth_step, step_eq, Command.lines]
    cases c.endsLine with
    | true => simp [continued_cons, continued_empty]
    | false => simp [continued_modifyHead]

theorem text_run (commands : List Command) : (run {} commands).text =
    "\n".intercalate ((Command.lines 0 commands).map Piece.lineText) := by
  rw [text_eq, lines_run, continued_empty]
  rfl

end Writer

/-- A writer that keeps its text in one piece, with a mark that tells whether a line begins. -/
@[ext] structure MarkedWriter where
  text : String := ""
  depth : Nat := 0
  atStart : Bool := true

namespace MarkedWriter

def write (m : MarkedWriter) (text : String) : MarkedWriter :=
  if text = "" then m
  else
    { m with
      text := (if m.atStart then m.text ++ Writer.tabs m.depth else m.text) ++ text
      atStart := false }

def line (m : MarkedWriter) (text : String) : MarkedWriter :=
  let written := m.write text
  { written with text := written.text ++ "\n", atStart := true }

def leave (m : MarkedWriter) : MarkedWriter := { m with depth := m.depth - 1 }

def step (m : MarkedWriter) : Command → MarkedWriter
  | .write text => m.write text
  | .line text => m.line text
  | .blank => m.line ""
  | .enter => let opened := m.line "\x7b"; { opened with depth := opened.depth + 1 }
  | .exit => m.leave.line "\x7d"
  | .exitStruct => m.leave.line "\x7d;"

def run (m : MarkedWriter) (commands : List Command) : MarkedWriter := commands.foldl step m

def ofWriter (w : Writer) : MarkedWriter := ⟨w.text, w.depth, w.current = ""⟩

variable (w : Writer)

theorem write_ofWriter (text : String) : (ofWriter w).write text = ofWriter (w.write text) := by
  unfold write Writer.write
  by_cases empty : text = ""
  · rw [if_pos empty, if_pos empty]
  · rw [if_neg empty, if_neg empty]
    have begun (s : String) : s ++ text ≠ "" := fun same =>
      empty (String.append_eq_empty_iff.1 same).2
    by_cases first : w.current = "" <;>
      simp [ofWriter, Writer.text, first, begun, String.append_assoc]

theorem line_ofWriter (text : String) : (ofWriter w).line text = ofWriter (w.line text) := by
  rw [line, write_ofWriter]
  simp [ofWriter, Writer.line, Writer.newline, Writer.text, String.append_assoc]

theorem step_ofWriter (c : Command) : (ofWriter w).step c = ofWriter (w.step c) := by
  have leave : (ofWriter w).leave = ofWriter w.leave := rfl
  cases c with
  | write text => exact write_ofWriter w text
  | line text => exact line_ofWriter w text
  | blank => exact line_ofWriter w ""
  | enter =>
    rw [step, line_ofWriter]
    rfl
  | exit =>
    rw [step, leave]
    exact line_ofWriter w.leave "\x7d"
  | exitStruct =>
    rw [step, leave]
    exact line_ofWriter w.leave "\x7d;"

theorem run_ofWriter (commands : List Command) :
    (ofWriter w).run commands = ofWriter (w.run commands) := by
  induction commands generalizing w with
  | nil => rfl
  | cons c rest ih =>
    rw [run, List.foldl_cons, step_ofWriter]
    exact ih (w.step c)

end MarkedWriter

/-- A text is its lines, each of them what was written to it behind the indentation of its first
piece that is not empty, and commands leave open the scopes that they have entered and not left. A
mark on the beginning of a line tells when to indent as well as the line does. -/
theorem Writer.indents_lines (commands : List Command)
    (single : ∀ c ∈ commands, '\n' ∉ c.piece.toList) :
    let m := MarkedWriter.run {} commands
    m = .ofWriter (run {} commands) ∧
    (m.text.split '\n').toList.map (·.copy) = (Command.lines 0 commands).map Piece.lineText ∧
    ∀ before, before <+: commands →
      (MarkedWriter.run {} before).depth = before.foldl Command.depthAfter 0 := by
  have marked (before : List Command) : MarkedWriter.run {} before = .ofWriter (run {} before) :=
    MarkedWriter.run_ofWriter {} before
  refine ⟨marked commands, ?_, fun before _ => ?_⟩
  · have whole : ∀ line ∈ (Command.lines 0 commands).map Piece.lineText, '\n' ∉ line.toList := by
      intro line hl
      obtain ⟨pieces, written, rfl⟩ := List.mem_map.1 hl
      refine Piece.newline_not_mem_lineText fun p hp => ?_
      obtain ⟨c, hc, same⟩ := Command.exists_of_mem_lines written hp
      rw [← same]
      exact single c hc
    rw [marked]
    show ((run {} commands).text.split '\n').toList.map (·.copy) = _
    rw [text_run]
    exact (String.toList_split_intercalate whole).trans
      (if_neg (List.map_eq_nil_iff.not.2 (Command.lines_ne_nil 0 commands)))
  · rw [marked]
    exact depth_run {} before

def scribble : List Command :=
  [.line "void f()", .enter, .write "", .write "if (x) ", .enter, .write "", .blank,
    .write "y = ", .write "1;", .exit, .write "z;", .blank, .exit, .exitStruct]

theorem scribble_lines : (∀ c ∈ scribble, '\n' ∉ c.piece.toList) ∧
    ((MarkedWriter.run {} scribble).text.split '\n').toList.map (·.copy) =
      ["void f()", "\x7b", "\tif (x) \x7b", "", "\t\ty = 1;\x7d", "\tz;", "\x7d", "\x7d;", ""] := by
  have single : ∀ c ∈ scribble, '\n' ∉ c.piece.toList := by decide +kernel
  have lines : (Command.lines 0 scribble).map Piece.lineText =
      ["void f()", "\x7b", "\tif (x) \x7b", "", "\t\ty = 1;\x7d", "\tz;", "\x7d", "\x7d;", ""] := by
    decide +kernel
  exact ⟨single, (Writer.indents_lines scribble single).2.1.trans lines⟩

end ParticleShaders
