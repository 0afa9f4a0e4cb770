import ParticleShaders.Proofs.Number.Literals
import ParticleShaders.Proofs.Renaming.Code
import ParticleShaders.Proofs.Shader.Accesses

namespace ParticleShaders

namespace Text

def isBrace (c : Char) : Bool := c = '\x7b' || c = '\x7d'

def marks (s : String) : List Char := s.toList.filter isBrace

/-- As many braces are closed as are opened, and none before it is opened. -/
structure Balanced (cs : List Char) : Prop where
  opened : ∀ before, before <+: cs → before.count '\x7d' ≤ before.count '\x7b'
  closed : cs.count '\x7d' = cs.count '\x7b'

instance (cs : List Char) : Decidable (Balanced cs) :=
  decidable_of_iff ((∀ before ∈ cs.inits, before.count '\x7d' ≤ before.count '\x7b') ∧
      cs.count '\x7d' = cs.count '\x7b')
    ⟨fun h => ⟨fun before hb => h.1 before ((List.mem_inits ..).2 hb), h.2⟩,
      fun h => ⟨fun before hb => h.opened before ((List.mem_inits ..).1 hb), h.closed⟩⟩

example : Balanced "if (kill) \x7b return; \x7d".toList ∧ ¬ Balanced "\x7d else \x7b".toList := by
  decide +kernel

section Marks

variable {s t : String}

theorem marks_eq_nil_iff : marks s = [] ↔ ∀ c ∈ s.toList, isBrace c = false := by
  simp [marks]

/-- A literal stands for its characters; they are looked through faster than its bytes. -/
theorem marks_ofList (cs : List Char) : marks (String.ofList cs) = cs.filter isBrace := by
  rw [marks, String.toList_ofList]

theorem flatMap_marks_ofList {cs : List Char} (h : cs.filter isBrace = []) :
    [String.ofList cs].flatMap marks = [] := by
  rw [List.flatMap_singleton, marks_ofList, h]

theorem marks_eq_nil {p : Char → Bool} (h : ∀ c ∈ s.toList, p c)
    (apart : p '\x7b' = false ∧ p '\x7d' = false) : marks s = [] := by
  rw [marks_eq_nil_iff]
  intro c hc
  have fits := h c hc
  by_contra brace
  simp only [isBrace, Bool.not_eq_false, Bool.or_eq_true, decide_eq_true_eq] at brace
  rcases brace with rfl | rfl
  · rw [apart.1] at fits
    cases fits
  · rw [apart.2] at fits
    cases fits

@[simp] theorem marks_empty : marks "" = [] := rfl

@[simp] theorem marks_append (s t : String) : marks (s ++ t) = marks s ++ marks t := by
  simp [marks]

@[simp] theorem marks_join (pieces : List String) :
    marks (String.join pieces) = pieces.flatMap marks := by
  rw [marks, String.toList_join, List.filter_flatMap]
  rfl

theorem marks_intercalate (h : marks s = []) (pieces : List String) :
    marks (s.intercalate pieces) = pieces.flatMap marks := by
  induction pieces with
  | nil => rfl
  | cons t rest ih =>
    cases rest with
    | nil => simp
    | cons u rest => rw [String.intercalate_cons_cons, marks_append, marks_append, h, ih]; simp

@[simp] theorem marks_repr (n : Nat) : marks n.repr = [] :=
  marks_eq_nil (fun _ => isDigit_of_mem_toString) (by decide)

theorem balanced_marks : Balanced (marks s) ↔ Balanced s.toList := by
  have counts (cs : List Char) (c : Char) (h : isBrace c) :
      (cs.filter isBrace).count c = cs.count c := List.count_filter h
  constructor
  · rintro ⟨opened, closed⟩
    refine ⟨fun before hb => ?_, ?_⟩
    · have kept := opened _ (hb.filter isBrace)
      rwa [counts _ _ rfl, counts _ _ rfl] at kept
    · rwa [marks, counts _ _ rfl, counts _ _ rfl] at closed
  · rintro ⟨opened, closed⟩
    refine ⟨fun before hb => ?_, ?_⟩
    · obtain ⟨whole, hw, rfl⟩ := List.prefix_filter_iff.1 hb
      rw [counts _ _ rfl, counts _ _ rfl]
      exact opened whole hw
    · rw [marks, counts _ _ rfl, counts _ _ rfl, closed]

end Marks

namespace Balanced

variable {cs ds : List Char}

theorem nil : Balanced [] := by decide

theorem append (h : Balanced cs) (h' : Balanced ds) : Balanced (cs ++ ds) := by
  constructor
  · intro before hb
    rcases List.prefix_or_prefix_of_prefix hb (List.prefix_append cs ds) with hb | ⟨rest, rfl⟩
    · exact h.opened before hb
    · -- nothing is left open before the rest
      have later := h'.opened rest ((List.prefix_append_right_inj cs).1 hb)
      rw [List.count_append, List.count_append, h.closed]
      exact Nat.add_le_add_left later _
  · rw [List.count_append, List.count_append, h.closed, h'.closed]

theorem flatMap {α : Type} {xs : List α} {f : α → List Char} (h : ∀ x ∈ xs, Balanced (f x)) :
    Balanced (xs.flatMap f) := by
  induction xs with
  | nil => exact nil
  | cons x rest ih =>
    rw [List.flatMap_cons]
    exact (h x List.mem_cons_self).append (ih fun y hy => h y (List.mem_cons_of_mem _ hy))

theorem enclose (h : Balanced cs) : Balanced ('\x7b' :: cs ++ ['\x7d']) := by
  constructor
  · intro before hb
    rcases List.prefix_cons_iff.1 hb with rfl | ⟨inner, rfl, within⟩
    · exact Nat.le_refl _
    · rcases List.prefix_concat_iff.1 (show inner <+: cs ++ ['\x7d'] from within) with rfl | within
      · simp [h.closed]
      · have inside := h.opened inner within
        simp only [List.count_cons]
        exact Nat.le_add_right_of_le inside
  · simp [h.closed]

end Balanced

end Text

section Marks

def Command.piece : Command → String
  | .write text | .line text => text
  | .blank => ""
  | .enter => "\x7b"
  | .exit => "\x7d"
  | .exitStruct => "\x7d;"

def Word.marks : Word → List Char
  | .text s => Text.marks s
  | _ => []

def Line.marks : Line → List Char
  | .words ws => ws.flatMap Word.marks
  | .clear _ => []
  | .load _ source => Text.marks source
  | .store _ target => Text.marks target
  | .assign _ operator value => Text.marks operator ++ value.flatMap Word.marks
  | .call b => Text.marks b.function ++ b.callWords.flatMap Word.marks

@[simp] theorem Word.marks_text (s : String) : (Word.text s).marks = Text.marks s := rfl

@[simp] theorem Word.marks_ref (a : Attribute) : (Word.ref a).marks = [] := rfl

@[simp] theorem Line.marks_words (ws : List Word) :
    (Line.words ws).marks = ws.flatMap Word.marks := rfl

@[simp] theorem Line.marks_assign (a : Attribute) (operator : String) (value : List Word) :
    (Line.assign a operator value).marks = Text.marks operator ++ value.flatMap Word.marks := rfl

@[simp] theorem Line.marks_plain (text : String) : (Line.plain text).marks = Text.marks text :=
  List.append_nil _

@[simp] theorem Line.marks_blank : Line.blank.marks = [] := rfl

def Code.marks : Code → List Char
  | done => []
  | line l next => l.marks ++ next.marks
  | scope _ body next => '\x7b' :: body.marks ++ '\x7d' :: next.marks

end Marks

namespace Writer

variable (w : Writer)

theorem marks_text :
    Text.marks w.text = w.finished.reverse.flatMap Text.marks ++ Text.marks w.current := by
  rw [text, Text.marks_append, Text.marks_join, List.flatMap_map]
  simp [show Text.marks "\n" = [] from rfl]

@[simp] theorem marks_tabs (depth : Nat) : Text.marks (tabs depth) = [] := by
  rw [Text.marks_eq_nil_iff, tabs, toList_pushn]
  intro c hc
  obtain rfl : c = '\t' := List.eq_of_mem_replicate hc
  rfl

theorem marks_write (piece : String) :
    Text.marks (w.write piece).text = Text.marks w.text ++ Text.marks piece := by
  unfold write
  split
  · next empty => simp [empty]
  · have opened : Text.marks (if w.current = "" then tabs w.depth else w.current)
        = Text.marks w.current := by
      split
      · next empty => simp [empty]
      · rfl
    rw [marks_text, marks_text, Text.marks_append, opened, List.append_assoc]

theorem marks_newline : Text.marks w.newline.text = Text.marks w.text := by
  rw [marks_text, marks_text]
  simp [newline]

theorem marks_line (piece : String) :
    Text.marks (w.line piece).text = Text.marks w.text ++ Text.marks piece := by
  rw [line, marks_newline, marks_write]

theorem marks_step (c : Command) :
    Text.marks (w.step c).text = Text.marks w.text ++ Text.marks c.piece := by
  cases c with
  | write piece => exact w.marks_write piece
  | line piece => exact w.marks_line piece
  | blank => exact w.marks_line ""
  | enter => exact w.marks_line "\x7b"
  | exit => exact w.leave.marks_line "\x7d"
  | exitStruct => exact w.leave.marks_line "\x7d;"

theorem marks_run (commands : List Command) :
    Text.marks (w.run commands).text
      = Text.marks w.text ++ commands.flatMap (Text.marks ·.piece) := by
  induction commands generalizing w with
  | nil => simp [run]
  | cons c rest ih =>
    show Text.marks ((w.step c).run rest).text = _
    rw [ih, marks_step, List.flatMap_cons, List.append_assoc]

end Writer

namespace Code

variable {names : References}

theorem marks_commands {c : Code} (h : ∀ l ∈ c.lines, Text.marks (l.render names) = l.marks) :
    (c.commands names).flatMap (Text.marks ·.piece) = c.marks := by
  induction c with
  | done => rfl
  | line l next ih =>
    obtain ⟨first, later⟩ := List.forall_mem_cons.1 h
    rw [commands, List.flatMap_cons, ih later, marks]
    exact congrArg (· ++ next.marks) first
  | scope isStruct body next ihBody ih =>
    obtain ⟨inner, later⟩ := List.forall_mem_append.1 h
    have closing :
        Text.marks (if isStruct then Command.exitStruct else .exit).piece = ['\x7d'] := by
      cases isStruct <;> rfl
    have opening : Text.marks Command.enter.piece = ['\x7b'] := rfl
    simp only [commands, List.flatMap_cons, List.flatMap_append, opening, closing, ihBody inner,
      ih later, marks, List.cons_append, List.nil_append]

@[simp] theorem marks_append (c e : Code) : (c ++ e).marks = c.marks ++ e.marks := by
  induction c with
  | done => rfl
  | line l next ih =>
    show l.marks ++ (next ++ e).marks = _
    rw [ih, marks, List.append_assoc]
  | scope isStruct body next _ ih =>
    show '\x7b' :: body.marks ++ '\x7d' :: (next ++ e).marks = _
    simp [ih, marks]

@[simp] theorem marks_ofLines (ls : List Line) : (ofLines ls).marks = ls.flatMap Line.marks := by
  induction ls with
  | nil => rfl
  | cons l rest ih => exact congrArg (l.marks ++ ·) ih

@[simp] theorem marks_ofTexts (texts : List String) :
    (ofTexts texts).marks = texts.flatMap Text.marks := by
  rw [ofTexts, marks_ofLines, List.flatMap_map]
  simp only [Line.marks_plain]

@[simp] theorem marks_braces (c : Code) :
    (braces c).marks = '\x7b' :: c.marks ++ ['\x7d'] := rfl

@[simp] theorem marks_structBraces (c : Code) :
    (structBraces c).marks = '\x7b' :: c.marks ++ ['\x7d'] := rfl

end Code

section Rendering

variable {names : References}

theorem Word.marks_render {w : Word} (ref : ∀ a ∈ w.ref?, Text.marks (names.ref a) = [])
    (param : ∀ p ∈ w.param?, Text.marks (names.param p) = []) :
    Text.marks (w.render names) = w.marks := by
  cases w with
  | text s => rfl
  | ref a => exact ref a rfl
  | param p => exact param p rfl

theorem Word.flatMap_marks_render {ws : List Word}
    (ref : ∀ a ∈ ws.filterMap Word.ref?, Text.marks (names.ref a) = [])
    (param : ∀ p ∈ ws.filterMap (·.param?), Text.marks (names.param p) = []) :
    (ws.map (·.render names)).flatMap Text.marks = ws.flatMap Word.marks := by
  rw [List.flatMap_map]
  exact List.flatMap_congr fun w hw => marks_render
    (fun a ha => ref a (List.mem_filterMap.2 ⟨w, hw, ha⟩))
    (fun p hp => param p (List.mem_filterMap.2 ⟨w, hw, hp⟩))

theorem Line.marks_render {l : Line} (ref : ∀ a ∈ l.references, Text.marks (names.ref a) = [])
    (param : ∀ p ∈ l.params, Text.marks (names.param p) = []) :
    Text.marks (l.render names) = l.marks := by
  have fixed : ∀ piece ∈ [" ", ";", "(", ");", ",", " = ", "[index];", "[index] = attrib",
      "Attribute", " attrib", " = (Attribute", ")0;"], Text.marks piece = [] := by
    decide +kernel
  cases l with
  | words ws =>
    rw [render, Text.marks_join, Word.flatMap_marks_render ref param]
    rfl
  | clear n => simp [render, Line.marks, fixed]
  | load n source => simp [render, Line.marks, fixed]
  | store n target => simp [render, Line.marks, fixed]
  | assign target operator value =>
    have changed : Text.marks (names.ref target) = [] := ref target List.mem_cons_self
    have value : (value.map (·.render names)).flatMap Text.marks = value.flatMap Word.marks :=
      Word.flatMap_marks_render (fun a ha => ref a (List.mem_cons_of_mem _ ha)) param
    simp [render, Line.marks, changed, value, fixed]
  | call b =>
    have arguments : (b.callWords.map (·.render names)).flatMap Text.marks
        = b.callWords.flatMap Word.marks :=
      Word.flatMap_marks_render ref (b.filterMap_callWords ▸ param)
    simp [render, Line.marks, Text.marks_intercalate, arguments, fixed]

end Rendering

def Command.closes : Command → Bool
  | .exit | .exitStruct => true
  | _ => false

namespace Writer

def ClosesOpen (w : Writer) (commands : List Command) : Prop :=
  ∀ before c, before ++ [c] <+: commands → c.closes → 0 < (w.run before).depth

variable {w : Writer} {commands : List Command}

theorem closesOpen_nil : w.ClosesOpen [] := by
  intro before c h
  simp at h

theorem closesOpen_cons {c : Command} : w.ClosesOpen (c :: commands) ↔
    (c.closes → 0 < w.depth) ∧ (w.step c).ClosesOpen commands := by
  constructor
  · intro h
    refine ⟨h [] c (by simp), fun before e within => ?_⟩
    exact h (c :: before) e (List.cons_prefix_cons.2 ⟨rfl, within⟩)
  · rintro ⟨first, later⟩ before e within
    cases before with
    | nil =>
      obtain ⟨rfl, -⟩ := List.cons_prefix_cons.1 within
      exact first
    | cons d before =>
      obtain ⟨rfl, rest⟩ := List.cons_prefix_cons.1 within
      exact later before e rest

theorem closesOpen_append {more : List Command} : w.ClosesOpen (commands ++ more) ↔
    w.ClosesOpen commands ∧ (w.run commands).ClosesOpen more := by
  induction commands generalizing w with
  | nil => simp [closesOpen_nil, run]
  | cons c rest ih =>
    rw [List.cons_append, closesOpen_cons, closesOpen_cons, ih, and_assoc]
    rfl

theorem depth_line (piece : String) : (w.line piece).depth = w.depth := by
  unfold line newline write
  split <;> rfl

structure Writes (commands : List Command) (text : String) : Prop where
  text : (run {} commands).text = text
  closesOpen : ClosesOpen {} commands
  depth : (run {} commands).depth = 0

end Writer

/-- Code leaves a writer as deep as it was, and closes what it has opened itself. -/
theorem Code.closesOpen_commands (names : References) (c : Code) (w : Writer) :
    w.ClosesOpen (c.commands names) ∧ (w.run (c.commands names)).depth = w.depth := by
  -- The body of a scope is written by a writer that is one deeper.
  induction c generalizing w with
  | done => exact ⟨Writer.closesOpen_nil, rfl⟩
  | line l next ih =>
    obtain ⟨closed, depth⟩ := ih (w.step (.line (l.render names)))
    exact ⟨Writer.closesOpen_cons.2 ⟨nofun, closed⟩, depth.trans (Writer.depth_line _)⟩
  | scope isStruct body next ihBody ih =>
    let opened := w.step .enter
    let ending : Command := if isStruct then .exitStruct else .exit
    have deeper : opened.depth = w.depth + 1 := congrArg (· + 1) (Writer.depth_line _)
    obtain ⟨inside, kept⟩ := ihBody opened
    let after := opened.run (body.commands names)
    have left : (after.step ending).depth = w.depth := by
      have shallower : (after.step ending).depth = after.depth - 1 := by
        cases isStruct <;> exact Writer.depth_line _
      rw [shallower, kept, deeper, Nat.add_sub_cancel]
    obtain ⟨closed, depth⟩ := ih (after.step ending)
    refine ⟨?_, ?_⟩
    · refine Writer.closesOpen_append.2 ⟨Writer.closesOpen_cons.2 ⟨nofun, inside⟩,
        Writer.closesOpen_cons.2 ⟨fun _ => ?_, closed⟩⟩
      show 0 < after.depth
      rw [kept, deeper]
      exact Nat.succ_pos _
    · rw [commands, Writer.run_append]
      exact depth.trans left

theorem Code.writes (names : References) (c : Code) :
    Writer.Writes (c.commands names) (c.text names) := by
  obtain ⟨closed, depth⟩ := c.closesOpen_commands names {}
  exact ⟨rfl, closed, depth⟩

theorem Code.balanced_text {names : References} {c : Code}
    (named : ∀ l ∈ c.lines, Text.marks (l.render names) = l.marks)
    (balanced : Text.Balanced c.marks) : Text.Balanced (c.text names).toList := by
  rw [← Text.balanced_marks, text, Writer.marks_run, Code.marks_commands named]
  exact balanced

end ParticleShaders
