import ParticleShaders.Proofs.Renaming.Planning
import ParticleShaders.Proofs.Shader.Program

namespace ParticleShaders

namespace Word

def rename (ρ : String → String) : Word → Word
  | .param p => .param (p.rename ρ)
  | w => w

def param? : Word → Option Param
  | .param p => some p
  | _ => none

end Word

theorem Argument.word_rename (ρ : String → String) (a : Argument) :
    (a.rename ρ).word = a.word.rename ρ := by
  cases a <;> rfl

theorem Argument.param?_word (a : Argument) : a.word.param? = a.param? := by
  cases a <;> rfl

namespace BoundBlock

theorem callWords_rename (ρ : String → String) (b : BoundBlock) :
    (b.rename ρ).callWords = b.callWords.map (·.rename ρ) := by
  have refs : (b.descriptor.attributes.map fun d => Word.ref d.toAttribute).map (·.rename ρ)
      = b.descriptor.attributes.map fun d => Word.ref d.toAttribute := by
    rw [List.map_map]
    rfl
  have words : (b.rename ρ).arguments.map (·.word)
      = (b.arguments.map (·.word)).map (·.rename ρ) := by
    rw [rename, List.map_map, List.map_map]
    exact List.map_congr_left fun a _ => a.word_rename ρ
  rw [callWords, callWords, words, List.map_append, List.map_append, List.map_append, refs]
  show _ ++ _ ++ (if b.descriptor.needs .rand then _ else _)
    ++ (if b.descriptor.needs .kill then _ else _) = _
  cases b.descriptor.needs .rand <;> cases b.descriptor.needs .kill <;> rfl

theorem filterMap_callWords (b : BoundBlock) : b.callWords.filterMap (·.param?) = b.params := by
  have refs : (b.descriptor.attributes.map fun d => Word.ref d.toAttribute).filterMap (·.param?)
      = [] := by
    simp [List.filterMap_map, Word.param?]
  simp only [callWords, List.filterMap_append, refs, List.filterMap_map, Function.comp_def,
    Argument.param?_word, List.nil_append]
  cases b.descriptor.needs .rand <;> cases b.descriptor.needs .kill <;> simp [Word.param?, params]

end BoundBlock

namespace Line

def rename (ρ : String → String) : Line → Line
  | .words ws => .words (ws.map (·.rename ρ))
  | .assign target operator value => .assign target operator (value.map (·.rename ρ))
  | .call b => .call (b.rename ρ)
  | l => l

def params : Line → List Param
  | .words ws | .assign _ _ ws => ws.filterMap (·.param?)
  | .call b => b.params
  | _ => []

end Line

structure References.Renames (ρ : String → String) (names names' : References)
    (ps : List Param) : Prop where
  ref : ∀ a, names'.ref a = names.ref a
  param : ∀ p ∈ ps, names'.param (p.rename ρ) = names.param p

theorem References.Renames.mono {ρ : String → String} {names names' : References}
    {ps qs : List Param} (h : names.Renames ρ names' qs) (within : ps ⊆ qs) :
    names.Renames ρ names' ps :=
  ⟨h.ref, fun p hp => h.param p (within hp)⟩

section Rendering

variable {ρ : String → String} {names names' : References}

theorem Word.map_render_rename {ws : List Word}
    (h : names.Renames ρ names' (ws.filterMap (·.param?))) :
    (ws.map (·.rename ρ)).map (·.render names') = ws.map (·.render names) := by
  rw [List.map_map]
  refine List.map_congr_left fun w hw => ?_
  cases w with
  | text s => rfl
  | ref a => exact h.ref a
  | param p => exact h.param p (List.mem_filterMap.2 ⟨_, hw, rfl⟩)

theorem Line.render_rename {l : Line} (h : names.Renames ρ names' l.params) :
    (l.rename ρ).render names' = l.render names := by
  cases l with
  | words ws => exact congrArg String.join (Word.map_render_rename h)
  | assign target operator value =>
    show names'.ref target ++ " " ++ operator ++ " "
      ++ String.join ((value.map (·.rename ρ)).map (·.render names')) ++ ";" = _
    rw [Word.map_render_rename h, h.ref]
    rfl
  | call b =>
    rw [params, ← b.filterMap_callWords] at h
    show b.function ++ "("
      ++ ",".intercalate ((b.rename ρ).callWords.map (·.render names')) ++ ");" = _
    rw [b.callWords_rename, Word.map_render_rename h]
    rfl
  | _ => rfl

end Rendering

section Fixed

variable {ρ : String → String}

theorem BoundBlock.rename_of_params {b : BoundBlock} (h : b.params = []) : b.rename ρ = b := by
  have fixed : b.arguments.map (·.rename ρ) = b.arguments.map fun a => a := by
    refine List.map_congr_left fun a ha => ?_
    cases a with
    | param p => cases List.filterMap_eq_nil_iff.1 h _ ha
    | expr source => rfl
  rw [rename, fixed, List.map_id']

theorem Word.map_rename_of_params {ws : List Word} (h : ws.filterMap (·.param?) = []) :
    ws.map (·.rename ρ) = ws := by
  have fixed : ws.map (·.rename ρ) = ws.map fun w => w := by
    refine List.map_congr_left fun w hw => ?_
    cases w with
    | param p => cases List.filterMap_eq_nil_iff.1 h _ hw
    | _ => rfl
  rw [fixed, List.map_id']

theorem Line.rename_of_params {l : Line} (h : l.params = []) : l.rename ρ = l := by
  cases l with
  | words ws => rw [rename, Word.map_rename_of_params h]
  | assign target operator value => rw [rename, Word.map_rename_of_params h]
  | call b => rw [rename, BoundBlock.rename_of_params h]
  | _ => rfl

theorem Line.map_rename_of_params {ls : List Line} (h : ls.flatMap (·.params) = []) :
    ls.map (·.rename ρ) = ls := by
  have fixed : ls.map (·.rename ρ) = ls.map fun l => l :=
    List.map_congr_left fun l hl => rename_of_params (List.flatMap_eq_nil_iff.1 h l hl)
  rw [fixed, List.map_id']

end Fixed

namespace Code

def rename (ρ : String → String) : Code → Code
  | done => done
  | line l next => line (l.rename ρ) (next.rename ρ)
  | scope isStruct body next => scope isStruct (body.rename ρ) (next.rename ρ)

def params (c : Code) : List Param := c.lines.flatMap (·.params)

variable {ρ : String → String} {names names' : References}

theorem commands_rename {c : Code} (h : names.Renames ρ names' c.params) :
    (c.rename ρ).commands names' = c.commands names := by
  induction c with
  | done => rfl
  | line l next ih =>
    simp only [params, lines, List.flatMap_cons] at h
    simp only [rename, commands, Line.render_rename (h.mono (List.subset_append_left ..)),
      ih (h.mono (List.subset_append_right ..))]
  | scope isStruct body next ihBody ih =>
    simp only [params, lines, List.flatMap_append] at h
    simp only [rename, commands, ihBody (h.mono (List.subset_append_left ..)),
      ih (h.mono (List.subset_append_right ..))]

theorem rename_of_params {c : Code} (h : c.params = []) : c.rename ρ = c := by
  induction c with
  | done => rfl
  | line l next ih =>
    obtain ⟨first, later⟩ := List.append_eq_nil_iff.1 h
    rw [rename, Line.rename_of_params first, ih later]
  | scope isStruct body next ihBody ih =>
    simp only [params, lines, List.flatMap_append] at h
    obtain ⟨first, later⟩ := List.append_eq_nil_iff.1 h
    rw [rename, ihBody first, ih later]

theorem commands_of_params {c : Code} (h : c.params = []) (ref : ∀ a, names'.ref a = names.ref a) :
    c.commands names' = c.commands names := by
  have same := commands_rename (ρ := fun s => s) (c := c) ⟨ref, by simp [h]⟩
  rwa [rename_of_params h] at same

theorem commands_braces (names : References) (c : Code) :
    (braces c).commands names = .enter :: c.commands names ++ [.exit] := rfl

@[simp] theorem rename_append (c e : Code) : (c ++ e).rename ρ = c.rename ρ ++ e.rename ρ := by
  induction c with
  | done => rfl
  | line l next ih => exact congrArg (line _) ih
  | scope isStruct body next _ ih => exact congrArg (scope _ _) ih

@[simp] theorem rename_ofLines (ls : List Line) :
    (ofLines ls).rename ρ = ofLines (ls.map (·.rename ρ)) := by
  induction ls with
  | nil => rfl
  | cons l rest ih => exact congrArg (line _) ih

@[simp] theorem rename_ofTexts (texts : List String) :
    (ofTexts texts).rename ρ = ofTexts texts := by
  rw [ofTexts, rename_ofLines, List.map_map]
  rfl

@[simp] theorem rename_braces (c : Code) : (braces c).rename ρ = braces (c.rename ρ) := rfl

@[simp] theorem params_append (c e : Code) : (c ++ e).params = c.params ++ e.params := by
  simp [params]

@[simp] theorem params_ofLines (ls : List Line) :
    (ofLines ls).params = ls.flatMap (·.params) := by
  simp [params]

@[simp] theorem params_ofTexts (texts : List String) : (ofTexts texts).params = [] := by
  rw [ofTexts, params_ofLines, List.flatMap_map]
  exact List.flatMap_eq_nil_iff.2 fun _ _ => rfl

@[simp] theorem params_braces (c : Code) : (braces c).params = c.params := by
  simp [params]

end Code

end ParticleShaders
