import Mathlib.Logic.IsEmpty.Basic
import ParticleShaders.CommandLine.Job
import ParticleShaders.Proofs.Compilation
import ParticleShaders.Proofs.Files.Record

namespace ParticleShaders.Job

variable {W : Type}

def outcome (job : Job) (system : ParticleSystem) (params : ParamTable) : Outcome :=
  system.compile Library.standard params (job.options system) .empty

/-- A way from the text of a system to what is pushed, on which every step succeeds. -/
structure Making (job : Job) (text : String) where
  system : ParticleSystem
  params : ParamTable
  compiled : Compiled
  pushes : List Push
  parsed : ParticleSystem.parse? text = some system
  loaded : ParamTable.ofDecls system.params = .ok params
  compiles : (job.outcome system params).result = .ok compiled
  pushed : compiled.layout.pushes params (job.outcome system params).bake = .ok pushes

namespace Making

variable {job : Job} {text : String}

def product (m : job.Making text) : Product := ⟨m.compiled, m.system.phaseShift, m.pushes⟩

def targets (m : job.Making text) : List (String × String) :=
  let name := "VFX_" ++ m.system.id
  [(Path.join job.outputDir (name ++ ".compute"), m.compiled.simulation),
    (Path.join job.outputDir (name ++ ".shader"), m.compiled.drawing),
    (Path.join job.outputDir (name ++ ".layout.json"), m.product.report)]

instance : Subsingleton (job.Making text) where
  allEq m n := by
    obtain ⟨system, params, compiled, pushes, parsed, loaded, compiles, pushed⟩ := m
    obtain ⟨_, _, _, _, parsed', loaded', compiles', pushed'⟩ := n
    cases Option.some.inj (parsed.symm.trans parsed')
    cases Except.ok.inj (loaded.symm.trans loaded')
    cases Except.ok.inj (compiles.symm.trans compiles')
    cases Except.ok.inj (pushed.symm.trans pushed')
    rfl

theorem kept {system : ParticleSystem} {params : ParamTable} {compiled : Compiled}
    (h : (job.outcome system params).result = .ok compiled) :
    compiled.systemId = system.id ∧
      (job.outcome system params).options.phaseShift = system.phaseShift := by
  obtain ⟨s, rfl⟩ := Compilation.result_eq_ok_iff.1 h
  exact ⟨rfl, by rw [outcome, s.compile_eq]; rfl⟩

theorem targets_eq (m : job.Making text) :
    m.targets = m.product.files.map fun f => (Path.join job.outputDir f.1, f.2) := by
  simp only [targets, Product.files, product, Compiled.name, shaderName, (kept m.compiles).1,
    List.map_cons, List.map_nil]

theorem produceText_eq_ok_iff {p : Product} :
    (job.produceText text).2 = .ok p ↔ ∃ m : job.Making text, m.product = p := by
  constructor
  · intro h
    unfold produceText at h
    split at h
    · cases h
    · next system parsed =>
      split at h
      · cases h
      · next params loaded =>
        unfold produce at h
        dsimp only at h
        split at h
        · cases h
        · next compiled compiles =>
          split at h
          · cases h
          · next pushes pushed =>
            cases h
            exact ⟨⟨system, params, compiled, pushes, parsed, loaded, compiles, pushed⟩,
              congrArg (Product.mk compiled · pushes) (kept compiles).2.symm⟩
  · rintro ⟨m, rfl⟩
    have compiles := m.compiles
    have pushed := m.pushed
    have phaseShift := (kept compiles).2
    rw [outcome] at compiles pushed phaseShift
    simp only [produceText, m.parsed, m.loaded, produce, compiles, pushed, phaseShift, product]

theorem isEmpty_of_error {failure : Failure} (h : (job.produceText text).2 = .error failure) :
    IsEmpty (job.Making text) := by
  constructor
  intro m
  rw [produceText_eq_ok_iff.2 ⟨m, rfl⟩] at h
  cases h

end Making

/-- Files are being written into a directory. Only directories on the way to it are looked after;
the files are written in their order, all of them unless an operation is refused. -/
structure Delivers (dir : String) (targets : List (String × String)) (result : Except Failure Unit)
    (steps : List FileStep) : Prop where
  within : ∀ step ∈ steps, step.written?.isSome ∨ step.Directs (Path.ancestors dir)
  written : steps.filterMap FileStep.written? <+: targets
  complete : result = .ok () → steps.filterMap FileStep.written? = targets
  refused : ∀ failure, result = .error failure → ∃ cause,
    (failure = .uncreatable dir cause ∨ ∃ path, failure = .unwritable path cause) ∧
      ∃ step ∈ steps, step.refusal? = some cause

namespace Delivers

variable {dir : String} {targets : List (String × String)} {result : Except Failure Unit}
  {steps later : List FileStep} {cause : Refusal}

theorem nil : Delivers dir [] (.ok ()) [] where
  within := by simp
  written := List.prefix_rfl
  complete _ := rfl
  refused _ h := nomatch h

theorem cons {path contents : String} (h : Delivers dir targets result later) :
    Delivers dir ((path, contents) :: targets) result
      (.write path contents (.ok ()) :: later) where
  within step mem := by
    rcases List.mem_cons.1 mem with rfl | mem
    · exact .inl rfl
    · exact h.within step mem
  written := (List.prefix_cons_inj _).2 h.written
  complete done := congrArg ((path, contents) :: ·) (h.complete done)
  refused failure failed := by
    obtain ⟨cause, named, step, mem, refused⟩ := h.refused failure failed
    exact ⟨cause, named, step, List.mem_cons_of_mem _ mem, refused⟩

theorem unwritable {path contents : String} :
    Delivers dir ((path, contents) :: targets) (.error (.unwritable path cause))
      [.write path contents (.error cause)] where
  within step mem := by
    obtain rfl := List.mem_singleton.1 mem
    exact .inl rfl
  written := ⟨targets, rfl⟩
  complete h := nomatch h
  refused failure failed := by
    cases failed
    exact ⟨cause, .inr ⟨path, rfl⟩, _, List.mem_singleton_self _, rfl⟩

theorem uncreatable
    (tends : Tends (Path.ancestors dir) (.error cause : Except Refusal Unit) steps) :
    Delivers dir targets (.error (.uncreatable dir cause)) steps where
  within step mem := .inr (tends.directs step mem)
  written := by
    rw [List.filterMap_eq_nil_iff.2 fun step mem => (tends.directs step mem).written?]
    exact List.nil_prefix
  complete h := nomatch h
  refused failure failed := by
    cases failed
    exact ⟨cause, .inl rfl, tends.refused cause rfl⟩

theorem after {answer : Except Refusal Unit} (h : Delivers dir targets result later)
    (tends : Tends (Path.ancestors dir) answer steps) :
    Delivers dir targets result (steps ++ later) := by
  have written : (steps ++ later).filterMap FileStep.written?
      = later.filterMap FileStep.written? := by
    rw [List.filterMap_append,
      List.filterMap_eq_nil_iff.2 fun step mem => (tends.directs step mem).written?,
      List.nil_append]
  constructor
  case within =>
    intro step mem
    rcases List.mem_append.1 mem with mem | mem
    · exact .inr (tends.directs step mem)
    · exact h.within step mem
  case written =>
    rw [written]
    exact h.written
  case complete =>
    rw [written]
    exact h.complete
  case refused =>
    intro failure failed
    obtain ⟨cause, named, step, mem, refused⟩ := h.refused failure failed
    exact ⟨cause, named, step, List.mem_append_right _ mem, refused⟩

end Delivers

variable (disk : Disk (StateM W))

theorem save_records (dir : String) (files : List (String × String)) :
    Records (save disk.recorded dir files) (save disk dir files) fun ending more =>
      Delivers dir (files.map fun f => (Path.join dir f.1, f.2)) ending.result more := by
  induction files with
  | nil => exact Records.pure .nil
  | cons file rest ih =>
    obtain ⟨name, contents⟩ := file
    refine (Records.noting _ (disk.write (Path.join dir name) contents)).bind ?_
    rintro answer _ rfl
    split
    · exact Records.pure .unwritable
    · refine ih.bind fun ending later delivers => ?_
      apply Records.pure
      simpa using delivers.cons

theorem deliver_records (job : Job) (p : Product) :
    Records (job.deliver disk.recorded p) (job.deliver disk p) fun ending more =>
      Delivers job.outputDir (p.files.map fun f => (Path.join job.outputDir f.1, f.2))
        ending.result more := by
  refine (disk.makeDirectories_records job.outputDir).bind fun answer more tends => ?_
  split
  · apply Records.pure
    simpa using Delivers.uncreatable tends
  · exact (save_records disk job.outputDir p.files).mono fun _ _ delivers => delivers.after tends

def proceed {m : Type → Type} [Monad m] (disk : Disk m) (job : Job) :
    Except Refusal String → m Ending
  | .error cause => return ⟨[], .error (.unreadable job.systemPath cause)⟩
  | .ok text =>
    match job.produceText text with
    | (log, .error failure) => return ⟨log, .error failure⟩
    | (log, .ok product) => do
      let ending ← job.deliver disk product
      return { ending with log := log ++ ending.log }

inductive Course (job : Job) :
    Except Refusal String → Except Failure Unit → List FileStep → Prop
  | unread (cause : Refusal) :
    Course job (.error cause) (.error (.unreadable job.systemPath cause)) []
  | unmade {text : String} {failure : Failure} : IsEmpty (job.Making text) →
    Course job (.ok text) (.error failure) []
  | made {text : String} {result : Except Failure Unit} {steps : List FileStep}
    (m : job.Making text) : Delivers job.outputDir m.targets result steps →
    Course job (.ok text) result steps

namespace Course

variable {job : Job} {answer : Except Refusal String} {result : Except Failure Unit}
  {steps : List FileStep}

theorem making_of_ok (course : job.Course answer (.ok ()) steps) :
    ∃ text, answer = .ok text ∧ Nonempty (job.Making text) := by
  cases course with
  | made m delivers => exact ⟨_, rfl, ⟨m⟩⟩

theorem delivers {text : String} (course : job.Course answer result steps)
    (found : answer = .ok text) (m : job.Making text) :
    Delivers job.outputDir m.targets result steps := by
  cases course with
  | unread cause => cases found
  | unmade none =>
    cases found
    exact none.elim m
  | made m' delivers =>
    cases found
    rwa [Subsingleton.elim m m']

end Course

theorem proceed_records (job : Job) (answer : Except Refusal String) :
    Records (proceed disk.recorded job answer) (proceed disk job answer) fun ending more =>
      job.Course answer ending.result more := by
  unfold proceed
  split
  · next cause => exact Records.pure (.unread cause)
  · next text =>
    split
    · next log failure failed =>
      exact Records.pure (.unmade (Making.isEmpty_of_error (congrArg Prod.snd failed)))
    · next log p made =>
      obtain ⟨m, rfl⟩ := Making.produceText_eq_ok_iff.1 (congrArg Prod.snd made)
      refine (deliver_records disk job m.product).bind fun ending later delivers => ?_
      apply Records.pure
      rw [List.append_nil]
      exact .made m (m.targets_eq ▸ delivers)

theorem runArguments_eq {disk : Disk (StateM W)} {arguments : List String} {job : Job}
    (parsed : (Arguments.parse arguments >>= Arguments.job) = .ok job) (w : W) :
    runArguments disk arguments w = (.ok (job.run disk w).1, (job.run disk w).2) := by
  rw [runArguments, parsed]
  rfl

theorem runArguments_course {arguments : List String} {job : Job}
    (parsed : (Arguments.parse arguments >>= Arguments.job) = .ok job) (w : W) :
    let answer := (disk.read job.systemPath w).1
    let run := job.run disk w
    ∃ later, runArguments disk.recorded arguments (w, [])
        = (.ok run.1, run.2, .read job.systemPath answer :: later) ∧
      job.Course answer run.1.result later := by
  let answer := disk.read job.systemPath w
  obtain ⟨later, same, course⟩ := proceed_records disk job answer.1 answer.2
    [.read job.systemPath answer.1]
  refine ⟨later, ?_, course⟩
  rw [runArguments_eq parsed]
  exact congrArg (fun r => (Except.ok r.1, r.2)) same

section Spark

def obliging (text : String) : Disk (StateM Unit) where
  read _ := pure (.ok text)
  write _ _ := pure (.ok ())
  makeDirectory _ := pure (.ok ())
  isDirectory _ := pure true

theorem run_obliging {job : Job} {text : String} (m : job.Making text) :
    (job.run (obliging text) ()).1.result = .ok () := by
  have made := Making.produceText_eq_ok_iff.2 ⟨m, rfl⟩
  calc (job.run (obliging text) ()).1.result
      = (proceed (obliging text) job (.ok text) ()).1.result := rfl
    _ = (job.deliver (obliging text) m.product ()).1.result := by
      rw [proceed]
      rcases found : job.produceText text with ⟨log, result⟩
      rw [found] at made
      cases made
      rfl
    _ = .ok () := by
      unfold deliver Disk.makeDirectories
      cases Path.ancestors job.outputDir <;> rfl

end Spark

end ParticleShaders.Job
