import ParticleShaders.Files.Basic
/-! A record of file operations. A disk is recorded by noting each operation with its answer; the
answers stay what they are, so a program runs on the recorded disk as it does on the disk itself,
and the record tells what it has done. -/

namespace ParticleShaders

inductive FileStep
  | read (path : String) (answer : Except Refusal String)
  | write (path contents : String) (answer : Except Refusal Unit)
  | makeDirectory (path : String) (answer : Except Refusal Unit)
  | isDirectory (path : String) (answer : Bool)

namespace FileStep

def changes : FileStep → Bool
  | write .. | makeDirectory .. => true
  | read .. | isDirectory .. => false

def written? : FileStep → Option (String × String)
  | write path contents _ => some (path, contents)
  | _ => none

def refusal? : FileStep → Option Refusal
  | read _ (.error cause) | write _ _ (.error cause) | makeDirectory _ (.error cause) => some cause
  | _ => none

def Directs (dirs : List String) : FileStep → Prop
  | makeDirectory path _ | isDirectory path _ => path ∈ dirs
  | _ => False

theorem Directs.mono {dirs more : List String} (h : dirs ⊆ more) {step : FileStep}
    (directs : step.Directs dirs) : step.Directs more := by
  cases step with
  | makeDirectory path answer => exact h directs
  | isDirectory path answer => exact h directs
  | _ => exact directs

theorem Directs.written? {dirs : List String} {step : FileStep} (directs : step.Directs dirs) :
    step.written? = none := by
  cases step with
  | write path contents answer => exact directs.elim
  | _ => rfl

variable {W α : Type}

def noting (step : α → FileStep) (action : StateM W α) : StateM (W × List FileStep) α :=
  fun (w, steps) =>
    let (answer, after) := action w
    (answer, after, steps ++ [step answer])

end FileStep

variable {W α β : Type}

namespace Disk

def recorded (disk : Disk (StateM W)) : Disk (StateM (W × List FileStep)) where
  read path := FileStep.noting (.read path) (disk.read path)
  write path contents := FileStep.noting (.write path contents) (disk.write path contents)
  makeDirectory path := FileStep.noting (.makeDirectory path) (disk.makeDirectory path)
  isDirectory path := FileStep.noting (.isDirectory path) (disk.isDirectory path)

end Disk

/-- A program on a recorded disk does what it does without the record, and what it adds to the
record has a property together with its result. -/
def Records (x : StateM (W × List FileStep) α) (y : StateM W α)
    (P : α → List FileStep → Prop) : Prop :=
  ∀ w steps, ∃ more, x (w, steps) = ((y w).1, (y w).2, steps ++ more) ∧ P (y w).1 more

namespace Records

variable {x : StateM (W × List FileStep) α} {y : StateM W α} {P Q : α → List FileStep → Prop}

theorem mono (h : Records x y P) (imp : ∀ a more, P a more → Q a more) : Records x y Q := by
  intro w steps
  obtain ⟨more, ran, holds⟩ := h w steps
  exact ⟨more, ran, imp _ _ holds⟩

theorem pure {a : α} (h : P a []) :
    Records (Pure.pure a : StateM (W × List FileStep) α) (Pure.pure a) P := by
  intro w steps
  exact ⟨[], by rw [List.append_nil]; rfl, h⟩

theorem bind {f : α → StateM (W × List FileStep) β} {g : α → StateM W β}
    {R : β → List FileStep → Prop} (first : Records x y P)
    (rest : ∀ a more, P a more → Records (f a) (g a) fun b later => R b (more ++ later)) :
    Records (x >>= f) (y >>= g) R := by
  intro w steps
  obtain ⟨more, ran, holds⟩ := first w steps
  obtain ⟨later, ran', holds'⟩ := rest _ more holds (y w).2 (steps ++ more)
  refine ⟨more ++ later, ?_, holds'⟩
  calc (x >>= f) (w, steps) = f (x (w, steps)).1 (x (w, steps)).2 := rfl
    _ = f (y w).1 ((y w).2, steps ++ more) := by rw [ran]
    _ = _ := by rw [ran', List.append_assoc]; rfl

theorem noting (step : α → FileStep) (action : StateM W α) :
    Records (FileStep.noting step action) action fun a more => more = [step a] :=
  fun _ _ => ⟨_, rfl, rfl⟩

end Records

structure Tends (dirs : List String) (answer : Except Refusal α) (steps : List FileStep) :
    Prop where
  directs : ∀ step ∈ steps, step.Directs dirs
  refused : ∀ cause, answer = .error cause → ∃ step ∈ steps, step.refusal? = some cause

namespace Tends

variable {dirs more : List String} {answer : Except Refusal α} {steps later : List FileStep}

theorem nil {a : α} : Tends dirs (.ok a) [] where
  directs := by simp
  refused _ h := nomatch h

theorem mono (h : Tends dirs answer steps) (sub : dirs ⊆ more) : Tends more answer steps where
  directs step mem := (h.directs step mem).mono sub
  refused := h.refused

/-- The answer is that of the later operations; what comes before them may have been refused. -/
theorem after (h : Tends dirs answer later) {earlier : Except Refusal β}
    (before : Tends dirs earlier steps) : Tends dirs answer (steps ++ later) where
  directs step mem := (List.mem_append.1 mem).elim (before.directs step) (h.directs step)
  refused cause failed := by
    obtain ⟨step, mem, refused⟩ := h.refused cause failed
    exact ⟨step, List.mem_append_right _ mem, refused⟩

theorem fail {cause : Refusal} (h : Tends dirs (.error cause : Except Refusal α) steps) :
    Tends dirs (.error cause : Except Refusal β) steps where
  directs := h.directs
  refused _ same := by
    cases same
    exact h.refused cause rfl

theorem succeed (h : Tends dirs answer steps) {b : β} : Tends dirs (.ok b) steps where
  directs := h.directs
  refused _ same := nomatch same

end Tends

namespace Disk

variable (disk : Disk (StateM W))

theorem ensure_records (dir : String) :
    Records (disk.recorded.ensure dir) (disk.ensure dir) (Tends [dir]) := by
  unfold ensure
  refine (Records.noting _ (disk.makeDirectory dir)).bind ?_
  rintro answer _ rfl
  split
  · refine (Records.noting _ (disk.isDirectory dir)).bind ?_
    rintro there _ rfl
    apply Records.pure
    constructor
    · simp [FileStep.Directs]
    · intro cause failed
      refine ⟨.makeDirectory dir (.error .alreadyThere), by simp, ?_⟩
      cases there with
      | true => cases failed
      | false =>
        cases failed
        rfl
  · apply Records.pure
    constructor
    · simp [FileStep.Directs]
    · rintro cause rfl
      exact ⟨.makeDirectory dir (.error cause), by simp, rfl⟩

theorem ensureNearest_records (dirs passed : List String) :
    Records (disk.recorded.ensureNearest dirs passed) (disk.ensureNearest dirs passed)
      fun answer more => Tends dirs answer more ∧
        ∀ below, answer = .ok below → below ⊆ dirs ++ passed := by
  induction dirs generalizing passed with
  | nil =>
    apply Records.pure
    exact ⟨.nil, fun below same => by cases same; simp⟩
  | cons dir above ih =>
    refine (disk.ensure_records dir).bind fun answer more near => ?_
    have near := near.mono (show [dir] ⊆ dir :: above by simp)
    split
    · refine (ih (dir :: passed)).mono ?_
      rintro answer later ⟨far, kept⟩
      refine ⟨(far.mono (List.subset_cons_self dir above)).after near, fun below same => ?_⟩
      refine List.Subset.trans (kept below same) fun d hd => ?_
      grind
    · apply Records.pure
      exact ⟨by simpa using near.fail, fun below same => nomatch same⟩
    · apply Records.pure
      refine ⟨by simpa using near.succeed, fun below same => ?_⟩
      cases same
      exact List.subset_append_right _ _

theorem ensureAll_records (dirs : List String) :
    Records (disk.recorded.ensureAll dirs) (disk.ensureAll dirs) (Tends dirs) := by
  induction dirs with
  | nil => exact Records.pure .nil
  | cons dir rest ih =>
    refine (disk.ensure_records dir).bind fun answer more near => ?_
    have near := near.mono (show [dir] ⊆ dir :: rest by simp)
    split
    · apply Records.pure
      simpa using near.fail
    · exact ih.mono fun _ later far => (far.mono (List.subset_cons_self dir rest)).after near

theorem makeDirectories_records (path : String) :
    Records (disk.recorded.makeDirectories path) (disk.makeDirectories path)
      (Tends (Path.ancestors path)) := by
  refine (disk.ensureNearest_records (Path.ancestors path) []).bind ?_
  rintro answer more ⟨near, kept⟩
  split
  · apply Records.pure
    simpa using near.fail
  · next below =>
    refine (disk.ensureAll_records below).mono fun _ later far => ?_
    exact (far.mono (by simpa using kept below rfl)).after near

end Disk

end ParticleShaders
