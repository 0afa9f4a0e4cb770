import ParticleShaders.Proofs.Usage.Rejections

namespace ParticleShaders

theorem ParticleSystem.compile_cases (system : ParticleSystem) (library : Library)
    (params : ParamTable) (options : Options) :
    Nonempty (Compilation system library params options) ∨ ∃ e told left, ∀ before,
      system.compile library params options before = ⟨.error e, told, left, before⟩ := by
  cases planned : Plan.ofSystem system library params with
  | error e =>
    refine .inr ⟨e, [.ofRejection e], options, fun before => ?_⟩
    rw [compile, planned]
    rfl
  | ok plan =>
    rcases compile_cases_of_planned planned options with ⟨s, -⟩ | ⟨e, told, left, -, failed⟩
    · exact .inl ⟨s⟩
    · exact .inr ⟨e, told, left, failed planned rfl⟩

structure Request where
  system : ParticleSystem
  library : Library
  params : ParamTable
  options : Options

namespace Request

def compile (r : Request) (bake : Bake) : Outcome :=
  r.system.compile r.library r.params r.options bake

def alone (r : Request) : Outcome := r.compile .empty

def succeeds (r : Request) : Bool := r.alone.result.isOk

theorem compile_eq (r : Request) (before : Bake) : r.compile before =
    { r.alone with bake := if r.succeeds then r.alone.bake else before } := by
  unfold succeeds alone compile
  rcases r.system.compile_cases r.library r.params r.options with ⟨⟨s⟩⟩ | ⟨e, told, left, failed⟩
  · rw [s.compile_eq, s.compile_eq]
    rfl
  · rw [failed, failed]
    rfl

end Request

/-- Compiles requests in order, each with the bake that the one before it left, and gives the bake
that the last one leaves. -/
def compileAll : List Request → Bake → List Outcome × Bake
  | [], bake => ([], bake)
  | r :: rest, bake =>
    let outcome := r.compile bake
    let (outcomes, last) := compileAll rest outcome.bake
    (outcome :: outcomes, last)

/-- Requests that share a bake do not interfere. -/
theorem compileAll_apart (requests : List Request) (before : Bake) :
    (compileAll requests before).1.map (fun o => (o.result, o.diagnostics, o.options))
      = requests.map (fun r => (r.alone.result, r.alone.diagnostics, r.alone.options)) ∧
    (compileAll requests before).2
      = ((requests.filter (·.succeeds)).getLast?.map (·.alone.bake)).getD before := by
  induction requests generalizing before with
  | nil => exact ⟨rfl, rfl⟩
  | cons r rest ih =>
    obtain ⟨outcomes, last⟩ := ih (r.compile before).bake
    constructor
    · show ((r.compile before).result, (r.compile before).diagnostics, (r.compile before).options)
        :: (compileAll rest (r.compile before).bake).1.map _ = _
      rw [outcomes, r.compile_eq]
      rfl
    · show (compileAll rest (r.compile before).bake).2 = _
      rw [last, r.compile_eq]
      -- The bake that the rest starts with counts only if none of the rest succeeds.
      cases succeeded : r.succeeds with
      | false =>
        rw [List.filter_cons_of_neg (by simp [succeeded])]
        rfl
      | true =>
        rw [List.filter_cons_of_pos succeeded, List.getLast?_cons]
        cases (rest.filter (·.succeeds)).getLast? <;> rfl

end ParticleShaders
