import ParticleShaders.Proofs.CommandLine.Delivery
import ParticleShaders.Proofs.Host.Report

namespace ParticleShaders

deriving instance DecidableEq for Naming, HostLayout, Texture, PushValue, Push

structure HostData where
  systemId : String
  phaseShift : Bool
  layout : HostLayout
  pushes : List Push
  deriving DecidableEq

namespace HostData

def text (d : HostData) : String :=
  (Report.system d.systemId d.phaseShift d.layout d.pushes).pretty ReportNumber.write 0

def shown (d : HostData) : HostData := { d with pushes := d.pushes.map Push.shown }

def IsFinite (d : HostData) : Prop := ∀ p ∈ d.pushes, p.value.IsFinite

theorem text_eq_iff {d d' : HostData} : d.text = d'.text ↔ d.shown = d'.shown := by
  have trees : d.text = d'.text ↔ Report.system d.systemId d.phaseShift d.layout d.pushes
      = Report.system d'.systemId d'.phaseShift d'.layout d'.pushes := by
    constructor
    · intro same
      exact Json.pretty_inj ReportNumber.legible_write (Report.printable_system ..)
        (Report.printable_system ..) same
    · intro same
      rw [text, text, same]
  rw [trees, Report.system_eq_iff]
  simp only [shown, HostData.mk.injEq]

theorem IsFinite.shown_eq {d : HostData} (finite : d.IsFinite) : d.shown = d := by
  have each : d.pushes.map Push.shown = d.pushes.map id :=
    List.map_congr_left fun p mem => congrArg (Push.mk p.target p.name) (finite p mem).shown_eq
  rw [shown, each, List.map_id]

theorem isFinite_shown {d : HostData} : d.shown.IsFinite ↔ d.IsFinite := by
  simp only [IsFinite, shown, List.forall_mem_map, Push.shown, PushValue.isFinite_shown]

theorem IsFinite.shown_inj {d d' : HostData} (finite : d.IsFinite) :
    d.shown = d'.shown ↔ d = d' := by
  constructor
  · intro same
    have finite' : d'.IsFinite := isFinite_shown.1 (same ▸ isFinite_shown.2 finite)
    rw [← finite.shown_eq, same, finite'.shown_eq]
  · rintro rfl
    rfl

end HostData

def Product.hostData (p : Product) : HostData :=
  ⟨p.compiled.systemId, p.phaseShift, p.compiled.layout, p.pushes⟩

namespace Job

section Telling

variable {W : Type} (disk : Disk (StateM W)) (arguments : List String) (w : W)

def written : List (String × String) :=
  (runArguments disk.recorded arguments (w, [])).2.2.filterMap FileStep.written?

def report? : Option String := (written disk arguments w).getLast?.map (·.2)

def Tells (d : HostData) : Prop :=
  (∃ log, (runArguments disk arguments w).1 = .ok ⟨log, .ok ()⟩) ∧
    ∃ (job : Job) (text : String) (m : job.Making text),
      (Arguments.parse arguments >>= Arguments.job) = .ok job ∧
      (disk.read job.systemPath w).1 = .ok text ∧ written disk arguments w = m.targets ∧
      m.product.hostData = d

variable {disk arguments w}

theorem Tells.report?_eq {d : HostData} (tells : Tells disk arguments w d) :
    report? disk arguments w = some d.text := by
  obtain ⟨-, job, text, m, -, -, targets, rfl⟩ := tells
  rw [report?, targets]
  rfl

theorem Tells.unique {d d' : HostData} (tells : Tells disk arguments w d)
    (tells' : Tells disk arguments w d') : d = d' := by
  obtain ⟨-, job, text, m, parsed, found, -, rfl⟩ := tells
  obtain ⟨-, job', text', m', parsed', found', -, rfl⟩ := tells'
  obtain rfl : job = job' := Except.ok.inj (parsed.symm.trans parsed')
  obtain rfl : text = text' := Except.ok.inj (found.symm.trans found')
  rw [Subsingleton.elim m m']

theorem exists_tells {log : List LogEntry}
    (done : (runArguments disk arguments w).1 = .ok ⟨log, .ok ()⟩) :
    ∃ d, Tells disk arguments w d := by
  cases parsed : Arguments.parse arguments >>= Arguments.job with
  | error fault =>
    rw [runArguments, parsed] at done
    cases done
  | ok job =>
    obtain ⟨later, same, course⟩ := runArguments_course disk parsed w
    have ended : job.run disk w = (⟨log, .ok ()⟩, (job.run disk w).2) := by
      rw [runArguments_eq parsed] at done
      exact Prod.ext (Except.ok.inj done) rfl
    rw [ended] at course
    obtain ⟨text, found, ⟨m⟩⟩ := course.making_of_ok
    have files : written disk arguments w = m.targets := by
      rw [written, same]
      exact (course.delivers found m).complete rfl
    exact ⟨m.product.hostData, ⟨log, done⟩, job, text, m, parsed, found, files, rfl⟩

/-- Two runs that succeed write the same report exactly if all they found is the same, as far as it
is shown; singles that are finite are shown by their bits. -/
theorem runArguments_reports {W' : Type} {disk' : Disk (StateM W')} {arguments' : List String}
    {w' : W'} {log log' : List LogEntry}
    (done : (runArguments disk arguments w).1 = .ok ⟨log, .ok ()⟩)
    (done' : (runArguments disk' arguments' w').1 = .ok ⟨log', .ok ()⟩) :
    ∃ d d', Tells disk arguments w d ∧ Tells disk' arguments' w' d' ∧
      (report? disk arguments w = report? disk' arguments' w' ↔ d.shown = d'.shown) ∧
      (d.IsFinite → (report? disk arguments w = report? disk' arguments' w' ↔ d = d')) := by
  obtain ⟨d, tells⟩ := exists_tells done
  obtain ⟨d', tells'⟩ := exists_tells done'
  have same : report? disk arguments w = report? disk' arguments' w' ↔ d.shown = d'.shown := by
    rw [tells.report?_eq, tells'.report?_eq, Option.some_inj, HostData.text_eq_iff]
  exact ⟨d, d', tells, tells', same, fun finite => same.trans finite.shown_inj⟩

end Telling

section Flare

theorem tells_obliging {job : Job} {text : String} {arguments : List String} {d : HostData}
    (parsed : (Arguments.parse arguments >>= Arguments.job) = .ok job)
    (made : (job.produceText text).2.toOption.map (·.hostData) = some d) :
    Tells (obliging text) arguments () d := by
  obtain ⟨p, found, told⟩ := exists_of_toOption made
  obtain ⟨m, rfl⟩ := Making.produceText_eq_ok_iff.1 found
  have done : (runArguments (obliging text) arguments ()).1
      = .ok ⟨(job.run (obliging text) ()).1.log, .ok ()⟩ := by
    rw [runArguments_eq parsed, ← run_obliging m]
  obtain ⟨d, tells⟩ := exists_tells done
  obtain ⟨-, job', text', m', parsed', found, -, rfl⟩ := id tells
  obtain rfl : job = job' := Except.ok.inj (parsed.symm.trans parsed')
  obtain rfl : text = text' := Except.ok.inj found
  rwa [Subsingleton.elim m' m, told] at tells

def flareText (radius : String) : String :=
  "\x7b\"version\":\"1\",\"metadata\":\x7b\"name\":\"\"\x7d,\"id\":\"flare\",\"params\":[
\x7b\"id\":\"p\",\"type\":\"float\",\"value\":" ++ (radius ++ "\x7d],\"contexts\":[
\x7b\"id\":\"a\",\"type\":\"init\",\"blocks\":[
\x7b\"id\":\"b\",\"type\":\"SetPositionSphere\",
\"slots\":\x7b\"radius\":\x7b\"param\":\"p\"\x7d\x7d\x7d]\x7d,
\x7b\"id\":\"c\",\"type\":\"update\"\x7d,\x7b\"id\":\"d\",\"type\":\"output\"\x7d]\x7d")

theorem append_eq_ofList {s t : String} {cs ds : List Char} (hs : s = .ofList cs)
    (ht : t = .ofList ds) : s ++ t = .ofList (cs ++ ds) := by
  rw [hs, ht, String.ofList_append]

def flareDisk (radius : String) : Disk (StateM Unit) := obliging (flareText radius)

def flareArguments : List String := ["--system-json", "s.json", "--output-dir", "out"]

def flareJob : Job := { systemPath := "s.json", outputDir := "out" }

def flareData (radius : Float32) : HostData where
  systemId := "flare"
  phaseShift := false
  layout := {
    buffers := [⟨16, some "attribBuffer0", none, some "attribBuffer0"⟩,
      ⟨4, some "attribBuffer1", some "attribBuffer1", none⟩]
    uniforms := ⟨[("p", "initUniform0")], by decide⟩
    outputUniforms := ∅
    hasKill := false
    isQuad := false }
  pushes := [⟨.compute, "initUniform0", .float radius⟩]

set_option maxRecDepth 2000 in
theorem flare_tells : ∀ r ∈ [("0.1", 0x3dcccccd), ("1e39", 0x7f800000), ("-1e39", 0xff800000)],
    Tells (flareDisk r.1) flareArguments () (flareData (.ofBits r.2)) := by
  have described : (Arguments.parse flareArguments >>= Arguments.job) = .ok flareJob := rfl
  intro r mem
  apply tells_obliging described
  generalize given : flareText r.1 = text
  rw [produceText, ParticleSystem.parse?, Json.read?]
  simp only [List.mem_cons, List.not_mem_nil, or_false] at mem
  rcases mem with rfl | rfl | rfl
  all_goals
    have spelled := given.symm.trans (append_eq_ofList rfl (append_eq_ofList rfl rfl))
    rw [Json.tokens?_of_chars spelled]
    decide +kernel

theorem flare_reports :
    Tells (flareDisk "0.1") flareArguments () (flareData (.ofBits 0x3dcccccd)) ∧
    Tells (flareDisk "1e39") flareArguments () (flareData (.ofBits 0x7f800000)) ∧
    report? (flareDisk "0.1") flareArguments () ≠ report? (flareDisk "1e39") flareArguments () := by
  have near := flare_tells ("0.1", 0x3dcccccd) (by simp)
  have far := flare_tells ("1e39", 0x7f800000) (by simp)
  refine ⟨near, far, ?_⟩
  obtain ⟨log, done⟩ := near.1
  obtain ⟨log', done'⟩ := far.1
  obtain ⟨d, d', tells, tells', -, same⟩ := runArguments_reports done done'
  obtain rfl := tells.unique near
  obtain rfl := tells'.unique far
  have finite : (flareData (.ofBits 0x3dcccccd)).IsFinite := by
    simp only [HostData.IsFinite, PushValue.IsFinite, flareData, PushValue.singles,
      List.forall_mem_singleton]
    decide +kernel
  rw [ne_eq, same finite]
  decide +kernel

/-- Radii too large for a single, one to either side, are pushed as different infinities, but the
reports are the same. -/
theorem flares_alike :
    Tells (flareDisk "1e39") flareArguments () (flareData (.ofBits 0x7f800000)) ∧
    Tells (flareDisk "-1e39") flareArguments () (flareData (.ofBits 0xff800000)) ∧
    report? (flareDisk "1e39") flareArguments () = report? (flareDisk "-1e39") flareArguments () ∧
    (flareData (.ofBits 0x7f800000)).pushes ≠ (flareData (.ofBits 0xff800000)).pushes := by
  have above := flare_tells ("1e39", 0x7f800000) (by simp)
  have below := flare_tells ("-1e39", 0xff800000) (by simp)
  refine ⟨above, below, ?_, by decide +kernel⟩
  rw [above.report?_eq, below.report?_eq, HostData.text_eq_iff.2]
  decide +kernel

end Flare

end Job

end ParticleShaders
