import DetectorSim.Chain.HitCounter
import DetectorSim.Proofs.Dictionary
import DetectorSim.Proofs.Pipeline.SideBySide

/-! Constructors that do the same whatever the header of their section qualifies and whatever its
key `type` lists. Reading any other key is of this kind, and so is what is built from such readings;
the module types of a chain are. -/

namespace DetectorSim

open Config

variable {σ ω α β τ : Type}

namespace Config.Section

/-- The section apart from the qualifier of its header and the key `type`. -/
def unaddressed (s : Section) : Section :=
  { s with
    detector := none
    values := s.values.erase "type"
    marks := s.marks.filter (· ≠ "type") }

variable {s t : Section} {key : String}

theorem find?_of_unaddressed (same : t.unaddressed = s.unaddressed) (other : key ≠ "type") :
    t.values.find? key = s.values.find? key := by
  have found := congrArg (fun u => u.values.find? key) same
  simpa [unaddressed, Dictionary.find?_erase, other] using found

theorem has_of_unaddressed (same : t.unaddressed = s.unaddressed) (other : key ≠ "type") :
    t.has key = s.has key := by
  rw [has, has, Dictionary.contains, Dictionary.contains, find?_of_unaddressed same other]

theorem unaddressed_mark_type (s : Section) : (s.mark "type").unaddressed = s.unaddressed := by
  rw [mark]
  split
  · rfl
  · simp [unaddressed]

theorem unaddressed_mark (same : t.unaddressed = s.unaddressed) (other : key ≠ "type") :
    (t.mark key).unaddressed = (s.mark key).unaddressed := by
  have pulled (u : Section) : (u.mark key).unaddressed = u.unaddressed.mark key := by
    rw [mark, mark]
    by_cases marked : key ∈ u.marks <;> simp [unaddressed, marked, other]
  rw [pulled, pulled, same]

end Config.Section

namespace Config.Access

/-- Two readings give the same value, or both none, and leave the same behind. -/
structure SameReading (x y : Except ConfigError α × Section) : Prop where
  value : y.1.toOption = x.1.toOption
  left : y.2.unaddressed = x.2.unaddressed

/-- Reading that does not depend on the header of a section nor on its key `type`. -/
def IgnoresHeader (access : Access α) : Prop :=
  ∀ s t : Section, t.unaddressed = s.unaddressed → SameReading (access.on s) (access.on t)

theorem ignoresHeader_pure (value : α) : (pure value : Access α).IgnoresHeader :=
  fun _ _ same => ⟨rfl, same⟩

theorem ignoresHeader_refuse (key : String) (rule : ValueRule) :
    (refuse key rule : Access α).IgnoresHeader :=
  fun _ _ same => ⟨rfl, same⟩

theorem ignoresHeader_bind {access : Access α} {next : α → Access β}
    (first : access.IgnoresHeader) (onwards : ∀ value, (next value).IgnoresHeader) :
    (access >>= next).IgnoresHeader := by
  intro s t same
  obtain ⟨value, left⟩ := first s t same
  rw [on_bind, on_bind]
  generalize access.on s = read at value left ⊢
  generalize access.on t = read' at value left ⊢
  obtain ⟨outcome, own⟩ := read
  obtain ⟨outcome', own'⟩ := read'
  cases outcome with
  | ok found =>
    cases outcome' with
    | ok found' =>
      cases value
      exact onwards found own own' left
    | error e => cases value
  | error e =>
    cases outcome' with
    | ok found' => cases value
    | error e' => exact ⟨rfl, left⟩

variable {key : String}

theorem ignoresHeader_has (other : key ≠ "type") : (has key).IgnoresHeader :=
  fun _ _ same => ⟨congrArg some (Section.has_of_unaddressed same other), same⟩

theorem ignoresHeader_read (kind : Kind) (other : key ≠ "type") :
    (read kind key).IgnoresHeader := by
  intro s t same
  rw [on_read, on_read]
  refine ⟨?_, Section.unaddressed_mark same other⟩
  exact Section.toOption_reading (Section.find?_of_unaddressed same other) kind

theorem ignoresHeader_readOr (kind : Kind) (default : kind.Carrier) (other : key ≠ "type") :
    (readOr kind key default).IgnoresHeader := by
  intro s t same
  rw [on_readOr, on_readOr]
  refine ⟨?_, Section.unaddressed_mark same other⟩
  exact Section.toOption_readingOr (Section.find?_of_unaddressed same other) kind default

theorem ignoresHeader_unless {c : Prop} [Decidable c] {rule : ValueRule} {next : Unit → Access α}
    (onwards : ∀ u, (next u).IgnoresHeader) :
    (if c then refuse key rule >>= next else next ()).IgnoresHeader := by
  split
  · exact ignoresHeader_bind (ignoresHeader_refuse key rule) onwards
  · exact onwards ()

theorem ignoresHeader_choice (choices : List String) (other : key ≠ "type") :
    (choice key choices).IgnoresHeader := by
  refine ignoresHeader_bind (ignoresHeader_read .text other) fun given => ?_
  split
  · exact ignoresHeader_pure _
  · exact ignoresHeader_refuse _ _

theorem ignoresHeader_path (other : key ≠ "type") : (path key).IgnoresHeader := by
  refine ignoresHeader_bind (ignoresHeader_read .path other) fun written s t same => ?_
  have origin : t.origin = s.origin := congrArg (·.origin) same
  have located : t.locate written = s.locate written := by rw [Section.locate, Section.locate, origin]
  exact ⟨congrArg some located, same⟩

end Config.Access

namespace BuildProgram

/-- Two runs of a constructor give the same value, or both none, and leave the same behind. -/
structure SameBuild (x y : (Except ModuleError α × Section × SetupState ω) × τ) : Prop where
  value : y.1.1.toOption = x.1.1.toOption
  left : y.1.2.1.unaddressed = x.1.2.1.unaddressed
  state : y.1.2.2 = x.1.2.2
  files : y.2 = x.2

/-- Construction that does not depend on the header of the own section nor on its key `type`. -/
def IgnoresHeader (p : BuildProgram ω α) : Prop :=
  ∀ (id : ModuleId) (s t : Section), t.unaddressed = s.unaddressed →
    ∀ (a : SetupState ω) (τ : Type) (answers : Interaction.Answers fileInterface τ) (files : τ),
      SameBuild (p.runOn id s a answers files) (p.runOn id t a answers files)

theorem ignoresHeader_pure (value : α) : (pure value : BuildProgram ω α).IgnoresHeader :=
  fun _ _ _ same _ _ _ _ => ⟨rfl, same, rfl, rfl⟩

theorem ignoresHeader_throw (e : ModuleError) : (throw e : BuildProgram ω α).IgnoresHeader :=
  fun _ _ _ same _ _ _ _ => ⟨rfl, same, rfl, rfl⟩

theorem interpret_bind {I : Interface} {m : Type → Type} [Monad m] [LawfulMonad m]
    (answer : (q : I.Question) → m (I.Answer q)) (p : Interaction I α) (f : α → Interaction I β) :
    (p.bind f).interpret answer = p.interpret answer >>= fun value => (f value).interpret answer := by
  induction p with
  | done value => exact Eq.symm (pure_bind value fun value => (f value).interpret answer)
  | ask q next ih =>
    change (answer q >>= fun reply => ((next reply).bind f).interpret answer) =
      (answer q >>= fun reply => (next reply).interpret answer) >>= _
    rw [bind_assoc]
    exact bind_congr ih

theorem ignoresHeader_bind {p : BuildProgram ω α} {f : α → BuildProgram ω β}
    (first : p.IgnoresHeader) (onwards : ∀ value, (f value).IgnoresHeader) :
    (p >>= f).IgnoresHeader := by
  intro id s t same a τ answers files
  have chained (own : Section) : (p >>= f).runOn id own a answers files =
      let ran := p.runOn id own a answers files
      ((((ExceptT.bindCont f ran.1.1).interpret (answerBuild id)).run ran.1.2).run answers ran.2) := by
    refine (congrArg (fun program : StateT (Section × SetupState ω) FileProgram _ =>
      (program.run (own, a)).run answers files)
        (interpret_bind (answerBuild id) p.run (ExceptT.bindCont f))).trans ?_
    exact Interaction.run_bind answers _ _ files
  obtain ⟨value, left, state, kept⟩ := first id s t same a τ answers files
  rw [chained, chained]
  dsimp only
  generalize p.runOn id s a answers files = ran at value left state kept ⊢
  generalize p.runOn id t a answers files = ran' at value left state kept ⊢
  obtain ⟨⟨outcome, own, b⟩, files⟩ := ran
  obtain ⟨⟨outcome', own', b'⟩, files'⟩ := ran'
  cases state
  cases kept
  cases outcome with
  | ok found =>
    cases outcome' with
    | ok found' =>
      cases value
      exact onwards found id own own' left b τ answers files
    | error e => cases value
  | error e =>
    cases outcome' with
    | ok found' => cases value
    | error e' => exact ⟨rfl, left, rfl, rfl⟩

theorem runOn_own (change : Section → Section) (f : Section → BuildProgram ω α) (id : ModuleId)
    (own : Section) (a : SetupState ω) (answers : Interaction.Answers fileInterface τ) (files : τ) :
    (query (.own change) >>= f).runOn id own a answers files =
      (f own).runOn id (change own) a answers files :=
  rfl

theorem ignoresHeader_access {access : Access α} (ignores : access.IgnoresHeader) :
    (BuildProgram.access access : BuildProgram ω α).IgnoresHeader := by
  intro id s t same a τ answers files
  have ran (own : Section) : (BuildProgram.access access).runOn id own a answers files =
      (((access.on own).1.mapError ModuleError.configuration, (access.on own).2, a), files) := by
    refine (runOn_own (fun s => (access.on s).2) _ id own a answers files).trans ?_
    generalize access.on own = read
    obtain ⟨outcome, left⟩ := read
    cases outcome <;> rfl
  obtain ⟨value, left⟩ := ignores s t same
  rw [ran, ran]
  refine ⟨?_, left, rfl, rfl⟩
  dsimp only
  generalize (access.on s).1 = outcome at value ⊢
  generalize (access.on t).1 = outcome' at value ⊢
  cases outcome with
  | ok found =>
    cases outcome' with
    | ok found' => exact value
    | error e => cases value
  | error e =>
    cases outcome' with
    | ok found' => cases value
    | error e' => rfl

theorem ignoresHeader_subscribe (request : SubscriptionRequest ω) :
    (subscribe request).IgnoresHeader :=
  fun _ _ _ same _ _ _ _ => ⟨rfl, same, rfl, rfl⟩

end BuildProgram

/-- The constructor does as well on sections that differ in their headers and keys `type` only. -/
def ModuleType.IgnoresHeader (type : ModuleType σ ω) : Prop :=
  ∀ s t : Section, t.unaddressed = s.unaddressed → type.BuildsAlike s t

theorem ModuleType.ignoresHeader {type : ModuleType σ ω}
    (constructs : ∀ view, (type.construct view).IgnoresHeader) : type.IgnoresHeader := by
  intro s t same view a τ answers files
  obtain ⟨value, _, state, kept⟩ := constructs view view.id s t same a τ answers files
  refine ⟨?_, fun _ => ⟨congrArg (·.table) state, congrArg (·.geometry) state⟩, fun _ => kept⟩
  have succeeds (outcome : Except ModuleError (Blueprint σ ω)) :
      outcome.toBool = outcome.toOption.isSome := by
    cases outcome <;> rfl
  rw [succeeds, succeeds, value]

section Chain

open Access BuildProgram

theorem ignoresHeader_boundDetector (view : SetupView) :
    (view.boundDetector : BuildProgram ω Detector).IgnoresHeader := by
  rw [SetupView.boundDetector]
  split
  · exact ignoresHeader_pure _
  · exact ignoresHeader_throw _

theorem ChargeDepositor.ignoresHeader_readParameters : readParameters.IgnoresHeader := by
  refine ignoresHeader_bind (ignoresHeader_readOr .count _ (by decide)) fun pixels => ?_
  refine ignoresHeader_bind (ignoresHeader_readOr .float64 _ (by decide)) fun mean => ?_
  refine ignoresHeader_bind (ignoresHeader_readOr .float64 _ (by decide)) fun spread => ?_
  refine ignoresHeader_unless fun _ => ignoresHeader_unless fun _ => ?_
  exact Access.ignoresHeader_pure _

theorem ThresholdDigitizer.ignoresHeader_readParameters : readParameters.IgnoresHeader := by
  refine ignoresHeader_bind (ignoresHeader_readOr .float64 _ (by decide)) fun threshold => ?_
  refine ignoresHeader_unless fun _ => ?_
  refine ignoresHeader_bind (ignoresHeader_has (by decide)) fun given => ?_
  split
  · refine ignoresHeader_bind (ignoresHeader_choice _ (by decide)) fun chosen => ?_
    exact Access.ignoresHeader_pure _
  · exact Access.ignoresHeader_pure _

theorem HitCounter.ignoresHeader_readOutput : readOutput.IgnoresHeader := by
  refine ignoresHeader_bind (ignoresHeader_has (by decide)) fun given => ?_
  split
  · refine ignoresHeader_bind (ignoresHeader_path (by decide)) fun path => ?_
    exact Access.ignoresHeader_pure _
  · exact Access.ignoresHeader_pure _

/-- The constructors of a chain look at other keys only. -/
theorem ignoresHeader_of_mem_chainModules {type : ModuleType HitCounts ω}
    (member : type ∈ chainModules) : type.IgnoresHeader := by
  refine ModuleType.ignoresHeader fun view => ?_
  rw [chainModules] at member
  simp only [List.mem_cons, List.not_mem_nil, or_false] at member
  rcases member with rfl | rfl | rfl
  · refine BuildProgram.ignoresHeader_bind (ignoresHeader_boundDetector view) fun detector => ?_
    refine BuildProgram.ignoresHeader_bind
      (ignoresHeader_access ChargeDepositor.ignoresHeader_readParameters) fun parameters => ?_
    exact BuildProgram.ignoresHeader_pure _
  · refine BuildProgram.ignoresHeader_bind (ignoresHeader_boundDetector view) fun detector => ?_
    refine BuildProgram.ignoresHeader_bind
      (ignoresHeader_access ThresholdDigitizer.ignoresHeader_readParameters) fun parameters => ?_
    refine BuildProgram.ignoresHeader_bind (ignoresHeader_subscribe _) fun _ => ?_
    exact BuildProgram.ignoresHeader_pure _
  · refine BuildProgram.ignoresHeader_bind
      (ignoresHeader_access HitCounter.ignoresHeader_readOutput) fun output => ?_
    refine BuildProgram.ignoresHeader_bind (ignoresHeader_subscribe _) fun _ => ?_
    exact BuildProgram.ignoresHeader_pure _

end Chain

end DetectorSim
