import DetectorSim.Pipeline.Instances

/-! How a step of the setup ends. Each function of the setup has one lemma here or later on, which
says what it leads to from any state, whatever files there are; its callers use nothing else. -/

namespace DetectorSim

section Outcomes

variable {ε α β : Type} {outcome : Except ε α} {f : α → β}

theorem ok_of_map {b : β} (seen : outcome.map f = .ok b) : ∃ a, outcome = .ok a ∧ f a = b := by
  cases outcome with
  | error e => cases seen
  | ok a => exact ⟨a, rfl, Except.ok.inj seen⟩

theorem error_of_map {e : ε} (seen : outcome.map f = .error e) : outcome = .error e := by
  cases outcome with
  | error other => exact congrArg Except.error (Except.error.inj seen)
  | ok a => cases seen

end Outcomes

namespace Interaction

variable {I J : Interface} {α σ τ : Type}

/-- What the answers keep of a state, whatever they in turn ask for, programs keep. -/
theorem interpret_keeps {answer : (q : I.Question) → StateT σ (Interaction J) (I.Answer q)}
    {answers : Answers J τ} (keeps : σ → Prop)
    (step : ∀ q s outer, keeps s → keeps (((answer q).run s).run answers outer).1.2)
    (p : Interaction I α) (s : σ) (outer : τ) (start : keeps s) :
    keeps (((p.interpret answer).run s).run answers outer).1.2 := by
  induction p generalizing s outer with
  | done a => exact start
  | ask q next ih =>
    change keeps (((answer q).run s >>= fun reply =>
      ((next reply.1).interpret answer).run reply.2).run answers outer).1.2
    rw [run_bind]
    exact ih _ _ _ (step q s outer start)

end Interaction

namespace SetupM

variable {ω α β τ : Type}

/-- How a step ends from a state, and the state it leaves, with questions about files answered in
some way. -/
def resultFrom (step : SetupM ω α) (a : SetupState ω)
    (answers : Interaction.Answers fileInterface τ) (files : τ) :
    Except SetupError α × SetupState ω :=
  ((step.run.run a).run answers files).1

/-- A step ended with a value and in a state that are `done`, or with an error and in a state that
are `failed`. -/
def Meets (done : α → SetupState ω → Prop) (failed : SetupError → SetupState ω → Prop) :
    Except SetupError α × SetupState ω → Prop
  | (.ok value, b) => done value b
  | (.error e, b) => failed e b

/-- From a state a step ends so, whatever files there are. -/
def Leads (step : SetupM ω α) (a : SetupState ω) (done : α → SetupState ω → Prop)
    (failed : SetupError → SetupState ω → Prop) : Prop :=
  ∀ (τ : Type) (answers : Interaction.Answers fileInterface τ) (files : τ),
    Meets done failed (step.resultFrom a answers files)

variable {a : SetupState ω} {done : β → SetupState ω → Prop}
  {failed : SetupError → SetupState ω → Prop}

theorem Leads.ok {step : SetupM ω β} (leads : step.Leads a done failed)
    {answers : Interaction.Answers fileInterface τ} {files : τ} {value : β}
    (same : (step.resultFrom a answers files).1 = .ok value) :
    done value (step.resultFrom a answers files).2 := by
  have ends := leads τ answers files
  generalize step.resultFrom a answers files = ended at same ends ⊢
  obtain ⟨outcome, b⟩ := ended
  subst same
  exact ends

theorem Leads.error {step : SetupM ω β} (leads : step.Leads a done failed)
    {answers : Interaction.Answers fileInterface τ} {files : τ} {e : SetupError}
    (same : (step.resultFrom a answers files).1 = .error e) :
    failed e (step.resultFrom a answers files).2 := by
  have ends := leads τ answers files
  generalize step.resultFrom a answers files = ended at same ends ⊢
  obtain ⟨outcome, b⟩ := ended
  subst same
  exact ends

theorem Leads.mono {step : SetupM ω β} {done' : β → SetupState ω → Prop}
    {failed' : SetupError → SetupState ω → Prop} (leads : step.Leads a done failed)
    (ok : ∀ value b, done value b → done' value b) (error : ∀ e b, failed e b → failed' e b) :
    step.Leads a done' failed' := by
  intro τ answers files
  have ends := leads τ answers files
  generalize step.resultFrom a answers files = ended at ends ⊢
  obtain ⟨outcome, b⟩ := ended
  cases outcome with
  | ok value => exact ok value b ends
  | error e => exact error e b ends

theorem Leads.and {step : SetupM ω β} {done' : β → SetupState ω → Prop}
    {failed' : SetupError → SetupState ω → Prop} (first : step.Leads a done failed)
    (second : step.Leads a done' failed') :
    step.Leads a (fun value b => done value b ∧ done' value b)
      (fun e b => failed e b ∧ failed' e b) := by
  intro τ answers files
  have ends := first τ answers files
  have ends' := second τ answers files
  generalize step.resultFrom a answers files = ended at ends ends' ⊢
  obtain ⟨outcome, b⟩ := ended
  cases outcome with
  | ok value => exact ⟨ends, ends'⟩
  | error e => exact ⟨ends, ends'⟩

theorem leads_pure {value : β} (holds : done value a) :
    (pure value : SetupM ω β).Leads a done failed :=
  fun _ _ _ => holds

theorem leads_throw {e : SetupError} (holds : failed e a) :
    (throw e : SetupM ω β).Leads a done failed :=
  fun _ _ _ => holds

theorem leads_bind {first : SetupM ω α} {next : α → SetupM ω β}
    (leads : first.Leads a (fun value b => (next value).Leads b done failed) failed) :
    (first >>= next).Leads a done failed := by
  intro τ answers files
  have ends := leads τ answers files
  change Meets done failed ((first.run.run a >>= fun (r, a) =>
    (ExceptT.bindCont next r).run a).run answers files).1
  rw [Interaction.run_bind]
  rw [resultFrom] at ends
  generalize (first.run.run a).run answers files = ran at ends ⊢
  obtain ⟨⟨outcome, b⟩, files⟩ := ran
  cases outcome with
  | ok value => exact ends τ answers files
  | error e => exact ends

theorem leads_state {done : SetupState ω → SetupState ω → Prop} (holds : done a a) :
    (state : SetupM ω (SetupState ω)).Leads a done failed :=
  fun _ _ _ => holds

theorem leads_change {done : Unit → SetupState ω → Prop} {f : SetupState ω → SetupState ω}
    (holds : done () (f a)) : (change f).Leads a done failed :=
  fun _ _ _ => holds

theorem leads_onFiles {p : FileProgram β}
    (holds : ∀ (τ : Type) (answers : Interaction.Answers fileInterface τ) (files : τ),
      done (p.run answers files).1 a) : (onFiles p).Leads a done failed := by
  intro τ answers files
  change Meets done failed (((p >>= fun value => pure (value, a)) >>= fun (value, a) =>
    pure (.ok value, a)).run answers files).1
  rw [Interaction.run_bind, Interaction.run_bind]
  exact holds τ answers files

theorem leads_interpret {I : Interface} {σ : Type}
    {answer : (q : I.Question) → StateT σ FileProgram (I.Answer q)} (keeps : σ → Prop)
    (step : ∀ (τ : Type) (answers : Interaction.Answers fileInterface τ) (q : I.Question) (s : σ)
      (files : τ), keeps s → keeps (((answer q).run s).run answers files).1.2)
    (p : Interaction I β) (s : σ) (start : keeps s) :
    (onFiles ((p.interpret answer).run s)).Leads a (fun result b => b = a ∧ keeps result.2)
      failed :=
  leads_onFiles fun τ answers files =>
    ⟨rfl, Interaction.interpret_keeps keeps (step τ answers) p s files start⟩

end SetupM

end DetectorSim
