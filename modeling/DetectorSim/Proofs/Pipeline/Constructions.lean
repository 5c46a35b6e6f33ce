import DetectorSim.Proofs.Pipeline.Preparation
import DetectorSim.Proofs.Run.Questions

/-! Instances told by the conversations with their modules. The construction and the initialization
of an instance have a lemma each, in which any relation of the states at both ends of a conversation
may be used; what every construction keeps, the loops over bindings and sections keep. -/

namespace DetectorSim

open Config

namespace Interaction

variable {I J : Interface} {α σ τ : Type}

/-- An interpreted program reaches its end with exchanges of which each leads from a state to the
next. -/
theorem interpret_reaches {answer : (q : I.Question) → StateT σ (Interaction J) (I.Answer q)}
    (answers : Answers J τ) (leads : σ → List (Exchange I) → σ → Prop) (stays : ∀ s, leads s [] s)
    (onwards : ∀ q s outer rest t,
      let ended := (((answer q).run s).run answers outer).1
      leads ended.2 rest t → leads s (⟨q, ended.1⟩ :: rest) t)
    (p : Interaction I α) (s : σ) (outer : τ) :
    let ended := (((p.interpret answer).run s).run answers outer).1
    ∃ exchanges, p.Reaches exchanges (.done ended.1) ∧ leads s exchanges ended.2 := by
  induction p generalizing s outer with
  | done a => exact ⟨[], .refl _, stays s⟩
  | ask q next ih =>
    change let ended := (((answer q).run s >>= fun reply =>
      ((next reply.1).interpret answer).run reply.2).run answers outer).1
      ∃ exchanges, Reaches (.ask q next) exchanges (.done ended.1) ∧ leads s exchanges ended.2
    rw [run_bind]
    obtain ⟨rest, conversation, later⟩ := ih _ _ _
    exact ⟨_, .ask _ conversation, onwards q s outer rest _ later⟩

end Interaction

open Interaction (Exchange)

variable {σ ω : Type}

namespace Config.Section

/-- The section that the instances of a scope have copies of. Which types they are restricted to has
been read by then. -/
def bound (scope : Scope) (s : Section) : Section :=
  if scope ≠ .global ∧ s.has "type" = true then s.mark "type" else s

theorem bindings_snd (scope : Scope) (s : Section) (g : Geometry) :
    (bindings scope s g).2 = s.bound scope := by
  have read (restricted : scope ≠ .global) :
      ((Access.read? (.list .text) "type").on s).2 = s.bound scope := by
    simp only [Access.on_read?, bound, restricted, ne_eq, not_false_eq_true, true_and]
    split <;> rfl
  cases scope with
  | global =>
    rw [bindings]
    split <;> rfl
  | perDetectorType =>
    rw [bindings, ← read (by decide)]
    generalize (Access.read? (.list .text) "type").on s = read
    obtain ⟨_ | types, after⟩ := read
    · rfl
    · dsimp only
      split <;> rfl
  | perDetector =>
    rw [bindings, ← read (by decide)]
    generalize (Access.read? (.list .text) "type").on s = read
    obtain ⟨_ | types, after⟩ := read
    · rfl
    · dsimp only
      split
      · split
        · rfl
        · split <;> rfl
      · rfl

end Config.Section

/-- The slots that sections stand for, each with its section. -/
def origins (sections : List Section) (parts : List (List (Slot σ ω))) :
    List (Section × Slot σ ω) :=
  (sections.zip parts).flatMap fun (s, part) => part.map (Prod.mk s)

theorem origins_nil (parts : List (List (Slot σ ω))) : origins [] parts = [] := rfl

theorem origins_cons (s : Section) (sections : List Section) (part : List (Slot σ ω))
    (parts : List (List (Slot σ ω))) :
    origins (s :: sections) (part :: parts) = part.map (Prod.mk s) ++ origins sections parts := rfl

theorem resolve_of_mem_origins {registry : Registry σ ω} {g : Geometry} {sections : List Section}
    {parts : List (List (Slot σ ω))}
    (expands : List.Forall₂ (Section.Expands registry g) sections parts)
    {origin : Section × Slot σ ω} (member : origin ∈ origins sections parts) :
    origin.1 ∈ sections ∧ registry.resolve origin.1.name = .ok origin.2.type := by
  induction expands with
  | nil => cases member
  | cons expands _ ih =>
    rw [origins_cons, List.mem_append] at member
    rcases member with here | later
    · obtain ⟨slot, within, rfl⟩ := List.mem_map.mp here
      obtain ⟨resolved, _⟩ := expands
      obtain ⟨_, _, rfl⟩ := List.mem_map.mp within
      exact ⟨List.mem_cons_self .., resolved⟩
    · exact (ih later).imp_left (List.mem_cons_of_mem _)

namespace Instance

/-- The construction of an instance is a conversation with its module. -/
theorem construct_reaches
    (leads : Section × SetupState ω → List (Exchange (buildInterface ω)) →
      Section × SetupState ω → Prop)
    (stays : ∀ s, leads s [] s) (id : ModuleId)
    (onwards : ∀ (τ : Type) (answers : Interaction.Answers fileInterface τ) (files : τ) q s rest t,
      let ended := (((answerBuild id q).run s).run answers files).1
      leads ended.2 rest t → leads s (⟨q, ended.1⟩ :: rest) t)
    (type : ModuleType σ ω) (s : Section) (identifier : Identifier) (detectors : List Detector)
    (a : SetupState ω) :
    (construct type s id identifier detectors).Leads a
      (fun i b => ∃ exchanges own c body,
        i = ⟨id, identifier, own, detectors, type.concurrent, body⟩ ∧
        (type.construct ⟨id, identifier, detectors, a.geometry⟩).run.Reaches exchanges
          (.done (.ok body)) ∧
        leads (s, a) exchanges (own, c) ∧ b = { c with calls := c.calls ++ [.construct id none] })
      (fun _ _ => True) := by
  rw [construct]
  refine SetupM.leads_bind (SetupM.leads_state ?_)
  refine SetupM.leads_bind (SetupM.leads_onFiles fun τ answers files => ?_)
  obtain ⟨exchanges, conversation, led⟩ := Interaction.interpret_reaches answers leads stays
    (fun q s files => onwards τ answers files q s)
    (type.construct ⟨id, identifier, detectors, a.geometry⟩).run (s, a) files
  generalize ((Interaction.interpret (answerBuild id) (type.construct _).run).run (s, a)).run
    answers files = ended at conversation led ⊢
  obtain ⟨⟨built, own, b⟩, files⟩ := ended
  refine SetupM.leads_bind (SetupM.leads_change ?_)
  cases built with
  | ok body =>
    refine SetupM.leads_bind (SetupM.leads_change (SetupM.leads_pure ?_))
    exact ⟨exchanges, own, b, body, rfl, conversation, led, rfl⟩
  | error fault => exact SetupM.leads_bind (SetupM.leads_change (SetupM.leads_throw trivial))

theorem init_reaches
    (leads : Section × Section × SetupState ω → List (Exchange (initInterface ω)) →
      Section × Section × SetupState ω → Prop)
    (stays : ∀ s, leads s [] s) (i : Instance (Blueprint σ ω))
    (onwards : ∀ (τ : Type) (answers : Interaction.Answers fileInterface τ) (files : τ) q s rest t,
      let ended := (((answerInit i.id q).run s).run answers files).1
      leads ended.2 rest t → leads s (⟨q, ended.1⟩ :: rest) t)
    (globals : Section) (a : SetupState ω) :
    (i.init globals).Leads a
      (fun ready b => ∃ exchanges own c body, ready.1 = { i with config := own, body } ∧
        (i.body.init ⟨i.id, i.identifier, i.detectors, a.geometry⟩).run.Reaches exchanges
          (.done (.ok body)) ∧
        leads (i.config, globals, a) exchanges (own, ready.2, c) ∧
        b = { c with calls := c.calls ++ [.init i.id none] })
      (fun _ _ => True) := by
  rw [init]
  refine SetupM.leads_bind (SetupM.leads_state ?_)
  refine SetupM.leads_bind (SetupM.leads_onFiles fun τ answers files => ?_)
  obtain ⟨exchanges, conversation, led⟩ := Interaction.interpret_reaches answers leads stays
    (fun q s files => onwards τ answers files q s)
    (i.body.init ⟨i.id, i.identifier, i.detectors, a.geometry⟩).run (i.config, globals, a) files
  generalize ((Interaction.interpret (answerInit i.id) (i.body.init _).run).run
    (i.config, globals, a)).run answers files = ended at conversation led ⊢
  obtain ⟨⟨ready, own, after, b⟩, files⟩ := ended
  refine SetupM.leads_bind (SetupM.leads_change ?_)
  cases ready with
  | ok body =>
    refine SetupM.leads_bind (SetupM.leads_change (SetupM.leads_pure ?_))
    exact ⟨exchanges, own, b, body, rfl, conversation, led, rfl⟩
  | error fault => exact SetupM.leads_bind (SetupM.leads_change (SetupM.leads_throw trivial))

section Loops

variable {registry : Registry σ ω} {g : Geometry} {a : SetupState ω}
  {filled : List (Section × Slot σ ω)} {built : List (Instance (Blueprint σ ω))}
  {valid : List (Section × Slot σ ω) → List (Instance (Blueprint σ ω)) → SetupState ω → Prop}

/-- The construction of the next instance keeps what holds of those before and of the state, and so
does the report of a section without instances. -/
structure Kept (registry : Registry σ ω)
    (valid : List (Section × Slot σ ω) → List (Instance (Blueprint σ ω)) → SetupState ω → Prop) :
    Prop where
  constructs : ∀ {filled built a} (s : Section) (slot : Slot σ ω),
    registry.resolve s.name = .ok slot.type → valid filled built a →
      (construct slot.type (s.bound slot.type.scope) built.length slot.identifier
        slot.detectors).Leads a
        (fun i b => valid (filled ++ [(s, slot)]) (built ++ [i]) b) fun _ _ => True
  reports : ∀ {filled built a} (owner : String), valid filled built a →
    valid filled built { a with reports := a.reports ++ [.nothingBound owner] }

theorem ofBindings_keeps (kept : Kept registry valid) {s : Section} {type : ModuleType σ ω}
    (resolved : registry.resolve s.name = .ok type) (bound : List (Binding × List Detector))
    (same : g.SameDetectors a.geometry) (start : valid filled built a) :
    (ofBindings type (s.bound type.scope) bound built).Leads a
      (fun built b => g.SameDetectors b.geometry ∧
        valid (filled ++ bound.map fun (binding, detectors) => (s, ⟨type, binding, detectors⟩))
          built b)
      (fun _ _ => True) := by
  induction bound generalizing filled built a with
  | nil =>
    refine SetupM.leads_pure ⟨same, ?_⟩
    rwa [List.map_nil, List.append_nil]
  | cons entry rest ih =>
    obtain ⟨binding, detectors⟩ := entry
    let slot : Slot σ ω := ⟨type, binding, detectors⟩
    rw [ofBindings]
    have onwards : (construct type (s.bound type.scope) built.length ⟨type.name, binding⟩
        detectors >>= fun made => ofBindings type (s.bound type.scope) rest (built ++ [made])).Leads
          a (fun built b => g.SameDetectors b.geometry ∧ valid (filled ++ (s, slot) ::
            rest.map fun (binding, detectors) => (s, ⟨type, binding, detectors⟩)) built b)
          (fun _ _ => True) := by
      refine SetupM.leads_bind (((construct_leads slot _ built.length a).and
        (kept.constructs s slot resolved start)).mono ?_ fun _ _ _ => trivial)
      rintro i b ⟨⟨_, _, _, alike⟩, holds⟩
      have later := ih (same.trans alike) holds
      rwa [List.append_assoc] at later
    split
    · exact SetupM.leads_bind (SetupM.leads_throw trivial)
    · exact onwards

theorem ofSections_keeps (kept : Kept registry valid) (sections : List Section)
    (same : g.SameDetectors a.geometry) (start : valid filled built a) :
    (ofSections registry sections built).Leads a
      (fun built b => ∃ parts, List.Forall₂ (Section.Expands registry g) sections parts ∧
        valid (filled ++ origins sections parts) built b)
      (fun _ _ => True) := by
  induction sections generalizing filled built a with
  | nil =>
    refine SetupM.leads_pure ⟨[], .nil, ?_⟩
    rwa [origins_nil, List.append_nil]
  | cons s rest ih =>
    rw [ofSections]
    cases resolved : registry.resolve s.name with
    | error e => exact SetupM.leads_throw trivial
    | ok type =>
      refine SetupM.leads_bind (SetupM.leads_state ?_)
      have after_eq := Section.bindings_snd type.scope s a.geometry
      cases found : bindings type.scope s a.geometry with
      | mk outcome after =>
        rw [found] at after_eq
        subst after_eq
        cases outcome with
        | error e => exact SetupM.leads_throw trivial
        | ok bound =>
          have expands := (Section.expands_iff same resolved _).mpr
            ⟨bound, congrArg Prod.fst found, rfl⟩
          -- from any state, as an empty section is reported first
          have onwards {b : SetupState ω} (same : g.SameDetectors b.geometry)
              (start : valid filled built b) :
              (do let built ← ofBindings type (s.bound type.scope) bound built
                  ofSections registry rest built : SetupM ω _).Leads b
                (fun built c => ∃ parts,
                  List.Forall₂ (Section.Expands registry g) (s :: rest) parts ∧
                    valid (filled ++ origins (s :: rest) parts) built c)
                (fun _ _ => True) := by
            refine SetupM.leads_bind ((ofBindings_keeps kept resolved bound same start).mono ?_
              fun _ _ _ => trivial)
            rintro built c ⟨same, holds⟩
            refine (ih same holds).mono ?_ fun _ _ _ => trivial
            rintro built d ⟨parts, others, holds⟩
            refine ⟨_, .cons expands others, ?_⟩
            rw [List.append_assoc] at holds
            rw [origins_cons, List.map_map]
            exact holds
          dsimp only
          split
          · exact SetupM.leads_bind (SetupM.leads_change (onwards same (kept.reports _ start)))
          · exact onwards same start

theorem instantiate_keeps (kept : Kept registry valid) (sections : List Section)
    (start : valid [] [] a) :
    (instantiate registry sections).Leads a
      (fun built b => ∃ parts, List.Forall₂ (Section.Expands registry a.geometry) sections parts ∧
        valid (origins sections parts) built b)
      (fun _ _ => True) :=
  ofSections_keeps kept sections (.refl _) start

end Loops

end Instance

end DetectorSim
