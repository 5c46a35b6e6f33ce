import DetectorSim.Files.Tree
import DetectorSim.Proofs.Pipeline.Expansion
import DetectorSim.Proofs.Pipeline.Steps
import Mathlib.Data.List.Forall2
import Mathlib.Data.List.Nodup

/-! The order of instances. Sections are expanded to slots first; the loop over sections and
bindings fills the slots from the first on, until a constructor returns an error or a slot has the
identity of an earlier one. -/

namespace DetectorSim

open Config

variable {σ ω : Type}

/-- The place of an instance: its module type, what it is bound to, and its detectors. -/
structure Slot (σ ω : Type) where
  type : ModuleType σ ω
  binding : Binding
  detectors : List Detector

/-- The identity of the instance in a slot. -/
def Slot.identifier (slot : Slot σ ω) : Identifier :=
  ⟨slot.type.name, slot.binding⟩

/-- A section stands for a slot for each binding of the module type that its name means. -/
inductive Config.Section.Expands (registry : Registry σ ω) (g : Geometry) (s : Section) :
    List (Slot σ ω) → Prop where
  | intro {type : ModuleType σ ω} {bound : List (Binding × List Detector)}
      (resolved : registry.resolve s.name = .ok type) (binds : s.Binds g type.scope bound) :
      Expands registry g s (bound.map fun (binding, detectors) => ⟨type, binding, detectors⟩)

/-- An instance is in its slot. -/
structure Instance.Fills {β : Type} (i : Instance β) (slot : Slot σ ω) : Prop where
  identifier : i.identifier = slot.identifier
  detectors : i.detectors = slot.detectors
  concurrent : i.concurrent = slot.type.concurrent

/-- The calls of a stage to modules in order, up to the first that returns an error. -/
def stageCalls (call : ModuleId → Option ModuleError → ModuleCall) (succeeded : Nat)
    (error : Option ModuleError) : List ModuleCall :=
  (List.range succeeded).map (call · none) ++ error.toList.map fun e => call succeeded (some e)

theorem stageCalls_succ (call : ModuleId → Option ModuleError → ModuleCall) (n : Nat) :
    stageCalls call n none ++ [call n none] = stageCalls call (n + 1) none := by
  simp [stageCalls, List.range_succ]

theorem stageCalls_error (call : ModuleId → Option ModuleError → ModuleCall) (n : Nat)
    (e : ModuleError) :
    stageCalls call n none ++ [call n (some e)] = stageCalls call n (some e) := by
  simp [stageCalls]

/-- The error of a constructor that an error of the setup comes from. -/
def SetupError.refusal : SetupError → Option ModuleError
  | .construction _ e => some e
  | _ => none

/-- An error of the setup that no module returned. -/
structure SetupError.IsOwn (e : SetupError) : Prop where
  unrefused : e.refusal = none
  early : ∀ owner fault, e ≠ .initialization owner fault

/-- What a module leaves alone while it is set up. -/
structure SetupState.Keeps (a b : SetupState ω) : Prop where
  calls : b.calls = a.calls
  detectors : a.geometry.SameDetectors b.geometry

theorem answerBuild_keeps {τ : Type} {a b : SetupState ω} (kept : a.Keeps b) (module : ModuleId)
    (q : BuildQuestion ω) (own : Section) (answers : Interaction.Answers fileInterface τ)
    (files : τ) : a.Keeps (((answerBuild module q).run (own, b)).run answers files).1.2.2 := by
  cases q with
  | object q => exact ⟨kept.calls, kept.detectors.trans (b.geometry.sameDetectors_use q)⟩
  | _ => exact ⟨kept.calls, kept.detectors⟩

namespace Instance

variable {a : SetupState ω}

theorem construct_leads (slot : Slot σ ω) (s : Section) (id : ModuleId) (a : SetupState ω) :
    (construct slot.type s id slot.identifier slot.detectors).Leads a
      (fun i b => i.id = id ∧ i.Fills slot ∧ b.calls = a.calls ++ [.construct id none] ∧
        a.geometry.SameDetectors b.geometry)
      (fun e b => ∃ fault, e = .construction slot.identifier.display fault ∧
        b.calls = a.calls ++ [.construct id (some fault)] ∧
        a.geometry.SameDetectors b.geometry) := by
  rw [construct]
  refine SetupM.leads_bind (SetupM.leads_state ?_)
  refine SetupM.leads_bind ((SetupM.leads_interpret (fun state => a.Keeps state.2)
    (fun τ answers q s files kept => answerBuild_keeps kept id q s.1 answers files) _ (s, a)
    ⟨rfl, .refl _⟩).mono ?_ fun _ _ failed => failed)
  rintro ⟨built, own, b⟩ _ ⟨rfl, kept⟩
  refine SetupM.leads_bind (SetupM.leads_change ?_)
  cases built with
  | ok body =>
    refine SetupM.leads_bind (SetupM.leads_change ?_)
    refine SetupM.leads_pure ⟨rfl, ⟨rfl, rfl, rfl⟩, ?_, kept.detectors⟩
    exact congrArg (· ++ _) kept.calls
  | error fault =>
    refine SetupM.leads_bind (SetupM.leads_change ?_)
    refine SetupM.leads_throw ⟨fault, rfl, ?_, kept.detectors⟩
    exact congrArg (· ++ _) kept.calls

/-- The instances built so far fill the slots so far, which have different identities. -/
structure Building (before : List ModuleCall) (g : Geometry) (slots : List (Slot σ ω))
    (built : List (Instance (Blueprint σ ω))) (a : SetupState ω) : Prop where
  ids : built.map (·.id) = List.range built.length
  filled : List.Forall₂ Instance.Fills built slots
  distinct : (slots.map Slot.identifier).Nodup
  calls : a.calls = before ++ stageCalls .construct built.length none
  detectors : g.SameDetectors a.geometry

/-- Why not all slots are filled: a constructor returned an error, or the first slot with the
identity of an earlier one was reached. -/
inductive Refused (slots : List (Slot σ ω)) : SetupError → Prop where
  | refused (owner : String) (fault : ModuleError) : Refused slots (.construction owner fault)
  | repeated {first rest : List (Slot σ ω)} {slot : Slot σ ω}
      (split : slots = first ++ slot :: rest)
      (distinct : (first.map Slot.identifier).Nodup)
      (member : slot.identifier ∈ first.map Slot.identifier) :
      Refused slots (.duplicateInstance slot.identifier.display)

/-- The calls of a construction that ended with an error. -/
structure Halted (before : List ModuleCall) (g : Geometry) (e : SetupError) (b : SetupState ω) :
    Prop where
  early : ∀ owner fault, e ≠ .initialization owner fault
  calls : ∃ n, b.calls = before ++ stageCalls .construct n e.refusal
  detectors : g.SameDetectors b.geometry

theorem Refused.append {slots : List (Slot σ ω)} {e : SetupError} (refused : Refused slots e)
    (more : List (Slot σ ω)) : Refused (slots ++ more) e := by
  cases refused with
  | refused owner fault => exact .refused owner fault
  | repeated split distinct member =>
    rw [split, List.append_assoc]
    exact .repeated rfl distinct member

variable {before : List ModuleCall} {g : Geometry} {slots : List (Slot σ ω)}
  {built : List (Instance (Blueprint σ ω))} {a : SetupState ω}

theorem map_identifier {β : Type} {instances : List (Instance β)} {slots : List (Slot σ ω)}
    (filled : List.Forall₂ Instance.Fills instances slots) :
    instances.map (·.identifier) = slots.map Slot.identifier := by
  induction filled with
  | nil => rfl
  | cons fills _ ih => simp [fills.identifier, ih]

theorem Building.identifiers (valid : Building before g slots built a) :
    built.map (·.identifier) = slots.map Slot.identifier :=
  map_identifier valid.filled

theorem Building.fill {i : Instance (Blueprint σ ω)} {slot : Slot σ ω} {b : SetupState ω}
    (valid : Building before g slots built a) (id : i.id = built.length) (fills : i.Fills slot)
    (fresh : slot.identifier ∉ slots.map Slot.identifier)
    (calls : b.calls = a.calls ++ [.construct built.length none])
    (detectors : a.geometry.SameDetectors b.geometry) :
    Building before g (slots ++ [slot]) (built ++ [i]) b where
  ids := by simp [valid.ids, id, List.range_succ]
  filled := List.rel_append valid.filled (.cons fills .nil)
  distinct := by
    rw [List.map_append, List.map_singleton, ← List.concat_eq_append]
    exact valid.distinct.concat fresh
  calls := by
    rw [calls, valid.calls, List.append_assoc, stageCalls_succ, List.length_append]
    rfl
  detectors := valid.detectors.trans detectors

theorem ofBindings_leads (type : ModuleType σ ω) (s : Section)
    (bound : List (Binding × List Detector)) (valid : Building before g slots built a) :
    let all := slots ++ bound.map fun (binding, detectors) => ⟨type, binding, detectors⟩
    (ofBindings type s bound built).Leads a (Building before g all)
      (fun e b => Refused all e ∧ Halted before g e b) := by
  induction bound generalizing slots built a with
  | nil =>
    intro all
    rw [show all = slots from List.append_nil slots]
    exact SetupM.leads_pure valid
  | cons entry rest ih =>
    obtain ⟨binding, detectors⟩ := entry
    let slot : Slot σ ω := ⟨type, binding, detectors⟩
    have known_iff : built.any (·.identifier == (⟨type.name, binding⟩ : Identifier)) = true ↔
        slot.identifier ∈ slots.map Slot.identifier := by
      rw [← valid.identifiers, List.any_eq_true, List.mem_map]
      exact exists_congr fun i => and_congr_right fun _ => beq_iff_eq
    intro all
    rw [ofBindings]
    by_cases known : slot.identifier ∈ slots.map Slot.identifier
    · rw [if_pos (known_iff.mpr known)]
      refine SetupM.leads_bind (SetupM.leads_throw ⟨.repeated rfl valid.distinct known, ?_⟩)
      exact ⟨nofun, ⟨built.length, valid.calls⟩, valid.detectors⟩
    · rw [if_neg (mt known_iff.mp known)]
      refine SetupM.leads_bind ((construct_leads slot s built.length a).mono ?_ ?_)
      · rintro i b ⟨id, fills, calls, same⟩
        have onwards := ih (valid.fill id fills known calls same)
        rwa [List.append_assoc] at onwards
      · rintro e b ⟨fault, rfl, calls, same⟩
        refine ⟨.refused _ fault, nofun, ⟨built.length, ?_⟩, valid.detectors.trans same⟩
        rw [calls, valid.calls, List.append_assoc, stageCalls_error]
        rfl

end Instance

theorem bindings_error {scope : Scope} {s : Section} {g : Geometry} {e : SetupError}
    (failed : (bindings scope s g).1 = .error e) : e.IsOwn := by
  have invalid {fault : BindingFault} (same : .invalidBinding s.identifier fault = e) :
      e.IsOwn := by
    cases same
    exact ⟨rfl, fun _ _ same => by cases same⟩
  cases scope with
  | global =>
    rw [bindings] at failed
    split at failed
    · exact invalid (Except.error.inj failed)
    · cases failed
  | perDetectorType =>
    rw [bindings] at failed
    generalize (Access.read? (.list .text) "type").on s = read at failed
    obtain ⟨outcome, after⟩ := read
    cases outcome with
    | error e =>
      cases failed
      exact ⟨rfl, fun _ _ same => by cases same⟩
    | ok types =>
      dsimp only at failed
      split at failed
      · exact invalid (Except.error.inj failed)
      · cases failed
  | perDetector =>
    rw [bindings] at failed
    generalize (Access.read? (.list .text) "type").on s = read at failed
    obtain ⟨outcome, after⟩ := read
    cases outcome with
    | error e =>
      cases failed
      exact ⟨rfl, fun _ _ same => by cases same⟩
    | ok types =>
      cases qualified : s.detector with
      | none =>
        simp only [qualified] at failed
        cases failed
      | some name =>
        simp only [qualified] at failed
        split at failed
        · exact invalid (Except.error.inj failed)
        · cases found : g.detector name with
          | ok detector =>
            simp only [found] at failed
            cases failed
          | error fault =>
            simp only [found] at failed
            cases failed
            exact ⟨rfl, fun _ _ same => by cases same⟩

namespace Config.Section

variable {registry : Registry σ ω} {g h : Geometry} {s : Section}

theorem Expands.of_sameDetectors {slots : List (Slot σ ω)} (same : g.SameDetectors h)
    (expands : s.Expands registry g slots) : s.Expands registry h slots := by
  obtain ⟨resolved, binds⟩ := expands
  exact .intro resolved (binds.of_sameDetectors same)

theorem expands_iff (same : g.SameDetectors h) {type : ModuleType σ ω}
    (resolved : registry.resolve s.name = .ok type) (slots : List (Slot σ ω)) :
    s.Expands registry g slots ↔ ∃ bound, (bindings type.scope s h).1 = .ok bound ∧
      slots = bound.map fun (binding, detectors) => ⟨type, binding, detectors⟩ := by
  constructor
  · rintro ⟨means, binds⟩
    cases resolved.symm.trans means
    exact ⟨_, (bindings_eq_ok_iff ..).mpr (binds.of_sameDetectors same), rfl⟩
  · rintro ⟨bound, found, rfl⟩
    exact .intro resolved (((bindings_eq_ok_iff ..).mp found).of_sameDetectors same.symm)

theorem Expands.unique {slots others : List (Slot σ ω)} (first : s.Expands registry g slots)
    (second : s.Expands registry g others) : slots = others := by
  obtain ⟨type, resolved⟩ : ∃ type, registry.resolve s.name = .ok type := by
    cases first with
    | intro resolved _ => exact ⟨_, resolved⟩
  obtain ⟨_, found, rfl⟩ := (expands_iff (.refl g) resolved _).mp first
  obtain ⟨_, again, rfl⟩ := (expands_iff (.refl g) resolved _).mp second
  cases found.symm.trans again
  rfl

end Config.Section

namespace Instance

variable {before : List ModuleCall} {g : Geometry} {slots : List (Slot σ ω)}
  {built : List (Instance (Blueprint σ ω))} {a : SetupState ω}

theorem ofSections_leads (registry : Registry σ ω) (sections : List Section)
    (valid : Building before g slots built a) :
    (ofSections registry sections built).Leads a
      (fun built b => ∃ parts, List.Forall₂ (Section.Expands registry g) sections parts ∧
        Building before g (slots ++ parts.flatten) built b)
      (fun e b => Halted before g e b ∧ ∀ parts,
        List.Forall₂ (Section.Expands registry g) sections parts →
          Refused (slots ++ parts.flatten) e) := by
  induction sections generalizing slots built a with
  | nil => exact SetupM.leads_pure ⟨[], .nil, by simpa using valid⟩
  | cons s rest ih =>
    rw [ofSections]
    cases resolved : registry.resolve s.name with
    | error e =>
      refine SetupM.leads_throw ⟨⟨nofun, ⟨built.length, valid.calls⟩, valid.detectors⟩, ?_⟩
      rintro _ (_ | ⟨⟨means, _⟩, _⟩)
      cases resolved.symm.trans means
    | ok type =>
      have expands_iff := Section.expands_iff valid.detectors resolved
      refine SetupM.leads_bind (SetupM.leads_state ?_)
      cases found : bindings type.scope s a.geometry with
      | mk outcome after =>
        simp only [found] at expands_iff
        cases outcome with
        | error e =>
          have own := bindings_error (congrArg Prod.fst found)
          refine SetupM.leads_throw ⟨⟨own.early, ⟨built.length, ?_⟩, valid.detectors⟩, ?_⟩
          · rw [own.unrefused]
            exact valid.calls
          · rintro _ (_ | ⟨expands, _⟩)
            obtain ⟨_, other, _⟩ := (expands_iff _).mp expands
            cases other
        | ok bound =>
          let part : List (Slot σ ω) := bound.map fun (binding, detectors) =>
            ⟨type, binding, detectors⟩
          have expands : s.Expands registry g part := (expands_iff part).mpr ⟨bound, rfl, rfl⟩
          have only {parts} (all : List.Forall₂ (Section.Expands registry g) (s :: rest) parts) :
              ∃ others, parts = part :: others ∧
                List.Forall₂ (Section.Expands registry g) rest others := by
            obtain _ | ⟨expands, others⟩ := all
            obtain ⟨_, ⟨⟩, rfl⟩ := (expands_iff _).mp expands
            exact ⟨_, rfl, others⟩
          -- from any state, as an empty section is reported first
          have onwards {b : SetupState ω} (valid : Building before g slots built b) :
              (do let built ← ofBindings type after bound built; ofSections registry rest built :
                SetupM ω _).Leads b
                (fun built b => ∃ parts,
                  List.Forall₂ (Section.Expands registry g) (s :: rest) parts ∧
                    Building before g (slots ++ parts.flatten) built b)
                (fun e b => Halted before g e b ∧ ∀ parts,
                  List.Forall₂ (Section.Expands registry g) (s :: rest) parts →
                    Refused (slots ++ parts.flatten) e) := by
            refine SetupM.leads_bind ((ofBindings_leads type after bound valid).mono ?_ ?_)
            · intro built b valid
              refine (ih valid).mono ?_ ?_
              · rintro built b ⟨parts, others, valid⟩
                refine ⟨part :: parts, .cons expands others, ?_⟩
                rwa [List.flatten_cons, ← List.append_assoc]
              · rintro e b ⟨halted, refused⟩
                refine ⟨halted, fun parts all => ?_⟩
                obtain ⟨others, rfl, expands⟩ := only all
                rw [List.flatten_cons, ← List.append_assoc]
                exact refused others expands
            · rintro e b ⟨refused, halted⟩
              refine ⟨halted, fun parts all => ?_⟩
              obtain ⟨others, rfl, _⟩ := only all
              rw [List.flatten_cons, ← List.append_assoc]
              exact refused.append _
          dsimp only
          by_cases none : bound.isEmpty = true
          · rw [if_pos none]
            exact SetupM.leads_bind (SetupM.leads_change (onwards { valid with }))
          · rw [if_neg none]
            exact onwards valid

theorem instantiate_leads (registry : Registry σ ω) (sections : List Section) (a : SetupState ω) :
    (instantiate registry sections).Leads a
      (fun built b => ∃ parts,
        List.Forall₂ (Section.Expands registry a.geometry) sections parts ∧
          Building a.calls a.geometry parts.flatten built b)
      (fun e b => Halted a.calls a.geometry e b ∧ ∀ parts,
        List.Forall₂ (Section.Expands registry a.geometry) sections parts →
          Refused parts.flatten e) := by
  have valid : Building a.calls a.geometry ([] : List (Slot σ ω)) [] a :=
    ⟨rfl, .nil, .nil, (List.append_nil a.calls).symm, .refl _⟩
  exact ofSections_leads registry sections valid

theorem expands_unique {registry : Registry σ ω} {sections : List Section}
    {parts others : List (List (Slot σ ω))}
    (first : List.Forall₂ (Section.Expands registry g) sections parts)
    (second : List.Forall₂ (Section.Expands registry g) sections others) : parts = others := by
  induction first generalizing others with
  | nil =>
    cases second
    rfl
  | cons expands _ ih =>
    cases second with
    | cons same rest => rw [expands.unique same, ih rest]

/-- The instances stand in the order of the sections, and for each section in the order of what it
stands for, numbered from zero on. When every section can be expanded and no constructor that is
called returns an error, there are instances just if all identities are different, and otherwise the
error names the first identity that repeats an earlier one. -/
theorem instances_follow_sections {τ : Type} (registry : Registry σ ω) (sections : List Section)
    (a : SetupState ω) (answers : Interaction.Answers fileInterface τ) (files : τ) :
    let ended := (instantiate registry sections).resultFrom a answers files
    (∀ instances, ended.1 = .ok instances →
      (∃ parts, List.Forall₂ (Section.Expands registry a.geometry) sections parts ∧
        List.Forall₂ Instance.Fills instances parts.flatten) ∧
      instances.map (·.id) = List.range instances.length) ∧
    ∀ parts, List.Forall₂ (Section.Expands registry a.geometry) sections parts →
      (∀ module fault, .construct module (some fault) ∉ ended.2.calls.drop a.calls.length) →
      let identifiers := parts.flatten.map Slot.identifier
      ((∃ e, ended.1 = .error e) ↔ ¬identifiers.Nodup) ∧
      ∀ e, ended.1 = .error e → ∃ first repeated rest,
        identifiers = first ++ repeated :: rest ∧ first.Nodup ∧ repeated ∈ first ∧
          e = .duplicateInstance repeated.display := by
  intro ended
  have leads := instantiate_leads registry sections a
  constructor
  · intro instances made
    obtain ⟨parts, expands, valid⟩ := leads.ok made
    exact ⟨⟨parts, expands, valid.filled⟩, valid.ids⟩
  · intro parts expands unrefused identifiers
    have repeats {e : SetupError} (failed : ended.1 = .error e) : ∃ first repeated rest,
        identifiers = first ++ repeated :: rest ∧ first.Nodup ∧ repeated ∈ first ∧
          e = .duplicateInstance repeated.display := by
      obtain ⟨halted, refused⟩ := leads.error failed
      cases refused parts expands with
      | refused owner fault =>
        obtain ⟨n, calls⟩ := halted.calls
        refine absurd ?_ (unrefused n fault)
        rw [calls, List.drop_left]
        exact List.mem_append_right _ (List.mem_singleton_self _)
      | @repeated first rest slot split distinct member =>
        refine ⟨_, slot.identifier, rest.map Slot.identifier, ?_, distinct, member, rfl⟩
        simp only [identifiers, split, List.map_append, List.map_cons]
    refine ⟨⟨?_, fun twice => ?_⟩, fun e => repeats⟩
    · rintro ⟨e, failed⟩ distinct
      obtain ⟨first, repeated, rest, split, _, member, _⟩ := repeats failed
      rw [split] at distinct
      exact (List.nodup_append.mp distinct).2.2 repeated member repeated (List.mem_cons_self ..) rfl
    · cases outcome : ended.1 with
      | error e => exact ⟨e, rfl⟩
      | ok instances =>
        obtain ⟨others, again, valid⟩ := leads.ok outcome
        rw [expands_unique again expands] at valid
        exact absurd valid.distinct twice

/-- A detector of one of two flat models. -/
private def plane (name : String) (slot modelSlot : Nat) (type : String) : Placement :=
  ⟨⟨name, slot, modelSlot, ⟨type, 8, 8, #v[0.03, 0.03], 0.05, .monolithic⟩, #v[0, 0, 0],
    #v[0, 0, 0]⟩, .empty⟩

/-- Three detectors, of which the second is of another model than the others. -/
private def telescope : Geometry where
  models :=
    [(plane "plane0" 0 0 "alpide").detector.model, (plane "dut" 1 1 "timepix").detector.model]
  placements :=
    [plane "plane0" 0 0 "alpide", plane "dut" 1 1 "timepix", plane "plane1" 2 0 "alpide"]
  index := ((Dictionary.empty.insert "plane0" 0).insert "dut" 1).insert "plane1" 2
  isSealed := false

private def silent (name : String) (scope : Scope) : ModuleType Unit Unit :=
  ⟨name, scope, true, fun _ => pure (Module.blueprint ⟨(), fun _ => pure (), fun _ => pure ()⟩)⟩

private def silentTypes : Registry Unit Unit :=
  ⟨[silent "Source" .global, silent "Digitizer" .perDetector,
    silent "Calibration" .perDetectorType]⟩

/-- A section that is restricted to the model of two detectors, twice, one for the third detector
and one for each model, with a global one before; and sections that name one detector twice. -/
theorem telescope_instances_follow_sections :
    let sections : List Section := [.new "source" none,
      (Section.new "Digitizer" none).set "type" "alpide alpide", .new "Digitizer" (some "dut"),
      .new "Calibration" none]
    let ended := (instantiate silentTypes sections).resultFrom (.start telescope)
      FileTree.answers ⟨[]⟩
    let again : List Section := [.new "Digitizer" none, .new "Digitizer" (some "dut")]
    let ended' := (instantiate silentTypes again).resultFrom (.start telescope)
      FileTree.answers ⟨[]⟩
    (∃ instances, ended.1 = .ok instances ∧ instances.map (·.id) = List.range 6 ∧
      instances.map (·.identifier.display) = ["Source", "Digitizer:plane0", "Digitizer:plane1",
        "Digitizer:dut", "Calibration:alpide", "Calibration:timepix"]) ∧
      ∃ parts, List.Forall₂ (Section.Expands silentTypes telescope) again parts ∧
        (∀ module fault, .construct module (some fault) ∉ ended'.2.calls.drop 0) ∧
        ¬(parts.flatten.map Slot.identifier).Nodup ∧
        ∃ e, ended'.1 = .error e ∧ ∃ first repeated rest,
          parts.flatten.map Slot.identifier = first ++ repeated :: rest ∧ first.Nodup ∧
            repeated ∈ first ∧ e = .duplicateInstance repeated.display := by
  intro sections ended again ended'
  obtain ⟨instances, made⟩ : ∃ instances, ended.1 = .ok instances := ⟨_, rfl⟩
  have names : ended.1.map (List.map (·.identifier.display)) = .ok ["Source", "Digitizer:plane0",
      "Digitizer:plane1", "Digitizer:dut", "Calibration:alpide", "Calibration:timepix"] := rfl
  rw [made, Except.map, Except.ok.injEq] at names
  have ordered := (instances_follow_sections silentTypes sections (.start telescope)
    FileTree.answers ⟨[]⟩).1 instances made
  have count : instances.length = 6 := by simpa using congrArg List.length names
  have calls : ended'.2.calls = stageCalls .construct 3 none := rfl
  have unrefused : ∀ module fault, .construct module (some fault) ∉ ended'.2.calls.drop 0 := by
    intro module fault member
    rw [calls] at member
    simp [stageCalls] at member
  have expands : List.Forall₂ (Section.Expands silentTypes telescope) again _ :=
    .cons (.intro rfl (.each rfl (.free rfl))) (.cons (.intro rfl (.named rfl rfl rfl)) .nil)
  have repeats := (instances_follow_sections silentTypes again (.start telescope)
    FileTree.answers ⟨[]⟩).2 _ expands unrefused
  have twice := repeats.1.mp ⟨.duplicateInstance "Digitizer:dut", rfl⟩
  refine ⟨⟨instances, made, count ▸ ordered.2, names⟩, _, expands, unrefused, twice, _, rfl, ?_⟩
  exact repeats.2 _ rfl

end Instance

end DetectorSim
