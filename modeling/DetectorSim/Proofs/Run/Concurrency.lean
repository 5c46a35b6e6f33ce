import DetectorSim.Proofs.Pipeline.Preparation
import DetectorSim.Proofs.Run.Moves

/-! How many workers a simulation has. Several workers are only started when the settings allow it
and every module opted in, so modules that did not are never run on two events at once. -/

namespace DetectorSim

open Config

theorem Config.Settings.workers_pos {processors : Nat} {s : Section} {settings : Settings}
    (read : ((Settings.read processors).on s).1 = .ok settings) : 0 < settings.workers := by
  obtain ⟨workers, after, _, read⟩ := Access.ok_of_bind read
  change IntegerType.usize.Carrier at workers
  by_cases zero : workers.val = 0
  · rw [if_pos zero] at read
    obtain ⟨_, _, refused, _⟩ := Access.ok_of_bind read
    cases refused
  · rw [if_neg zero] at read
    obtain ⟨events, _, _, read⟩ := Access.ok_of_bind read
    obtain ⟨seed, _, _, read⟩ := Access.ok_of_bind read
    obtain ⟨multithreading, _, _, read⟩ := Access.ok_of_bind read
    cases read
    have least : 0 ≤ workers.val := workers.property.1
    change 0 < workers.val.toNat
    omega

/-- As many workers are started as requested, but no more than there are events, if there is no
reason for a single one. -/
theorem effectiveWorkers_eq {settings : Settings} (requested : 0 < settings.workers)
    (serial : List String) :
    (effectiveWorkers settings serial).1 =
      if settings.multithreading = true ∧ serial = [] then
        min settings.workers (max 1 settings.events.toNat)
      else 1 := by
  have least : max settings.workers 1 = settings.workers := Nat.max_eq_left requested
  have capped : min 1 (max settings.events.toNat 1) = 1 := by omega
  simp only [effectiveWorkers, least]
  by_cases single : settings.workers ≤ 1
  · have one : settings.workers = 1 := by omega
    simp only [one, Nat.le_refl, if_true]
    split <;> omega
  · simp only [single, if_false]
    cases multithreading : settings.multithreading with
    | false => exact capped
    | true =>
      cases serial with
      | nil => simp [Nat.max_comm]
      | cons name rest => exact capped

/-- The instances in slots may run concurrently just if they were registered so. -/
theorem Instance.concurrent_iff {β σ ω : Type} {instances : List (Instance β)}
    {slots : List (Slot σ ω)} (filled : List.Forall₂ Instance.Fills instances slots) :
    (∀ i ∈ instances, i.concurrent = true) ↔ ∀ slot ∈ slots, slot.type.concurrent = true := by
  induction filled with
  | nil => simp
  | cons fills _ ih => rw [List.forall_mem_cons, List.forall_mem_cons, fills.concurrent, ih]

namespace Simulation

variable {σ ω : Type} {registry : Registry σ ω} {config : RunConfig} {processors : Nat}
  {before : List ModuleCall} {s : Simulation σ ω} {b : SetupState ω}

theorem Prepared.workers_eq (prepared : Prepared registry config processors before s b) :
    s.workers =
      if s.settings.multithreading = true ∧ ∀ i ∈ s.modules, i.concurrent = true then
        min s.settings.workers (max 1 s.settings.events.toNat)
      else 1 := by
  have serial : (s.modules.filter (!·.concurrent)).map (·.identifier.display) = [] ↔
      ∀ i ∈ s.modules, i.concurrent = true := by
    simp
  rw [prepared.workers, effectiveWorkers_eq (Settings.workers_pos prepared.settings)]
  simp only [serial]

theorem prepare_has_worker (prepared : Prepared registry config processors before s b) :
    0 < s.workers := by
  have requested := Settings.workers_pos prepared.settings
  rw [prepared.workers_eq]
  split <;> omega

variable [Inhabited σ]

open Machine

/-- Modules that did not opt in are never run concurrently. In every state of every run of a
simulation, two workers are only inside of events at the same time if the settings allow it and all
modules were registered as concurrent. At least one worker is started, at most as many as requested
and as there are events, and just as many if the settings and all modules allow it. -/
theorem serial_modules_run_alone {τ : Type} (registry : Registry σ ω) (config : RunConfig)
    (given : Option Geometry) (processors : Nat) (geometry : Geometry)
    (answers : Interaction.Answers fileInterface τ) (files : τ) :
    let ended :=
      (prepare registry config given processors).resultFrom (.start geometry) answers files
    ∀ s, ended.1 = .ok s →
      ((Settings.read processors).on config.globals).1 = .ok s.settings ∧
      ∃ parts, List.Forall₂ (Section.Expands registry ended.2.geometry) config.modules parts ∧
        List.Forall₂ Instance.Fills s.modules parts.flatten ∧
        let allOptedIn := ∀ slot ∈ parts.flatten, slot.type.concurrent = true
        (∀ schedule,
          let m := (start s.plan s.workers).follow s.plan schedule
          m.workers.length = s.workers ∧
          ∀ first second : Nat, ∀ worker worker', first ≠ second →
            m.workers[first]? = some worker → m.workers[second]? = some worker' →
            worker.phase.inside?.isSome = true → worker'.phase.inside?.isSome = true →
              s.settings.multithreading = true ∧ allOptedIn) ∧
        1 ≤ s.workers ∧ s.workers ≤ s.settings.workers ∧
        s.workers ≤ max 1 s.settings.events.toNat ∧
        (s.settings.multithreading = true → allOptedIn →
          s.workers = min s.settings.workers (max 1 s.settings.events.toNat)) := by
  intro ended s made
  have prepared := (prepare_leads registry config given processors (.start geometry)).ok made
  obtain ⟨parts, expands, filled⟩ := prepared.filled
  refine ⟨prepared.settings, parts, expands, filled, ?_⟩
  intro allOptedIn
  have requested := Settings.workers_pos prepared.settings
  have workers := prepared.workers_eq
  simp only [Instance.concurrent_iff filled] at workers
  refine ⟨fun schedule => ?_, prepare_has_worker prepared, ?_, ?_, ?_⟩
  · intro m
    have length : m.workers.length = s.workers := length_workers_follow s.plan s.workers schedule
    refine ⟨length, ?_⟩
    intro first second worker worker' different found found' _ _
    obtain ⟨within, _⟩ := List.getElem?_eq_some_iff.mp found
    obtain ⟨within', _⟩ := List.getElem?_eq_some_iff.mp found'
    by_contra alone
    rw [if_neg alone] at workers
    omega
  · rw [workers]
    split <;> omega
  · rw [workers]
    split <;> omega
  · intro multithreading all
    rw [workers, if_pos ⟨multithreading, all⟩]

/-- Two types of modules, of which the second one did not opt in. -/
private def crewTypes : Registry Unit Unit :=
  ⟨[("Shared", true), ("Serial", false)].map fun (name, concurrent) =>
    ⟨name, .global, concurrent, fun _ =>
      pure (Module.blueprint ⟨(), fun _ => pure (), fun _ => pure ()⟩)⟩⟩

private def crew (modules : List String) : RunConfig where
  globals := (((Section.new globalName none).set "number_of_events" "3").set "workers" "2").set
    "random_seed" "7"
  modules := modules.map fun name => .new name none

/-- Two workers take an event each; with a module that did not opt in there is one worker. -/
theorem two_workers_take_an_event_each :
    let shared := (prepare crewTypes (crew ["Shared"]) none 8).resultFrom (.start .empty)
      FileTree.answers ⟨[]⟩
    let mixed := (prepare crewTypes (crew ["Shared", "Serial"]) none 8).resultFrom (.start .empty)
      FileTree.answers ⟨[]⟩
    (∃ s, shared.1 = .ok s ∧
      let m := (start s.plan s.workers).follow s.plan [0, 0, 1, 1]
      m.workers.map (·.phase.inside?) = [some 0, some 1] ∧ s.settings.multithreading = true ∧
        s.workers = min s.settings.workers (max 1 s.settings.events.toNat)) ∧
      ∃ s, mixed.1 = .ok s ∧ s.settings.workers = 2 ∧ s.workers = 1 := by
  intro shared mixed
  obtain ⟨s, made⟩ : ∃ s, shared.1 = .ok s := ⟨_, rfl⟩
  obtain ⟨_, parts, _, _, alone, _, _, _, least⟩ :=
    serial_modules_run_alone crewTypes (crew ["Shared"]) none 8 .empty FileTree.answers ⟨[]⟩ s made
  have inside : shared.1.map (fun s => ((start s.plan s.workers).follow s.plan
      [0, 0, 1, 1]).workers.map (·.phase.inside?)) = .ok [some 0, some 1] := rfl
  rw [made, Except.map, Except.ok.injEq] at inside
  let m := (start s.plan s.workers).follow s.plan [0, 0, 1, 1]
  have at_place (id : Nat) :
      m.workers[id]?.map (·.phase.inside?) = [some (0 : UInt64), some 1][id]? := by
    rw [← List.getElem?_map, inside]
  obtain ⟨first, found, event⟩ := Option.map_eq_some_iff.mp (at_place 0)
  obtain ⟨second, found', event'⟩ := Option.map_eq_some_iff.mp (at_place 1)
  obtain ⟨multithreading, optedIn⟩ := (alone [0, 0, 1, 1]).2 0 1 first second (by decide) found
    found' (by rw [event]; rfl) (by rw [event']; rfl)
  have serial : mixed.1.map (fun s => (s.settings.workers, s.workers)) = .ok (2, 1) := rfl
  obtain ⟨s', made'⟩ : ∃ s, mixed.1 = .ok s := ⟨_, rfl⟩
  rw [made', Except.map, Except.ok.injEq, Prod.mk.injEq] at serial
  exact ⟨⟨s, made, inside, multithreading, least multithreading optedIn⟩, s', made', serial⟩

end Simulation

end DetectorSim
