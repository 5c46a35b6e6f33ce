import DetectorSim.Proofs.Chain.Assembly
import DetectorSim.Proofs.Chain.Runs
import DetectorSim.Proofs.Run.Completion
import DetectorSim.Proofs.Run.Logs
import DetectorSim.Proofs.Run.Warnings

/-! Which detector hits are counted for. A counter keeps a single table for the messages that are
addressed to a detector and for those that are not; the label that the latter are counted under is
a name that a detector may have. -/

namespace DetectorSim

open Config
open Interaction (Exchange)

variable {ω : Type}

namespace HitCounts

/-- The messages that are addressed to a detector of this name. -/
def addressedTo (name : String) (messages : List (Message .hits)) : List (Message .hits) :=
  messages.filter (·.detectorName = some name)

/-- The messages that are addressed to no detector. -/
def unaddressed (messages : List (Message .hits)) : List (Message .hits) :=
  messages.filter (·.detectorName = none)

theorem total_perm {messages others : List (Message .hits)} (same : messages.Perm others) :
    total messages = total others :=
  (same.map _).sum_nat

theorem keyOf_eq_iff {m : Message .hits} {name : String} :
    keyOf m = name ↔ m.detectorName = some name ∨ name = "global" ∧ m.detectorName = none := by
  rw [keyOf]
  cases m.detectorName with
  | none => simp [eq_comm]
  | some addressee => simp

/-- Under a name are counted the messages addressed to it, and under one name also those that are
addressed to none. -/
theorem under_perm (name : String) (messages : List (Message .hits)) :
    (under name messages).Perm (addressedTo name messages ++
      if name = "global" then unaddressed messages else []) := by
  have addressed : (under name messages).filter (·.detectorName = some name) =
      addressedTo name messages := by
    rw [under, List.filter_filter]
    refine List.filter_congr fun m _ => ?_
    simp only [keyOf_eq_iff]
    by_cases here : m.detectorName = some name <;> simp [here]
  have others : (under name messages).filter (fun m => !decide (m.detectorName = some name)) =
      if name = "global" then unaddressed messages else [] := by
    rw [under, List.filter_filter]
    split
    · rename_i label
      refine List.filter_congr fun m _ => ?_
      simp only [keyOf_eq_iff]
      cases m.detectorName <;> simp [label]
    · rename_i label
      refine List.filter_eq_nil_iff.mpr fun m _ => ?_
      simp only [keyOf_eq_iff]
      by_cases here : m.detectorName = some name <;> simp [here, label]
  have parts := List.filter_append_perm (·.detectorName = some name) (under name messages)
  rw [addressed, others] at parts
  exact parts.symm

theorem total_under (name : String) (messages : List (Message .hits)) :
    total (under name messages) = total (addressedTo name messages) +
      if name = "global" then total (unaddressed messages) else 0 := by
  rw [total_perm (under_perm name messages), total, List.map_append, List.sum_append]
  split <;> rfl

theorem under_ne_nil_iff (name : String) (messages : List (Message .hits)) :
    under name messages ≠ [] ↔
      addressedTo name messages ≠ [] ∨ name = "global" ∧ unaddressed messages ≠ [] := by
  rw [Ne, ← List.isEmpty_iff, (under_perm name messages).isEmpty_eq]
  by_cases label : name = "global" <;> simp [label, ← not_and_or]

end HitCounts

/-- The hits that a module fetches with an exchange. -/
def fetchedHits {σ : Type} : Exchange (eventInterface σ ω) → List (Message .hits)
  | ⟨.fetchAll .hits, answer⟩ =>
    let answer : Except MessageError (List (Message .hits)) := answer
    answer.toOption.getD []
  | _ => []

/-- The hits that a module received in the course of exchanges. -/
def Passage.hitsReceived {σ : Type} (module : ModuleId)
    (exchanges : List (Exchange (passageInterface σ ω))) : List (Message .hits) :=
  (exchanges.filterMap (own? module)).flatMap fetchedHits

/-- A counter changed its memory by the hits that it received, all of an event at once. -/
def HitCounter.Counted (received : List (Message .hits)) (changes : List (HitCounts → HitCounts)) :
    Prop :=
  ∃ fetched : List (List (Message .hits)),
    received = fetched.flatten ∧ changes = fetched.flatMap HitCounts.changes

namespace HitCounter

theorem counted_of_run {ending : Except Halt Unit}
    {own : List (Exchange (eventInterface HitCounts ω))}
    (runs : run.run.Reaches own (.done ending)) :
    Counted (own.flatMap fetchedHits) (own.filterMap fun x => EventQuestion.change? x.question) := by
  rw [run_eq] at runs
  obtain _ | ⟨answer, onwards⟩ := runs
  revert answer
  intro (answer : Except MessageError (List (Message .hits))) onwards
  cases answer with
  | error e =>
    obtain ⟨rfl, _⟩ := Interaction.reaches_done_iff.mp onwards
    exact ⟨[], rfl, rfl⟩
  | ok messages =>
    dsimp only at onwards
    refine ⟨[messages], ?_⟩
    rw [List.flatten_singleton, List.flatMap_singleton, HitCounts.changes]
    split at onwards
    · rename_i any
      obtain _ | ⟨before, onwards⟩ := onwards
      obtain _ | ⟨before', onwards⟩ := onwards
      obtain ⟨rfl, _⟩ := Interaction.reaches_done_iff.mp onwards
      rw [if_pos any]
      exact ⟨List.append_nil _, rfl⟩
    · rename_i none
      obtain _ | ⟨before, onwards⟩ := onwards
      obtain ⟨rfl, _⟩ := Interaction.reaches_done_iff.mp onwards
      rw [if_neg none]
      exact ⟨List.append_nil _, rfl⟩

section Runs

variable {plan : RunPlan HitCounts ω} {i : ReadyModule HitCounts ω}

theorem counted_of_tells (increasing : plan.modules.Pairwise (·.id < ·.id))
    (member : i ∈ plan.modules) (body : i.body.run = fun _ => run) {index : UInt64}
    {told : List (Exchange (passageInterface HitCounts ω))} {outcome : EventOutcome}
    {e : EventState ω} (tells : plan.Tells index told (.done outcome) e) :
    Counted (Passage.hitsReceived i.id told) (Passage.changes i.id told) := by
  obtain ⟨before, after, split, lower, higher⟩ := ReadyModule.exists_around increasing member
  have part := tells.part split lower higher
  rw [Passage.hitsReceived, Passage.changes_eq_own]
  generalize told.filterMap (Passage.own? i.id) = own at part
  cases part with
  | idle absent => exact ⟨[], rfl, rfl⟩
  | ran _ _ _ runs _ =>
    rw [body] at runs
    exact counted_of_run runs

theorem counted_flatMap {α : Type} {received : α → List (Message .hits)}
    {changes : α → List (HitCounts → HitCounts)} {events : List α}
    (each : ∀ event ∈ events, Counted (received event) (changes event)) :
    Counted (events.flatMap received) (events.flatMap changes) := by
  induction events with
  | nil => exact ⟨[], rfl, rfl⟩
  | cons event rest ih =>
    obtain ⟨first, others⟩ := List.forall_mem_cons.mp each
    obtain ⟨fetched, got, changed⟩ := first
    obtain ⟨more, later, changedLater⟩ := ih others
    refine ⟨fetched ++ more, ?_, ?_⟩
    · rw [List.flatMap_cons, got, later, List.flatten_append]
    · rw [List.flatMap_cons, changed, changedLater, List.flatMap_append]

/-- What was counted, from nothing and in whatever order, is what was received. -/
theorem Counted.find? {received : List (Message .hits)}
    {changes made : List (HitCounts → HitCounts)} (counted : Counted received changes)
    (same : made.Perm changes) (key : String) :
    (accumulate made .empty).hits.find? key = if HitCounts.under key received = [] then none
      else some (UInt64.ofNat (HitCounts.total (HitCounts.under key received))) := by
  obtain ⟨fetched, rfl, rfl⟩ := counted
  have commute : ∀ f ∈ made, ∀ g ∈ made, ∀ counts, f (g counts) = g (f counts) := by
    intro f first g second
    obtain ⟨messages, _, first⟩ := List.mem_flatMap.mp (same.mem_iff.mp first)
    obtain ⟨others, _, second⟩ := List.mem_flatMap.mp (same.mem_iff.mp second)
    exact HitCounts.changes_commute first second
  rw [accumulate_perm same commute, (HitCounts.accumulate_changes fetched .empty).1,
    HitCounts.find?_addMessages]
  have nothing : HitCounts.empty.hits.find? key = none := rfl
  rw [nothing, Option.getD_none, UInt64.zero_add]

/-- When all workers are at their end, whatever became of the events, a counter has counted what it
received. -/
theorem memory_of_isOver (ids : plan.modules.map (·.id) = List.range plan.modules.length)
    (member : i ∈ plan.modules) (start : i.body.memory = .empty) (body : i.body.run = fun _ => run)
    {workers : Nat} {schedule : List Nat}
    (atEnd : ((Machine.start plan workers).follow plan schedule).isOver = true) :
    ∃ counts : HitCounts,
      ((Machine.start plan workers).follow plan schedule).commons.memories[i.id]? = some counts ∧
      let received :=
        Passage.hitsReceived i.id ((Machine.start plan workers).exchanges plan schedule)
      ∀ key, counts.hits.find? key = if HitCounts.under key received = [] then none
        else some (UInt64.ofNat (HitCounts.total (HitCounts.under key received))) := by
  have increasing : plan.modules.Pairwise (·.id < ·.id) :=
    List.pairwise_map.mp (ids ▸ List.pairwise_lt_range)
  obtain ⟨finished, _, told, account⟩ := Machine.exists_histories_of_isOver atEnd
  have counted := counted_flatMap fun x listed =>
    counted_of_tells increasing member body (told x listed)
  have received : (Passage.hitsReceived i.id
      ((Machine.start plan workers).exchanges plan schedule)).Perm
        (finished.flatMap fun x => Passage.hitsReceived i.id x.2) := by
    refine ((account.filterMap _).flatMap_right _).trans (.of_eq ?_)
    rw [List.filterMap_flatMap, List.flatMap_assoc]
    rfl
  have changes : (Passage.changes i.id ((Machine.start plan workers).exchanges plan schedule)).Perm
      (finished.flatMap fun x => Passage.changes i.id x.2) := by
    refine (account.filterMap _).trans (.of_eq ?_)
    rw [List.filterMap_flatMap]
    rfl
  have remembered := Machine.remembers_follow plan i.id workers schedule
  rw [Machine.Remembers, RunPlan.memory_of_mem ids member, start, Option.map_some] at remembered
  refine ⟨_, remembered, fun key => ?_⟩
  have sameUnder : (HitCounts.under key (Passage.hitsReceived i.id
      ((Machine.start plan workers).exchanges plan schedule))).Perm
        (HitCounts.under key (finished.flatMap fun x => Passage.hitsReceived i.id x.2)) :=
    received.filter _
  rw [counted.find? changes key, ← HitCounts.total_perm sameUnder]
  simp only [← List.isEmpty_iff, ← sameUnder.isEmpty_eq]

end Runs

end HitCounter

namespace Simulation

variable {τ : Type} {answers : Interaction.Answers fileInterface τ} {files : τ}
  {types : List (ModuleType HitCounts ω)} {config : RunConfig} {given : Option Geometry}
  {processors : Nat} {geometry : Geometry} {s : Simulation HitCounts ω}

theorem counter_of_prepared
    (registered : HitCounter.moduleType ∈ (Registry.empty.addAll types).1.types)
    (prepared : ((prepare (Registry.empty.addAll types).1 config given processors).resultFrom
      (.start geometry) answers files).1 = .ok s)
    {i : ReadyModule HitCounts ω} (member : i ∈ s.modules)
    (name : i.identifier.name = "HitCounter") :
    i.body.memory = .empty ∧ i.body.run = fun _ => HitCounter.run := by
  have distinct : ((Registry.empty.addAll types).1.types.map (·.name)).Nodup :=
    Registry.nodup_addAll types .nil
  obtain ⟨_, _, _, setUp⟩ := (prepare_asks _ config given processors (.start geometry)).ok prepared
  obtain ⟨_, asked, _⟩ := exists_inquiry setUp.modules (numbers_of_prepared prepared) member
  exact (HitCounter.ofSetUp asked distinct registered name).1

/-- Hits are counted for the detector that they are addressed to, and those that are addressed to
none for the detector of one name. Whatever was set up, and whatever became of the events: when all
workers are at their end, a counter has under each name but `global` the number of hits in the
messages that it received and that were addressed to a detector of the name; under `global`, which
is as good a name for a detector as any, it has the hits of the unaddressed messages besides. -/
theorem unaddressed_hits_count_for_global {τ : Type} (types : List (ModuleType HitCounts ω))
    (registered : HitCounter.moduleType ∈ (Registry.empty.addAll types).1.types)
    (config : RunConfig) (given : Option Geometry) (processors : Nat) (geometry : Geometry)
    (answers : Interaction.Answers fileInterface τ) (files : τ) {s : Simulation HitCounts ω}
    (prepared : ((prepare (Registry.empty.addAll types).1 config given processors).resultFrom
      (.start geometry) answers files).1 = .ok s) :
    (∃ schedule, s.run = s.conclude ((Machine.start s.plan s.workers).follow s.plan schedule) ∧
      ((Machine.start s.plan s.workers).follow s.plan schedule).isOver = true) ∧
    isIdentifier "global".toList = true ∧
    ∀ workers schedule,
      let m := (Machine.start s.plan workers).follow s.plan schedule
      m.isOver = true → ∀ counter ∈ s.modules, counter.identifier.name = "HitCounter" →
        ∃ counts : HitCounts, m.commons.memories[counter.id]? = some counts ∧
          let received := Passage.hitsReceived counter.id
            ((Machine.start s.plan workers).exchanges s.plan schedule)
          ∀ name,
            (counts.hits.find? name).getD 0 =
              UInt64.ofNat (HitCounts.total (HitCounts.addressedTo name received) +
                if name = "global" then HitCounts.total (HitCounts.unaddressed received) else 0) ∧
            ((counts.hits.find? name).isSome = true ↔
              HitCounts.addressedTo name received ≠ [] ∨
                name = "global" ∧ HitCounts.unaddressed received ≠ []) := by
  refine ⟨?_, rfl, ?_⟩
  · obtain ⟨schedule, same, atEnd⟩ := Machine.exists_complete s.plan s.workers
    exact ⟨schedule, congrArg s.conclude same, atEnd⟩
  intro workers schedule m atEnd counter member name
  have ready := (prepare_leads (Registry.empty.addAll types).1 config given processors
    (.start geometry)).ok prepared
  obtain ⟨start, body⟩ := counter_of_prepared registered prepared member name
  obtain ⟨counts, remembered, found⟩ :=
    HitCounter.memory_of_isOver ready.ids member start body atEnd
  refine ⟨counts, remembered, fun name => ?_⟩
  rw [← HitCounts.total_under, ← HitCounts.under_ne_nil_iff, found name]
  by_cases none : HitCounts.under name (Passage.hitsReceived counter.id
      ((Machine.start s.plan workers).exchanges s.plan schedule)) = []
  · rw [if_pos none, none]
    exact ⟨rfl, by simp⟩
  · rw [if_neg none]
    exact ⟨rfl, by simp [none]⟩

/-- Dispatches one hit to the detector of the module, and two to none. -/
private def scatter (view : EventView) : EventProgram HitCounts Unit Unit := do
  let own ← EventProgram.make .hits ⟨[⟨0, 0, 1.0⟩]⟩ view.detectors.head?
  let _ ← EventProgram.dispatch own
  let stray ← EventProgram.make .hits ⟨[⟨0, 0, 1.0⟩, ⟨1, 0, 1.0⟩]⟩ none
  let _ ← EventProgram.dispatch stray

private def scattering : List (ModuleType HitCounts Unit) :=
  [{ name := "Source"
     scope := .perDetector
     concurrent := true
     construct := fun _ => return Module.blueprint ⟨.empty, scatter, fun _ => pure ()⟩ },
    HitCounter.moduleType]

/-- Two detectors, one of which has the name in question. -/
private def twoWafers : List Geometry.Operation :=
  [.addModel ⟨"wafer", 8, 8, .replicate 2 0.03, 0.05, .monolithic⟩,
    .addDetector "global" "wafer" (.replicate 3 0) (.replicate 3 0),
    .addDetector "north" "wafer" (.replicate 3 0) (.replicate 3 0)]

private def scatteringRun : RunConfig :=
  ⟨((Section.new globalName none).set "random_seed" "7").set "number_of_events" "1",
    [.new "Source" none, .new "HitCounter" none]⟩

private def scattered : Except SetupError (Simulation HitCounts Unit) :=
  ((prepare (Registry.empty.addAll scattering).1 scatteringRun
    ((some twoWafers).map Geometry.empty.after) 1).resultFrom (.start .empty)
      FileTree.answers ⟨[]⟩).1

private def attributed : Simulation HitCounts Unit :=
  match scattered with
  | .ok s => s
  | .error _ => ⟨[], .empty, .empty, .new "" none, ⟨0, 0, 0, false⟩, 0⟩

private theorem exists_last_counter :
    ∃ counter ∈ attributed.modules, counter.id = 2 ∧ counter.identifier.name = "HitCounter" := by
  have modules : attributed.modules.map (fun i => (i.id, i.identifier.name)) =
      [(0, "Source"), (1, "Source"), (2, "HitCounter")] := rfl
  have last : (2, "HitCounter") ∈ attributed.modules.map fun i => (i.id, i.identifier.name) := by
    simp [modules]
  obtain ⟨counter, member, same⟩ := List.mem_map.mp last
  exact ⟨counter, member, congrArg Prod.fst same, congrArg Prod.snd same⟩

/-- Of six hits four are addressed to no detector. They leave the count of one detector as it should
be, and are added to that of the other. -/
theorem stray_hits_in_one_of_two_counts :
    scattered = .ok attributed ∧ ∃ counter ∈ attributed.modules,
      counter.identifier.name = "HitCounter" ∧
      let m := (Machine.start attributed.plan 1).follow attributed.plan (List.replicate 20 0)
      let received := Passage.hitsReceived counter.id
        ((Machine.start attributed.plan 1).exchanges attributed.plan (List.replicate 20 0))
      m.isOver = true ∧ ∃ counts : HitCounts, m.commons.memories[counter.id]? = some counts ∧
        HitCounts.total (HitCounts.unaddressed received) = 4 ∧
        (counts.hits.find? "north").getD 0 = 1 ∧ (counts.hits.find? "global").getD 0 = 5 := by
  have made : scattered = .ok attributed := rfl
  obtain ⟨counter, member, two, counting⟩ := exists_last_counter
  have atEnd : ((Machine.start attributed.plan 1).follow attributed.plan
      (List.replicate 20 0)).isOver = true := by decide +kernel
  obtain ⟨counts, remembered, attribution⟩ := (unaddressed_hits_count_for_global scattering
    (List.mem_cons_of_mem _ (List.mem_cons_self ..)) scatteringRun _ 1 .empty FileTree.answers ⟨[]⟩
    made).2.2 1 (List.replicate 20 0) atEnd counter member counting
  refine ⟨made, counter, member, counting, atEnd, counts, remembered, ?_,
    (attribution "north").1.trans ?_, (attribution "global").1.trans ?_⟩
  all_goals rw [two]; decide +kernel

/-- At a detector of that name the count is not the number of hits addressed to it: one hit was
addressed to the detector, and five are counted for it. -/
theorem one_hit_is_counted_as_five :
    ∃ s : Simulation HitCounts Unit, scattered = .ok s ∧
      s.geometry.detectors.map (·.name) = ["global", "north"] ∧
      ∃ counter ∈ s.modules, counter.identifier.name = "HitCounter" ∧
      let m := (Machine.start s.plan 1).follow s.plan (List.replicate 20 0)
      let received := Passage.hitsReceived counter.id
        ((Machine.start s.plan 1).exchanges s.plan (List.replicate 20 0))
      m.isOver = true ∧
        HitCounts.total (HitCounts.addressedTo "global" received) = 1 ∧
        ∃ counts : HitCounts, m.commons.memories[counter.id]? = some counts ∧
          counts.hits.find? "global" = some 5 := by
  obtain ⟨counter, member, two, counting⟩ := exists_last_counter
  have seen : (((Machine.start attributed.plan 1).follow attributed.plan
      (List.replicate 20 0)).commons.memories[2]?).map (·.hits.find? "global") =
        some (some 5) := by decide +kernel
  obtain ⟨counts, remembered, five⟩ := Option.map_eq_some_iff.mp seen
  refine ⟨attributed, rfl, rfl, counter, member, counting, by decide +kernel, ?_, counts, ?_, five⟩
  · rw [two]
    decide +kernel
  · rw [two]
    exact remembered

end Simulation

end DetectorSim
