import DetectorSim.Proofs.Chain.Messages
import Mathlib.Algebra.Order.BigOperators.Group.List
import Mathlib.Algebra.Order.Group.Nat

/-! The totals of a chain. A counter adds up the hits of the events that reach it, each by its own
messages, so its totals are the same after every schedule; those of a detector are the charges that
reached the threshold of its digitizer. -/

namespace DetectorSim

open Config

variable {ω : Type}

namespace RunPlan

variable (plan : RunPlan HitCounts ω) (counter : ModuleId)

/-- The hits under a key that are dispatched before a counter in the events that reach it. -/
def hitsUnder (key : String) : Nat :=
  ((plan.reaching counter).map fun index =>
    HitCounts.total (HitCounts.under key (plan.messagesBelow .hits counter index))).sum

/-- The charges that reach a threshold in the deposits that a digitizer fetches, in the events that
reach a counter. -/
def chargesAbove (threshold : Float) (digitizer : ModuleId) : Nat :=
  ((plan.reaching counter).map fun index =>
    (plan.depositOf digitizer index).elim 0 fun m =>
      (Deposits.charges m.payload).countP (threshold ≤ ·.charge)).sum

end RunPlan

namespace Simulation

section Counter

variable {s : Simulation HitCounts ω} {subscriptions : List (Subscription ω)}

theorem HasChain.blind (chain : s.HasChain subscriptions)
    (others : ∀ i ∈ s.modules, ¬i.OfChain → i.body.IsBlind) :
    ∀ i ∈ s.plan.modules, i.body.IsBlind := by
  intro i member
  rcases chain.kinds member with ⟨d, body⟩ | ⟨d, digitizes⟩ | ⟨_, body⟩ | other
  · intro view
    rw [body]
    exact (d.onlyAsks_run.mono fun q plain => plain.1).ignores
  · intro view
    rw [digitizes.body]
    exact (d.onlyAsks_run view).ignores
  · intro view
    rw [body]
    exact HitCounter.ignores_run
  · exact others i member other

theorem HasChain.memory_counter (chain : s.HasChain subscriptions)
    {counter : ReadyModule HitCounts ω} (member : counter ∈ s.modules)
    (name : counter.identifier.name = "HitCounter") :
    s.plan.commons.memories[counter.id]? = some .empty := by
  obtain ⟨⟨memory, _⟩, _⟩ := chain.counters counter member name
  exact (RunPlan.memory_of_mem chain.ids member).trans (congrArg some memory)

/-- The counts after one event after the other. -/
def countsOf (s : Simulation HitCounts ω) (counter : ModuleId) : HitCounts :=
  accumulate (s.plan.indices.flatMap (s.plan.changes counter)) .empty

theorem HasChain.countsOf_eq (chain : s.HasChain subscriptions)
    {counter : ReadyModule HitCounts ω} (member : counter ∈ s.modules)
    (name : counter.identifier.name = "HitCounter") : s.countsOf counter.id =
      accumulate (((s.plan.reaching counter.id).map
        (s.plan.messagesBelow .hits counter.id)).flatMap HitCounts.changes) .empty := by
  rw [countsOf, RunPlan.reaching, List.flatMap_map]
  refine congrArg (accumulate · _) ?_
  induction s.plan.indices with
  | nil => rfl
  | cons index rest ih =>
    rw [List.flatMap_cons, ih, chain.changes_counter member name index, List.filter_cons]
    split <;> rfl

/-- A run without errors and panics leaves a counter with these counts. -/
theorem HasChain.memory_of_isOver (chain : s.HasChain subscriptions)
    (blind : ∀ i ∈ s.modules, ¬i.OfChain → i.body.IsBlind) {counter : ReadyModule HitCounts ω}
    (member : counter ∈ s.modules) (name : counter.identifier.name = "HitCounter")
    {workers : Nat} (nonempty : 0 < workers) (room : s.plan.events.toNat + workers ≤ 2 ^ 64)
    (schedule : List Nat)
    (atEnd : ((Machine.start s.plan workers).follow s.plan schedule).isOver = true)
    (faultless : ((Machine.start s.plan workers).follow s.plan schedule).hasFault = false) :
    ((Machine.start s.plan workers).follow s.plan schedule).commons.memories[counter.id]? =
      some (s.countsOf counter.id) := by
  have commute (index index' : UInt64) : ∀ f ∈ s.plan.changes counter.id index,
      ∀ g ∈ s.plan.changes counter.id index', ∀ memory, f (g memory) = g (f memory) := by
    intro f first g second
    rw [chain.changes_counter member name] at first second
    split at first
    · split at second
      · exact HitCounts.changes_commute first second
      · cases second
    · cases first
  rw [Machine.memory_of_isOver s.plan (chain.blind blind) counter.id commute nonempty room schedule
    atEnd faultless, chain.memory_counter member name]
  rfl

/-- The counts hold the hits of the messages that reached the counter, under the key of each. -/
theorem HasChain.find?_countsOf (chain : s.HasChain subscriptions)
    {counter : ReadyModule HitCounts ω} (member : counter ∈ s.modules)
    (name : counter.identifier.name = "HitCounter") (key : String) :
    let messages := (s.plan.reaching counter.id).flatMap (s.plan.messagesBelow .hits counter.id)
    (s.countsOf counter.id).hits.find? key = if HitCounts.under key messages = [] then none
      else some (UInt64.ofNat (HitCounts.total (HitCounts.under key messages))) := by
  intro messages
  rw [chain.countsOf_eq member name, (HitCounts.accumulate_changes _ _).1, ← List.flatMap_def,
    HitCounts.find?_addMessages]
  have nothing : HitCounts.empty.hits.find? key = none := rfl
  rw [nothing, Option.getD_none, UInt64.zero_add]

/-- Unless there are too many, the hits under a key are counted one by one. -/
theorem HasChain.toNat_countsOf (chain : s.HasChain subscriptions)
    {counter : ReadyModule HitCounts ω} (member : counter ∈ s.modules)
    (name : counter.identifier.name = "HitCounter") {key : String}
    (room : s.plan.hitsUnder counter.id key < 2 ^ 64) :
    (((s.countsOf counter.id).hits.find? key).getD 0).toNat = s.plan.hitsUnder counter.id key := by
  unfold RunPlan.hitsUnder at room ⊢
  rw [← HitCounts.total_under_flatMap] at room ⊢
  rw [chain.find?_countsOf member name]
  split
  · rename_i none
    rw [none]
    rfl
  · rw [Option.getD_some, UInt64.toNat_ofNat_of_lt' room]

/-- If only digitizers dispatch hits, those for a detector are the charges found by its digitizer. -/
theorem HasChain.hitsUnder_detector (chain : s.HasChain subscriptions)
    (silent : ∀ j ∈ s.modules, ¬j.OfChain → ∀ view,
      (j.body.run view).run.OnlyAsks fun q => ¬EventQuestion.dispatches .hits q)
    {i : ReadyModule HitCounts ω} (listed : i ∈ s.modules) {d : ThresholdDigitizer}
    (digitizes : i.Digitizes d subscriptions) {counter : ReadyModule HitCounts ω}
    (member : counter ∈ s.modules) (before : i.id < counter.id) :
    s.plan.hitsUnder counter.id d.detector.name =
      s.plan.chargesAbove counter.id d.threshold i.id := by
  refine congrArg List.sum (List.map_congr_left fun index among => ?_)
  obtain ⟨_, reached⟩ := List.mem_filter.mp among
  exact chain.total_of_runsIn silent listed digitizes member before reached

theorem HasChain.eventsWithHits_countsOf (chain : s.HasChain subscriptions)
    {counter : ReadyModule HitCounts ω} (member : counter ∈ s.modules)
    (name : counter.identifier.name = "HitCounter") :
    (s.countsOf counter.id).eventsWithHits.toNat = (s.plan.reaching counter.id).countP fun index =>
      (s.plan.messagesBelow .hits counter.id index).any HitCounts.hasHits := by
  let hit (index : UInt64) : Bool :=
    (s.plan.messagesBelow .hits counter.id index).any HitCounts.hasHits
  have few : (s.plan.reaching counter.id).countP hit < 2 ^ 64 := by
    calc (s.plan.reaching counter.id).countP hit
      _ ≤ (s.plan.reaching counter.id).length := List.countP_le_length
      _ ≤ s.plan.indices.length := List.length_filter_le ..
      _ = s.plan.events.toNat := by simp [RunPlan.indices]
      _ < 2 ^ 64 := s.plan.events.toNat_lt
  rw [chain.countsOf_eq member name, (HitCounts.accumulate_changes _ _).2, List.countP_map]
  change (0 + UInt64.ofNat ((s.plan.reaching counter.id).countP hit)).toNat = _
  rw [UInt64.zero_add, UInt64.toNat_ofNat_of_lt' few]

end Counter

/-- The totals of a counter do not depend on scheduling. After every run without errors and panics
it remembers the same counts, those of one event after the other: under each key the hits of all
messages with it that were dispatched before the counter in events that reached it, with an entry
just if there was such a message, and the number of these events with any hit. If only digitizers
dispatch hits, the count of a detector whose digitizer stands before the counter is the number of
charges, in the deposits that the digitizer fetched in these events, that reach its threshold. -/
theorem hit_totals_independent_of_schedule {τ : Type} (types : List (ModuleType HitCounts ω))
    (registered : ∀ type ∈ chainModules, type ∈ (Registry.empty.addAll types).1.types)
    (config : RunConfig) (given : Option (List Geometry.Operation)) (processors : Nat)
    (geometry : Geometry) (answers : Interaction.Answers fileInterface τ) (files : τ)
    {s : Simulation HitCounts ω}
    (prepared : ((prepare (Registry.empty.addAll types).1 config
      (given.map Geometry.empty.after) processors).resultFrom (.start geometry) answers files).1 =
        .ok s)
    (blind : ∀ i ∈ s.modules, ¬i.OfChain → i.body.IsBlind) {counter : ReadyModule HitCounts ω}
    (member : counter ∈ s.modules) (name : counter.identifier.name = "HitCounter") :
    let reaching := s.plan.reaching counter.id
    let received := s.plan.messagesBelow .hits counter.id
    ∃ counts : HitCounts,
      (∀ workers schedule, 0 < workers → s.plan.events.toNat + workers ≤ 2 ^ 64 →
        let m := (Machine.start s.plan workers).follow s.plan schedule
        m.isOver = true → m.hasFault = false →
          m.commons.memories[counter.id]? = some counts ∧ m.finished.Perm s.plan.indices ∧
            ∀ p ∈ m.processed, (p.index ∈ reaching ↔ counter.id ∈ p.state.entered) ∧
              s.plan.Tells p.index (s.plan.conversation p.index) (.done p.outcome) p.state) ∧
      (∀ key,
        ((counts.hits.find? key).isSome = true ↔
          ∃ index ∈ reaching, HitCounts.under key (received index) ≠ []) ∧
        (s.plan.hitsUnder counter.id key < 2 ^ 64 →
          ((counts.hits.find? key).getD 0).toNat = s.plan.hitsUnder counter.id key)) ∧
      counts.eventsWithHits.toNat =
        reaching.countP (fun index => (received index).any HitCounts.hasHits) ∧
      ((∀ i ∈ s.modules, ¬i.OfChain → ∀ view,
          (i.body.run view).run.OnlyAsks fun q => ¬EventQuestion.dispatches .hits q) →
        ∀ i ∈ s.modules, i.identifier.name = "ThresholdDigitizer" →
          ∃ d : ThresholdDigitizer, i.body = d.toModule ∧ i.detectors = [d.detector] ∧
            (i.id < counter.id →
              (∀ index ∈ reaching, s.plan.depositOf i.id index =
                s.plan.depositFor d.detector.name i.id index) ∧
              (s.plan.chargesAbove counter.id d.threshold i.id < 2 ^ 64 →
                ((counts.hits.find? d.detector.name).getD 0).toNat =
                  s.plan.chargesAbove counter.id d.threshold i.id))) := by
  intro reaching received
  have distinct : ((Registry.empty.addAll types).1.types.map (·.name)).Nodup :=
    Registry.nodup_addAll types .nil
  obtain ⟨subscriptions, chain⟩ := exists_hasChain distinct registered prepared
  refine ⟨s.countsOf counter.id, ?_, ?_, chain.eventsWithHits_countsOf member name, ?_⟩
  · intro workers schedule nonempty room m atEnd faultless
    have all := Machine.finished_perm s.plan nonempty room schedule atEnd faultless
    refine ⟨?_, all, ?_⟩
    · exact chain.memory_of_isOver blind member name nonempty room schedule atEnd faultless
    · intro p present
      have alone := Machine.processed_eq_processEvent s.plan (chain.blind blind) workers schedule
        p present s.plan.commons
      have tells := s.plan.tells_conversation p.index
      rw [← alone] at tells
      refine ⟨?_, tells⟩
      have claimed : p.index ∈ s.plan.indices := all.mem_iff.mp (List.mem_map_of_mem present)
      have entered : p.state.entered =
          (s.plan.conversation p.index).filterMap Passage.entered? := tells.passes.entered
      rw [entered]
      exact List.mem_filter.trans ((and_iff_right claimed).trans decide_eq_true_iff)
  · intro key
    refine ⟨?_, chain.toNat_countsOf member name⟩
    rw [chain.find?_countsOf member name, ← HitCounts.under_flatMap_ne_nil_iff]
    split
    · rename_i none
      exact iff_of_false Bool.false_ne_true fun present => present none
    · rename_i present
      exact iff_of_true rfl present
  · intro silent i listed digitizer
    obtain ⟨d, digitizes⟩ := chain.digitizers i listed digitizer
    refine ⟨d, digitizes.body, digitizes.detectors, fun before => ⟨fun index among => ?_, ?_⟩⟩
    · obtain ⟨_, reached⟩ := List.mem_filter.mp among
      exact chain.depositOf_eq listed digitizes member before reached
    · rw [← chain.hitsUnder_detector silent listed digitizes member before]
      exact chain.toNat_countsOf member name

private def deposit (view : EventView) (charges : List Float) :
    EventProgram HitCounts Unit Unit := do
  let message ← EventProgram.make .deposits ⟨charges.map (⟨1, 2, ·⟩)⟩ view.detectors.head?
  let _ ← EventProgram.dispatch message

/-- Deposits charges in the first event, none in the second, and twice in the third. -/
private def depositAll (view : EventView) : EventProgram HitCounts Unit Unit :=
  match view.index.toNat with
  | 0 => deposit view [500, 1500, 2500]
  | 1 => return ()
  | _ => do
    deposit view [5000]
    deposit view [900]

private theorem onlyAsks_deposit (view : EventView) (charges : List Float) :
    (deposit view charges).run.OnlyAsks EventQuestion.isPlain :=
  ⟨⟨id, id⟩, fun _ => ⟨⟨id, Topic.noConfusion⟩, fun _ => trivial⟩⟩

private theorem onlyAsks_depositAll (view : EventView) :
    (depositAll view).run.OnlyAsks EventQuestion.isPlain := by
  rw [depositAll]
  split
  · exact onlyAsks_deposit view _
  · trivial
  · exact EventProgram.onlyAsks_bind (onlyAsks_deposit view _) fun _ => onlyAsks_deposit view _

/-- The types of a chain with another source. -/
private def sourced : List (ModuleType HitCounts Unit) :=
  { name := "Source"
    scope := .perDetector
    concurrent := true
    construct := fun _ => return Module.blueprint ⟨.empty, depositAll, fun _ => pure ()⟩ } ::
      chainModules

private def oneSensor : List Geometry.Operation :=
  [.addModel ⟨"alpide", 8, 8, .replicate 2 0.03, 0.05, .monolithic⟩,
    .addDetector "dut" "alpide" (.replicate 3 0) (.replicate 3 0)]

private def countingRun : RunConfig :=
  ⟨((Section.new globalName none).set "random_seed" "7").set "number_of_events" "3",
    [.new "Source" none, .new "ThresholdDigitizer" none, .new "HitCounter" none]⟩

private def prepared : Except SetupError (Simulation HitCounts Unit) :=
  ((prepare (Registry.empty.addAll sourced).1 countingRun
    ((some oneSensor).map Geometry.empty.after) 1).resultFrom (.start .empty)
      FileTree.answers ⟨[]⟩).1

private def counted : Simulation HitCounts Unit :=
  match prepared with
  | .ok s => s
  | .error _ => ⟨[], .empty, .empty, .new "" none, ⟨0, 0, 0, false⟩, 0⟩

/-- One worker comes to the same counts as two that take turns. The digitizer has nothing to do in
the second event, and the latest of two deposits counts in the third. -/
theorem two_charges_reach_the_threshold :
    prepared = .ok counted ∧
      ∃ counter ∈ counted.modules, counter.identifier.name = "HitCounter" ∧
        counted.plan.reaching counter.id = [0, 1, 2] ∧
        ∃ counts : HitCounts,
          (∀ run ∈ [(1, List.replicate 44 0), (2, (List.replicate 44 [0, 1]).flatten)],
            let m := (Machine.start counted.plan run.1).follow counted.plan run.2
            m.isOver = true ∧ m.hasFault = false ∧
              m.commons.memories[counter.id]? = some counts) ∧
          counts.hits.find? "dut" = some 2 ∧ counts.eventsWithHits = 1 ∧
          ∃ i ∈ counted.modules, ∃ d : ThresholdDigitizer, i.body = d.toModule ∧
            counted.plan.chargesAbove counter.id d.threshold i.id = 2 := by
  have made : prepared = .ok counted := rfl
  have registered (type : ModuleType HitCounts Unit) (member : type ∈ chainModules) :
      type ∈ (Registry.empty.addAll sourced).1.types := List.mem_cons_of_mem _ member
  have modules : counted.modules.map (fun i =>
      (i.id, i.identifier.name, i.detectors.map (·.name))) =
        [(0, "Source", ["dut"]), (1, "ThresholdDigitizer", ["dut"]), (2, "HitCounter", [])] := rfl
  have source : counted.modules.head?.map (·.body.run) = some depositAll := rfl
  obtain ⟨first, rest, split, _, others⟩ := List.map_eq_cons_iff.mp modules
  obtain ⟨i, _, rfl, digitizer, others⟩ := List.map_eq_cons_iff.mp others
  obtain ⟨counter, _, rfl, last, others⟩ := List.map_eq_cons_iff.mp others
  cases List.map_eq_nil_iff.mp others
  simp only [Prod.mk.injEq] at digitizer last
  obtain ⟨one, digitizes, bound⟩ := digitizer
  obtain ⟨two, counting, _⟩ := last
  have plain (j : ReadyModule HitCounts Unit) (member : j ∈ counted.modules) (other : ¬j.OfChain)
      (view : EventView) : (j.body.run view).run.OnlyAsks EventQuestion.isPlain := by
    rw [split] at member
    rcases List.mem_cons.mp member with rfl | later
    · rw [split, List.head?_cons, Option.map_some, Option.some.injEq] at source
      rw [source]
      exact onlyAsks_depositAll view
    · refine absurd ?_ other
      rcases List.mem_pair.mp later with rfl | rfl
      · simp [ReadyModule.OfChain, digitizes, chainModules, ThresholdDigitizer.moduleType]
      · simp [ReadyModule.OfChain, counting, chainModules, HitCounter.moduleType]
  have member : counter ∈ counted.modules := by simp [split]
  have listed : i ∈ counted.modules := by simp [split]
  have totals := hit_totals_independent_of_schedule sourced registered countingRun
    (some oneSensor) 1 .empty FileTree.answers ⟨[]⟩ made
    (fun j present other view => ((plain j present other view).mono fun _ => And.left).ignores)
    member counting
  rw [two] at totals
  obtain ⟨counts, remembered, _, events, thresholds⟩ := totals
  have ended : [(1, List.replicate 44 0), (2, (List.replicate 44 [0, 1]).flatten)].all (fun run =>
      let m := (Machine.start counted.plan run.1).follow counted.plan run.2
      m.isOver && !m.hasFault) = true := by decide +kernel
  have agree (run : Nat × List Nat)
      (among : run ∈ [(1, List.replicate 44 0), (2, (List.replicate 44 [0, 1]).flatten)]) :
      let m := (Machine.start counted.plan run.1).follow counted.plan run.2
      m.isOver = true ∧ m.hasFault = false ∧ m.commons.memories[2]? = some counts := by
    have workers : 0 < run.1 ∧ counted.plan.events.toNat + run.1 ≤ 2 ^ 64 := by
      rcases List.mem_pair.mp among with rfl | rfl <;> decide +kernel
    obtain ⟨atEnd, faultless⟩ := Bool.and_eq_true_iff.mp (List.all_eq_true.mp ended run among)
    rw [Bool.not_eq_true'] at faultless
    exact ⟨atEnd, faultless, (remembered _ _ workers.1 workers.2 atEnd faultless).1⟩
  have seen : (((Machine.start counted.plan 1).follow counted.plan
      (List.replicate 44 0)).commons.memories[2]?).map
        (fun c => (c.hits.find? "dut", c.eventsWithHits)) = some (some 2, 1) := by decide +kernel
  have first := agree (1, List.replicate 44 0) (List.mem_cons_self ..)
  dsimp only at first
  rw [first.2.2, Option.map_some, Option.some.injEq, Prod.mk.injEq] at seen
  obtain ⟨d, body, bounded, sums⟩ := thresholds
    (fun j present other view => (plain j present other view).mono fun _ => And.right) i listed
    digitizes
  have named : d.detector.name = "dut" := by simpa [bounded] using bound
  have few : ((counted.plan.reaching 2).map fun index => (counted.plan.depositOf 1 index).elim 0
      fun m => (Deposits.charges m.payload).length).sum = 4 := by decide +kernel
  have reached : counted.plan.reaching 2 = [0, 1, 2] := by decide +kernel
  refine ⟨made, counter, member, counting, ?_⟩
  rw [two]
  refine ⟨reached, counts, agree, seen.1, seen.2, i, listed, d, body, ?_⟩
  have before : i.id < 2 := by rw [one]; decide
  have total := (sums before).2 (Nat.lt_of_le_of_lt ?_ (by decide : 4 < 2 ^ 64))
  · rw [named, seen.1] at total
    exact total.symm
  · rw [← few, one, RunPlan.chargesAbove]
    refine List.sum_le_sum fun index _ => ?_
    cases counted.plan.depositOf 1 index with
    | none => exact Nat.le_refl 0
    | some m => exact List.countP_le_length

end Simulation

end DetectorSim
