import DetectorSim.Proofs.Chain.Depositors
import DetectorSim.Proofs.Chain.Messages
import DetectorSim.Proofs.Geometry.Models
import DetectorSim.Proofs.Random.Ranges
import DetectorSim.Proofs.Run.Logs

/-! Pixels stay inside of their matrix. The models of a configured setup have pixels along both axes,
so a depositor never draws from an empty range and deposits nothing outside; what a digitizer passes
on was deposited. -/

namespace DetectorSim

open Config
open Interaction (Exchange)
open SubscriptionTable (ofList)

variable {σ ω : Type}

/-- A pixel lies in the matrix of a model. -/
def DetectorModel.Holds (m : DetectorModel) (c : PixelCharge) : Prop :=
  c.column < m.columns ∧ c.row < m.rows

/-- The pixels that a payload lists. -/
def Topic.pixels : (t : Topic) → t.Payload → List PixelCharge
  | .deposits, payload =>
    let deposits : Deposits := payload
    deposits.charges
  | .hits, payload =>
    let hits : Hits := payload
    hits.pixels
  | .custom _, _ => []

namespace EventQuestion

/-- An answer keeps to its question: a range that is not empty yields a number of it, and a message is
made of the payload and for the detector that were given. -/
def Keeps : (q : EventQuestion σ ω) → q.Answer → Prop
  | .draw (.between low high), answer =>
    let drawn : Option UInt32 := answer
    low < high → ∃ n, drawn = some n ∧ low ≤ n ∧ n < high
  | .make topic payload detector, answer =>
    let message : Message topic := answer
    message.payload = payload ∧ message.detector = detector
  | _, _ => True

/-- A question stays inside of a detector: a range that is drawn from is not empty, and a message that
is dispatched is one of this topic for the detector, with pixels of its matrix. -/
def StaysInside (t : Topic) (d : Detector) : EventQuestion σ ω → Prop
  | .draw (.between low high) => low < high
  | .dispatch topic message =>
    topic = t ∧ message.detector = some d ∧ ∀ c ∈ topic.pixels message.payload, d.model.Holds c
  | _ => True

theorem keeps_reply (table : SubscriptionTable ω) (geometry : Geometry) (memory : σ)
    (view : EventView) (q : EventQuestion σ ω) (e : EventState ω) :
    q.Keeps (e.reply table geometry memory view q).1 := by
  cases q with
  | draw drawing =>
    cases drawing with
    | between low high => exact fun nonempty => e.engine.between_some nonempty
    | _ => trivial
  | make topic payload detector => exact ⟨rfl, rfl⟩
  | _ => trivial

end EventQuestion

namespace EventProgram

variable {α : Type} {allowed : EventQuestion σ ω → Prop}

theorem onlyAsksGiven_below {bound : UInt32} {f : UInt32 → EventProgram σ ω α}
    (permitted : allowed (.draw (.between 0 bound))) (positive : 0 < bound)
    (rest : ∀ n, n < bound → (f n).run.OnlyAsksGiven EventQuestion.Keeps allowed) :
    (below bound >>= f).run.OnlyAsksGiven EventQuestion.Keeps allowed := by
  rw [below, bind_assoc]
  refine onlyAsksGiven_ask permitted fun (drawn : Option UInt32) kept => ?_
  obtain ⟨n, same, _, within⟩ := kept positive
  subst same
  exact rest n within

end EventProgram

namespace ChargeDepositor

variable {d : ChargeDepositor}

theorem onlyAsksGiven_drawCharge {α : Type} {f : PixelCharge → EventProgram HitCounts ω α}
    (matrix : 0 < d.detector.model.columns ∧ 0 < d.detector.model.rows)
    (rest : ∀ c, d.detector.model.Holds c → (f c).run.OnlyAsksGiven EventQuestion.Keeps
      (EventQuestion.StaysInside .deposits d.detector)) :
    (d.drawCharge >>= f).run.OnlyAsksGiven EventQuestion.Keeps
      (EventQuestion.StaysInside .deposits d.detector) := by
  rw [drawCharge, bind_assoc]
  refine EventProgram.onlyAsksGiven_below matrix.1 matrix.1 fun column first => ?_
  rw [bind_assoc]
  refine EventProgram.onlyAsksGiven_below matrix.2 matrix.2 fun row second => ?_
  exact ⟨trivial, fun charge _ => rest _ ⟨first, second⟩⟩

theorem onlyAsksGiven_drawCharges {α : Type} {f : List PixelCharge → EventProgram HitCounts ω α}
    (matrix : 0 < d.detector.model.columns ∧ 0 < d.detector.model.rows)
    (rest : ∀ charges, (∀ c ∈ charges, d.detector.model.Holds c) →
      (f charges).run.OnlyAsksGiven EventQuestion.Keeps
        (EventQuestion.StaysInside .deposits d.detector))
    (number : Nat) {drawn : List PixelCharge} (inside : ∀ c ∈ drawn, d.detector.model.Holds c) :
    (d.drawCharges number drawn >>= f).run.OnlyAsksGiven EventQuestion.Keeps
      (EventQuestion.StaysInside .deposits d.detector) := by
  induction number generalizing drawn with
  | zero =>
    rw [drawCharges, pure_bind]
    exact rest _ fun c member => inside c (List.mem_reverse.mp member)
  | succ more ih =>
    rw [drawCharges, bind_assoc]
    refine onlyAsksGiven_drawCharge matrix fun c holds => ?_
    exact ih (List.forall_mem_cons.mpr ⟨holds, inside⟩)

theorem staysInside_run (matrix : 0 < d.detector.model.columns ∧ 0 < d.detector.model.rows) :
    (d.run : EventProgram HitCounts ω Unit).run.OnlyAsksGiven EventQuestion.Keeps
      (EventQuestion.StaysInside .deposits d.detector) := by
  refine d.onlyAsksGiven_of_deposits trivial fun _ => ?_
  refine onlyAsksGiven_drawCharges matrix (fun charges inside => ?_) _ (List.forall_mem_nil _)
  refine EventProgram.onlyAsksGiven_ask trivial fun (message : Message .deposits) made => ?_
  obtain ⟨payload, detector⟩ := made
  refine EventProgram.onlyAsksGiven_ask ⟨rfl, detector, ?_⟩ fun _ _ => trivial
  rw [payload]
  exact inside

end ChargeDepositor

namespace ThresholdDigitizer

/-- An answer keeps to its question, and a deposit that is fetched lies in the matrix of a model. -/
def Receives (m : DetectorModel) : (q : EventQuestion σ ω) → q.Answer → Prop
  | .fetch .deposits, answer =>
    let answer : Except MessageError (Message .deposits) := answer
    ∀ deposits, answer = .ok deposits → ∀ c ∈ deposits.payload.charges, m.Holds c
  | q, answer => q.Keeps answer

theorem staysInside_run (d : ThresholdDigitizer) (view : EventView) :
    (d.run view : EventProgram HitCounts ω Unit).run.OnlyAsksGiven (Receives d.detector.model)
      (EventQuestion.StaysInside .hits d.detector) := by
  refine d.onlyAsksGiven_of_hits view trivial fun deposits received => ⟨trivial, ?_⟩
  rintro message ⟨payload, detector⟩
  refine ⟨rfl, detector, ?_⟩
  rw [payload]
  exact fun c member => received deposits rfl c (List.mem_filter.mp member).1

theorem onlyAsks_hits (d : ThresholdDigitizer) (view : EventView) :
    (d.run view : EventProgram HitCounts ω Unit).run.OnlyAsks fun q =>
      ¬EventQuestion.dispatches .deposits q :=
  Interaction.onlyAsks_iff_given.mpr <|
    d.onlyAsksGiven_of_hits view id fun _ _ => ⟨id, fun _ _ => Topic.noConfusion⟩

end ThresholdDigitizer

theorem Passage.exists_of_dispatch {x : Exchange (passageInterface σ ω)} {dispatched : Dispatch}
    {t : Topic} {m : Message t} (same : Passage.dispatch? x = some dispatched)
    (read : dispatched.message.as? t = some m) :
    ∃ (view : EventView) (count : Nat), x = ⟨.inside view (.dispatch t m), count⟩ := by
  obtain ⟨question, answer⟩ := x
  cases question with
  | enter event asked => cases same
  | inside view q =>
    cases q with
    | dispatch topic message =>
      cases same
      obtain ⟨same, read⟩ := Option.dite_none_right_eq_some.mp read
      cases same
      cases read
      exact ⟨view, answer, rfl⟩
    | _ => cases same

section Runs

variable {plan : RunPlan HitCounts ω} {workers : Nat} {schedule : List Nat}

/-- In every run, what a module is answered keeps to its questions. -/
theorem Machine.own_keeps (module : ModuleId) :
    ∀ x ∈ ((Machine.start plan workers).exchanges plan schedule).filterMap (Passage.own? module),
      x.question.Keeps x.answer := by
  intro x own
  obtain ⟨view, _, made⟩ := Passage.mem_own_iff.mp own
  obtain ⟨_, _, _, state, c, _, reply, _⟩ := exists_event_of_exchange made
  exact (congrArg x.question.Keeps reply).mpr (EventQuestion.keeps_reply ..)

theorem ChargeDepositor.staysInside_own (numbers : (plan.modules.map (·.id)).Nodup)
    {i : ReadyModule HitCounts ω} (member : i ∈ plan.modules) {d : ChargeDepositor}
    (body : i.body = d.toModule)
    (matrix : 0 < d.detector.model.columns ∧ 0 < d.detector.model.rows) :
    ∀ x ∈ ((Machine.start plan workers).exchanges plan schedule).filterMap (Passage.own? i.id),
      x.question.StaysInside .deposits d.detector :=
  Machine.own_allowed numbers member (fun _ => body ▸ staysInside_run matrix)
    (Machine.own_keeps i.id)

/-- A deposit that a digitizer fetches in a run was dispatched in the run for its detector, by a
module before it or by itself. -/
theorem ReadyModule.Digitizes.exists_dispatch {subscriptions : List (Subscription ω)}
    {i : ReadyModule HitCounts ω} {d : ThresholdDigitizer}
    (digitizes : i.Digitizes d subscriptions) (table : plan.table = ofList subscriptions)
    (increasing : plan.modules.Pairwise (·.id < ·.id)) {m : Message .deposits}
    (fetched : ⟨.fetch .deposits, Except.ok m⟩ ∈
      ((Machine.start plan workers).exchanges plan schedule).filterMap (Passage.own? i.id)) :
    ∃ (view : EventView) (count : Nat),
      ⟨.inside view (.dispatch .deposits m), count⟩ ∈
        (Machine.start plan workers).exchanges plan schedule ∧
      view.module ≤ i.id ∧ m.detectorName = some d.detector.name := by
  obtain ⟨view, mine, made⟩ := Passage.mem_own_iff.mp fetched
  obtain ⟨index, told, next, state, c, tells, reply, within⟩ := Machine.exists_event_of_exchange made
  have found : state.buffer.fetch plan.table .deposits view.module = .ok m := reply.symm
  rw [tells.passes.buffer_dispatchAll, table, mine, digitizes.fetch_eq] at found
  generalize last : List.getLast? _ = latest at found
  cases latest with
  | none => cases found
  | some other =>
    cases found
    obtain ⟨present, addressed⟩ := List.mem_filter.mp (List.mem_of_getLast? last)
    obtain ⟨dispatched, listed, same⟩ := List.mem_filterMap.mp present
    obtain ⟨x, exchanged, same'⟩ := List.mem_filterMap.mp listed
    obtain ⟨view', count, rfl⟩ := Passage.exists_of_dispatch same' same
    have below := (Passage.isAbout_le_of_inside increasing tells.reaches).2 _ exchanged
    exact ⟨view', count, within _ exchanged, mine ▸ below, beq_iff_eq.mp addressed⟩

end Runs

namespace Simulation

/-- A simulation is set up on matrices that have pixels: its depositors and digitizers run as their
parameters say, for detectors of the setup, and modules stand in order. -/
structure HasMatrices (s : Simulation HitCounts ω) (subscriptions : List (Subscription ω)) :
    Prop where
  table : s.table = ofList subscriptions
  ids : s.modules.map (·.id) = List.range s.modules.length
  names : (s.geometry.detectors.map Detector.name).Nodup
  matrices : ∀ d ∈ s.geometry.detectors, 0 < d.model.columns ∧ 0 < d.model.rows
  depositors : ∀ i ∈ s.modules, i.identifier.name = "ChargeDepositor" →
    ∃ d : ChargeDepositor, i.body = d.toModule ∧ i.detectors.head? = some d.detector ∧
      d.detector ∈ s.geometry.detectors
  digitizers : ∀ i ∈ s.modules, i.identifier.name = "ThresholdDigitizer" →
    ∃ d, i.Digitizes d subscriptions ∧ d.detector ∈ s.geometry.detectors

theorem exists_hasMatrices {τ : Type} {registry : Registry HitCounts ω}
    (distinct : (registry.types.map (·.name)).Nodup)
    (depositing : ChargeDepositor.moduleType ∈ registry.types)
    (digitizing : ThresholdDigitizer.moduleType ∈ registry.types) {config : RunConfig}
    {given : Option Geometry} (configured : ∀ g ∈ given, g.IsConfigured) {processors : Nat}
    {geometry : Geometry} {answers : Interaction.Answers fileInterface τ} {files : τ}
    {s : Simulation HitCounts ω}
    (prepared : ((prepare registry config given processors).resultFrom (.start geometry) answers
      files).1 = .ok s) : ∃ subscriptions, s.HasMatrices subscriptions := by
  have leads := (prepare_leads registry config given processors (.start geometry)).and
    (prepare_sets_up registry config given processors (.start geometry))
  obtain ⟨ready, g, inquiries, origin, setUp⟩ := leads.ok prepared
  have described : g.IsConfigured := by
    cases given with
    | none => exact origin
    | some given => exact origin ▸ configured given rfl
  have coherent : s.geometry.Coherent := by
    obtain ⟨history, _, rfl⟩ := described.grows
    rw [setUp.geometry]
    exact ((Geometry.Coherent.after_empty history).after _).freeze
  obtain ⟨subscriptions, table, inquiry⟩ := setUp.exists_subscriptions ready.ids
  refine ⟨subscriptions, table, ready.ids, coherent.nodup_names, fun d member => ?_, ?_, ?_⟩
  · rw [setUp.detectors] at member
    obtain ⟨columns, rows⟩ := described.matrix_pos member
    exact ⟨UInt32.lt_iff_toNat_lt.mpr columns, UInt32.lt_iff_toNat_lt.mpr rows⟩
  · intro i member name
    obtain ⟨_, asked, _⟩ := inquiry i member
    obtain ⟨d, body, first⟩ := ChargeDepositor.ofSetUp asked distinct depositing name
    exact ⟨d, body, first, ready.mem_detectors coherent member (List.mem_of_head? first)⟩
  · intro i member name
    obtain ⟨_, asked, own⟩ := inquiry i member
    obtain ⟨d, digitizes⟩ :=
      ready.digitizes coherent distinct digitizing member name asked own
    refine ⟨d, digitizes, ready.mem_detectors coherent member ?_⟩
    rw [digitizes.detectors]
    exact List.mem_singleton_self _

/-- In these exchanges, the deposits for a detector that are dispatched before a module all come from
depositors. -/
def FedByDepositors (s : Simulation HitCounts ω)
    (exchanges : List (Exchange (passageInterface HitCounts ω))) (module : ModuleId)
    (name : String) : Prop :=
  ∀ (view : EventView) (m : Message .deposits) (count : Nat),
    ⟨.inside view (.dispatch .deposits m), count⟩ ∈ exchanges → view.module < module →
      m.detectorName = some name →
        ∃ j ∈ s.modules, j.id = view.module ∧ j.identifier.name = "ChargeDepositor"

namespace HasMatrices

variable {s : Simulation HitCounts ω} {subscriptions : List (Subscription ω)} {workers : Nat}
  {schedule : List Nat} {i : ReadyModule HitCounts ω}

theorem numbers (on : s.HasMatrices subscriptions) : (s.plan.modules.map (·.id)).Nodup :=
  on.ids ▸ List.nodup_range

/-- A deposit of a depositor is for a detector of the setup and lies in its matrix. -/
theorem deposit_inside (on : s.HasMatrices subscriptions) (member : i ∈ s.modules)
    (name : i.identifier.name = "ChargeDepositor") {view : EventView} {m : Message .deposits}
    {count : Nat} (own : view.module = i.id)
    (dispatched : ⟨.inside view (.dispatch .deposits m), count⟩ ∈
      (Machine.start s.plan workers).exchanges s.plan schedule) :
    ∃ d ∈ s.geometry.detectors, m.detector = some d ∧
      ∀ c ∈ m.payload.charges, d.model.Holds c := by
  obtain ⟨d, body, _, known⟩ := on.depositors i member name
  have stays := ChargeDepositor.staysInside_own on.numbers member body
    (on.matrices _ known) ⟨.dispatch .deposits m, count⟩
    (Passage.mem_own_iff.mpr ⟨view, own, dispatched⟩)
  exact ⟨d.detector, known, stays.2⟩

/-- A digitizer that is fed by depositors receives what lies in its matrix. -/
theorem digitizer_receives (on : s.HasMatrices subscriptions) (member : i ∈ s.modules)
    {d : ThresholdDigitizer} (digitizes : i.Digitizes d subscriptions)
    (known : d.detector ∈ s.geometry.detectors)
    (fed : s.FedByDepositors ((Machine.start s.plan workers).exchanges s.plan schedule) i.id
      d.detector.name) :
    ∀ x ∈ ((Machine.start s.plan workers).exchanges s.plan schedule).filterMap
      (Passage.own? i.id), ThresholdDigitizer.Receives d.detector.model x.question x.answer := by
  rintro ⟨question, answer⟩ own
  have keeps := Machine.own_keeps i.id _ own
  cases question with
  | fetch topic =>
    cases topic with
    | deposits =>
      rintro deposits rfl
      have increasing : s.plan.modules.Pairwise (·.id < ·.id) :=
        List.pairwise_map.mp (on.ids ▸ List.pairwise_lt_range)
      obtain ⟨view, count, dispatched, order, addressed⟩ :=
        digitizes.exists_dispatch on.table increasing own
      have silent (index : UInt64) : (i.body.run (i.eventView index)).run.OnlyAsksGiven
          EventQuestion.Keeps fun q => ¬EventQuestion.dispatches .deposits q := by
        rw [digitizes.body]
        exact (d.onlyAsks_hits (i.eventView index)).given
      have others : view.module ≠ i.id := fun mine =>
        Machine.own_allowed on.numbers member silent (Machine.own_keeps i.id)
          ⟨.dispatch .deposits deposits, count⟩
          (Passage.mem_own_iff.mpr ⟨view, mine, dispatched⟩) rfl
      obtain ⟨j, listed, same, name⟩ :=
        fed view deposits count dispatched (Nat.lt_of_le_of_ne order others) addressed
      obtain ⟨e, present, made, inside⟩ := on.deposit_inside listed name same.symm dispatched
      have named : e.name = d.detector.name := by
        rw [Message.detectorName, made] at addressed
        exact Option.some.inj addressed
      cases List.inj_on_of_nodup_map on.names present known named
      exact inside
    | _ => trivial
  | _ => exact keeps

end HasMatrices

/-- Configured matrices hold all pixels. Whatever sections a setup is read from, each of its detectors
has pixels along both axes, and their number is exact. In every run of a simulation that is prepared
on such a setup, a depositor stays inside of its detector: no range that it draws from is empty, so
each draw yields a number of the range, and what it dispatches are deposits for the detector with
pixels of its matrix. A digitizer that is fed by depositors dispatches hits for its detector, with
pixels of its matrix as well. -/
theorem configured_matrices_hold_all_pixels :
    (∀ models detectors g, Geometry.ofSections models detectors = .ok g → ∀ d ∈ g.detectors,
      1 ≤ d.model.columns.toNat ∧ 1 ≤ d.model.rows.toNat ∧
        d.model.pixelCount.toNat = d.model.columns.toNat * d.model.rows.toNat) ∧
    ∀ {τ : Type} (types : List (ModuleType HitCounts ω)),
      ChargeDepositor.moduleType ∈ (Registry.empty.addAll types).1.types →
      ThresholdDigitizer.moduleType ∈ (Registry.empty.addAll types).1.types →
      ∀ (config : RunConfig) (given : Option Geometry), (∀ g ∈ given, g.IsConfigured) →
      ∀ (processors : Nat) (geometry : Geometry) (answers : Interaction.Answers fileInterface τ)
        (files : τ) (s : Simulation HitCounts ω),
      ((prepare (Registry.empty.addAll types).1 config given processors).resultFrom
        (.start geometry) answers files).1 = .ok s →
      (∃ schedule, s.run = s.conclude ((Machine.start s.plan s.workers).follow s.plan schedule)) ∧
      ∀ workers schedule,
        let exchanges := (Machine.start s.plan workers).exchanges s.plan schedule
        (∀ i ∈ s.modules, i.identifier.name = "ChargeDepositor" →
          ∃ d : ChargeDepositor, i.body = d.toModule ∧ i.detectors.head? = some d.detector ∧
            d.detector ∈ s.geometry.detectors ∧
            ∀ x ∈ exchanges.filterMap (Passage.own? i.id),
              x.question.StaysInside .deposits d.detector ∧ x.question.Keeps x.answer) ∧
        ∀ i ∈ s.modules, i.identifier.name = "ThresholdDigitizer" →
          ∃ d : ThresholdDigitizer, i.body = d.toModule ∧ i.detectors = [d.detector] ∧
            d.detector ∈ s.geometry.detectors ∧
            (s.FedByDepositors exchanges i.id d.detector.name →
              ∀ x ∈ exchanges.filterMap (Passage.own? i.id),
                x.question.StaysInside .hits d.detector) := by
  constructor
  · intro models detectors g made d member
    obtain ⟨columns, rows⟩ := Geometry.IsConfigured.matrix_pos ⟨models, detectors, made⟩ member
    exact ⟨columns, rows, d.model.toNat_pixelCount⟩
  intro τ types depositing digitizing config given configured processors geometry answers files s
    prepared
  have distinct : ((Registry.empty.addAll types).1.types.map (·.name)).Nodup :=
    Registry.nodup_addAll types .nil
  obtain ⟨subscriptions, on⟩ :=
    exists_hasMatrices distinct depositing digitizing configured prepared
  constructor
  · obtain ⟨schedule, same, _⟩ := Machine.exists_complete s.plan s.workers
    exact ⟨schedule, congrArg s.conclude same⟩
  intro workers schedule exchanges
  constructor
  · intro i member name
    obtain ⟨d, body, first, known⟩ := on.depositors i member name
    have stays : ∀ x ∈ exchanges.filterMap (Passage.own? i.id),
        x.question.StaysInside .deposits d.detector :=
      ChargeDepositor.staysInside_own on.numbers member body (on.matrices _ known)
    exact ⟨d, body, first, known, fun x own => ⟨stays x own, Machine.own_keeps i.id x own⟩⟩
  · intro i member name
    obtain ⟨d, digitizes, known⟩ := on.digitizers i member name
    refine ⟨d, digitizes.body, digitizes.detectors, known, fun fed => ?_⟩
    exact Machine.own_allowed on.numbers member
      (fun index => digitizes.body ▸ d.staysInside_run (i.eventView index))
      (on.digitizer_receives member digitizes known fed)

private def smallMatrix : Section :=
  ((((Section.new "wafer" none).set "assembly" "monolithic").set "number_of_pixels" "2, 3").set
    "pixel_size" "1, 1").set "sensor_thickness" "0.3"

private def readSetup : Except GeometryError Geometry :=
  Geometry.ofSections [smallMatrix] [(Section.new "dut" none).set "type" "wafer"]

private def smallSetup : Geometry :=
  match readSetup with
  | .ok g => g
  | .error _ => .empty

/-- A depositor and a digitizer for a detector of six pixels. -/
private def sampling : RunConfig where
  globals := ((Section.new globalName none).set "random_seed" "7").set "number_of_events" "1"
  modules := [(Section.new "ChargeDepositor" none).set "pixels_per_event" "2",
    (Section.new "ThresholdDigitizer" none).set "threshold" "0"]

private def preparedSampling : Except SetupError (Simulation HitCounts Unit) :=
  ((prepare (Registry.empty.addAll chainModules).1 sampling (some smallSetup) 1).resultFrom
    (.start .empty) FileTree.answers ⟨[]⟩).1

private def sampled : Simulation HitCounts Unit :=
  match preparedSampling with
  | .ok s => s
  | .error _ => ⟨[], .empty, .empty, .new "" none, ⟨0, 0, 0, false⟩, 0⟩

/-- Two charges are deposited in a matrix of two columns and three rows, and digitized. -/
theorem six_pixels_hold_two_charges :
    readSetup = .ok smallSetup ∧ preparedSampling = .ok sampled ∧
      ∃ depositor ∈ sampled.modules, ∃ digitizer ∈ sampled.modules,
        let exchanges := (Machine.start sampled.plan 1).exchanges sampled.plan
          (List.replicate 18 0)
        let deposits := exchanges.filterMap (Passage.own? depositor.id)
        let hits := exchanges.filterMap (Passage.own? digitizer.id)
        deposits.length = 9 ∧ hits.length = 3 ∧
        ∃ d : Detector, (d.model.columns, d.model.rows) = (2, 3) ∧
          (∀ x ∈ deposits, x.question.StaysInside .deposits d ∧ x.question.Keeps x.answer) ∧
          ∀ x ∈ hits, x.question.StaysInside .hits d := by
  have read : readSetup = .ok smallSetup := by
    have fine : readSetup.map (fun _ => ()) = .ok () := by decide +kernel
    obtain ⟨g, accepted, _⟩ := ok_of_map fine
    rw [smallSetup, accepted]
  have made : preparedSampling = .ok sampled := by
    have fine : preparedSampling.map (fun _ => ()) = .ok () := by decide +kernel
    obtain ⟨s, accepted, _⟩ := ok_of_map fine
    rw [sampled, accepted]
  have modules : sampled.modules.map (fun i => (i.id, i.identifier.name)) =
      [(0, "ChargeDepositor"), (1, "ThresholdDigitizer")] := by decide +kernel
  obtain ⟨depositor, rest, split, first, others⟩ := List.map_eq_cons_iff.mp modules
  obtain ⟨digitizer, rest, rfl, second, none⟩ := List.map_eq_cons_iff.mp others
  cases List.map_eq_nil_iff.mp none
  simp only [Prod.mk.injEq] at first second
  have here : depositor ∈ sampled.modules := by simp [split]
  have there : digitizer ∈ sampled.modules := by simp [split]
  have configured : ∀ g ∈ some smallSetup, g.IsConfigured := by
    rintro g ⟨⟩
    exact ⟨_, _, read⟩
  obtain ⟨_, runs⟩ := configured_matrices_hold_all_pixels.2 chainModules (List.mem_cons_self ..)
    (List.mem_cons_of_mem _ (List.mem_cons_self ..)) sampling (some smallSetup) configured 1 .empty
    FileTree.answers ⟨[]⟩ sampled made
  obtain ⟨depositors, digitizers⟩ := runs 1 (List.replicate 18 0)
  obtain ⟨d, _, _, known, inside⟩ := depositors depositor here first.2
  obtain ⟨e, _, _, present, passesOn⟩ := digitizers digitizer there second.2
  have matrices : sampled.geometry.detectors.map (fun d => (d.model.columns, d.model.rows)) =
      [(2, 3)] := by decide +kernel
  obtain ⟨only, _, alone, matrix, none⟩ := List.map_eq_cons_iff.mp matrices
  cases List.map_eq_nil_iff.mp none
  rw [alone] at known present
  have fed : sampled.FedByDepositors ((Machine.start sampled.plan 1).exchanges sampled.plan
      (List.replicate 18 0)) digitizer.id e.detector.name := by
    intro view _ _ _ before _
    rw [second.1] at before
    exact ⟨depositor, here, first.1.trans (Nat.lt_one_iff.mp before).symm, first.2⟩
  rw [List.mem_singleton.mp known] at inside
  rw [List.mem_singleton.mp present] at fed passesOn
  refine ⟨read, made, depositor, here, digitizer, there, ?_, ?_, only, matrix, inside,
    passesOn fed⟩
  · rw [first.1]
    decide +kernel
  · rw [second.1]
    decide +kernel

end Simulation

end DetectorSim
