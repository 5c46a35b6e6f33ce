import DetectorSim.Files.Tree
import DetectorSim.Proofs.Chain.Assembly
import DetectorSim.Proofs.Geometry.Attachments

/-! Attached objects of a simulation. They are set while the modules are constructed and
initialized; then the setup is frozen, and all events read the same. -/

namespace DetectorSim

open Config

variable {σ ω : Type}

namespace Machine

variable [Inhabited σ]

/-- A use of attached objects in an event is answered from the setup of the run, and nothing else
happens. -/
theorem step_object {plan : RunPlan σ ω} {m : Machine σ ω} {id : Nat} {buffer : EventBuffer}
    {index : UInt64} {view : EventView} {q : ObjectQuestion} {state : EventState ω}
    {next : q.Answer → Passage σ ω EventOutcome}
    (found : m.workers[id]? =
      some ⟨buffer, .working index (.ask (.inside view (.object q)) next) state⟩) :
    m.step plan id = m.put id ⟨buffer, .working index (next (plan.geometry.use q).1) state⟩ := by
  simp only [step, found]
  rfl

end Machine

namespace Simulation

open Machine

/-- Attached objects are a store that the last attachment wins, until it is frozen. Take a detector
that was in the setup at any time, and whatever was done to the setup before and after, through this
detector or another way to it. Its name still leads to it, and the answers about a key show the last
object that was attached there and nothing else; attaching succeeds just if nothing froze the setup,
and does not show anywhere else. Nothing changes a setup that was frozen. The setup of a simulation
is frozen behind all that its modules asked for while they were constructed and initialized, so that
every event of every run reads what was attached last by then. -/
theorem objects_frozen_behind_setup [Inhabited σ] {τ : Type} (registry : Registry σ ω)
    (config : RunConfig) (given : Option (List Geometry.Operation)) (processors : Nat)
    (geometry : Geometry) (answers : Interaction.Answers fileInterface τ) (files : τ) :
    (∀ earlier later : List Geometry.Operation, ∀ d ∈ (Geometry.empty.after earlier).detectors,
      let history := earlier ++ later
      let g := Geometry.empty.after history
      let frozen := history.any (·.freezes)
      g.detector d.name = .ok d ∧
        (∀ key, g.Reveals d key (Geometry.empty.putOver history d key).getLast?) ∧
        (∀ key object, (g.use (.attach d key object)).1 =
          if frozen then Except.error (.objectsSealed d.name key) else Except.ok ()) ∧
        (∀ key object, ∀ e ∈ g.detectors, ∀ under, (d.name, key) ≠ (e.name, under) →
          let h := (g.use (.attach d key object)).2
          (∀ kind, h.attached e under kind = g.attached e under kind) ∧
            h.hasAttached e under = g.hasAttached e under) ∧
        (frozen = true → ∀ operation, g.perform operation = g)) ∧
    ∀ s, ((prepare registry config (given.map Geometry.empty.after) processors).resultFrom
        (.start geometry) answers files).1 = .ok s →
      ∃ base inquiries,
        let asked := Inquiry.all inquiries
        let setup := base ++ asked.filterMap Asked.use?
        (∀ history ∈ given, base = history) ∧
        (given = none → ∀ operation ∈ base, operation.adds = true) ∧
        List.Forall₂ (Instance.SetUp registry) s.modules inquiries ∧
        (Geometry.empty.after base).Answered asked ∧
        s.geometry = (Geometry.empty.after setup).freeze ∧
        s.geometry.detectors = (Geometry.empty.after base).detectors ∧
        (∀ i ∈ s.modules, ∀ d ∈ i.detectors, d ∈ s.geometry.detectors) ∧
        (∀ d ∈ s.geometry.detectors, ∀ key,
          s.geometry.Reveals d key (Geometry.empty.putOver setup d key).getLast? ∧
          ∀ object, (s.geometry.use (.attach d key object)).1 =
            Except.error (.objectsSealed d.name key)) ∧
        (∀ operation, s.geometry.perform operation = s.geometry) ∧
        ∀ workers schedule,
          let m := (start s.plan workers).follow s.plan schedule
          ∀ id buffer index view q state (next : q.Answer → Passage σ ω EventOutcome),
            m.workers[id]? =
              some ⟨buffer, .working index (.ask (.inside view (.object q)) next) state⟩ →
            m.step s.plan id =
              m.put id ⟨buffer, .working index (next (s.geometry.use q).1) state⟩ := by
  constructor
  · intro earlier later d member history g frozen
    have inPlace : g.InPlace := .after_empty history
    have coherent : g.Coherent := .after_empty history
    have present : d ∈ g.detectors := by
      have stays := Geometry.mem_detectors_after member later
      rwa [← Geometry.after_append] at stays
    have sealed : g.isSealed = frozen :=
      (Geometry.empty.isSealed_after history).trans (Bool.false_or _)
    refine ⟨coherent.detector_eq_ok_iff_mem.mpr ⟨present, rfl⟩, fun key => ?_,
      fun key object => ?_, fun key object e other under apart => ?_, fun stopped => ?_⟩
    · rw [← Geometry.objectAt_after_empty]
      exact inPlace.reveals present key
    · rw [inPlace.use_attach present, sealed]
    · exact inPlace.attached_use_attach present other apart object
    · exact inPlace.perform_of_isSealed (sealed.trans stopped)
  · intro s prepared
    have leads := (prepare_leads registry config (given.map Geometry.empty.after) processors
      (.start geometry)).and (prepare_asks registry config _ processors (.start geometry))
    obtain ⟨ready, g, inquiries, origin, setUp⟩ := leads.ok prepared
    obtain ⟨base, rfl, same, adds⟩ := Geometry.exists_history origin
    let setup := base ++ (Inquiry.all inquiries).filterMap Asked.use?
    have frozen : s.geometry = (Geometry.empty.after setup).freeze := by
      rw [setUp.geometry, Geometry.after_append]
    have before : (Geometry.empty.after setup).InPlace := .after_empty setup
    have inPlace : s.geometry.InPlace := frozen ▸ before.freeze
    have coherent : s.geometry.Coherent := frozen ▸ (Geometry.Coherent.after_empty setup).freeze
    have sealed : s.geometry.isSealed = true := by
      rw [frozen, Geometry.isSealed_freeze]
    refine ⟨base, inquiries, same, adds, setUp.modules, setUp.answered, frozen, setUp.detectors,
      fun i listed d held => ready.mem_detectors coherent listed held, ?_, ?_, ?_⟩
    · intro d member key
      constructor
      · have here : s.geometry.objectAt d key =
            (Geometry.empty.putOver setup d key).getLast? := by
          rw [← Geometry.objectAt_after_empty, frozen, before.objectAt_freeze]
        rw [← here]
        exact inPlace.reveals member key
      · intro object
        rw [inPlace.use_attach member, if_pos sealed]
    · exact inPlace.perform_of_isSealed sealed
    · intro workers schedule m id buffer index view q state next found
      exact step_object found

private def bench (name : String) (slot : Nat) : Detector :=
  ⟨name, slot, 0, ⟨"alpide", 8, 8, .replicate 2 0.03, 0.05, .monolithic⟩, .replicate 3 0,
    .replicate 3 0⟩

/-- A module that replaces a number attached to a detector by a text when it is constructed,
attaches a number when it is initialized, and tries to replace the text in events. It looks the
detector up only once. -/
private def calibrating : ModuleType Unit String where
  name := "Calibration"
  scope := .global
  concurrent := true
  construct _ := do
    let found : Except GeometryError Detector ← BuildProgram.query (.object (.detector "dut"))
    let dut ← found.mapError ModuleError.geometry
    let _ ← BuildProgram.query (.object (.attach dut "gain" ⟨.text, "high"⟩))
    return {
      init := fun _ => do
        let _ ← InitProgram.query (.build (.object (.attach dut "offset" ⟨.integer, (3 : Int)⟩)))
        return {
          memory := ()
          run := fun _ => do
            let refused : Except GeometryError Unit ←
              EventProgram.query (.object (.attach dut "gain" ⟨.text, "low"⟩))
            let gain : Except GeometryError String ←
              EventProgram.query (.object (.attached dut "gain" .text))
            let said := match refused, gain with
              | .error e, .ok text => e.message ++ "; " ++ text
              | _, _ => "attached"
            EventProgram.query (.note said)
          finalize := fun _ => pure () } }

/-- A setup of two detectors. -/
private def twoDetectors : List Geometry.Operation :=
  [.addModel (bench "dut" 0).model,
    .addDetector "dut" "alpide" (.replicate 3 0) (.replicate 3 0),
    .addDetector "spare" "alpide" (.replicate 3 0) (.replicate 3 0)]

private def numbered : List Geometry.Operation :=
  [.use (.attach (bench "dut" 0) "gain" ⟨.integer, (1 : Int)⟩)]

private def calibration : RunConfig :=
  ⟨((Section.new globalName none).set "random_seed" "7").set "number_of_events" "1",
    [.new "Calibration" none]⟩

/-- The text that a constructor attached in place of a number is what events read, and they cannot
replace it. Nothing can be attached to the other detector either. -/
theorem replaced_gain_is_frozen :
    let prepared := (prepare ⟨[calibrating]⟩ calibration
      ((some (twoDetectors ++ numbered)).map Geometry.empty.after) 1).resultFrom (.start .empty)
        FileTree.answers ⟨[]⟩
    let low : AttachedObject := ⟨.text, "low"⟩
    let dut := bench "dut" 0
    let spare := bench "spare" 1
    let notes (s : Simulation Unit String) : List String :=
      ((start s.plan 1).follow s.plan (List.replicate 9 0)).processed.flatMap
        (·.state.trace.filterMap TraceEntry.note?)
    dut ∈ (Geometry.empty.after twoDetectors).detectors ∧
      ((Geometry.empty.after (twoDetectors ++ numbered)).use (.attach dut "gain" low)).1 =
        Except.ok () ∧
      ∃ s, prepared.1 = .ok s ∧ s.geometry.detectors = [dut, spare] ∧
        s.geometry.attached dut "gain" .text = .ok "high" ∧
        s.geometry.attached dut "gain" .integer = .error (.objectKind "dut" "gain" .integer) ∧
        s.geometry.attached spare "gain" .text = .error (.missingObject "spare" "gain") ∧
        (s.geometry.use (.attach dut "gain" low)).1 =
          Except.error (.objectsSealed "dut" "gain") ∧
        (s.geometry.use (.attach spare "gain" low)).1 =
          Except.error (.objectsSealed "spare" "gain") ∧
        notes s =
          ["cannot attach external object 'gain' to detector 'dut' after setup; high"] ∧
        ∃ setup, s.geometry = (Geometry.empty.after setup).freeze ∧
          (Geometry.empty.putOver setup dut "gain").getLast? = some ⟨.text, "high"⟩ := by
  intro prepared low dut spare notes
  have store := objects_frozen_behind_setup ⟨[calibrating]⟩ calibration
    (some (twoDetectors ++ numbered)) 1 .empty FileTree.answers ⟨[]⟩
  obtain ⟨s, made⟩ : ∃ s, prepared.1 = .ok s := ⟨_, rfl⟩
  have seen : prepared.1.map (fun s => (s.geometry.attached dut "gain" .text,
      s.geometry.attached spare "gain" .text, notes s)) =
      .ok (.ok "high", .error (.missingObject "spare" "gain"),
        ["cannot attach external object 'gain' to detector 'dut' after setup; high"]) := rfl
  rw [made, Except.map, Except.ok.injEq, Prod.mk.injEq, Prod.mk.injEq] at seen
  obtain ⟨high, none, noted⟩ := seen
  have placed : (Geometry.empty.after twoDetectors).detectors = [dut, spare] := rfl
  have listed : dut ∈ (Geometry.empty.after twoDetectors).detectors :=
    placed ▸ List.mem_cons_self ..
  have accepted := (store.1 twoDetectors numbered dut listed).2.2.1 "gain" low
  rw [if_neg nofun] at accepted
  obtain ⟨base, inquiries, same, _, _, _, frozen, detectors, _, reveals, _⟩ := store.2 s made
  have both : s.geometry.detectors = [dut, spare] := by
    rw [detectors, same _ rfl]
    rfl
  obtain ⟨shows, refused⟩ := reveals dut (both ▸ List.mem_cons_self ..) "gain"
  obtain ⟨_, closed⟩ := reveals spare (both ▸ List.mem_of_mem_tail (List.mem_singleton_self _))
    "gain"
  have last := (shows.value .text "high").mp high
  have other := (shows.kind .integer).mpr ⟨_, last, nofun⟩
  exact ⟨listed, accepted, s, made, both, high, other, none, refused low, closed low, noted, _,
    frozen, last⟩

end Simulation

end DetectorSim
