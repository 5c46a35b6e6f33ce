import DetectorSim.Proofs.Run.Histories
import Mathlib.Algebra.Group.Basic
import Mathlib.Data.UInt

/-! Seeds of events. Each step of mixing can be undone: folding the upper bits of a word onto the
lower ones gives the word back when it is repeated, and factors have inverses. So no two events of a
run have the same seed, nor has an event in two runs of different seeds. -/

namespace DetectorSim

namespace Random

/-- A word with its bits folded onto those a distance below. -/
def folded (distance : Nat) (word : UInt64) : UInt64 :=
  ⟨word.toBitVec ^^^ (word.toBitVec >>> distance)⟩

/-- Folding twice folds once over twice the distance. -/
theorem folded_folded (distance : Nat) (word : UInt64) :
    folded distance (folded distance word) = folded (distance + distance) word := by
  refine UInt64.toBitVec_inj.mp ?_
  simp only [folded]
  rw [BitVec.ushiftRight_xor_distrib, ← BitVec.shiftRight_add, BitVec.xor_assoc,
    ← BitVec.xor_assoc (word.toBitVec >>> distance), BitVec.xor_self, BitVec.zero_xor]

theorem folded_of_le {distance : Nat} (far : 64 ≤ distance) (word : UInt64) :
    folded distance word = word := by
  rw [folded, BitVec.ushiftRight_eq_zero far, BitVec.xor_zero]

/-- Four times a quarter of the width is enough to fold a word back. -/
theorem bijective_folded {distance : Nat} (quarter : 16 ≤ distance) :
    Function.Bijective (folded distance) := by
  have back (word : UInt64) :
      folded distance (folded distance (folded distance (folded distance word))) = word := by
    rw [folded_folded, folded_folded, folded_folded, folded_of_le (by omega)]
  exact Function.bijective_iff_has_inverse.mpr
    ⟨fun word => folded distance (folded distance (folded distance word)), back, back⟩

theorem bijective_mul {factor : UInt64} (inverse : UInt64) (unit : factor * inverse = 1) :
    Function.Bijective fun word : UInt64 => word * factor := by
  have undoes (word : UInt64) : word * factor * inverse = word := by
    rw [UInt64.mul_assoc, unit, UInt64.mul_one]
  have undone (word : UInt64) : word * inverse * factor = word := by
    rw [UInt64.mul_assoc, UInt64.mul_comm inverse, unit, UInt64.mul_one]
  exact Function.bijective_iff_has_inverse.mpr ⟨(· * inverse), undoes, undone⟩

/-- What becomes of a word when it is mixed: it is folded and multiplied twice, and folded again. -/
def mixed (word : UInt64) : UInt64 :=
  folded 31 (folded 27 (folded 30 word * 0xbf58476d1ce4e5b9) * 0x94d049bb133111eb)

theorem bijective_mixed : Function.Bijective mixed := by
  have first : Function.Bijective fun word : UInt64 => word * 0xbf58476d1ce4e5b9 :=
    bijective_mul 0x96de1b173f119089 (by decide)
  have second : Function.Bijective fun word : UInt64 => word * 0x94d049bb133111eb :=
    bijective_mul 0x319642b2d24d8ec3 (by decide)
  have inner := first.comp (bijective_folded (by decide : 16 ≤ 30))
  have middle := second.comp ((bijective_folded (by decide : 16 ≤ 27)).comp inner)
  exact (bijective_folded (by decide : 16 ≤ 31)).comp middle

/-- The seed of an event is a mixed word, the indices being steps of a fixed width. -/
theorem eventSeed_eq (seed index : UInt64) :
    eventSeed seed index = mixed (seed + (index + 1) * 0x9e3779b97f4a7c15) :=
  rfl

theorem bijective_eventSeed (seed : UInt64) : Function.Bijective (eventSeed seed) := by
  have steps : Function.Bijective fun index : UInt64 => index * 0x9e3779b97f4a7c15 :=
    bijective_mul 0xf1de83e19937733d (by decide)
  have moved := steps.comp (AddGroup.addRight_bijective (1 : UInt64))
  rw [funext (eventSeed_eq seed)]
  exact bijective_mixed.comp ((AddGroup.addLeft_bijective seed).comp moved)

theorem bijective_eventSeed_left (index : UInt64) :
    Function.Bijective fun seed => eventSeed seed index := by
  simp only [eventSeed_eq]
  exact bijective_mixed.comp (AddGroup.addRight_bijective _)

end Random

open DetectorSim.Random (eventSeed)

variable {σ ω : Type} [Inhabited σ]

/-- An event came to this point of its passage and to this state from an engine of this seed. -/
def RunPlan.BeginsWith (plan : RunPlan σ ω) (seed index : UInt64)
    (point : Passage σ ω EventOutcome) (e : EventState ω) : Prop :=
  ∃ begun exchanges, begun.engine = .ofSeed seed ∧
    (Passage.through index plan.modules).Reaches exchanges point ∧
    EventState.Passes plan.table plan.geometry begun exchanges e

theorem RunPlan.Tells.beginsWith {plan : RunPlan σ ω} {index : UInt64}
    {exchanges : List (Interaction.Exchange (passageInterface σ ω))}
    {point : Passage σ ω EventOutcome} {e : EventState ω}
    (tells : plan.Tells index exchanges point e) :
    plan.BeginsWith (eventSeed plan.seed index) index point e :=
  ⟨_, exchanges, rfl, tells.reaches, tells.passes⟩

namespace Machine

/-- Seeds of events never collide. For each seed of a run every word is the seed of just one event,
and for each event it is so under just one seed of a run. The events of a run begin with engines of
their seeds, so that no two of them begin alike, nor does any as in a run of another seed. -/
theorem event_seeds_never_collide :
    (∀ seed, Function.Bijective (eventSeed seed)) ∧
    (∀ index, Function.Bijective fun seed => eventSeed seed index) ∧
    ∀ (plan : RunPlan σ ω) workers schedule,
      let m := (start plan workers).follow plan schedule
      let seedOf := eventSeed plan.seed
      (∀ p ∈ m.processed, plan.BeginsWith (seedOf p.index) p.index (.done p.outcome) p.state) ∧
      (∀ buffer index rest state, ⟨buffer, .working index rest state⟩ ∈ m.workers →
        plan.BeginsWith (seedOf index) index rest state) ∧
      (∀ index other, index ≠ other → seedOf index ≠ seedOf other) ∧
      ∀ seed, seed ≠ plan.seed → ∀ index, eventSeed seed index ≠ seedOf index := by
  refine ⟨Random.bijective_eventSeed, Random.bijective_eventSeed_left, ?_⟩
  intro plan workers schedule m seedOf
  have valid := historyInvariant_follow plan workers schedule
  refine ⟨?_, ?_, ?_, ?_⟩
  · intro p present
    obtain ⟨exchanges, tells⟩ := valid.processed p present
    exact tells.beginsWith
  · intro buffer index rest state member
    obtain ⟨exchanges, tells⟩ := valid.inside _ member
    exact tells.beginsWith
  · exact fun index other apart => (Random.bijective_eventSeed plan.seed).injective.ne apart
  · exact fun seed apart index => (Random.bijective_eventSeed_left index).injective.ne apart

/-- A module that notes what it draws. -/
private def drawing : ReadyModule Unit UInt64 :=
  ⟨0, ⟨"drawing", .global⟩, .new "drawing" none, [], true,
    { memory := ()
      run := fun _ => do
        let drawn ← EventProgram.draw .double
        EventProgram.query (.note drawn)
      finalize := fun _ => pure () }⟩

/-- One worker has taken an event to its end, another is about to draw in the next one. -/
theorem two_events_begin_apart :
    let plan : RunPlan Unit UInt64 := ⟨[drawing], .empty, .empty, 2, 42⟩
    let m := (start plan 2).follow plan (List.replicate 6 0 ++ List.replicate 3 1)
    (∃ p ∈ m.processed, plan.BeginsWith (eventSeed 42 0) 0 (.done p.outcome) p.state) ∧
      (∃ buffer rest state, ⟨buffer, .working 1 rest state⟩ ∈ m.workers ∧
        plan.BeginsWith (eventSeed 42 1) 1 rest state) ∧
      ((0 : UInt64) ≠ 1 ∧ eventSeed 42 0 ≠ eventSeed 42 1) ∧
      (43 : UInt64) ≠ 42 ∧ eventSeed 43 0 ≠ eventSeed 42 0 := by
  intro plan m
  have seeds := event_seeds_never_collide.2.2 plan 2 (List.replicate 6 0 ++ List.replicate 3 1)
  obtain ⟨processed, inside, events, runs⟩ := seeds
  have ended : m.processed.map (·.index) = [0] := by decide +kernel
  obtain ⟨p, present, first⟩ := List.mem_map.mp (ended ▸ List.mem_cons_self ..)
  have begun : m.workers.filterMap (·.phase.inside?) = [1] := by decide +kernel
  obtain ⟨⟨buffer, phase⟩, member, second⟩ := List.mem_filterMap.mp (begun ▸ List.mem_cons_self ..)
  obtain ⟨rest, state, rfl⟩ : ∃ rest state, phase = .working 1 rest state := by
    cases phase <;> cases second
    exact ⟨_, _, rfl⟩
  have apart : (0 : UInt64) ≠ 1 := by decide
  have other : (43 : UInt64) ≠ 42 := by decide
  refine ⟨⟨p, present, first ▸ processed p present⟩, ?_, ⟨apart, events 0 1 apart⟩,
    other, runs 43 other 0⟩
  exact ⟨buffer, rest, state, member, inside buffer 1 rest state member⟩

end Machine

end DetectorSim
