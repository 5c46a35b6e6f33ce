import DetectorSim.Chain.HitCounter
import DetectorSim.Proofs.Dictionary
import DetectorSim.Proofs.Run.Memory
import Mathlib.Algebra.GroupWithZero.Nat
import Mathlib.Data.List.Basic

/-! How hits add up. The counts after messages are known under each key on its own, so messages may
be added in any order, and apart from the events. -/

namespace DetectorSim

namespace HitCounts

theorem ext_fields {a b : HitCounts} (hits : a.hits = b.hits)
    (events : a.eventsWithHits = b.eventsWithHits) : a = b := by
  obtain ⟨_, _⟩ := a
  obtain ⟨_, _⟩ := b
  cases hits
  cases events
  rfl

/-- The messages whose hits are counted under a key. -/
def under (key : String) (messages : List (Message .hits)) : List (Message .hits) :=
  messages.filter (keyOf · = key)

/-- The number of hits in messages. -/
def total (messages : List (Message .hits)) : Nat :=
  (messages.map fun m => Hits.size m.payload).sum

theorem total_cons (m : Message .hits) (rest : List (Message .hits)) :
    total (m :: rest) = Hits.size m.payload + total rest :=
  rfl

theorem total_under_flatMap {α : Type} (key : String) (received : α → List (Message .hits))
    (events : List α) : total (under key (events.flatMap received)) =
      (events.map fun event => total (under key (received event))).sum := by
  induction events with
  | nil => rfl
  | cons event rest ih =>
    rw [List.flatMap_cons, under, List.filter_append, total, List.map_append, List.sum_append,
      List.map_cons, List.sum_cons, ← ih]
    rfl

theorem under_flatMap_ne_nil_iff {α : Type} (key : String) (received : α → List (Message .hits))
    (events : List α) : under key (events.flatMap received) ≠ [] ↔
      ∃ event ∈ events, under key (received event) ≠ [] := by
  rw [under, List.filter_flatMap, Ne, List.flatMap_eq_nil_iff]
  simp only [Classical.not_forall, exists_prop]
  rfl

/-- Whether a message holds any hit. -/
def hasHits (m : Message .hits) : Bool :=
  !(Hits.pixels m.payload).isEmpty

theorem eventsWithHits_addMessages (messages : List (Message .hits)) (c : HitCounts) :
    (addMessages messages c).eventsWithHits = c.eventsWithHits := by
  induction messages generalizing c with
  | nil => rfl
  | cons m rest ih => exact ih (c.addMessage m)

theorem hits_addMessages {a b : HitCounts} (same : a.hits = b.hits)
    (messages : List (Message .hits)) :
    (addMessages messages a).hits = (addMessages messages b).hits := by
  induction messages generalizing a b with
  | nil => exact same
  | cons m rest ih =>
    refine ih ?_
    simp only [addMessage, same]

theorem addMessages_append (messages more : List (Message .hits)) (c : HitCounts) :
    addMessages (messages ++ more) c = addMessages more (addMessages messages c) :=
  List.foldl_append

theorem find?_addMessages (messages : List (Message .hits)) (c : HitCounts) (key : String) :
    (addMessages messages c).hits.find? key =
      if under key messages = [] then c.hits.find? key
      else some ((c.hits.find? key).getD 0 + UInt64.ofNat (total (under key messages))) := by
  induction messages generalizing c with
  | nil => rfl
  | cons m rest ih =>
    change (addMessages rest (c.addMessage m)).hits.find? key = _
    have first : (c.addMessage m).hits.find? key = if key = keyOf m then
        some ((c.hits.find? (keyOf m)).getD 0 + UInt64.ofNat (Hits.size m.payload))
        else c.hits.find? key :=
      c.hits.find?_update (keyOf m) key 0 _
    by_cases here : keyOf m = key
    · have listed : under key (m :: rest) = m :: under key rest :=
        List.filter_cons_of_pos (decide_eq_true here)
      rw [if_pos here.symm, here] at first
      rw [ih, first, listed, if_neg (List.cons_ne_nil _ _), total_cons, UInt64.ofNat_add,
        ← UInt64.add_assoc]
      split
      · rename_i none
        rw [none]
        exact congrArg some (UInt64.add_zero _).symm
      · rfl
    · have listed : under key (m :: rest) = under key rest :=
        List.filter_cons_of_neg (mt of_decide_eq_true here)
      rw [if_neg (Ne.symm here)] at first
      rw [ih, first, listed]

theorem addMessages_comm (messages others : List (Message .hits)) (c : HitCounts) :
    addMessages messages (addMessages others c) = addMessages others (addMessages messages c) := by
  refine ext_fields (Dictionary.ext_find? fun key => ?_) ?_
  · simp only [find?_addMessages]
    by_cases none : under key messages = []
    · simp only [none, if_true]
    · by_cases none' : under key others = []
      · simp only [none', if_true]
      · simp only [none, none', if_false, Option.getD_some, UInt64.add_assoc]
        rw [UInt64.add_comm (UInt64.ofNat (total (under key others)))]
  · simp only [eventsWithHits_addMessages]

theorem addMessages_countEvent (messages : List (Message .hits)) (c : HitCounts) :
    addMessages messages c.countEvent = (addMessages messages c).countEvent := by
  have same : c.countEvent.hits = c.hits := rfl
  refine ext_fields (hits_addMessages same messages) ?_
  simp only [eventsWithHits_addMessages, countEvent]

/-- The changes that an event with these messages makes. -/
def changes (messages : List (Message .hits)) : List (HitCounts → HitCounts) :=
  (if messages.any hasHits then [countEvent] else []) ++ [addMessages messages]

theorem mem_changes {messages : List (Message .hits)} {change : HitCounts → HitCounts}
    (member : change ∈ changes messages) : change = countEvent ∨ change = addMessages messages := by
  rw [changes] at member
  split at member
  · simpa using member
  · exact .inr (by simpa using member)

theorem changes_commute {messages others : List (Message .hits)} {f g : HitCounts → HitCounts}
    (first : f ∈ changes messages) (second : g ∈ changes others) (c : HitCounts) :
    f (g c) = g (f c) := by
  rcases mem_changes first with rfl | rfl <;> rcases mem_changes second with rfl | rfl
  · rfl
  · exact (addMessages_countEvent others c).symm
  · exact addMessages_countEvent messages c
  · exact addMessages_comm messages others c

/-- The counts after events, by the messages of each. -/
theorem accumulate_changes (events : List (List (Message .hits))) (c : HitCounts) :
    (accumulate (events.flatMap changes) c).hits = (addMessages events.flatten c).hits ∧
      (accumulate (events.flatMap changes) c).eventsWithHits =
        c.eventsWithHits + UInt64.ofNat (events.countP (·.any hasHits)) := by
  induction events generalizing c with
  | nil => exact ⟨rfl, (UInt64.add_zero _).symm⟩
  | cons messages rest ih =>
    rw [List.flatMap_cons, accumulate_append]
    obtain ⟨hits, events⟩ := ih (accumulate (changes messages) c)
    have here : accumulate (changes messages) c =
        addMessages messages (if messages.any hasHits then c.countEvent else c) := by
      rw [changes]
      split <;> rfl
    constructor
    · have start : (if messages.any hasHits then c.countEvent else c).hits = c.hits := by
        split <;> rfl
      rw [hits, here, List.flatten_cons, addMessages_append]
      exact hits_addMessages (hits_addMessages start messages) rest.flatten
    · rw [events, here, eventsWithHits_addMessages, List.countP_cons, UInt64.ofNat_add]
      split
      · rw [UInt64.add_comm (UInt64.ofNat _), ← UInt64.add_assoc]
        rfl
      · exact congrArg _ (UInt64.add_zero _).symm

end HitCounts

end DetectorSim
