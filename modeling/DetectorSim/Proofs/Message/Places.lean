import DetectorSim.Message.Subscription
import Mathlib.Data.List.Forall2
import Mathlib.Data.List.Induction

/-! The index of a subscription table. Whatever subscriptions are made in whatever order, the index
entry of a topic lists the places of the subscriptions to it, from the first to the last. -/

namespace DetectorSim

namespace SubscriptionTable

variable {ω : Type}

/-- The table of subscriptions made one after the other. -/
def ofList (subscriptions : List (Subscription ω)) : SubscriptionTable ω :=
  subscriptions.foldl add empty

theorem ofList_concat (subscriptions : List (Subscription ω)) (s : Subscription ω) :
    ofList (subscriptions ++ [s]) = (ofList subscriptions).add s := by
  simp [ofList]

@[simp] theorem subscriptions_ofList (subscriptions : List (Subscription ω)) :
    (ofList subscriptions).subscriptions = subscriptions := by
  induction subscriptions using List.reverseRecOn with
  | nil => rfl
  | append_singleton rest s ih => rw [ofList_concat, add, ih]

@[simp] theorem size_ofList (subscriptions : List (Subscription ω)) :
    (ofList subscriptions).size = subscriptions.length := by
  rw [size, subscriptions_ofList]

private theorem lookup_addPlace (topic other : Topic) (place : Nat)
    (entries : List (Topic × List Nat)) :
    (addPlace topic place entries).lookup other =
      if other = topic then some (((entries.lookup topic).getD []) ++ [place])
      else entries.lookup other := by
  induction entries with
  | nil =>
    by_cases same : other = topic
    · simp [addPlace, same]
    · simp [addPlace, List.lookup_cons, beq_eq_false_iff_ne.mpr same, same]
  | cons entry rest ih =>
    obtain ⟨t, places⟩ := entry
    by_cases here : t = topic
    · subst here
      by_cases same : other = t
      · simp [addPlace, same]
      · simp [addPlace, List.lookup_cons, beq_eq_false_iff_ne.mpr same, same]
    · have apart : (topic == t) = false := beq_eq_false_iff_ne.mpr (Ne.symm here)
      by_cases same : other = t
      · subst same
        simp [addPlace, here]
      · simp [addPlace, here, List.lookup_cons, beq_eq_false_iff_ne.mpr same, apart, ih]

theorem places_concat (subscriptions : List (Subscription ω)) (s : Subscription ω) (t : Topic) :
    (ofList (subscriptions ++ [s])).places t =
      (ofList subscriptions).places t ++ if s.topic = t then [subscriptions.length] else [] := by
  rw [ofList_concat]
  simp only [places, add, lookup_addPlace, subscriptions_ofList]
  by_cases same : s.topic = t
  · simp [same]
  · simp [same, Ne.symm same]

/-- Places and the subscriptions at them, in the same order. -/
def Lists (table : SubscriptionTable ω) : List Nat → List (Subscription ω) → Prop :=
  List.Forall₂ fun place s => table.subscriptions[place]? = some s

/-- The index entry of a topic lists the subscriptions to it, in the order they were made. -/
theorem lists_places (subscriptions : List (Subscription ω)) (t : Topic) :
    (ofList subscriptions).Lists ((ofList subscriptions).places t)
      (subscriptions.filter (·.topic = t)) := by
  induction subscriptions using List.reverseRecOn with
  | nil => exact .nil
  | append_singleton rest s ih =>
    have kept : (ofList (rest ++ [s])).Lists ((ofList rest).places t)
        (rest.filter (·.topic = t)) := by
      refine ih.imp fun place found earlier => ?_
      rw [subscriptions_ofList] at earlier ⊢
      rwa [List.getElem?_append_left (List.getElem?_eq_some_iff.mp earlier).1]
    rw [places_concat, List.filter_append]
    refine List.rel_append kept ?_
    by_cases same : s.topic = t
    · simp [same]
    · simp [same]

theorem mem_places {subscriptions : List (Subscription ω)} {t : Topic} {place : Nat} :
    place ∈ (ofList subscriptions).places t ↔
      ∃ s, subscriptions[place]? = some s ∧ s.topic = t := by
  induction subscriptions using List.reverseRecOn with
  | nil => simp [ofList, empty, places]
  | append_singleton rest s ih =>
    rw [places_concat, List.mem_append, ih]
    constructor
    · rintro (⟨found, earlier, same⟩ | last)
      · have within := (List.getElem?_eq_some_iff.mp earlier).1
        exact ⟨found, by rwa [List.getElem?_append_left within], same⟩
      · split at last
        · rename_i same
          exact ⟨s, by simp [List.mem_singleton.mp last], same⟩
        · cases last
    · rintro ⟨found, present, same⟩
      rcases Nat.lt_trichotomy place rest.length with before | rfl | after
      · rw [List.getElem?_append_left before] at present
        exact .inl ⟨found, present, same⟩
      · rw [List.getElem?_concat_length, Option.some.injEq] at present
        subst present
        exact .inr (by simp [same])
      · have outside : (rest ++ [s]).length ≤ place := by
          rw [List.length_append]
          exact after
        rw [List.getElem?_eq_none outside] at present
        cases present

/-- The places of a topic are in increasing order, so none is listed twice. -/
theorem places_increasing (subscriptions : List (Subscription ω)) (t : Topic) :
    ((ofList subscriptions).places t).Pairwise (· < ·) := by
  induction subscriptions using List.reverseRecOn with
  | nil => exact .nil
  | append_singleton rest s ih =>
    rw [places_concat]
    refine List.pairwise_append.mpr ⟨ih, ?_, ?_⟩
    · split <;> simp
    · intro place listed last new
      obtain ⟨_, earlier, _⟩ := mem_places.mp listed
      have before := (List.getElem?_eq_some_iff.mp earlier).1
      have same : last = rest.length := by
        split at new
        · exact List.mem_singleton.mp new
        · cases new
      rwa [same]

end SubscriptionTable

end DetectorSim
