import DetectorSim.Proofs.Geometry.Operations

/-! Attached objects over the whole history of a setup. Whatever is done to a setup in whatever
order, the object under a key of a detector is the one that was attached there last, and this is the
object that the answers show. -/

namespace DetectorSim

namespace Geometry

/-- The objects that a history puts under a key of a detector, in order. -/
def putOver (g : Geometry) (history : List Operation) (d : Detector) (key : String) :
    List AttachedObject :=
  match history with
  | [] => []
  | operation :: rest =>
    (operation.puts g d key).toList ++ putOver (g.perform operation) rest d key

/-- The object under a key of a detector, if there is one. -/
def objectAt (g : Geometry) (d : Detector) (key : String) : Option AttachedObject :=
  g.placements[d.slot]?.bind (·.objects.entries.find? key)

section History

variable {g h : Geometry}

theorem objectAt_addDetector {name typeName : String} {position orientation : Vector Float 3}
    (added : g.addDetector name typeName position orientation = .ok h) (d : Detector)
    (key : String) : h.objectAt d key = g.objectAt d key := by
  obtain ⟨_, _, new, _, rfl⟩ := addDetector_eq_ok added
  rw [objectAt, objectAt]
  rcases Nat.lt_or_ge d.slot g.placements.length with before | behind
  · rw [List.getElem?_append_left before]
  · rw [List.getElem?_append_right behind, List.getElem?_eq_none behind]
    cases d.slot - g.placements.length <;> rfl

/-- An attached object is under its key, and all other objects stay where they are. -/
theorem objectAt_attach {e : Detector} {under : String} {object : AttachedObject}
    (attached : g.attach e under object = .ok h) (d : Detector) (key : String) :
    h.objectAt d key =
      if e.slot = d.slot ∧ under = key then some object else g.objectAt d key := by
  obtain ⟨p, found, _, rfl⟩ := attach_eq_ok_iff.mp attached
  have within := (List.getElem?_eq_some_iff.mp found).1
  rw [objectAt, objectAt]
  by_cases same : e.slot = d.slot
  · rw [← same]
    simp [List.getElem?_set_self within, found, Dictionary.find?_insert, eq_comm (a := key)]
  · rw [List.getElem?_set_ne same, if_neg fun both => same both.1]

theorem InPlace.objectAt_freeze (inPlace : g.InPlace) (d : Detector) (key : String) :
    g.freeze.objectAt d key = g.objectAt d key := by
  rw [inPlace.freeze_eq, objectAt, objectAt, List.getElem?_map]
  cases g.placements[d.slot]? <;> rfl

/-- What is done puts an object under a key, or the one from before stays there. -/
theorem Change.objectAt {operation : Operation} (change : g.Change operation h)
    (inPlace : g.InPlace) (d : Detector) (key : String) :
    h.objectAt d key = (operation.puts g d key).or (g.objectAt d key) := by
  cases change with
  | none _ puts => rw [puts, Option.none_or]
  | model added =>
    obtain ⟨_, _, rfl⟩ := addModel_eq_ok added
    rfl
  | detector added => exact objectAt_addDetector added d key
  | object attached =>
    rw [objectAt_attach attached, Operation.puts, attached]
    split
    · rename_i here
      rw [if_pos ⟨here.1, here.2, rfl⟩]
      rfl
    · rename_i elsewhere
      rw [if_neg fun put => elsewhere ⟨put.1, put.2.1⟩]
      rfl
  | frozen => exact inPlace.objectAt_freeze d key

/-- The object under a key is the last one that was put there. -/
theorem InPlace.objectAt_after (inPlace : g.InPlace) (history : List Operation) (d : Detector)
    (key : String) :
    (g.after history).objectAt d key =
      (g.putOver history d key).getLast?.or (g.objectAt d key) := by
  induction history generalizing g with
  | nil => rfl
  | cons operation rest ih =>
    calc (g.after (operation :: rest)).objectAt d key
      _ = ((g.perform operation).putOver rest d key).getLast?.or
          ((operation.puts g d key).or (g.objectAt d key)) := by
        have change := g.change_perform operation
        rw [← change.objectAt inPlace]
        exact ih (change.inPlace inPlace)
      _ = (g.putOver (operation :: rest) d key).getLast?.or (g.objectAt d key) := by
        rw [← Option.or_assoc, putOver, List.getLast?_append]
        cases operation.puts g d key <;> rfl

theorem objectAt_after_empty (history : List Operation) (d : Detector) (key : String) :
    (empty.after history).objectAt d key = (empty.putOver history d key).getLast? :=
  (inPlace_empty.objectAt_after history d key).trans (Option.or_none ..)

end History

end Geometry

theorem AttachedObject.as?_eq_some_iff {object : AttachedObject} {kind : ObjectKind}
    {value : kind.Carrier} : object.as? kind = some value ↔ object = ⟨kind, value⟩ := by
  obtain ⟨own, held⟩ := object
  rw [as?]
  by_cases same : own = kind
  · subst same
    simp
  · simp [same]

theorem AttachedObject.as?_eq_none_iff {object : AttachedObject} {kind : ObjectKind} :
    object.as? kind = none ↔ object.kind ≠ kind := by
  rw [as?]
  split <;> simp_all

namespace Geometry

/-- The answer about an object that is asked for as one of a type. -/
def answerAs (name key : String) (kind : ObjectKind) :
    Option AttachedObject → Except GeometryError kind.Carrier
  | none => .error (.missingObject name key)
  | some object =>
    match object.as? kind with
    | some value => .ok value
    | none => .error (.objectKind name key kind)

/-- What a setup answers about a key of a detector shows one object, or that there is none. -/
structure Reveals (g : Geometry) (d : Detector) (key : String) (object : Option AttachedObject) :
    Prop where
  value : ∀ kind value, g.attached d key kind = .ok value ↔ object = some ⟨kind, value⟩
  kind : ∀ kind, g.attached d key kind = .error (.objectKind d.name key kind) ↔
    ∃ other, object = some other ∧ other.kind ≠ kind
  missing : ∀ kind, g.attached d key kind = .error (.missingObject d.name key) ↔ object = none
  has : g.hasAttached d key = object.isSome

namespace InPlace

variable {g : Geometry} {d : Detector}

theorem attached_eq (inPlace : g.InPlace) (member : d ∈ g.detectors) (key : String)
    (kind : ObjectKind) : g.attached d key kind = answerAs d.name key kind (g.objectAt d key) := by
  obtain ⟨p, found, rfl⟩ := inPlace.placement member
  rw [attached, objectAt, found]
  change (p.objects.get key kind).mapError _ = answerAs _ key kind (p.objects.entries.find? key)
  rw [ObjectTable.get]
  cases p.objects.entries.find? key with
  | none => rfl
  | some object =>
    simp only [answerAs]
    cases object.as? kind <;> rfl

theorem hasAttached_eq (inPlace : g.InPlace) (member : d ∈ g.detectors) (key : String) :
    g.hasAttached d key = (g.objectAt d key).isSome := by
  obtain ⟨p, found, rfl⟩ := inPlace.placement member
  rw [hasAttached, objectAt, found]
  rfl

theorem reveals (inPlace : g.InPlace) (member : d ∈ g.detectors) (key : String) :
    g.Reveals d key (g.objectAt d key) := by
  have attached := inPlace.attached_eq member key
  refine ⟨?_, ?_, ?_, inPlace.hasAttached_eq member key⟩
  · intro kind value
    rw [attached]
    cases g.objectAt d key with
    | none => simp [answerAs]
    | some object =>
      rw [Option.some.injEq, ← AttachedObject.as?_eq_some_iff, answerAs]
      cases object.as? kind <;> simp
  · intro kind
    rw [attached]
    cases g.objectAt d key with
    | none => simp [answerAs]
    | some object =>
      simp only [Option.some.injEq, exists_eq_left', ← AttachedObject.as?_eq_none_iff, answerAs]
      cases object.as? kind <;> simp
  · intro kind
    rw [attached]
    cases g.objectAt d key with
    | none => simp [answerAs]
    | some object =>
      rw [answerAs]
      cases object.as? kind <;> simp

/-- Attaching an object does not show in any other place. -/
theorem attached_use_attach (inPlace : g.InPlace) {e : Detector} {key under : String}
    (member : d ∈ g.detectors) (other : e ∈ g.detectors) (apart : (d.name, key) ≠ (e.name, under))
    (object : AttachedObject) :
    let h := (g.use (.attach d key object)).2
    (∀ kind, h.attached e under kind = g.attached e under kind) ∧
      h.hasAttached e under = g.hasAttached e under := by
  intro h
  have change : g.Change (.use (.attach d key object)) h := g.change_perform _
  have later := change.inPlace inPlace
  have stays := change.mem_detectors other
  have kept : h.objectAt e under = g.objectAt e under := by
    have put := change.objectAt inPlace e under
    rw [Operation.puts, if_neg] at put
    · exact put
    · rintro ⟨same, rfl, _⟩
      exact apart (by rw [inPlace.eq_of_slot member other same])
  constructor
  · intro kind
    rw [later.attached_eq stays, inPlace.attached_eq other, kept]
  · rw [later.hasAttached_eq stays, inPlace.hasAttached_eq other, kept]

theorem use_attach (inPlace : g.InPlace) (member : d ∈ g.detectors) (key : String)
    (object : AttachedObject) :
    (g.use (.attach d key object)).1 =
      if g.isSealed then Except.error (.objectsSealed d.name key) else Except.ok () := by
  obtain ⟨p, found, rfl⟩ := inPlace.placement member
  rw [← inPlace.frozen p (List.mem_of_getElem? found), use, Geometry.attach, found]
  simp only [Placement.attach, ObjectTable.insert]
  cases p.objects.isFrozen <;> rfl

end InPlace

end Geometry

end DetectorSim
