import DetectorSim.Proofs.Config.Rendering
import DetectorSim.Proofs.Pipeline.Instantiation

/-! The written names of instances. A name and a label are joined by a colon, and a label may hold
colons and may name a detector as well as a model type; the names that sections can resolve to hold
none, and a module type has one form of binding only. -/

namespace DetectorSim

open Config

variable {σ ω : Type}

namespace Text

theorem eq_colon_of_toLower {c : Char} (same : c.toLower = ':') : c = ':' := by
  by_cases capital : c.val ≥ 'A'.val ∧ c.val ≤ 'Z'.val
  · have moved : c.toLower.val = c.val + 32 := congrArg Char.val (dif_pos capital)
    rw [same] at moved
    have shifted : c.val = ':'.val - 32 := by rw [moved, UInt32.add_sub_cancel]
    rw [shifted] at capital
    exact absurd capital.1 (by decide)
  · exact (dif_neg capital).symm.trans same

theorem colon_of_sameLetters {a b : String} (same : sameLetters a b = true)
    (member : ':' ∈ a.toList) : ':' ∈ b.toList := by
  have equal : a.toList.map Char.toLower = b.toList.map Char.toLower := eq_of_beq same
  have lower : ':' ∈ a.toList.map Char.toLower := List.mem_map.mpr ⟨':', member, rfl⟩
  rw [equal] at lower
  obtain ⟨c, present, becomes⟩ := List.mem_map.mp lower
  exact eq_colon_of_toLower becomes ▸ present

end Text

section Sections

theorem Config.Line.isIdentifier_of_readHeader {cs : List Char} {name : String}
    {detector : Option String} (read : Line.readHeader cs = .ok (.header name detector)) :
    isIdentifier name.toList = true := by
  have checked (parts : List Char × Option (List Char)) :
      (if !isIdentifier parts.1 then Except.error SyntaxFault.sectionName
        else if parts.2.any (!isIdentifier ·) then .error .detectorQualifier
        else if parts.2.isSome && Text.sameLetters (String.ofList parts.1) globalName then
          .error .globalWithDetector
        else .ok (Line.header (String.ofList parts.1) (parts.2.map String.ofList))) =
          .ok (.header name detector) → isIdentifier name.toList = true := by
    intro passed
    split at passed
    · cases passed
    · rename_i named
      split at passed
      · cases passed
      · split at passed
        · cases passed
        · cases passed
          rw [String.toList_ofList]
          simpa using named
  exact checked _ read

theorem Config.Line.isIdentifier_of_read {cs : List Char} {name : String}
    {detector : Option String} (read : Line.read cs = .ok (.header name detector)) :
    isIdentifier name.toList = true := by
  rw [Line.read] at read
  split at read
  · cases read
  · split at read
    · cases read
    · split at read
      · split at read
        · exact Line.isIdentifier_of_readHeader read
        · cases read
      · rw [Line.readAssignment] at read
        split at read
        · cases read
        · split at read <;> cases read

theorem Config.Document.isIdentifier_of_readLines {origin : Option Path} {number : Nat}
    {start done : List Section} {lines : List (List Char)}
    (before : ∀ s ∈ start, isIdentifier s.name.toList = true)
    (read : Document.readLines origin number start lines = .ok done) :
    ∀ s ∈ done, isIdentifier s.name.toList = true := by
  induction lines generalizing number start with
  | nil =>
    cases read
    exact before
  | cons line rest ih =>
    rw [Document.readLines] at read
    split at read
    · cases read
    · rename_i next added
      refine ih ?_ read
      cases said : Line.read line with
      | error fault =>
        rw [said] at added
        cases added
      | ok parsed =>
        rw [said] at added
        cases parsed with
        | blank =>
          cases added
          exact before
        | header name detector =>
          cases added
          exact List.forall_mem_cons.mpr ⟨Line.isIdentifier_of_read said, before⟩
        | assignment key value =>
          cases start with
          | nil => cases added
          | cons current others =>
            cases added
            exact List.forall_mem_cons.mpr (List.forall_mem_cons.mp before)

theorem Config.Document.isIdentifier_of_read {origin : Option Path} {text : String}
    {sections : List Section} (read : Document.read origin text = .ok sections) :
    ∀ s ∈ sections, isIdentifier s.name.toList = true := by
  rw [Document.read, Document.sections] at read
  cases lines : Document.readLines origin 1 [] (Text.lines text.toList) with
  | error fault =>
    rw [lines] at read
    cases read
  | ok done =>
    rw [lines] at read
    cases read
    intro s member
    exact Document.isIdentifier_of_readLines (List.forall_mem_nil _) lines s
      (List.mem_reverse.mp member)

end Sections

namespace Registry

variable {registry : Registry σ ω} {name : String} {type : ModuleType σ ω}

theorem mem_of_resolve (resolved : registry.resolve name = .ok type) : type ∈ registry.types := by
  rw [resolve] at resolved
  split at resolved
  · rename_i found
    cases resolved
    exact List.mem_of_find?_eq_some found
  · split at resolved
    · cases resolved
    · rename_i only
      cases resolved
      have member := only ▸ List.mem_singleton_self type
      exact (List.mem_filter.mp member).1
    · cases resolved

/-- A name means a type whose name differs from it in the case of letters at most. -/
theorem sameLetters_of_resolve (resolved : registry.resolve name = .ok type) :
    Text.sameLetters type.name name = true := by
  rw [resolve] at resolved
  split at resolved
  · rename_i found
    cases resolved
    have exactly : type.name = name :=
      eq_of_beq (List.find?_some (p := fun t : ModuleType σ ω => t.name == name) found)
    rw [exactly, Text.sameLetters_refl]
  · split at resolved
    · cases resolved
    · rename_i only
      cases resolved
      have member := only ▸ List.mem_singleton_self type
      exact (List.mem_filter.mp member).2
    · cases resolved

theorem nodup_addAll (types : List (ModuleType σ ω))
    (distinct : (registry.types.map (·.name)).Nodup) :
    ((registry.addAll types).1.types.map (·.name)).Nodup := by
  induction types generalizing registry with
  | nil => exact distinct
  | cons t rest ih =>
    rw [addAll, add]
    by_cases known : (registry.get? t.name).isSome = true
    · rw [if_pos known]
      exact distinct
    · rw [if_neg known]
      refine ih ?_
      have fresh : t.name ∉ registry.types.map (·.name) := by
        intro member
        obtain ⟨other, present, same⟩ := List.mem_map.mp member
        refine known (List.find?_isSome.mpr ⟨other, present, ?_⟩)
        exact beq_iff_eq.mpr same
      rw [List.map_append, List.map_singleton, ← List.concat_eq_append]
      exact distinct.concat fresh

theorem eq_of_name {other : ModuleType σ ω} (distinct : (registry.types.map (·.name)).Nodup)
    (here : type ∈ registry.types) (there : other ∈ registry.types)
    (same : type.name = other.name) : type = other :=
  List.inj_on_of_nodup_map distinct here there same

end Registry

/-- The scope that a form of binding belongs to. -/
def Binding.scope : Binding → Scope
  | .global => .global
  | .detector _ => .perDetector
  | .detectorType _ => .perDetectorType

/-- The label of a binding, if it has one. -/
def Binding.label? : Binding → Option String
  | .global => none
  | .detector label | .detectorType label => some label

/-- Bindings of one scope are known by their labels. -/
theorem Binding.eq_of_label {a b : Binding} (scope : a.scope = b.scope)
    (label : a.label? = b.label?) : a = b := by
  cases a <;> cases b <;> simp_all [Binding.scope, Binding.label?]

namespace Identifier

theorem toList_display (i : Identifier) :
    i.display.toList = i.name.toList ++ (i.binding.label?.elim [] fun label =>
      ':' :: label.toList) := by
  obtain ⟨name, binding⟩ := i
  cases binding with
  | global => exact (List.append_nil _).symm
  | detector label => simp [display, Binding.label?]
  | detectorType label => simp [display, Binding.label?]

/-- From the written name, the name before the first colon and the label behind it are known. -/
theorem splitAtFirst_display {i : Identifier} (plain : ':' ∉ i.name.toList) :
    Text.splitAtFirst (· == ':') i.display.toList =
      i.binding.label?.map fun label => (i.name.toList, label.toList) := by
  rw [toList_display]
  cases i.binding.label? with
  | none => simpa using Text.splitAtFirst_eq_none plain
  | some label => exact Text.splitAtFirst_append plain label.toList

/-- Names without colons and bindings of one scope are known from the written name. -/
theorem eq_of_display {a b : Identifier} (left : ':' ∉ a.name.toList)
    (right : ':' ∉ b.name.toList) (same : a.display = b.display)
    (scope : a.name = b.name → a.binding.scope = b.binding.scope) : a = b := by
  have split := splitAtFirst_display left
  rw [same, splitAtFirst_display right] at split
  have texts := congrArg String.toList same
  rw [toList_display, toList_display] at texts
  have equal : a.name = b.name ∧ a.binding.label? = b.binding.label? := by
    cases labelled : a.binding.label? <;> cases labelled' : b.binding.label? <;>
      simp only [labelled, labelled', Option.map_none, Option.map_some, Option.elim_none,
        Option.elim_some, List.append_nil, reduceCtorEq, Option.some.injEq, Prod.mk.injEq,
        String.toList_inj] at split texts ⊢
    · exact ⟨texts, trivial⟩
    · exact ⟨split.1.symm, split.2.symm⟩
  exact congr (congrArg Identifier.mk equal.1) (Binding.eq_of_label (scope equal.1) equal.2)

end Identifier

section Slots

variable {registry : Registry σ ω} {g : Geometry}

/-- What a section stands for is of the type that its name means, and bound as its scope says. -/
theorem Config.Section.Expands.slot {s : Section} {slots : List (Slot σ ω)} {slot : Slot σ ω}
    (expands : s.Expands registry g slots) (member : slot ∈ slots) :
    registry.resolve s.name = .ok slot.type ∧ slot.binding.scope = slot.type.scope := by
  obtain ⟨resolved, binds⟩ := expands
  obtain ⟨⟨binding, detectors⟩, bound, rfl⟩ := List.mem_map.mp member
  refine ⟨resolved, ?_⟩
  change binding.scope = _
  generalize ModuleType.scope _ = scope at binds ⊢
  cases binds with
  | global unqualified =>
    cases List.mem_singleton.mp bound
    rfl
  | named qualified unrestricted found =>
    cases List.mem_singleton.mp bound
    rfl
  | each unqualified restricted =>
    obtain ⟨d, _, same⟩ := List.mem_map.mp bound
    cases same
    rfl
  | eachType unqualified restricted =>
    obtain ⟨model, _, same⟩ := List.mem_map.mp bound
    cases same
    rfl

theorem exists_partner {α β : Type} {related : α → β → Prop} {xs : List α} {ys : List β}
    (all : List.Forall₂ related xs ys) {y : β} (member : y ∈ ys) : ∃ x ∈ xs, related x y := by
  induction all with
  | nil => cases member
  | cons first _ ih =>
    rcases List.mem_cons.mp member with rfl | later
    · exact ⟨_, List.mem_cons_self .., first⟩
    · obtain ⟨x, present, partners⟩ := ih later
      exact ⟨x, List.mem_cons_of_mem _ present, partners⟩

theorem exists_expands {sections : List Section} {parts : List (List (Slot σ ω))}
    (expands : List.Forall₂ (Section.Expands registry g) sections parts) {slot : Slot σ ω}
    (member : slot ∈ parts.flatten) :
    ∃ s ∈ sections, ∃ slots, s.Expands registry g slots ∧ slot ∈ slots := by
  obtain ⟨slots, present, here⟩ := List.mem_flatten.mp member
  obtain ⟨s, listed, expands⟩ := exists_partner expands present
  exact ⟨s, listed, slots, expands, here⟩

/-- If sections are named by identifiers and module types have distinct names, slots of different
identities have different written names. -/
theorem nodup_display {sections : List Section} {parts : List (List (Slot σ ω))}
    (distinct : (registry.types.map (·.name)).Nodup)
    (named : ∀ s ∈ sections, isIdentifier s.name.toList = true)
    (expands : List.Forall₂ (Section.Expands registry g) sections parts)
    (identities : (parts.flatten.map Slot.identifier).Nodup) :
    ((parts.flatten.map Slot.identifier).map Identifier.display).Nodup := by
  have plain {slot : Slot σ ω} (member : slot ∈ parts.flatten) :
      ':' ∉ slot.identifier.name.toList := by
    obtain ⟨s, present, _, here, listed⟩ := exists_expands expands member
    intro colon
    have means := Registry.sameLetters_of_resolve (here.slot listed).1
    have written := Text.colon_of_sameLetters means colon
    exact not_mem_of_isIdentifier (named s present) rfl written
  refine List.Nodup.map_on ?_ identities
  intro a here b there same
  obtain ⟨slot, member, rfl⟩ := List.mem_map.mp here
  obtain ⟨other, member', rfl⟩ := List.mem_map.mp there
  refine Identifier.eq_of_display (plain member) (plain member') same fun names => ?_
  obtain ⟨_, _, _, here, listed⟩ := exists_expands expands member
  obtain ⟨_, _, _, there, listed'⟩ := exists_expands expands member'
  obtain ⟨resolved, scope⟩ := here.slot listed
  obtain ⟨resolved', scope'⟩ := there.slot listed'
  have types := Registry.eq_of_name distinct (Registry.mem_of_resolve resolved)
    (Registry.mem_of_resolve resolved') names
  exact scope.trans ((congrArg ModuleType.scope types).trans scope'.symm)

theorem nodup_display_of_fills {β : Type} {sections : List Section}
    {parts : List (List (Slot σ ω))} {instances : List (Instance β)}
    (distinct : (registry.types.map (·.name)).Nodup)
    (named : ∀ s ∈ sections, isIdentifier s.name.toList = true)
    (expands : List.Forall₂ (Section.Expands registry g) sections parts)
    (filled : List.Forall₂ Instance.Fills instances parts.flatten)
    (identities : (instances.map (·.identifier)).Nodup) :
    (instances.map (·.identifier.display)).Nodup := by
  rw [Instance.map_identifier filled] at identities
  have names := nodup_display distinct named expands identities
  rwa [← Instance.map_identifier filled, List.map_map] at names

end Slots

end DetectorSim
