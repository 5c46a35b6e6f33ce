import DetectorSim.Files.Tree
import DetectorSim.Proofs.Config.Access
import Mathlib.Data.List.Basic

/-! Which keys of a section were never asked for. What is done with a section, and with the copies
that are made of it, is told by a history of operations; a copy shares the history of its original
up to when it was made, and neither has a part in what is done with the other later on. -/

namespace DetectorSim.Config

namespace Section

theorem unusedKeys_pairwise (s : Section) : s.unusedKeys.Pairwise (· < ·) :=
  s.values.keys_pairwise.filter _

theorem mem_unusedKeys {s : Section} {key : String} :
    key ∈ s.unusedKeys ↔ s.has key = true ∧ key ∉ s.marks := by
  rw [unusedKeys, List.mem_filter, Dictionary.mem_keys, has]
  exact and_congr_right fun _ => by simp

theorem mem_marks_mark {s : Section} {key other : String} :
    key ∈ (s.mark other).marks ↔ key ∈ s.marks ∨ other = key := by
  rw [mark]
  split
  · rename_i known
    exact ⟨.inl, fun either => either.elim id fun same => same ▸ known⟩
  · rw [List.mem_cons, or_comm, eq_comm]

/-- What is done with a section. -/
inductive Operation where
  | set (key value : String)
  | setDefault (key value : String)
  | setList (key : String) (items : List String)
  | has (key : String)
  | size
  | keys
  | unusedKeys
  | text (key : String)
  | read (kind : Kind) (key : String)
  | readOr (kind : Kind) (key : String) (default : kind.Carrier)
  | read? (kind : Kind) (key : String)
  | choice (key : String) (choices : List String)
  | path (key : String) (mustExist : Bool)

namespace Operation

/-- The section behind an operation. -/
def on : Operation → Section → FileProgram Section
  | .set key value, s => pure (s.set key value)
  | .setDefault key value, s => pure (s.setDefault key value)
  | .setList key items, s => pure (s.setList key items)
  | .text key, s => pure ((Access.text key).on s).2
  | .read kind key, s => pure ((Access.read kind key).on s).2
  | .readOr kind key default, s => pure ((Access.readOr kind key default).on s).2
  | .read? kind key, s => pure ((Access.read? kind key).on s).2
  | .choice key choices, s => pure ((Access.choice key choices).on s).2
  | .path key mustExist, s => do return (← s.path key mustExist).2
  | .has _, s | .size, s | .keys, s | .unusedKeys, s => pure s

/-- The key that a reading is made with. -/
def readKey? : Operation → Option String
  | .text key | .read _ key | .readOr _ key _ | .read? _ key | .choice key _ | .path key _ =>
    some key
  | _ => none

/-- The key that an operation sets. -/
def setKey? : Operation → Option String
  | .set key _ | .setDefault key _ | .setList key _ => some key
  | _ => none

/-- The key that an operation marks. One that is only wanted if it is set is not marked otherwise. -/
def marked? (s : Section) : Operation → Option String
  | .read? _ key => if s.has key then some key else none
  | op => op.readKey?

/-- The section with what an operation sets. -/
def writes (s : Section) : Operation → Section
  | .set key value => s.set key value
  | .setDefault key value => s.setDefault key value
  | .setList key items => s.setList key items
  | _ => s

/-- The section that an operation leaves, whatever files there are. -/
def leaves (s : Section) (op : Operation) : Section :=
  (op.marked? s).elim (op.writes s) (op.writes s).mark

section Leaving

variable {τ : Type} {answers : Interaction.Answers fileInterface τ} {files : τ} {s : Section}
  {key : String} {op : Operation}

theorem run_path (key : String) (mustExist : Bool) (s : Section) :
    ((s.path key mustExist).run answers files).1.2 = s.mark key := by
  rw [Section.path, Access.on_path]
  cases (s.reading .path key).map s.locate with
  | error e => rfl
  | ok path =>
    cases mustExist with
    | false => rfl
    | true =>
      simp only [if_true, Interaction.run_bind]
      split <;> rfl

theorem run_on (op : Operation) (s : Section) :
    ((op.on s).run answers files).1 = op.leaves s := by
  cases op with
  | text key => exact congrArg Prod.snd (Access.on_text key s)
  | read kind key => exact congrArg Prod.snd (Access.on_read kind key s)
  | readOr kind key default => exact congrArg Prod.snd (Access.on_readOr kind key default s)
  | read? kind key =>
    refine (congrArg Prod.snd (Access.on_read? kind key s)).trans ?_
    rw [leaves, marked?]
    split <;> rfl
  | choice key choices => exact Access.on_choice key choices s
  | path key mustExist =>
    rw [on, Interaction.run_bind]
    exact run_path key mustExist s
  | _ => rfl

theorem marks_writes (op : Operation) (s : Section) : (op.writes s).marks = s.marks := by
  cases op with
  | setDefault key value =>
    rw [writes, Section.setDefault]
    split <;> rfl
  | _ => rfl

theorem mem_marks_leaves :
    key ∈ (op.leaves s).marks ↔ key ∈ s.marks ∨ op.marked? s = some key := by
  rw [leaves, ← marks_writes op s]
  cases op.marked? s with
  | none => simp
  | some other => simp [mem_marks_mark]

theorem marks_leaves (unread : op.readKey? = none) : (op.leaves s).marks = s.marks := by
  have unmarked : op.marked? s = none := by
    cases op with
    | read? kind key => cases unread
    | _ => exact unread
  rw [leaves, unmarked]
  exact marks_writes op s

theorem has_set {other value : String} :
    (s.set other value).has key = true ↔ s.has key = true ∨ other = key := by
  rw [Section.set, Section.has, Section.has, Dictionary.contains, Dictionary.find?_insert,
    Dictionary.contains]
  by_cases same : key = other
  · simp [same]
  · simp [same, Ne.symm same]

theorem has_writes : (op.writes s).has key = true ↔ s.has key = true ∨ op.setKey? = some key := by
  cases op with
  | set other value => exact has_set.trans (or_congr_right Option.some_inj.symm)
  | setList other items => exact has_set.trans (or_congr_right Option.some_inj.symm)
  | setDefault other value =>
    rw [writes, Section.setDefault, setKey?, Option.some_inj]
    split
    · rename_i known
      exact ⟨.inl, fun either => either.elim id fun same => same ▸ known⟩
    · exact has_set
  | _ => exact ⟨.inl, fun either => either.elim id nofun⟩

theorem has_leaves :
    (op.leaves s).has key = true ↔ s.has key = true ∨ op.setKey? = some key := by
  rw [← has_writes, leaves]
  cases op.marked? s with
  | none => rfl
  | some other => rw [Option.elim_some, Section.has_mark]

theorem marked?_eq_some_iff : op.marked? s = some key ↔
    op.readKey? = some key ∧ ((∃ kind, op = .read? kind key) → s.has key = true) := by
  cases op with
  | read? kind other =>
    rw [marked?, readKey?, Option.some_inj]
    by_cases known : s.has other = true
    · rw [if_pos known, Option.some_inj]
      exact ⟨fun same => ⟨same, fun _ => same ▸ known⟩, And.left⟩
    · rw [if_neg known]
      refine ⟨nofun, fun ⟨same, optional⟩ => ?_⟩
      subst same
      exact absurd (optional ⟨kind, rfl⟩) known
  | _ => exact ⟨fun same => ⟨same, nofun⟩, And.left⟩

end Leaving

end Operation

/-- The section behind a history of operations. -/
def after (s : Section) (history : List Operation) : Section :=
  history.foldl Operation.leaves s

theorem after_concat (s : Section) (history : List Operation) (op : Operation) :
    s.after (history ++ [op]) = op.leaves (s.after history) :=
  List.foldl_append

section Histories

variable {s : Section} {key : String} {history : List Operation}

theorem has_after : (s.after history).has key = true ↔
    s.has key = true ∨ ∃ op ∈ history, op.setKey? = some key := by
  induction history generalizing s with
  | nil => simp [after]
  | cons op rest ih =>
    refine ih.trans ?_
    simp only [Operation.has_leaves, or_assoc, List.mem_cons, exists_eq_or_imp]

/-- A key is marked if it was at first, or was marked by some operation. -/
theorem mem_marks_after : key ∈ (s.after history).marks ↔ key ∈ s.marks ∨
    ∃ before op behind, history = before ++ op :: behind ∧
      op.marked? (s.after before) = some key := by
  induction history generalizing s with
  | nil => exact ⟨.inl, fun either => either.elim id fun ⟨_, _, _, split, _⟩ => by simp at split⟩
  | cons op rest ih =>
    refine ih.trans ?_
    rw [Operation.mem_marks_leaves, or_assoc]
    refine or_congr_right ⟨?_, ?_⟩
    · rintro (here | ⟨before, later, behind, rfl, marks⟩)
      · exact ⟨[], op, rest, rfl, here⟩
      · exact ⟨op :: before, later, behind, rfl, marks⟩
    · rintro ⟨_ | ⟨first, before⟩, later, behind, split, marks⟩
      · cases split
        exact .inl marks
      · cases split
        exact .inr ⟨before, later, behind, rfl, marks⟩

end Histories

/-- What is done with sections that are known by their places. A copy gets the next place. -/
inductive Call where
  | operate (place : Nat) (op : Operation)
  | clone (place : Nat)

namespace Call

/-- The sections behind a call. -/
def on (sections : List Section) : Call → FileProgram (List Section)
  | .operate place op =>
    match sections[place]? with
    | some s => do return sections.set place (← op.on s)
    | none => pure sections
  | .clone place => pure (sections ++ sections[place]?.toList)

/-- The histories behind a call. A copy begins with the history of its original. -/
def extend (histories : List (List Operation)) : Call → List (List Operation)
  | .operate place op => histories.modify place (· ++ [op])
  | .clone place => histories ++ histories[place]?.toList

/-- Sections are told by their histories before a call, and so they are behind it. -/
theorem run_on {τ : Type} {answers : Interaction.Answers fileInterface τ} (s : Section)
    (histories : List (List Operation)) (call : Call) (files : τ) :
    ((call.on (histories.map s.after)).run answers files).1 =
      (call.extend histories).map s.after := by
  cases call with
  | clone place =>
    refine congrArg (_ ++ ·) ?_ |>.trans (List.map_append ..).symm
    rw [List.getElem?_map]
    cases histories[place]? <;> rfl
  | operate place op =>
    rw [on, extend, List.getElem?_map]
    cases found : histories[place]? with
    | none =>
      rw [List.modify_eq_self (List.getElem?_eq_none_iff.mp found)]
      rfl
    | some history =>
      simp only [Option.map_some, Interaction.run_bind, Operation.run_on]
      rw [← after_concat, List.modify_eq_set, found]
      exact List.map_set.symm

/-- The histories behind calls on a section and on the copies that are made. -/
def histories (calls : List Call) : List (List Operation) :=
  calls.foldl extend [[]]

theorem run_foldlM {τ : Type} {answers : Interaction.Answers fileInterface τ} (s : Section)
    (calls : List Call) (histories : List (List Operation)) (files : τ) :
    ((calls.foldlM on (histories.map s.after)).run answers files).1 =
      (calls.foldl extend histories).map s.after := by
  induction calls generalizing histories files with
  | nil => rfl
  | cons call rest ih =>
    rw [List.foldlM_cons, Interaction.run_bind, run_on, ih, List.foldl_cons]

end Call

/-- The keys that a section tells to be unused are in order. They are those that are set, had no
mark at first and were never read: not in the section, and not in the one that it was copied from,
before it was copied. Only a reading that wants a key if it is set leaves no mark on one that is
not. No operation takes a mark away, and only readings leave any. -/
theorem unused_keys_had_no_reading_that_marks {τ : Type}
    (answers : Interaction.Answers fileInterface τ) (files : τ) (start : Section)
    (calls : List Call) :
    ((calls.foldlM Call.on [start]).run answers files).1 =
        (Call.histories calls).map start.after ∧
      ∀ history : List Operation,
        (start.after history).unusedKeys.Pairwise (· < ·) ∧
        (∀ key, (start.after history).has key = true ↔
          start.has key = true ∨ ∃ op ∈ history, op.setKey? = some key) ∧
        (∀ key, key ∈ (start.after history).unusedKeys ↔
          (start.after history).has key = true ∧ key ∉ start.marks ∧
            ∀ before op behind, history = before ++ op :: behind → op.readKey? = some key →
              (∃ kind, op = .read? kind key) ∧ (start.after before).has key = false) ∧
        ∀ op : Operation,
          (∀ key ∈ (start.after history).marks, key ∈ (start.after (history ++ [op])).marks) ∧
          (op.readKey? = none →
            (start.after (history ++ [op])).marks = (start.after history).marks) := by
  refine ⟨Call.run_foldlM start calls [[]] files, fun history =>
    ⟨unusedKeys_pairwise _, fun key => has_after, fun key => ?_, fun op => ?_⟩⟩
  · rw [mem_unusedKeys, mem_marks_after, not_or]
    refine and_congr_right fun _ => and_congr_right fun _ => ?_
    simp only [not_exists, not_and, Operation.marked?_eq_some_iff]
    refine forall_congr' fun before => forall_congr' fun op => forall_congr' fun behind =>
      forall_congr' fun _ => forall_congr' fun _ => ?_
    rw [Classical.not_imp, Bool.not_eq_true]
  · rw [after_concat]
    exact ⟨fun key marked => Operation.mem_marks_leaves.mpr (.inl marked), Operation.marks_leaves⟩

/-- A key that was wanted if it is set, and is set only then, is told to be unused. It is not if a
default was given for it. -/
theorem optional_reading_leaves_no_mark :
    ((Section.new "Digitizer" none).after
        [.read? .text "gain", .set "gain" "2"]).unusedKeys = ["gain"] ∧
      ((Section.new "Digitizer" none).after
        [.readOr .text "gain" "1", .set "gain" "2"]).unusedKeys = [] := by
  decide +kernel

end Section

end DetectorSim.Config
