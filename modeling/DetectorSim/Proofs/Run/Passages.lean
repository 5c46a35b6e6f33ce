import DetectorSim.Run.Workers

/-! The order of modules within an event. A passage asks for its modules one after the other, so
what has run is known from the trace, and an event that ends early was ended by the last module that
ran. -/

namespace DetectorSim

variable {σ ω : Type}

/-- The module that an entry of a trace says has run. -/
def TraceEntry.ran? : TraceEntry ω → Option ModuleId
  | .ran module => some module
  | _ => none

/-- The modules that have run in an event, in the order of their runs. -/
def EventState.entered (e : EventState ω) : List ModuleId :=
  e.trace.filterMap TraceEntry.ran?

/-- What an outcome is due to, if `last` is the last module that ran and the event had yet to reach
those ahead. -/
def EventOutcome.IsDueTo (index : UInt64) (last : Option (ReadyModule σ ω))
    (ahead : List (ReadyModule σ ω)) : EventOutcome → Prop
  | .completed => ahead = []
  | .skipped module e => ∃ i, last = some i ∧ module = i.id ∧ e.isSkip = true
  | .failed f => ∃ i, last = some i ∧ f.error.isSkip = false ∧
      f = ⟨index, i.id, i.identifier.display, f.error⟩
  | .panicked module => ∃ i, last = some i ∧ module = i.id

/-- Where an event stands among the modules: some of those behind it have run, the last of them is
`last`, and the others are ahead. -/
structure EventState.Stands (e : EventState ω) (modules : List (ReadyModule σ ω))
    (last : Option (ReadyModule σ ω)) (ahead : List (ReadyModule σ ω)) : Prop where
  behind : ∃ past, modules = past ++ ahead ∧ e.entered.Sublist (past.map (·.id)) ∧
    ∀ i ∈ last, i ∈ past
  latest : e.entered.getLast? = last.map (·.id)

namespace Passage

/-- A passage asks for the modules ahead in order and ends with an outcome that is due to the last
one that ran. -/
def Follows (index : UInt64) :
    Passage σ ω EventOutcome → Option (ReadyModule σ ω) → List (ReadyModule σ ω) → Prop
  | .done outcome, last, ahead => outcome.IsDueTo index last ahead
  | .ask (.enter event module) next, last, ahead => ∃ i rest, ahead = i :: rest ∧ event = index ∧
      module = i.id ∧ Follows index (next true) (some i) rest ∧ Follows index (next false) last rest
  | .ask (.inside _ _) next, last, ahead => ∀ answer, Follows index (next answer) last ahead

theorem ofHalt_isDueTo (index : UInt64) (i : ReadyModule σ ω) (ahead : List (ReadyModule σ ω))
    (halt : Halt) :
    (EventOutcome.ofHalt (i.eventView index) halt).IsDueTo index (some i) ahead := by
  cases halt with
  | error e =>
    cases skips : e.isSkip with
    | true =>
      simp only [EventOutcome.ofHalt, skips, if_true]
      exact ⟨i, rfl, rfl, skips⟩
    | false =>
      simp only [EventOutcome.ofHalt, skips, Bool.false_eq_true, if_false]
      exact ⟨i, rfl, skips, rfl⟩
  | panic => exact ⟨i, rfl, rfl⟩

theorem follows_ofModule {α : Type} {index : UInt64} {last : Option (ReadyModule σ ω)}
    {ahead : List (ReadyModule σ ω)} (view : EventView) (p : Interaction (eventInterface σ ω) α)
    {next : α → Passage σ ω EventOutcome} (onwards : ∀ a, (next a).Follows index last ahead) :
    (ofModule view p >>= next).Follows index last ahead := by
  induction p with
  | done a => exact onwards a
  | ask q _ ih => exact fun answer => ih answer

theorem through_follows (index : UInt64) (modules : List (ReadyModule σ ω))
    (last : Option (ReadyModule σ ω)) : (through index modules).Follows index last modules := by
  induction modules generalizing last with
  | nil => rfl
  | cons i rest ih =>
    refine ⟨i, rest, rfl, rfl, rfl, follows_ofModule _ _ fun ending => ?_, ih last⟩
    cases ending with
    | ok _ => exact ih (some i)
    | error halt => exact ofHalt_isDueTo index i rest halt

end Passage

namespace EventState

theorem entered_log (e : EventState ω) (entries : List (TraceEntry ω)) :
    (e.log entries).entered = e.entered ++ entries.filterMap TraceEntry.ran? :=
  List.filterMap_append

theorem entered_reply (e : EventState ω) (table : SubscriptionTable ω) (geometry : Geometry)
    (memory : σ) (view : EventView) (q : EventQuestion σ ω) :
    (e.reply table geometry memory view q).2.entered = e.entered := by
  cases q with
  | dispatch topic message =>
    refine (entered_log _ _).trans ?_
    rw [List.filterMap_map, List.filterMap_eq_nil_iff.mpr, List.append_nil]
    · rfl
    · exact fun _ _ => rfl
  | fetch topic => exact (entered_log e _).trans (List.append_nil _)
  | fetchAll topic => exact (entered_log e _).trans (List.append_nil _)
  | note n => exact (entered_log e _).trans (List.append_nil _)
  | _ => rfl

end EventState

theorem Commons.calls_after (c : Commons σ) (view : EventView) (q : EventQuestion σ ω)
    (answer : q.Answer) : (c.after view q answer).calls = c.calls := by
  cases q with
  | dispatch topic message =>
    simp only [after, undelivered]
    split
    · split <;> rfl
    · rfl
  | _ => rfl

namespace Passage

variable [Inhabited σ] {table : SubscriptionTable ω} {geometry : Geometry}

/-- The runs that the answer to a question starts. -/
def started (table : SubscriptionTable ω) (e : EventState ω) : PassageQuestion σ ω → List ModuleId
  | .enter _ module => if e.admits table module then [module] else []
  | .inside .. => []

/-- A run that an answer starts is put in the trace and among the calls, and the event goes on
behind its module. -/
theorem Follows.answer {index : UInt64} {question : PassageQuestion σ ω}
    {next : question.Answer → Passage σ ω EventOutcome} {modules ahead : List (ReadyModule σ ω)}
    {last : Option (ReadyModule σ ω)} {e : EventState ω}
    (follows : Passage.Follows index (.ask question next) last ahead)
    (stands : e.Stands modules last ahead) (c : Commons σ) :
    let reply := answers table geometry question (e, c)
    (∃ last ahead, reply.2.1.Stands modules last ahead ∧
      (next reply.1).Follows index last ahead) ∧
    reply.2.1.entered = e.entered ++ started table e question ∧
      reply.2.2.calls = (started table e question).map (.run index) ++ c.calls := by
  cases question with
  | enter event module =>
    obtain ⟨i, rest, rfl, rfl, rfl, ran, passed⟩ := follows
    obtain ⟨past, split, sublist, member⟩ := stands.behind
    -- the module is behind the event now, whether it runs or is passed over
    have split : modules = (past ++ [i]) ++ rest := by
      rw [split, List.append_assoc, List.singleton_append]
    simp only [answers, started]
    by_cases admitted : e.admits table i.id = true
    · simp only [admitted, if_true]
      have entered : (e.log [.ran i.id]).entered = e.entered ++ [i.id] := e.entered_log _
      refine ⟨⟨some i, rest, ⟨⟨_, split, ?_, ?_⟩, ?_⟩, ran⟩, entered, rfl⟩
      · rw [entered, List.map_append]
        exact sublist.append (.refl _)
      · rintro _ ⟨⟩
        exact List.mem_append_right _ (List.mem_singleton_self i)
      · rw [entered]
        exact List.getLast?_concat
    · simp only [admitted, Bool.false_eq_true, if_false]
      refine ⟨⟨last, rest, ⟨⟨_, split, ?_, ?_⟩, stands.latest⟩, passed⟩, ?_, rfl⟩
      · rw [List.map_append]
        exact sublist.trans (List.sublist_append_left ..)
      · exact fun j latest => List.mem_append_left _ (member j latest)
      · exact (List.append_nil _).symm
  | inside view q =>
    have entered := e.entered_reply table geometry (c.memories.getD view.module default) view q
    refine ⟨⟨last, ahead, ?_, follows _⟩, ?_, c.calls_after view q _⟩
    · exact ⟨entered ▸ stands.behind, entered ▸ stands.latest⟩
    · rw [started, List.append_nil]
      exact entered

end Passage

end DetectorSim
