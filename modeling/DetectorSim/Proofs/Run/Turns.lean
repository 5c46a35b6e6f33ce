import DetectorSim.Proofs.Run.Histories

/-! Turns of modules in the passage of an event. Each module is asked for behind those before it; it
is passed over or let in, and if its run ends early then so does the passage. -/

namespace DetectorSim

open Interaction (Exchange)

variable {σ ω : Type}

theorem ReadyModule.exists_around {modules : List (ReadyModule σ ω)}
    (increasing : modules.Pairwise (·.id < ·.id)) {i : ReadyModule σ ω} (member : i ∈ modules) :
    ∃ before after, modules = before ++ i :: after ∧
      (∀ j ∈ before, j.id < i.id) ∧ ∀ j ∈ after, i.id < j.id := by
  obtain ⟨before, after, rfl⟩ := List.append_of_mem member
  obtain ⟨_, behind, lower⟩ := List.pairwise_append.mp increasing
  refine ⟨before, after, rfl, fun j present => ?_, (List.pairwise_cons.mp behind).1⟩
  exact lower j present i (List.mem_cons_self ..)

/-- The module whose error or panic ended an event. -/
def EventOutcome.endedBy? : EventOutcome → Option ModuleId
  | .completed => none
  | .skipped module _ => some module
  | .failed f => some f.module
  | .panicked module => some module

theorem EventOutcome.endedBy?_ofHalt (view : EventView) (halt : Halt) :
    (ofHalt view halt).endedBy? = some view.module := by
  cases halt with
  | error e =>
    rw [ofHalt]
    split <;> rfl
  | panic => rfl

namespace Passage

variable {index : UInt64} {modules : List (ReadyModule σ ω)}
  {exchanges : List (Exchange (passageInterface σ ω))} {outcome : EventOutcome}

/-- How a passage goes on behind the run of a module. -/
def behind (index : UInt64) (i : ReadyModule σ ω) (rest : List (ReadyModule σ ω)) :
    Except Halt Unit → Passage σ ω EventOutcome
  | .ok _ => through index rest
  | .error halt => .done (.ofHalt (i.eventView index) halt)

theorem through_cons (index : UInt64) (i : ReadyModule σ ω) (rest : List (ReadyModule σ ω)) :
    through index (i :: rest) = .ask (.enter index i.id) fun entered =>
      let entered : Bool := entered
      if entered then
        ofModule (i.eventView index) (i.body.run (i.eventView index)).run >>= behind index i rest
      else through index rest :=
  rfl

/-- Where a passage can be: it has yet to ask for its first module, passed it over, or let it in. -/
theorem through_cons_reaches {i : ReadyModule σ ω} {rest : List (ReadyModule σ ω)}
    {point : Passage σ ω EventOutcome}
    (reaches : (through index (i :: rest)).Reaches exchanges point) :
    (exchanges = [] ∧ point = through index (i :: rest)) ∨
    (∃ more, exchanges = ⟨.enter index i.id, false⟩ :: more ∧
      (through index rest).Reaches more point) ∨
    ∃ more, exchanges = ⟨.enter index i.id, true⟩ :: more ∧
      (ofModule (i.eventView index) (i.body.run (i.eventView index)).run >>=
        behind index i rest).Reaches more point := by
  rw [through_cons] at reaches
  obtain _ | ⟨entered, onwards⟩ := reaches
  · exact .inl ⟨rfl, rfl⟩
  · refine .inr ?_
    revert entered
    intro (entered : Bool) onwards
    cases entered with
    | false => exact .inl ⟨_, rfl, onwards⟩
    | true => exact .inr ⟨_, rfl, onwards⟩

theorem reaches_pass {i : ReadyModule σ ω} {rest : List (ReadyModule σ ω)}
    {point : Passage σ ω EventOutcome} (onwards : (through index rest).Reaches exchanges point) :
    (through index (i :: rest)).Reaches (⟨.enter index i.id, false⟩ :: exchanges) point :=
  Interaction.Reaches.ask (I := passageInterface σ ω) _ onwards

theorem reaches_enter {i : ReadyModule σ ω} {rest : List (ReadyModule σ ω)}
    {point : Passage σ ω EventOutcome}
    (inside : (ofModule (i.eventView index) (i.body.run (i.eventView index)).run >>=
      behind index i rest).Reaches exchanges point) :
    (through index (i :: rest)).Reaches (⟨.enter index i.id, true⟩ :: exchanges) point :=
  Interaction.Reaches.ask (I := passageInterface σ ω) _ inside

/-- A passage goes on behind some of its modules just if they were all passed through. -/
theorem through_append (index : UInt64) (before rest : List (ReadyModule σ ω)) :
    through index (before ++ rest) = through index before >>= fun outcome =>
      match outcome with
      | .completed => through index rest
      | ended => .done ended := by
  induction before with
  | nil => rfl
  | cons i others ih =>
    have onwards (ending : Except Halt Unit) : behind index i (others ++ rest) ending =
        behind index i others ending >>= fun outcome =>
          match outcome with
          | .completed => through index rest
          | ended => .done ended := by
      cases ending with
      | ok _ => exact ih
      | error halt =>
        cases halt with
        | error e =>
          simp only [behind, EventOutcome.ofHalt]
          split <;> rfl
        | panic => rfl
    rw [List.cons_append, through_cons, through_cons]
    refine congrArg (Interaction.ask _) (funext fun (entered : Bool) => ?_)
    cases entered with
    | false => exact ih
    | true => exact (congrArg _ (funext onwards)).trans (Interaction.bind_assoc ..).symm

/-- A question is about one of these modules. -/
def IsAbout (among : ModuleId → Prop) : PassageQuestion σ ω → Prop
  | .enter _ module => among module
  | .inside view _ => among view.module

theorem IsAbout.mono {among others : ModuleId → Prop} {question : PassageQuestion σ ω}
    (about : IsAbout among question) (implies : ∀ module, among module → others module) :
    IsAbout others question := by
  cases question <;> exact implies _ about

theorem through_isAbout {among : ModuleId → Prop} (known : ∀ i ∈ modules, among i.id)
    {point : Passage σ ω EventOutcome} (reaches : (through index modules).Reaches exchanges point) :
    ∀ x ∈ exchanges, IsAbout among x.question := by
  have asks : (through index modules).OnlyAsks (IsAbout among) := by
    refine onlyAsks_through known fun i member => ?_
    exact (Interaction.onlyAsks_true _).mono fun _ _ => known i member
  exact (asks.reaches reaches).1

/-- What a module asks, as an exchange of the passage. -/
def within (view : EventView) (x : Exchange (eventInterface σ ω)) :
    Exchange (passageInterface σ ω) :=
  ⟨.inside view x.question, x.answer⟩

/-- What a module comes to on its own, it comes to as part of a passage. -/
theorem reaches_ofModule {α : Type} {p r : Interaction (eventInterface σ ω) α}
    {own : List (Exchange (eventInterface σ ω))} (view : EventView) (reaches : p.Reaches own r) :
    (ofModule view p).Reaches (own.map (within view)) (ofModule view r) := by
  induction reaches with
  | refl p => exact .refl _
  | @ask q next answer rest later _ ih =>
    exact @Interaction.Reaches.ask (passageInterface σ ω) α (.inside view q)
      (fun reply => ofModule view (next reply)) answer _ _ ih

/-- The run of a module comes to its end through its own exchanges. -/
theorem reaches_ofModule_done_iff {α : Type} {view : EventView}
    {p : Interaction (eventInterface σ ω) α} {a : α} :
    (ofModule view p).Reaches exchanges (.done a) ↔
      ∃ own, exchanges = own.map (within view) ∧ p.Reaches own (.done a) := by
  constructor
  · intro reaches
    induction p generalizing exchanges with
    | done b =>
      obtain ⟨rfl, same⟩ := Interaction.reaches_done_iff.mp reaches
      cases same
      exact ⟨[], rfl, .refl _⟩
    | ask q next ih =>
      obtain _ | ⟨answer, onwards⟩ := reaches
      obtain ⟨own, rfl, ends⟩ := ih answer onwards
      exact ⟨⟨q, answer⟩ :: own, rfl, Interaction.Reaches.ask (I := eventInterface σ ω) answer ends⟩
  · rintro ⟨own, rfl, ends⟩
    exact reaches_ofModule view ends

/-- In a passage, a module ran behind those before it and returned an error or panicked. -/
inductive HaltedBy (index : UInt64) : List (ReadyModule σ ω) →
    List (Exchange (passageInterface σ ω)) → ModuleId → Prop where
  | intro {before after : List (ReadyModule σ ω)} {i : ReadyModule σ ω}
      {first later : List (Exchange (passageInterface σ ω))}
      {own : List (Exchange (eventInterface σ ω))} {halt : Halt}
      (begins : (through index before).Reaches first (.done .completed))
      (halts : (i.body.run (i.eventView index)).run.Reaches own (.done (.error halt))) :
      HaltedBy index (before ++ i :: after)
        (first ++ ⟨.enter index i.id, true⟩ :: (own.map (within (i.eventView index)) ++ later)) i.id

/-- What a module did behind others, it did behind one more if that let the passage go on. -/
theorem HaltedBy.cons {i : ReadyModule σ ω} {module : ModuleId}
    {turn : List (Exchange (passageInterface σ ω))}
    (halted : HaltedBy index modules exchanges module)
    (passes : ∀ before, (through index (i :: before)).Reaches turn (through index before)) :
    HaltedBy index (i :: modules) (turn ++ exchanges) module := by
  cases halted with
  | @intro before after j first later own halt begins halts =>
    rw [← List.append_assoc]
    exact .intro ((passes before).trans begins) halts

theorem reaches_ofHalt {before : List (ReadyModule σ ω)} (after : List (ReadyModule σ ω))
    {i : ReadyModule σ ω} {first : List (Exchange (passageInterface σ ω))}
    {own : List (Exchange (eventInterface σ ω))} {halt : Halt}
    (begins : (through index before).Reaches first (.done .completed))
    (halts : (i.body.run (i.eventView index)).run.Reaches own (.done (.error halt))) :
    (through index (before ++ i :: after)).Reaches
      (first ++ ⟨.enter index i.id, true⟩ :: own.map (within (i.eventView index)))
      (.done (.ofHalt (i.eventView index) halt)) := by
  have inside : (ofModule (i.eventView index) (i.body.run (i.eventView index)).run).Reaches
      (own.map (within (i.eventView index))) (.done (.error halt)) :=
    reaches_ofModule_done_iff.mpr ⟨own, rfl, halts⟩
  rw [through_append]
  exact (begins.bind _).trans (reaches_enter (inside.bind (behind index i after)))

/-- The module that ended an event is the one that returned an error or panicked. -/
theorem haltedBy_iff (reaches : (through index modules).Reaches exchanges (.done outcome))
    {module : ModuleId} :
    HaltedBy index modules exchanges module ↔ outcome.endedBy? = some module := by
  constructor
  · intro halted
    cases halted with
    | @intro before after i first later own halt begins halts =>
      have ended := reaches_ofHalt after begins halts
      rw [← List.cons_append, ← List.append_assoc] at reaches
      obtain ⟨_, rfl⟩ := ended.of_done reaches
      exact EventOutcome.endedBy?_ofHalt _ halt
  · intro ended
    induction modules generalizing exchanges with
    | nil =>
      obtain ⟨_, same⟩ := Interaction.reaches_done_iff.mp reaches
      cases same
      cases ended
    | cons i rest ih =>
      rcases through_cons_reaches reaches with ⟨_, same⟩ | ⟨more, rfl, later⟩ | ⟨more, rfl, inside⟩
      · cases same
      · exact (ih later).cons fun before => reaches_pass (.refl (through index before))
      · obtain ⟨run, onwards, ending, rfl, own, later⟩ :=
          Interaction.reaches_bind_done_iff.mp inside
        cases ending with
        | ok _ =>
          exact (ih later).cons fun before => reaches_enter (own.bind (behind index i before))
        | error halt =>
          obtain ⟨rfl, same⟩ := Interaction.reaches_done_iff.mp later
          cases same
          rw [EventOutcome.endedBy?_ofHalt] at ended
          cases ended
          obtain ⟨own, rfl, halts⟩ := reaches_ofModule_done_iff.mp own
          change HaltedBy index ([] ++ i :: rest) ([] ++ _) i.id
          exact .intro (.refl _) halts

theorem endedBy_mem (reaches : (through index modules).Reaches exchanges (.done outcome))
    {module : ModuleId} (ended : outcome.endedBy? = some module) :
    module ∈ modules.map (·.id) := by
  cases (haltedBy_iff reaches).mpr ended with
  | intro begins halts => simp

theorem view_of_ofModule {α : Type} {view asking : EventView}
    {p : Interaction (eventInterface σ ω) α} {q : EventQuestion σ ω}
    {next : q.Answer → Passage σ ω α}
    (reaches : (ofModule view p).Reaches exchanges (.ask (.inside asking q) next)) :
    asking = view := by
  let own : PassageQuestion σ ω → Prop
    | .inside other _ => other = view
    | .enter .. => False
  have asks : (ofModule view p).OnlyAsks own :=
    onlyAsks_ofModule ((Interaction.onlyAsks_true p).mono fun _ _ => rfl)
  exact (asks.reaches reaches).2.1

theorem entered_of_inside {view : EventView} {q : EventQuestion σ ω}
    {next : q.Answer → Passage σ ω EventOutcome}
    (reaches : (through index modules).Reaches exchanges (.ask (.inside view q) next)) :
    ⟨.enter index view.module, true⟩ ∈ exchanges := by
  induction modules generalizing exchanges with
  | nil =>
    obtain ⟨_, same⟩ := Interaction.reaches_done_iff.mp reaches
    cases same
  | cons i rest ih =>
    rcases through_cons_reaches reaches with ⟨_, same⟩ | ⟨more, rfl, later⟩ | ⟨more, rfl, inside⟩
    · cases same
    · exact List.mem_cons_of_mem _ (ih later)
    · rcases Interaction.reaches_bind inside with
        ⟨question, onwards, within, same⟩ | ⟨_, _, ending, rfl, _, later⟩
      · cases same
        cases view_of_ofModule within
        exact List.mem_cons_self ..
      · cases ending with
        | ok _ => exact List.mem_cons_of_mem _ (List.mem_append_right _ (ih later))
        | error halt =>
          obtain ⟨_, same⟩ := Interaction.reaches_done_iff.mp later
          cases same

/-- What was exchanged before a module asks something is about it and the modules before it. -/
theorem isAbout_le_of_inside (increasing : modules.Pairwise (·.id < ·.id)) {view : EventView}
    {q : EventQuestion σ ω} {next : q.Answer → Passage σ ω EventOutcome}
    (reaches : (through index modules).Reaches exchanges (.ask (.inside view q) next)) :
    (∃ j ∈ modules, j.id = view.module) ∧
      ∀ x ∈ exchanges, IsAbout (· ≤ view.module) x.question := by
  induction modules generalizing exchanges with
  | nil =>
    obtain ⟨_, same⟩ := Interaction.reaches_done_iff.mp reaches
    cases same
  | cons i rest ih =>
    obtain ⟨higher, increasing⟩ := List.pairwise_cons.mp increasing
    rcases through_cons_reaches reaches with ⟨_, same⟩ | ⟨more, rfl, later⟩ | ⟨more, rfl, inside⟩
    · cases same
    · obtain ⟨⟨j, listed, same⟩, others⟩ := ih increasing later
      have below : i.id ≤ view.module := same ▸ Nat.le_of_lt (higher j listed)
      exact ⟨⟨j, List.mem_cons_of_mem _ listed, same⟩, List.forall_mem_cons.mpr ⟨below, others⟩⟩
    · have asks : (ofModule (i.eventView index) (i.body.run (i.eventView index)).run).OnlyAsks
          (IsAbout (· = i.id)) :=
        onlyAsks_ofModule ((Interaction.onlyAsks_true _).mono fun _ _ => rfl)
      rcases Interaction.reaches_bind inside with
        ⟨question, onwards, within, same⟩ | ⟨own, _, ending, rfl, within, later⟩
      · cases same
        cases view_of_ofModule within
        refine ⟨⟨i, List.mem_cons_self, rfl⟩, List.forall_mem_cons.mpr ⟨Nat.le_refl _, ?_⟩⟩
        exact fun x member => ((asks.reaches within).1 x member).mono fun _ => Nat.le_of_eq
      · cases ending with
        | ok _ =>
          obtain ⟨⟨j, listed, same⟩, others⟩ := ih increasing later
          have below : i.id ≤ view.module := same ▸ Nat.le_of_lt (higher j listed)
          refine ⟨⟨j, List.mem_cons_of_mem _ listed, same⟩, List.forall_mem_cons.mpr ⟨below, ?_⟩⟩
          refine List.forall_mem_append.mpr ⟨fun x member => ?_, others⟩
          exact ((asks.reaches within).1 x member).mono fun _ same => same ▸ below
        | error halt =>
          obtain ⟨_, same⟩ := Interaction.reaches_done_iff.mp later
          cases same

/-- The dispatch that an exchange is, if a module before a place makes it. -/
def dispatchBelow? (place : ModuleId) : Exchange (passageInterface σ ω) → Option Dispatch
  | ⟨.inside view (.dispatch topic message), _⟩ =>
    if view.module < place then some ⟨view.origin, ⟨topic, message⟩⟩ else none
  | _ => none

theorem dispatchBelow?_of_lt {place : ModuleId} {x : Exchange (passageInterface σ ω)}
    (below : IsAbout (· < place) x.question) : dispatchBelow? place x = dispatch? x := by
  obtain ⟨question, answer⟩ := x
  cases question with
  | enter event module => rfl
  | inside view q =>
    cases q with
    | dispatch topic message => exact if_pos below
    | _ => rfl

theorem dispatchBelow?_of_le {place : ModuleId} {x : Exchange (passageInterface σ ω)}
    (above : IsAbout (place ≤ ·) x.question) : dispatchBelow? place x = none := by
  obtain ⟨question, answer⟩ := x
  cases question with
  | enter event module => rfl
  | inside view q =>
    cases q with
    | dispatch topic message => exact if_neg (Nat.not_lt.mpr above)
    | _ => rfl

theorem filterMap_dispatchBelow {place : ModuleId}
    {first rest : List (Exchange (passageInterface σ ω))}
    (below : ∀ x ∈ first, IsAbout (· < place) x.question)
    (above : ∀ x ∈ rest, IsAbout (place ≤ ·) x.question) :
    (first ++ rest).filterMap (dispatchBelow? place) = first.filterMap dispatch? := by
  have none : rest.filterMap (dispatchBelow? place) = [] :=
    List.filterMap_eq_nil_iff.mpr fun x member => dispatchBelow?_of_le (above x member)
  rw [List.filterMap_append, none, List.append_nil]
  exact List.filterMap_congr fun x member => dispatchBelow?_of_lt (below x member)

theorem among_of_entered {among : ModuleId → Prop}
    (about : ∀ x ∈ exchanges, IsAbout among x.question) {module : ModuleId}
    (member : module ∈ exchanges.filterMap entered?) : among module := by
  obtain ⟨⟨question, answer⟩, present, same⟩ := List.mem_filterMap.mp member
  have known := about _ present
  cases question with
  | enter event asked =>
    revert answer
    intro (entered : Bool) present same known
    cases entered with
    | false => cases same
    | true =>
      cases same
      exact known
  | inside view q => cases same

/-- What a module asked, if an exchange of a passage is its own. -/
def own? (module : ModuleId) :
    Exchange (passageInterface σ ω) → Option (Exchange (eventInterface σ ω))
  | ⟨.inside view q, answer⟩ => if view.module = module then some ⟨q, answer⟩ else none
  | _ => none

theorem mem_own_iff {module : ModuleId} {told : List (Exchange (passageInterface σ ω))}
    {x : Exchange (eventInterface σ ω)} : x ∈ told.filterMap (own? module) ↔
      ∃ view, view.module = module ∧ ⟨.inside view x.question, x.answer⟩ ∈ told := by
  rw [List.mem_filterMap]
  constructor
  · rintro ⟨⟨question, answer⟩, present, same⟩
    cases question with
    | enter event asked => cases same
    | inside view q =>
      obtain ⟨mine, same⟩ := Option.ite_none_right_eq_some.mp same
      cases same
      exact ⟨view, mine, present⟩
  · rintro ⟨view, mine, present⟩
    exact ⟨_, present, if_pos mine⟩

theorem own?_of_isAbout {among : ModuleId → Prop} {module : ModuleId}
    {x : Exchange (passageInterface σ ω)} (about : IsAbout among x.question)
    (apart : ¬among module) : own? module x = none := by
  obtain ⟨question, answer⟩ := x
  cases question with
  | enter event asked => rfl
  | inside view q =>
    refine if_neg fun same => apart ?_
    exact same ▸ about

theorem filterMap_own_of_isAbout {among : ModuleId → Prop} {module : ModuleId}
    (about : ∀ x ∈ exchanges, IsAbout among x.question) (apart : ¬among module) :
    exchanges.filterMap (own? module) = [] :=
  List.filterMap_eq_nil_iff.mpr fun x member => own?_of_isAbout (about x member) apart

theorem own?_within (i : ReadyModule σ ω) (x : Exchange (eventInterface σ ω)) :
    own? i.id (within (i.eventView index) x) = some x :=
  if_pos rfl

theorem filterMap_own_within (i : ReadyModule σ ω)
    (own : List (Exchange (eventInterface σ ω))) :
    (own.map (within (i.eventView index))).filterMap (own? i.id) = own := by
  rw [List.filterMap_map]
  exact (List.filterMap_congr fun x _ => own?_within i x).trans List.filterMap_some

section Turn

variable {i : ReadyModule σ ω}

/-- What becomes of a module in a passage: a module before it ended the event, it was passed over,
or it ran to its end. -/
inductive Turn (index : UInt64) (i : ReadyModule σ ω) :
    List (Exchange (passageInterface σ ω)) → EventOutcome → Prop where
  | missed {exchanges : List (Exchange (passageInterface σ ω))} {outcome : EventOutcome}
      {module : ModuleId} (ended : outcome.endedBy? = some module) (lower : module < i.id)
      (below : ∀ x ∈ exchanges, IsAbout (· < i.id) x.question) : Turn index i exchanges outcome
  | refused {first later : List (Exchange (passageInterface σ ω))} {outcome : EventOutcome}
      (below : ∀ x ∈ first, IsAbout (· < i.id) x.question)
      (above : ∀ x ∈ later, IsAbout (i.id < ·) x.question)
      (unended : ∀ module, outcome.endedBy? = some module → i.id ≤ module) :
      Turn index i (first ++ ⟨.enter index i.id, false⟩ :: later) outcome
  | ran {first later : List (Exchange (passageInterface σ ω))} {outcome : EventOutcome}
      {own : List (Exchange (eventInterface σ ω))} {ending : Except Halt Unit}
      (below : ∀ x ∈ first, IsAbout (· < i.id) x.question)
      (above : ∀ x ∈ later, IsAbout (i.id < ·) x.question)
      (unended : ∀ module, outcome.endedBy? = some module → i.id ≤ module)
      (runs : (i.body.run (i.eventView index)).run.Reaches own (.done ending))
      (halts : ∀ halt, ending = .error halt → outcome = .ofHalt (i.eventView index) halt) :
      Turn index i (first ++ ⟨.enter index i.id, true⟩ ::
        (own.map (within (i.eventView index)) ++ later)) outcome

/-- An event in which a module ran was not ended by a module before it. -/
theorem Turn.le_endedBy {exchanges : List (Exchange (passageInterface σ ω))}
    {outcome : EventOutcome} (turn : Turn index i exchanges outcome)
    (entered : i.id ∈ exchanges.filterMap entered?) {module : ModuleId}
    (ended : outcome.endedBy? = some module) : i.id ≤ module := by
  cases turn with
  | missed _ _ below => exact absurd (among_of_entered below entered) (Nat.lt_irrefl _)
  | refused _ _ unended => exact unended module ended
  | ran _ _ unended _ _ => exact unended module ended

theorem not_entered_of_refused {first later : List (Exchange (passageInterface σ ω))}
    (below : ∀ x ∈ first, IsAbout (· < i.id) x.question)
    (above : ∀ x ∈ later, IsAbout (i.id < ·) x.question) :
    i.id ∉ (first ++ ⟨.enter index i.id, false⟩ :: later).filterMap entered? := by
  rw [List.filterMap_append, List.mem_append]
  rintro (before | after)
  · exact Nat.lt_irrefl _ (among_of_entered below before)
  · exact Nat.lt_irrefl _ (among_of_entered above after)

theorem entered_of_ran (first rest : List (Exchange (passageInterface σ ω))) :
    i.id ∈ (first ++ ⟨.enter index i.id, true⟩ :: rest).filterMap entered? := by
  rw [List.filterMap_append]
  exact List.mem_append_right _ (List.mem_cons_self ..)

/-- Behind its request, a module asks for itself, and others ask for those behind it. -/
theorem isAbout_turn {entered : Bool} (own : List (Exchange (eventInterface σ ω)))
    {later : List (Exchange (passageInterface σ ω))}
    (above : ∀ x ∈ later, IsAbout (i.id < ·) x.question) :
    ∀ x ∈ (⟨.enter index i.id, entered⟩ :: (own.map (within (i.eventView index)) ++ later) :
      List (Exchange (passageInterface σ ω))), IsAbout (i.id ≤ ·) x.question := by
  refine List.forall_mem_cons.mpr ⟨Nat.le_refl _, fun x member => ?_⟩
  rcases List.mem_append.mp member with mine | further
  · obtain ⟨y, _, rfl⟩ := List.mem_map.mp mine
    exact Nat.le_refl _
  · exact (above x further).mono fun _ => Nat.le_of_lt

/-- A passage to its end takes each of its modules through its turn. -/
theorem turn_of_reaches {before after : List (ReadyModule σ ω)}
    (reaches : (through index (before ++ i :: after)).Reaches exchanges (.done outcome))
    (lower : ∀ j ∈ before, j.id < i.id) (higher : ∀ j ∈ after, i.id < j.id) :
    Turn index i exchanges outcome := by
  rw [through_append] at reaches
  obtain ⟨first, rest, reached, rfl, begins, ends⟩ := Interaction.reaches_bind_done_iff.mp reaches
  have below : ∀ x ∈ first, IsAbout (· < i.id) x.question := through_isAbout lower begins
  have stopped {module : ModuleId} (halted : reached.endedBy? = some module)
      (same : (Interaction.done reached : Passage σ ω EventOutcome).Reaches rest (.done outcome)) :
      Turn index i (first ++ rest) outcome := by
    obtain ⟨rfl, same⟩ := Interaction.reaches_done_iff.mp same
    cases same
    obtain ⟨j, present, rfl⟩ := List.mem_map.mp (endedBy_mem begins halted)
    rw [List.append_nil]
    exact .missed halted (lower j present) below
  cases reached with
  | skipped module error => exact stopped rfl ends
  | failed f => exact stopped rfl ends
  | panicked module => exact stopped rfl ends
  | completed =>
    have unended (module : ModuleId) (ended : outcome.endedBy? = some module) :
        i.id ≤ module := by
      obtain ⟨j, present, rfl⟩ := List.mem_map.mp (endedBy_mem ends ended)
      rcases List.mem_cons.mp present with rfl | later
      · exact Nat.le_refl _
      · exact Nat.le_of_lt (higher j later)
    rcases through_cons_reaches ends with ⟨_, same⟩ | ⟨more, rfl, later⟩ | ⟨more, rfl, inside⟩
    · cases same
    · exact .refused below (through_isAbout higher later) unended
    · obtain ⟨run, later, ending, rfl, runs, onwards⟩ :=
        Interaction.reaches_bind_done_iff.mp inside
      obtain ⟨own, rfl, finishes⟩ := reaches_ofModule_done_iff.mp runs
      cases ending with
      | ok _ =>
        refine .ran below (through_isAbout higher onwards) unended finishes fun halt same => ?_
        cases same
      | error halt =>
        obtain ⟨rfl, same⟩ := Interaction.reaches_done_iff.mp onwards
        cases same
        refine .ran below (List.forall_mem_nil _) unended finishes fun halt same => ?_
        cases same
        rfl

end Turn

end Passage

end DetectorSim
