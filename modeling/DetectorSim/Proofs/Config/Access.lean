import DetectorSim.Config.Section

/-! What reading from a section gives and which mark it leaves. A sequence of readings hands the
section on from one to the next and ends with the first error. -/

namespace DetectorSim

section Outcomes

variable {α β ε : Type}

theorem bind_eq_ok_iff {x : Except ε α} {f : α → Except ε β} {b : β} :
    x.bind f = .ok b ↔ ∃ a, x = .ok a ∧ f a = .ok b := by
  cases x with
  | ok a =>
    constructor
    · exact fun same => ⟨a, rfl, same⟩
    · rintro ⟨_, here, same⟩
      cases here
      exact same
  | error e =>
    constructor
    · exact fun same => by cases same
    · rintro ⟨_, here, _⟩
      cases here

theorem refused_or_iff {c : Prop} [Decidable c] {e : ε} {x : Except ε α} {a : α} :
    (if c then .error e else x) = .ok a ↔ ¬c ∧ x = .ok a := by
  split
  · rename_i refused
    exact iff_of_false (fun same => by cases same) fun accepted => accepted.1 refused
  · rename_i accepted
    exact (and_iff_right accepted).symm

end Outcomes

namespace Config

/-- The value of a key as a kind, or why there is none. -/
def Section.reading (s : Section) (kind : Kind) (key : String) : Except ConfigError kind.Carrier :=
  match s.values.find? key with
  | none => .error (.missingKey s.identifier key)
  | some raw => (kind.readText raw).mapError (.wrongKind s.identifier key raw kind)

/-- The value of a key as a kind, or a default if the key is not set. -/
def Section.readingOr (s : Section) (kind : Kind) (key : String) (default : kind.Carrier) :
    Except ConfigError kind.Carrier :=
  if s.has key then s.reading kind key else .ok default

@[simp] theorem Section.values_mark (s : Section) (key : String) :
    (s.mark key).values = s.values := by
  rw [mark]
  split <;> rfl

@[simp] theorem Section.identifier_mark (s : Section) (key : String) :
    (s.mark key).identifier = s.identifier := by
  rw [mark]
  split <;> rfl

@[simp] theorem Section.locate_mark (s : Section) (key : String) (path : Path) :
    (s.mark key).locate path = s.locate path := by
  rw [mark]
  split <;> rfl

@[simp] theorem Section.has_mark (s : Section) (key other : String) :
    (s.mark key).has other = s.has other := by
  rw [has, has, values_mark]

@[simp] theorem Section.reading_mark (s : Section) (kind : Kind) (key other : String) :
    (s.mark other).reading kind key = s.reading kind key := by
  rw [reading, reading, values_mark, identifier_mark]

@[simp] theorem Section.readingOr_mark (s : Section) (kind : Kind) (key other : String)
    (default : kind.Carrier) :
    (s.mark other).readingOr kind key default = s.readingOr kind key default := by
  rw [readingOr, readingOr, reading_mark, has, has, values_mark]

theorem Section.reading_foldl_mark (keys : List String) (s : Section) (kind : Kind) (key : String) :
    (keys.foldl mark s).reading kind key = s.reading kind key := by
  induction keys generalizing s with
  | nil => rfl
  | cons other rest ih => rw [List.foldl_cons, ih, reading_mark]

theorem Section.identifier_foldl_mark (keys : List String) (s : Section) :
    (keys.foldl mark s).identifier = s.identifier := by
  induction keys generalizing s with
  | nil => rfl
  | cons key rest ih => rw [List.foldl_cons, ih, identifier_mark]

theorem Section.name_mark (s : Section) (key : String) : (s.mark key).name = s.name := by
  rw [mark]
  split <;> rfl

theorem Section.name_foldl_mark (keys : List String) (s : Section) :
    (keys.foldl mark s).name = s.name := by
  induction keys generalizing s with
  | nil => rfl
  | cons key rest ih => rw [List.foldl_cons, ih, name_mark]

section Values

variable {s t : Section} {key : String}

/-- Whatever sections are called, the same text under a key is read alike. -/
theorem Section.toOption_reading (same : t.values.find? key = s.values.find? key) (kind : Kind) :
    (t.reading kind key).toOption = (s.reading kind key).toOption := by
  rw [reading, reading, same]
  cases s.values.find? key with
  | none => rfl
  | some raw =>
    dsimp only
    cases kind.readText raw <;> rfl

theorem Section.toOption_readingOr (same : t.values.find? key = s.values.find? key) (kind : Kind)
    (default : kind.Carrier) :
    (t.readingOr kind key default).toOption = (s.readingOr kind key default).toOption := by
  rw [readingOr, readingOr, has, has, Dictionary.contains, Dictionary.contains, same]
  split
  · exact toOption_reading same kind
  · rfl

end Values

namespace Access

variable {α β : Type}

@[simp] theorem on_current (s : Section) : current.on s = (.ok s, s) := rfl

@[simp] theorem on_has (key : String) (s : Section) : (has key).on s = (.ok (s.has key), s) := rfl

theorem on_bind (access : Access α) (next : α → Access β) (s : Section) :
    (access >>= next).on s =
      match access.on s with
      | (.ok value, after) => (next value).on after
      | (.error e, after) => (.error e, after) := by
  change (ExceptT.bindCont next (access.on s).1).run (access.on s).2 = _
  generalize access.on s = read
  obtain ⟨outcome, after⟩ := read
  cases outcome <;> rfl

/-- What a sequence of readings gives, apart from the marks. -/
theorem outcome_bind {access : Access α} {next : α → Access β} {s after : Section}
    {outcome : Except ConfigError α} (read : access.on s = (outcome, after)) :
    ((access >>= next).on s).1 = outcome.bind fun value => ((next value).on after).1 := by
  rw [on_bind, read]
  cases outcome <;> rfl

/-- A sequence of readings that gives a value gives one at each step. -/
theorem ok_of_bind {access : Access α} {next : α → Access β} {s : Section} {b : β}
    (read : ((access >>= next).on s).1 = .ok b) :
    ∃ value after, access.on s = (.ok value, after) ∧ ((next value).on after).1 = .ok b := by
  rw [on_bind] at read
  generalize access.on s = first at read ⊢
  obtain ⟨outcome, after⟩ := first
  cases outcome with
  | ok value => exact ⟨value, after, rfl, read⟩
  | error e => cases read

theorem on_text (key : String) (s : Section) :
    (text key).on s =
      ((match s.values.find? key with
        | none => .error (.missingKey s.identifier key)
        | some raw => .ok raw), s.mark key) := by
  have marked : (modify (·.mark key) : Access PUnit).on s = (.ok (), s.mark key) := rfl
  rw [text, on_bind, marked, ← Section.values_mark s key, ← Section.identifier_mark s key]
  simp only [on_bind, on_current]
  cases (s.mark key).values.find? key <;> rfl

theorem on_read (kind : Kind) (key : String) (s : Section) :
    (read kind key).on s = (s.reading kind key, s.mark key) := by
  rw [read, on_bind, on_text, Section.reading]
  cases s.values.find? key with
  | none => rfl
  | some raw =>
    simp only
    cases kind.readText raw with
    | ok value => rfl
    | error fault =>
      rw [on_bind, on_current]
      exact congrArg (·, s.mark key) (by rw [Section.identifier_mark]; rfl)

theorem on_readOr (kind : Kind) (key : String) (default : kind.Carrier) (s : Section) :
    (readOr kind key default).on s = (s.readingOr kind key default, s.mark key) := by
  rw [readOr, on_bind, on_has, Section.readingOr]
  cases s.has key with
  | true => exact on_read kind key s
  | false => rfl

theorem on_read? (kind : Kind) (key : String) (s : Section) :
    (read? kind key).on s =
      if s.has key then ((s.reading kind key).map some, s.mark key) else (.ok none, s) := by
  rw [read?, on_bind, on_has]
  cases s.has key with
  | true =>
    simp only [if_true, on_bind, on_read]
    cases s.reading kind key <;> rfl
  | false => rfl

theorem on_path (key : String) (s : Section) :
    (path key).on s = ((s.reading .path key).map s.locate, s.mark key) := by
  refine (on_bind (read .path key)
    (fun written : Path => current >>= fun s => pure (s.locate written)) s).trans ?_
  rw [on_read]
  cases s.reading .path key with
  | error e => rfl
  | ok written => exact congrArg (fun path => (Except.ok path, _)) (s.locate_mark key written)

theorem on_choice (key : String) (choices : List String) (s : Section) :
    ((choice key choices).on s).2 = s.mark key := by
  refine (congrArg Prod.snd (on_bind (read .text key) _ s)).trans ?_
  rw [on_read]
  cases s.reading .text key with
  | error e => rfl
  | ok given =>
    dsimp only
    split <;> rfl

theorem choice_mark (key other : String) (choices : List String) (s : Section) :
    ((choice key choices).on (s.mark other)).1 = ((choice key choices).on s).1 := by
  refine (outcome_bind (on_read .text key (s.mark other))).trans ?_
  refine Eq.trans ?_ (outcome_bind (on_read .text key s)).symm
  rw [Section.reading_mark]
  refine congrArg _ (funext fun given => ?_)
  split
  · rfl
  · refine congrArg (fun owner => Except.error (ConfigError.unacceptable owner key _)) ?_
    rw [Section.identifier_mark, Section.identifier_mark, Section.identifier_mark]

/-- Reading that marks keys and leaves the section as it is otherwise. -/
def OnlyMarks (access : Access α) : Prop :=
  ∀ s, ∃ keys : List String, (access.on s).2 = keys.foldl Section.mark s

theorem onlyMarks_pure (value : α) : (pure value : Access α).OnlyMarks :=
  fun _ => ⟨[], rfl⟩

theorem onlyMarks_bind {access : Access α} {next : α → Access β} (first : access.OnlyMarks)
    (onwards : ∀ value, (next value).OnlyMarks) : (access >>= next).OnlyMarks := by
  intro s
  obtain ⟨keys, marked⟩ := first s
  rw [on_bind]
  generalize access.on s = read at marked ⊢
  obtain ⟨outcome, after⟩ := read
  cases outcome with
  | error e => exact ⟨keys, marked⟩
  | ok value =>
    obtain ⟨more, marked'⟩ := onwards value after
    exact ⟨keys ++ more, by rw [List.foldl_append, ← marked, ← marked']⟩

theorem onlyMarks_read (kind : Kind) (key : String) : (read kind key).OnlyMarks :=
  fun s => ⟨[key], congrArg Prod.snd (on_read kind key s)⟩

theorem onlyMarks_readOr (kind : Kind) (key : String) (default : kind.Carrier) :
    (readOr kind key default).OnlyMarks :=
  fun s => ⟨[key], congrArg Prod.snd (on_readOr kind key default s)⟩

theorem onlyMarks_choice (key : String) (choices : List String) : (choice key choices).OnlyMarks :=
  fun s => ⟨[key], on_choice key choices s⟩

theorem outcome_unless {c : Prop} [Decidable c] {key : String} {rule : ValueRule}
    {next : Unit → Access α} {s : Section} :
    ((if c then refuse key rule >>= next else next ()).on s).1 =
      if c then .error (.unacceptable s.identifier key rule) else ((next ()).on s).1 := by
  split <;> rfl

end Access

end Config

end DetectorSim
