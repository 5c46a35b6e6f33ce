import DetectorSim.Config.Settings
import DetectorSim.Proofs.Config.Access
import DetectorSim.Proofs.Config.Concatenation
import DetectorSim.Proofs.Config.Numbers
import DetectorSim.Proofs.Dictionary
import Mathlib.Data.List.Forall2

/-! The global section of a run. Under each key it holds what the last global section with this key
says, so it depends neither on how its assignments are spread over sections nor on where these
stand among the others. -/

namespace DetectorSim.Config

namespace Section

/-- The value under a key in the last section that sets it. -/
def lastValue (sections : List Section) (key : String) : Option String :=
  sections.reverse.findSome? (·.values.find? key)

/-- A section holds what assignments in order leave: under each key the last value. -/
def Holds (s : Section) (assignments : List (String × String)) : Prop :=
  ∀ key, s.values.find? key = assignments.reverse.lookup key

/-- Sections that differ in how run-wide assignments are spread over them: a global section is cut
into pieces with the same assignments in the same order, or changes places with a module section
beside it, any number of times, there and back. -/
inductive Regroups : List Section → List Section → Prop where
  | split {s : Section} {pieces : List Section} {parts : List (List (String × String))}
      (globals : ∀ piece ∈ s :: pieces, piece.isGlobal = true) (whole : s.Holds parts.flatten)
      (cut : List.Forall₂ Holds pieces parts) (before after : List Section) :
      Regroups (before ++ s :: after) (before ++ pieces ++ after)
  | move {s other : Section} (global : s.isGlobal = true) (module : other.isGlobal = false)
      (before after : List Section) :
      Regroups (before ++ s :: other :: after) (before ++ other :: s :: after)
  | symm {first second : List Section} (regroups : Regroups first second) : Regroups second first
  | trans {first second third : List Section} (regroups : Regroups first second)
      (further : Regroups second third) : Regroups first third

theorem lastValue_append (sections more : List Section) (key : String) :
    lastValue (sections ++ more) key = (lastValue more key).or (lastValue sections key) := by
  simp [lastValue]

theorem lastValue_cons (s : Section) (rest : List Section) (key : String) :
    lastValue (s :: rest) key = (lastValue rest key).or (s.values.find? key) := by
  simp [lastValue]

/-- The last section with a key says what the last of all assignments to it says. -/
theorem lastValue_eq_lookup {sections : List Section} {parts : List (List (String × String))}
    (held : List.Forall₂ Holds sections parts) (key : String) :
    lastValue sections key = parts.flatten.reverse.lookup key := by
  induction held with
  | nil => rfl
  | cons holds _ ih =>
    rw [lastValue_cons, ih, holds key, List.flatten_cons, List.reverse_append, List.lookup_append]

theorem Regroups.modules {first second : List Section} (regroups : Regroups first second) :
    second.filter (!·.isGlobal) = first.filter (!·.isGlobal) := by
  induction regroups with
  | @split s pieces _ globals _ _ before after =>
    obtain ⟨global, others⟩ := List.forall_mem_cons.mp globals
    have none : pieces.filter (!·.isGlobal) = [] :=
      List.filter_eq_nil_iff.mpr fun piece member => by simp [others piece member]
    simp [none, global]
  | move global module before after => simp [global, module]
  | symm _ same => exact same.symm
  | trans _ _ same further => exact further.trans same

theorem Regroups.lastValue_eq {first second : List Section} (regroups : Regroups first second)
    (key : String) :
    lastValue (second.filter isGlobal) key = lastValue (first.filter isGlobal) key := by
  induction regroups with
  | @split s pieces _ globals whole cut before after =>
    obtain ⟨global, others⟩ := List.forall_mem_cons.mp globals
    have all : pieces.filter isGlobal = pieces := List.filter_eq_self.mpr others
    have same : lastValue pieces key = s.values.find? key :=
      (lastValue_eq_lookup cut key).trans (whole key).symm
    simp [all, global, lastValue_append, lastValue_cons, same, Option.or_assoc]
  | move global module before after => simp [global, module]
  | symm _ same => exact same.symm
  | trans _ _ same further => exact further.trans same

theorem holds_assign (name : String) (detector : Option String)
    (assignments : List (String × String)) :
    ((Section.new name detector).assign assignments).Holds assignments := by
  intro key
  have values := (foldl_set assignments (Section.new name detector)).2.2.2.2 key
  exact values.trans (Option.or_none ..)

section Absorbing

variable (s : Section)

theorem find?_absorb (other : Section) (key : String) :
    (s.absorb other).values.find? key = (other.values.find? key).or (s.values.find? key) := by
  rw [← other.values.lookup_reverse]
  exact (foldl_set other.values.entries s).2.2.2.2 key

theorem marks_absorb (other : Section) : (s.absorb other).marks = s.marks :=
  (foldl_set other.values.entries s).2.2.2.1

theorem find?_foldl_absorb (later : List Section) (key : String) :
    (later.foldl absorb s).values.find? key =
      (lastValue later key).or (s.values.find? key) := by
  induction later generalizing s with
  | nil => rfl
  | cons next rest ih =>
    rw [List.foldl_cons, ih, find?_absorb, lastValue_cons, Option.or_assoc]

theorem marks_foldl_absorb (later : List Section) : (later.foldl absorb s).marks = s.marks := by
  induction later generalizing s with
  | nil => rfl
  | cons next rest ih => rw [List.foldl_cons, ih, marks_absorb]

theorem find?_setDefault (key value other : String) :
    (s.setDefault key value).values.find? other =
      (s.values.find? other).or (if other = key then some value else none) := by
  rw [setDefault, has, Dictionary.contains]
  cases present : s.values.find? key with
  | some held =>
    by_cases same : other = key <;> simp [same, present]
  | none =>
    by_cases same : other = key <;> simp [same, present, find?_set]

theorem marks_setDefault (key value : String) : (s.setDefault key value).marks = s.marks := by
  rw [setDefault]
  split <;> rfl

end Absorbing

end Section

namespace RunConfig

open Section

variable (seed : UInt64) (sections : List Section)

theorem find?_mergeGlobals (globals : List Section) (key : String) :
    (mergeGlobals globals).values.find? key = lastValue globals key := by
  cases globals with
  | nil => rfl
  | cons first later => rw [mergeGlobals, find?_foldl_absorb, lastValue_cons]

theorem marks_mergeGlobals (globals : List Section) :
    (mergeGlobals globals).marks = globals.head?.elim [] Section.marks := by
  cases globals with
  | nil => rfl
  | cons first later => exact marks_foldl_absorb first later

/-- The global section has the last value under each key, and the seed if no value is given. -/
theorem find?_globals (key : String) :
    (ofSections seed sections).globals.values.find? key =
      (lastValue (sections.filter isGlobal) key).or
        (if key = "random_seed" then some (toString seed.toNat) else none) := by
  rw [ofSections, find?_setDefault, find?_mergeGlobals]

theorem marks_globals :
    (ofSections seed sections).globals.marks =
      (sections.filter isGlobal).head?.elim [] Section.marks := by
  rw [ofSections, marks_setDefault, marks_mergeGlobals]

/-- The settings of a run on so many processors. -/
def settings (c : RunConfig) (processors : Nat) : Except ConfigError Settings :=
  ((Settings.read processors).on c.globals).1

end RunConfig

namespace Settings

variable {refusal refusal' : ConfigError}
  {workers workers' : Except ConfigError IntegerType.usize.Carrier}
  {events events' seed seed' : Except ConfigError IntegerType.u64.Carrier}
  {multithreading multithreading' : Except ConfigError Bool}

/-- Settings from what is read under their keys, one after the other, and the error for a run
without workers. -/
def ofReadings (refusal : ConfigError) (workers : Except ConfigError IntegerType.usize.Carrier)
    (events seed : Except ConfigError IntegerType.u64.Carrier)
    (multithreading : Except ConfigError Bool) : Except ConfigError Settings :=
  workers.bind fun workers =>
    if workers.val = 0 then .error refusal
    else events.bind fun events => seed.bind fun seed => multithreading.bind fun multithreading =>
      .ok {
        events := UInt64.ofNat events.val.toNat
        workers := workers.val.toNat
        seed := UInt64.ofNat seed.val.toNat
        multithreading }

/-- Which error is met makes no difference to settings that are read without one. -/
theorem toOption_ofReadings (sameWorkers : workers'.toOption = workers.toOption)
    (sameEvents : events'.toOption = events.toOption) (sameSeed : seed'.toOption = seed.toOption)
    (sameMultithreading : multithreading'.toOption = multithreading.toOption) :
    (ofReadings refusal' workers' events' seed' multithreading').toOption =
      (ofReadings refusal workers events seed multithreading).toOption := by
  have bind {α : Type} {x x' : Except ConfigError α} {f f' : α → Except ConfigError Settings}
      (same : x'.toOption = x.toOption) (next : ∀ a, (f' a).toOption = (f a).toOption) :
      (x'.bind f').toOption = (x.bind f).toOption := by
    cases x <;> cases x' <;> simp_all [Except.toOption, Except.bind]
  refine bind sameWorkers fun workers => ?_
  split
  · rfl
  · exact bind sameEvents fun events => bind sameSeed fun seed =>
      bind sameMultithreading fun multithreading => rfl

theorem ofReadings_seed {held other : IntegerType.u64.Carrier} :
    ofReadings refusal workers events (.ok other) multithreading =
      (ofReadings refusal workers events (.ok held) multithreading).map fun r =>
        { r with seed := UInt64.ofNat other.val.toNat } := by
  cases workers with
  | error e => rfl
  | ok workers =>
    simp only [ofReadings, Except.bind]
    split
    · rfl
    · cases events <;> cases multithreading <;> rfl

end Settings

namespace RunConfig

section Reading

variable {c d : RunConfig} (processors : Nat)

/-- The settings are made of what the global section has under four keys. -/
theorem settings_eq (c : RunConfig) : c.settings processors =
    Settings.ofReadings (.unacceptable c.globals.identifier "workers" .noWorker)
      (c.globals.readingOr .count "workers" (Kind.countOf processors))
      (c.globals.readingOr .u64 "number_of_events" (⟨1, by decide⟩ : IntegerType.u64.Carrier))
      (c.globals.reading .u64 "random_seed") (c.globals.readingOr .boolean "multithreading" true) := by
  refine (Access.outcome_bind (Access.on_readOr ..)).trans ?_
  refine congrArg (Except.bind _) (funext fun workers => ?_)
  split
  · rw [← Section.identifier_mark c.globals "workers"]
    rfl
  · refine (Access.outcome_bind (Access.on_readOr ..)).trans ?_
    refine congrArg₂ Except.bind (Section.readingOr_mark ..) (funext fun events => ?_)
    refine (Access.outcome_bind (Access.on_read ..)).trans ?_
    refine congrArg₂ Except.bind
      ((Section.reading_mark ..).trans (Section.reading_mark ..)) (funext fun seed => ?_)
    refine (Access.outcome_bind (Access.on_readOr ..)).trans ?_
    refine congrArg₂ Except.bind ?_ rfl
    exact (Section.readingOr_mark ..).trans
      ((Section.readingOr_mark ..).trans (Section.readingOr_mark ..))

/-- Run configurations whose global sections have the same name and the same values have the same
settings. -/
theorem settings_congr (owner : d.globals.identifier = c.globals.identifier)
    (same : ∀ key, d.globals.values.find? key = c.globals.values.find? key) :
    d.settings processors = c.settings processors := by
  have reading (kind : Kind) (key : String) :
      d.globals.reading kind key = c.globals.reading kind key := by
    rw [Section.reading, Section.reading, same, owner]
  have readingOr (kind : Kind) (key : String) (default : kind.Carrier) :
      d.globals.readingOr kind key default = c.globals.readingOr kind key default := by
    rw [Section.readingOr, Section.readingOr, Section.has, Section.has, Dictionary.contains,
      Dictionary.contains, same, reading]
  rw [settings_eq, settings_eq, owner]
  exact congr (congr (congr (congrArg _ (readingOr ..)) (readingOr ..)) (reading ..))
    (readingOr ..)

theorem toOption_settings_congr
    (same : ∀ key, d.globals.values.find? key = c.globals.values.find? key) :
    (d.settings processors).toOption = (c.settings processors).toOption := by
  rw [settings_eq, settings_eq]
  exact Settings.toOption_ofReadings (Section.toOption_readingOr (same _) ..)
    (Section.toOption_readingOr (same _) ..) (Section.toOption_reading (same _) ..)
    (Section.toOption_readingOr (same _) ..)

theorem reading_seed {s : Section} {seed : UInt64}
    (holds : s.values.find? "random_seed" = some (toString seed.toNat)) :
    ∃ drawn : IntegerType.u64.Carrier, s.reading .u64 "random_seed" = .ok drawn ∧
      UInt64.ofNat drawn.val.toNat = seed := by
  have within : (seed.toNat : Int) ≤ IntegerType.u64.high := by
    have := seed.toNat_lt
    change (seed.toNat : Int) ≤ 0xffffffffffffffff
    omega
  have read := Kind.readText_toString .u64 within
  refine ⟨⟨seed.toNat, Int.natCast_nonneg _, within⟩, ?_, UInt64.ofNat_toNat⟩
  rw [Section.reading, holds]
  exact congrArg (Except.mapError _) read

theorem settings_override_seed {held : IntegerType.u64.Carrier}
    (read : c.globals.reading .u64 "random_seed" = .ok held) (seed : UInt64) :
    (c.override [("random_seed", toString seed.toNat)]).settings processors =
      (c.settings processors).map fun r => { r with seed } := by
  let after := c.override [("random_seed", toString seed.toNat)]
  have values (key : String) : after.globals.values.find? key =
      if key = "random_seed" then some (toString seed.toNat)
      else c.globals.values.find? key :=
    Section.find?_set ..
  obtain ⟨drawn, reads, rfl⟩ := reading_seed (values "random_seed")
  have kept (kind : Kind) {key : String} (other : key ≠ "random_seed") (default : kind.Carrier) :
      after.globals.readingOr kind key default = c.globals.readingOr kind key default := by
    rw [Section.readingOr, Section.readingOr, Section.has, Section.has, Dictionary.contains,
      Dictionary.contains, Section.reading, Section.reading, values, if_neg other]
    rfl
  refine (settings_eq processors after).trans ?_
  rw [settings_eq, read, reads]
  refine Eq.trans ?_ Settings.ofReadings_seed
  exact congr (congr (congr (congrArg _ (kept _ (by decide) _)) (kept _ (by decide) _)) rfl)
    (kept _ (by decide) _)

end Reading

section Regrouped

variable (seed other : UInt64) {sections regrouped : List Section}

/-- Of a seed that is configured, as of any other key, the regrouped sections say the same. -/
theorem find?_globals_regrouped (regroups : Section.Regroups sections regrouped) {key : String}
    (given : key = "random_seed" →
      (Section.lastValue (sections.filter Section.isGlobal) "random_seed").isSome = true) :
    (ofSections other regrouped).globals.values.find? key =
      (ofSections seed sections).globals.values.find? key := by
  rw [find?_globals, find?_globals, regroups.lastValue_eq]
  by_cases drawn : key = "random_seed"
  · obtain ⟨text, held⟩ := Option.isSome_iff_exists.mp (given drawn)
    rw [drawn, held]
    rfl
  · rw [if_neg drawn, if_neg drawn]

/-- Regrouped sections without a seed are as if the new seed was set over the drawn one. -/
theorem find?_globals_reseeded (regroups : Section.Regroups sections regrouped)
    (absent : Section.lastValue (sections.filter Section.isGlobal) "random_seed" = none) (key : String) :
    (ofSections other regrouped).globals.values.find? key =
      ((ofSections seed sections).override
        [("random_seed", toString other.toNat)]).globals.values.find? key := by
  refine Eq.trans ?_ (Section.find?_set ..).symm
  split
  · rename_i drawn
    rw [find?_globals, regroups.lastValue_eq, drawn, absent]
    rfl
  · rename_i apart
    exact find?_globals_regrouped seed other regroups fun drawn => absurd drawn apart

end Regrouped

/-- All sections are told apart by whether they are global. Of those that are not, all are kept in
order as they are. Under each key the global section has the value of the last section that sets it;
only a seed may be drawn, and its marks are those of the first section. So it makes no difference
into which sections the run-wide assignments are cut, nor where these stand among the others: the
values, the other sections and the settings stay as they are, but for a seed that is drawn again. -/
theorem global_sections_merge_by_last_write (seed : UInt64) (sections : List Section) :
    let merged := ofSections seed sections
    let globals := sections.filter fun s => Text.sameLetters s.name "Pixsim"
    merged.modules = sections.filter (fun s => !Text.sameLetters s.name "Pixsim") ∧
    (∀ key, merged.globals.values.find? key = (Section.lastValue globals key).or
      (if key = "random_seed" then some (toString seed.toNat) else none)) ∧
    merged.globals.marks = globals.head?.elim [] Section.marks ∧
    ∀ (other : UInt64) (regrouped : List Section), Section.Regroups sections regrouped →
      let again := ofSections other regrouped
      let configured := (Section.lastValue globals "random_seed").isSome
      let adopt (r : Settings) : Settings := if configured then r else { r with seed := other }
      again.modules = merged.modules ∧
      (∀ key, key ≠ "random_seed" →
        again.globals.values.find? key = merged.globals.values.find? key) ∧
      (configured → again.globals.values = merged.globals.values) ∧
      ∀ processors,
        (again.settings processors).toOption = (merged.settings processors).toOption.map adopt ∧
        (again.globals.identifier = merged.globals.identifier →
          again.settings processors = (merged.settings processors).map adopt) := by
  intro merged globals
  refine ⟨rfl, find?_globals seed sections, marks_globals seed sections, ?_⟩
  intro other regrouped regroups again configured adopt
  have modules : again.modules = merged.modules := regroups.modules
  have apart (key : String) (apart : key ≠ "random_seed") :
      again.globals.values.find? key = merged.globals.values.find? key :=
    find?_globals_regrouped seed other regroups fun drawn => absurd drawn apart
  cases given : Section.lastValue globals "random_seed" with
  | some text =>
    have same (key : String) :
        again.globals.values.find? key = merged.globals.values.find? key :=
      find?_globals_regrouped seed other regroups fun _ => Option.isSome_iff_exists.mpr ⟨text, given⟩
    have unchanged : adopt = id := by
      funext r
      simp [adopt, configured, given]
    refine ⟨modules, apart, fun _ => Dictionary.ext_find? same, fun processors => ?_⟩
    rw [unchanged, Option.map_id, id]
    refine ⟨toOption_settings_congr processors same, fun owner => ?_⟩
    rw [settings_congr processors owner same]
    cases merged.settings processors <;> rfl
  | none =>
    have same := find?_globals_reseeded seed other regroups given
    have reseeded : adopt = fun r => { r with seed := other } := by
      funext r
      simp [adopt, configured, given]
    have held : merged.globals.values.find? "random_seed" = some (toString seed.toNat) := by
      refine (find?_globals seed sections "random_seed").trans ?_
      exact congrArg (Option.or · _) given
    obtain ⟨drawn, read, _⟩ := reading_seed held
    refine ⟨modules, apart, fun some => ?_, fun processors => ?_⟩
    · simp [configured, given] at some
    · rw [reseeded]
      have adopts := settings_override_seed processors read other
      constructor
      · rw [toOption_settings_congr processors same, adopts]
        cases merged.settings processors <;> rfl
      · intro owner
        exact (settings_congr processors (c := merged.override _) owner same).trans adopts

/-- The number of workers is set twice in one section, or once in each of two, and the last global
section stands behind a module section or before it. -/
theorem split_sections_keep_settings :
    let whole : List Section := [
      (Section.new "Pixsim" none).assign
        [("number_of_events", "10"), ("workers", "2"), ("workers", "3")],
      .new "Producer" none, (Section.new "pixsim" none).assign [("multithreading", "false")]]
    let pieces : List Section := [
      (Section.new "Pixsim" none).assign [("number_of_events", "10"), ("workers", "2")],
      (Section.new "PIXSIM" none).assign [("workers", "3")],
      (Section.new "pixsim" none).assign [("multithreading", "false")], .new "Producer" none]
    Section.Regroups whole pieces ∧
      (ofSections 9 pieces).modules = (ofSections 7 whole).modules ∧
      (ofSections 9 pieces).settings 8 =
        ((ofSections 7 whole).settings 8).map (fun r => { r with seed := 9 }) ∧
      ((ofSections 9 pieces).settings 8).toOption = some ⟨10, 3, 9, false⟩ := by
  intro whole pieces
  have first := Section.holds_assign "Pixsim" none [("number_of_events", "10"), ("workers", "2")]
  have second := Section.holds_assign "PIXSIM" none [("workers", "3")]
  have regroups : Section.Regroups whole pieces :=
    .trans (.split (by decide) (Section.holds_assign _ _ _) (.cons first (.cons second .nil)) [] _)
      (.symm (.move rfl rfl [_, _] []))
  obtain ⟨modules, _, _, settings⟩ :=
    (global_sections_merge_by_last_write 7 whole).2.2.2 9 pieces regroups
  have drawn : (Section.lastValue (whole.filter fun s => Text.sameLetters s.name "Pixsim")
      "random_seed").isSome = false := by
    decide +kernel
  have adopted := (settings 8).2 (by decide +kernel)
  simp only [drawn, Bool.false_eq_true, if_false] at adopted
  refine ⟨regroups, modules, adopted, ?_⟩
  decide +kernel

end RunConfig

end DetectorSim.Config
