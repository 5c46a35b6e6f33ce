import DetectorSim.Proofs.Pipeline.Naming

/-! What a name means among the registered module types. It depends on which types are registered,
and neither on the order in which they were registered nor on the one in which they are stored. -/

namespace DetectorSim

namespace Registry

variable {σ ω : Type}

section Sorting

variable {name : String} {names others : List String}

theorem insertName_perm (name : String) (names : List String) :
    (insertName name names).Perm (name :: names) := by
  induction names with
  | nil => exact .refl _
  | cons first rest ih =>
    rw [insertName]
    split
    · exact (ih.cons first).trans (.swap name first rest)
    · exact .refl _

theorem sortNames_perm (names : List String) : (sortNames names).Perm names := by
  induction names with
  | nil => exact .refl _
  | cons name rest ih => exact (insertName_perm name _).trans (ih.cons name)

theorem pairwise_insertName (sorted : names.Pairwise (· < ·)) (fresh : name ∉ names) :
    (insertName name names).Pairwise (· < ·) := by
  induction names with
  | nil => exact List.pairwise_singleton _ _
  | cons first rest ih =>
    obtain ⟨above, tail⟩ := List.pairwise_cons.mp sorted
    rw [List.mem_cons, not_or] at fresh
    rw [insertName]
    split
    · rename_i before
      refine List.pairwise_cons.mpr ⟨fun other member => ?_, ih tail fresh.2⟩
      rcases List.mem_cons.mp ((insertName_perm name rest).mem_iff.mp member) with rfl | behind
      · exact before
      · exact above other behind
    · rename_i notBefore
      have less : name < first := Dictionary.before_of_not_before notBefore (Ne.symm fresh.1)
      refine List.pairwise_cons.mpr ⟨List.forall_mem_cons.mpr ⟨less, ?_⟩, sorted⟩
      exact fun other member => String.lt_trans less (above other member)

theorem pairwise_sortNames (distinct : names.Nodup) : (sortNames names).Pairwise (· < ·) := by
  induction names with
  | nil => exact .nil
  | cons name rest ih =>
    obtain ⟨fresh, distinct⟩ := List.nodup_cons.mp distinct
    exact pairwise_insertName (ih distinct) (mt (sortNames_perm rest).mem_iff.mp fresh)

theorem eq_of_sorted (sorted : names.Pairwise (· < ·)) (sorted' : others.Pairwise (· < ·))
    (same : ∀ name, name ∈ names ↔ name ∈ others) : names = others := by
  have distinct {list : List String} (sorted : list.Pairwise (· < ·)) : list.Nodup := by
    refine sorted.imp ?_
    rintro x _ before rfl
    exact String.lt_irrefl x before
  have perm := (List.perm_ext_iff_of_nodup (distinct sorted) (distinct sorted')).mpr same
  refine perm.eq_of_pairwise (fun x y _ _ before after => ?_) sorted sorted'
  exact absurd (String.lt_trans before after) (String.lt_irrefl x)

end Sorting

/-- What a name means among module types: the one of exactly this name, or else the only one whose
name differs from it in the case of letters; of several such types the names are told in order. -/
inductive Means (registered : ModuleType σ ω → Prop) (name : String) :
    Except ResolveError (ModuleType σ ω) → Prop where
  | exactly {t : ModuleType σ ω} (here : registered t) (same : t.name = name) :
      Means registered name (.ok t)
  | alone {t : ModuleType σ ω} (foreign : ∀ u, registered u → u.name ≠ name) (here : registered t)
      (alike : Text.sameLetters t.name name = true)
      (only : ∀ u, registered u → Text.sameLetters u.name name = true → u = t) :
      Means registered name (.ok t)
  | unresolved (strange : ∀ u, registered u → Text.sameLetters u.name name = false) :
      Means registered name (.error (.unresolved name))
  | ambiguous {candidates : List String} (foreign : ∀ u, registered u → u.name ≠ name)
      (several : 2 ≤ candidates.length) (sorted : candidates.Pairwise (· < ·))
      (listed : ∀ other, other ∈ candidates ↔
        ∃ u, registered u ∧ u.name = other ∧ Text.sameLetters other name = true) :
      Means registered name (.error (.ambiguous name candidates))

section Table

variable {r table : Registry σ ω} {name : String} {t : ModuleType σ ω}

theorem get?_eq_some_iff (distinct : (r.types.map (·.name)).Nodup) :
    r.get? name = some t ↔ t ∈ r.types ∧ t.name = name := by
  constructor
  · intro found
    refine ⟨List.mem_of_find?_eq_some found, ?_⟩
    exact eq_of_beq (List.find?_some (p := fun t : ModuleType σ ω => t.name == name) found)
  · rintro ⟨here, rfl⟩
    obtain ⟨u, found⟩ : ∃ u, r.get? t.name = some u :=
      Option.isSome_iff_exists.mp (List.find?_isSome.mpr ⟨t, here, beq_iff_eq.mpr rfl⟩)
    have same : u.name = t.name :=
      eq_of_beq (List.find?_some (p := fun u : ModuleType σ ω => u.name == t.name) found)
    rw [found, eq_of_name distinct (List.mem_of_find?_eq_some found) here same]

theorem get?_eq_none_iff : r.get? name = none ↔ ∀ t ∈ r.types, t.name ≠ name := by
  rw [get?, List.find?_eq_none]
  exact forall₂_congr fun t _ => not_congr beq_iff_eq

/-- The types that a name could mean. -/
def candidates (r : Registry σ ω) (name : String) : List (ModuleType σ ω) :=
  r.types.filter fun t => Text.sameLetters t.name name

theorem mem_candidates :
    t ∈ r.candidates name ↔ t ∈ r.types ∧ Text.sameLetters t.name name = true :=
  List.mem_filter

theorem nodup_candidates (distinct : (r.types.map (·.name)).Nodup) :
    ((r.candidates name).map (·.name)).Nodup :=
  distinct.sublist (List.filter_sublist.map _)

/-- What a name means that is nobody's, when these types differ from it in the case of letters. -/
def choose (name : String) : List (ModuleType σ ω) → Except ResolveError (ModuleType σ ω)
  | [] => .error (.unresolved name)
  | [t] => .ok t
  | several => .error (.ambiguous name (sortNames (several.map (·.name))))

theorem resolve_eq (r : Registry σ ω) (name : String) :
    r.resolve name = (r.get? name).elim (choose name (r.candidates name)) .ok := by
  rw [resolve, candidates]
  cases r.get? name with
  | some t => rfl
  | none => rcases List.filter _ r.types with _ | ⟨first, _ | ⟨second, rest⟩⟩ <;> rfl

/-- Types that are known by their names are resolved to what a name means among them. -/
theorem means_resolve (distinct : (r.types.map (·.name)).Nodup) (name : String) :
    Means (· ∈ r.types) name (r.resolve name) := by
  rw [resolve_eq]
  cases found : r.get? name with
  | some t =>
    obtain ⟨here, same⟩ := (get?_eq_some_iff distinct).mp found
    exact .exactly here same
  | none =>
    have foreign := get?_eq_none_iff.mp found
    have listed (t : ModuleType σ ω) : t ∈ r.candidates name ↔
        t ∈ r.types ∧ Text.sameLetters t.name name = true := mem_candidates
    have known : ((r.candidates name).map (·.name)).Nodup := nodup_candidates distinct
    generalize r.candidates name = list at listed known ⊢
    match list with
    | [] =>
      refine .unresolved fun u here => Bool.eq_false_iff.mpr fun alike => ?_
      exact List.not_mem_nil ((listed u).mpr ⟨here, alike⟩)
    | [first] =>
      obtain ⟨here, alike⟩ := (listed first).mp (List.mem_singleton_self first)
      refine .alone foreign here alike fun u here alike => ?_
      exact List.mem_singleton.mp ((listed u).mpr ⟨here, alike⟩)
    | first :: second :: rest =>
      refine .ambiguous foreign ?_ (pairwise_sortNames known) fun other => ?_
      · rw [(sortNames_perm _).length_eq, List.length_map]
        exact Nat.le_add_left ..
      · rw [(sortNames_perm _).mem_iff, List.mem_map]
        refine exists_congr fun u => ?_
        rw [listed, and_assoc]
        exact and_congr_right fun _ =>
          ⟨fun ⟨alike, same⟩ => ⟨same, same ▸ alike⟩, fun ⟨same, alike⟩ => ⟨same ▸ alike, same⟩⟩

theorem resolve_perm (distinct : (r.types.map (·.name)).Nodup) (perm : table.types.Perm r.types)
    (name : String) : table.resolve name = r.resolve name := by
  have distinct' : (table.types.map (·.name)).Nodup := (perm.map _).nodup_iff.mpr distinct
  have found : table.get? name = r.get? name := by
    refine Option.ext fun t => ?_
    rw [get?_eq_some_iff distinct', get?_eq_some_iff distinct, perm.mem_iff]
  have shuffled : (table.candidates name).Perm (r.candidates name) := perm.filter _
  have told : sortNames ((table.candidates name).map (·.name)) =
      sortNames ((r.candidates name).map (·.name)) := by
    refine eq_of_sorted (pairwise_sortNames (nodup_candidates distinct'))
      (pairwise_sortNames (nodup_candidates distinct)) fun other => ?_
    rw [(sortNames_perm _).mem_iff, (sortNames_perm _).mem_iff, (shuffled.map _).mem_iff]
  have chosen : choose name (table.candidates name) = choose name (r.candidates name) := by
    generalize table.candidates name = list at shuffled told
    generalize r.candidates name = others at shuffled told
    match list, others, shuffled.length_eq with
    | [], [], _ => rfl
    | [_], [_], _ => rw [List.singleton_perm_singleton.mp shuffled]
    | _ :: _ :: _, _ :: _ :: _, _ =>
      exact congrArg (fun names => Except.error (ResolveError.ambiguous name names)) told
  rw [resolve_eq, resolve_eq, found, chosen]

end Table

section Registering

variable {r : Registry σ ω} {t u : ModuleType σ ω}

/-- The registry behind calls that each register a module type or are refused. -/
def after (r : Registry σ ω) (calls : List (ModuleType σ ω)) : Registry σ ω :=
  calls.foldl (fun r t => (r.addAll [t]).1) r

/-- A module type is the first of its name. -/
def FirstOf (calls : List (ModuleType σ ω)) (t : ModuleType σ ω) : Prop :=
  calls.find? (·.name == t.name) = some t

theorem add_of_known (known : ∃ u ∈ r.types, u.name = t.name) :
    r.add t = .error t ∧ r.after [t] = r := by
  have found : (r.get? t.name).isSome = true := by
    obtain ⟨u, here, same⟩ := known
    exact List.find?_isSome.mpr ⟨u, here, beq_iff_eq.mpr same⟩
  have refused : r.add t = .error t := if_pos found
  refine ⟨refused, ?_⟩
  rw [after, List.foldl_cons, List.foldl_nil, addAll, refused]

theorem add_of_fresh (fresh : ∀ u ∈ r.types, u.name ≠ t.name) :
    r.add t = .ok ⟨r.types ++ [t]⟩ ∧ r.after [t] = ⟨r.types ++ [t]⟩ := by
  have added : r.add t = .ok ⟨r.types ++ [t]⟩ := by
    rw [add, get?_eq_none_iff.mpr fresh]
    rfl
  refine ⟨added, ?_⟩
  rw [after, List.foldl_cons, List.foldl_nil, addAll, added]
  rfl

theorem firstOf_cons (c : ModuleType σ ω) (rest : List (ModuleType σ ω)) :
    FirstOf (c :: rest) t ↔ if c.name = t.name then c = t else FirstOf rest t := by
  rw [FirstOf, List.find?_cons]
  by_cases same : c.name = t.name
  · rw [beq_iff_eq.mpr same, if_pos same]
    exact Option.some_inj
  · rw [beq_eq_false_iff_ne.mpr same, if_neg same]
    rfl

theorem after_cons (r : Registry σ ω) (t : ModuleType σ ω) (rest : List (ModuleType σ ω)) :
    r.after (t :: rest) = (r.after [t]).after rest := rfl

theorem nodup_after (calls : List (ModuleType σ ω)) (distinct : (r.types.map (·.name)).Nodup) :
    ((r.after calls).types.map (·.name)).Nodup := by
  induction calls generalizing r with
  | nil => exact distinct
  | cons t rest ih => exact ih (nodup_addAll [t] distinct)

/-- What is registered was registered before, or is the first call of a name that was not. -/
theorem mem_types_after (calls : List (ModuleType σ ω)) :
    t ∈ (r.after calls).types ↔
      t ∈ r.types ∨ ((∀ u ∈ r.types, u.name ≠ t.name) ∧ FirstOf calls t) := by
  induction calls generalizing r with
  | nil => exact ⟨.inl, fun either => either.resolve_right fun first => nomatch first.2⟩
  | cons c rest ih =>
    rw [after_cons, ih, firstOf_cons]
    by_cases known : ∃ u ∈ r.types, u.name = c.name
    · rw [(add_of_known known).2]
      refine or_congr_right (and_congr_right fun fresh => ?_)
      obtain ⟨u, here, same⟩ := known
      rw [if_neg fun equal => fresh u here (same.trans equal)]
    · have fresh : ∀ u ∈ r.types, u.name ≠ c.name := fun u here same => known ⟨u, here, same⟩
      rw [(add_of_fresh fresh).2, List.forall_mem_append, List.forall_mem_singleton,
        List.mem_append, List.mem_singleton, or_assoc]
      refine or_congr_right ?_
      split
      · rename_i same
        refine ⟨?_, fun ⟨_, equal⟩ => .inl equal.symm⟩
        rintro (rfl | ⟨⟨_, other⟩, _⟩)
        · exact ⟨fresh, rfl⟩
        · exact absurd same other
      · rename_i other
        refine ⟨?_, fun ⟨others, first⟩ => .inr ⟨⟨others, other⟩, first⟩⟩
        rintro (rfl | ⟨⟨others, _⟩, first⟩)
        · exact absurd rfl other
        · exact ⟨others, first⟩

theorem mem_types_after_empty (calls : List (ModuleType σ ω)) :
    t ∈ ((empty : Registry σ ω).after calls).types ↔ FirstOf calls t := by
  rw [mem_types_after]
  exact ⟨fun either => (either.resolve_left List.not_mem_nil).2, fun first => .inr ⟨nofun, first⟩⟩

/-- The names in use are those that calls were made with. -/
theorem exists_name_after_iff (calls : List (ModuleType σ ω)) (name : String) :
    (∃ u ∈ ((empty : Registry σ ω).after calls).types, u.name = name) ↔
      ∃ u ∈ calls, u.name = name := by
  constructor
  · rintro ⟨u, here, same⟩
    exact ⟨u, List.mem_of_find?_eq_some ((mem_types_after_empty calls).mp here), same⟩
  · rintro ⟨u, member, rfl⟩
    obtain ⟨first, found⟩ : ∃ first, calls.find? (·.name == u.name) = some first :=
      Option.isSome_iff_exists.mp (List.find?_isSome.mpr ⟨u, member, beq_iff_eq.mpr rfl⟩)
    have same : first.name = u.name :=
      eq_of_beq (List.find?_some (p := fun t : ModuleType σ ω => t.name == u.name) found)
    exact ⟨first, (mem_types_after_empty calls).mpr (by rwa [FirstOf, same]), same⟩

end Registering

/-- A call is refused just if its name was used in an earlier call, and then leaves the registry as it
was. A name means what it does among the types that were the first of their names, and this is the
same in all registries with the same types, whatever the calls were and however the types are
stored. -/
theorem resolution_ignores_order (calls : List (ModuleType σ ω)) :
    let r : Registry σ ω := empty.after calls
    (∀ t, ((∃ refused, r.add t = .error refused) ↔ ∃ u ∈ calls, u.name = t.name) ∧
      ∀ refused, r.add t = .error refused → refused = t ∧ r.after [t] = r) ∧
    (∀ name, Means (FirstOf calls) name (r.resolve name)) ∧
    ∀ others : List (ModuleType σ ω),
      (∀ t, t ∈ ((empty : Registry σ ω).after others).types ↔ t ∈ r.types) →
      ∀ table : Registry σ ω, table.types.Perm ((empty : Registry σ ω).after others).types →
        ∀ name, table.resolve name = r.resolve name := by
  intro r
  have distinct (calls : List (ModuleType σ ω)) :
      (((empty : Registry σ ω).after calls).types.map (·.name)).Nodup := nodup_after calls .nil
  refine ⟨fun t => ?_, fun name => ?_, fun others same table stored name => ?_⟩
  · rw [← exists_name_after_iff calls t.name]
    by_cases known : ∃ u ∈ r.types, u.name = t.name
    · obtain ⟨refused, unchanged⟩ := add_of_known known
      refine ⟨⟨fun _ => known, fun _ => ⟨t, refused⟩⟩, fun other equal => ⟨?_, unchanged⟩⟩
      exact Except.error.inj (equal.symm.trans refused)
    · have added := (add_of_fresh fun u here same => known ⟨u, here, same⟩).1
      refine ⟨⟨fun ⟨_, refused⟩ => ?_, fun known' => absurd known' known⟩, fun _ refused => ?_⟩
      · cases added.symm.trans refused
      · cases added.symm.trans refused
  · have means := means_resolve (distinct calls) name
    rwa [funext fun t => propext (mem_types_after_empty (t := t) calls)] at means
  · refine resolve_perm (distinct calls) (stored.trans ?_) name
    exact (List.perm_ext_iff_of_nodup (distinct others).of_map (distinct calls).of_map).mpr same

private def silent (name : String) : ModuleType Unit Unit :=
  ⟨name, .global, false, fun _ => pure (Module.blueprint ⟨(), fun _ => pure (), fun _ => pure ()⟩)⟩

/-- A name that is refused, and two names that differ in the case of letters. -/
theorem writers_are_told_apart :
    let calls := [silent "Writer", silent "Reader", silent "Writer", silent "WRITER"]
    let others := [silent "WRITER", silent "Reader", silent "Reader", silent "Writer"]
    let r : Registry Unit Unit := empty.after calls
    let table : Registry Unit Unit := ⟨[silent "Reader", silent "Writer", silent "WRITER"]⟩
    (∀ t, t ∈ ((empty : Registry Unit Unit).after others).types ↔ t ∈ r.types) ∧
      table.types.Perm ((empty : Registry Unit Unit).after others).types ∧
      r.resolve "writer" = .error (.ambiguous "writer" ["WRITER", "Writer"]) ∧
      r.resolve "Writer" = .ok (silent "Writer") ∧ r.resolve "rEADER" = .ok (silent "Reader") ∧
      ∀ name, table.resolve name = r.resolve name := by
  intro calls others r table
  have backwards : ((empty : Registry Unit Unit).after others).types = r.types.reverse := rfl
  have same : ∀ t, t ∈ ((empty : Registry Unit Unit).after others).types ↔ t ∈ r.types := by
    intro t
    rw [backwards, List.mem_reverse]
  have stored : table.types.Perm [silent "WRITER", silent "Reader", silent "Writer"] :=
    ((List.Perm.swap ..).cons _).trans (.swap ..)
  exact ⟨same, stored, rfl, rfl, rfl, (resolution_ignores_order calls).2.2 others same table stored⟩

end Registry

end DetectorSim
