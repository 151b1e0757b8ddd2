import SearchDesk.Proofs.Logging.Names

/-!
# The places of loggers

Naming a logger changes where loggers stand, and changing a logger that is there leaves all of
them where they are.

* `detached_logger_named`: a logger that is named changes nothing but places;
* `parent_named_self` and `parent_named_of_ne` say where loggers stand afterwards, and
  `mem_waiters_named` which of them wait for a name;
* `Placed` says that a logger stands right below the nearest logger above it by name and waits for
  every name between. It stays so (`Placed.named`), unless a logger comes between it and the root
  whose name is a beginning of the root's own;
* `SamePlaces` relates hierarchies that differ in nothing but levels, handlers and propagation.
-/

namespace SearchDesk.Logging

/-- A logger apart from its place. -/
def Logger.detached (l : Logger) : Logger := { l with parent := none }

theorem Logger.handlers_eq_of_detached {l l' : Logger} (same : l.detached = l'.detached) :
    l.handlers = l'.handlers :=
  congrArg (·.handlers) same

theorem Logger.propagate_eq_of_detached {l l' : Logger} (same : l.detached = l'.detached) :
    l.propagate = l'.propagate :=
  congrArg (·.propagate) same

namespace Hierarchy

variable {h : Hierarchy} {name other : String}

/-- A logger is there; the root always is. -/
def Known (h : Hierarchy) (name : String) : Prop := name = rootName ∨ h.loggers.has name = true

/-- The loggers that wait for a name. -/
def waiters (h : Hierarchy) (name : String) : List String := (h.waiting.get? name).getD []

/-! ## The nearest logger -/

theorem nearest_of_absent {names : List String}
    (absent : ∀ n ∈ names, h.loggers.has n = false) : h.nearest names = (names, none) := by
  induction names with
  | nil => rfl
  | cons n rest ih =>
    obtain ⟨first, later⟩ := List.forall_mem_cons.mp absent
    rw [nearest, ih later, first]
    rfl

theorem nearest_of_present {passed rest : List String} {found : String}
    (absent : ∀ n ∈ passed, h.loggers.has n = false) (present : h.loggers.has found = true) :
    h.nearest (passed ++ found :: rest) = (passed, some found) := by
  induction passed with
  | nil => rw [List.nil_append, nearest, if_pos present]
  | cons n passed ih =>
    obtain ⟨first, later⟩ := List.forall_mem_cons.mp absent
    rw [List.cons_append, nearest, ih later, first]
    rfl

/-- None of the names has a logger, or there is a first one that has. -/
theorem nearest_cases (h : Hierarchy) (names : List String) :
    (h.nearest names = (names, none) ∧ ∀ n ∈ names, h.loggers.has n = false) ∨
      ∃ passed found rest, names = passed ++ found :: rest ∧
        h.nearest names = (passed, some found) ∧ h.loggers.has found = true ∧
          ∀ n ∈ passed, h.loggers.has n = false := by
  induction names with
  | nil => exact .inl ⟨rfl, fun n mem => nomatch mem⟩
  | cons n names ih =>
    rcases here : h.loggers.has n with _ | _
    · rcases ih with ⟨-, absent⟩ | ⟨passed, found, rest, rfl, -, present, absent⟩
      · have all : ∀ m ∈ n :: names, h.loggers.has m = false :=
          List.forall_mem_cons.mpr ⟨here, absent⟩
        exact .inl ⟨nearest_of_absent all, all⟩
      · have all : ∀ m ∈ n :: passed, h.loggers.has m = false :=
          List.forall_mem_cons.mpr ⟨here, absent⟩
        exact .inr ⟨n :: passed, found, rest, rfl, nearest_of_present all present, present, all⟩
    · have first : h.nearest (n :: names) = ([], some n) := by rw [nearest, if_pos here]
      exact .inr ⟨[], n, names, rfl, first, here, List.forall_mem_nil _⟩

theorem nearest_congr {h' : Hierarchy} {names : List String}
    (same : ∀ n ∈ names, h.loggers.has n = h'.loggers.has n) : h.nearest names = h'.nearest names := by
  induction names with
  | nil => rfl
  | cons n rest ih =>
    obtain ⟨first, later⟩ := List.forall_mem_cons.mp same
    rw [nearest, nearest, first, ih later]

/-- The names that are passed over are among the given ones. -/
theorem mem_of_mem_passed {names : List String} (mem : other ∈ (h.nearest names).1) :
    other ∈ names := by
  rcases h.nearest_cases names with ⟨none, -⟩ | ⟨passed, found, rest, rfl, first, -, -⟩
  · rwa [none] at mem
  · rw [first] at mem
    exact List.mem_append_left _ mem

/-! ## Naming a logger -/

theorem named_of_known (known : h.Known name) : h.named name = h := if_pos known

theorem named_of_new (new : ¬h.Known name) :
    h.named name =
      { h with
        loggers := (h.adopt name).put name { parent := (h.nearest (ancestors name)).2 }
        waiting := (h.nearest (ancestors name)).1.foldl (await name) (h.waiting.erase name) } :=
  if_neg new

theorem get?_adopt (h : Hierarchy) (name other : String) :
    (h.adopt name).get? other = (h.loggers.get? other).map fun l =>
      if (h.waiters name).contains other && !staysBelow l name then { l with parent := some name }
      else l := by
  rw [← Entries.get?_map fun k l =>
    if (h.waiters name).contains k && !staysBelow l name then { l with parent := some name } else l]
  congr 1
  refine List.map_congr_left fun e _ => ?_
  by_cases moves : ((h.waiters name).contains e.1 && !staysBelow e.2 name) = true
  · exact (if_pos moves).trans (by rw [if_pos moves])
  · exact (if_neg moves).trans (by rw [if_neg moves])

theorem has_named (h : Hierarchy) (name other : String) :
    (h.named name).loggers.has other = true ↔
      h.loggers.has other = true ∨ other = name ∧ name ≠ rootName := by
  by_cases known : h.Known name
  · rw [named_of_known known]
    refine ⟨.inl, ?_⟩
    rintro (here | ⟨rfl, notRoot⟩)
    · exact here
    · exact known.resolve_left notRoot
  · have notRoot : name ≠ rootName := fun isRoot => known (.inl isRoot)
    rw [named_of_new known, Entries.has_iff_get?_isSome, Entries.has_iff_get?_isSome]
    by_cases same : other = name
    · simp [same, notRoot, Entries.get?_put_self]
    · simp [same, Entries.get?_put_of_ne same, get?_adopt]

theorem known_named (h : Hierarchy) (name other : String) :
    (h.named name).Known other ↔ h.Known other ∨ other = name := by
  rw [Known, has_named, Known]
  constructor
  · rintro (isRoot | here | ⟨same, -⟩)
    · exact .inl (.inl isRoot)
    · exact .inl (.inr here)
    · exact .inr same
  · rintro ((isRoot | here) | rfl)
    · exact .inl isRoot
    · exact .inr (.inl here)
    · exact (em (other = rootName)).imp_right fun notRoot => .inr ⟨rfl, notRoot⟩

theorem logger_named_self (new : ¬h.Known name) :
    (h.named name).logger name = { parent := (h.nearest (ancestors name)).2 } := by
  have notRoot : name ≠ rootName := fun isRoot => new (.inl isRoot)
  rw [named_of_new new, logger, if_neg notRoot, Entries.get?_put_self]
  rfl

theorem logger_named_of_ne (new : ¬h.Known name) (ne : other ≠ name) (notRoot : other ≠ rootName) :
    (h.named name).logger other = ((h.loggers.get? other).map fun l =>
      if (h.waiters name).contains other && !staysBelow l name then { l with parent := some name }
      else l).getD {} := by
  rw [named_of_new new, logger, if_neg notRoot, Entries.get?_put_of_ne ne, get?_adopt]

theorem logger_named_root (h : Hierarchy) (name : String) :
    (h.named name).logger rootName = h.logger rootName := by
  by_cases known : h.Known name
  · rw [named_of_known known]
  · rw [named_of_new known]
    rfl

/-- Naming a logger changes nothing but places: a logger that was not there is one without level
and handlers. -/
theorem detached_logger_named (h : Hierarchy) (name other : String) :
    ((h.named name).logger other).detached = (h.logger other).detached := by
  by_cases isRoot : other = rootName
  · rw [isRoot, logger_named_root]
  by_cases known : h.Known name
  · rw [named_of_known known]
  · by_cases same : other = name
    · have absent : h.loggers.get? name = none := by
        rw [← Entries.has_eq_false_iff, Bool.eq_false_iff]
        exact fun here => known (.inr here)
      rw [same, logger_named_self known, logger, if_neg (same ▸ isRoot), absent]
      rfl
    · rw [logger_named_of_ne known same isRoot, logger, if_neg isRoot]
      cases h.loggers.get? other with
      | none => rfl
      | some l =>
        show (if _ then _ else _ : Logger).detached = l.detached
        split <;> rfl

theorem parent_named_self (new : ¬h.Known name) :
    ((h.named name).logger name).parent = (h.nearest (ancestors name)).2 := by
  rw [logger_named_self new]

/-- A logger moves below a new one if it has waited for it and does not stay where it is. -/
theorem parent_named_of_ne (new : ¬h.Known name) (ne : other ≠ name) :
    ((h.named name).logger other).parent =
      if other ≠ rootName ∧ h.loggers.has other = true ∧ other ∈ h.waiters name ∧
          staysBelow (h.logger other) name = false then some name
      else (h.logger other).parent := by
  by_cases isRoot : other = rootName
  · rw [isRoot, logger_named_root, if_neg fun all => all.1 rfl]
  · rw [logger_named_of_ne new ne isRoot, Entries.has_iff_get?_isSome, logger, if_neg isRoot]
    cases h.loggers.get? other with
    | none => simp
    | some l =>
      show (if _ then _ else _ : Logger).parent = _
      by_cases waits : other ∈ h.waiters name <;> cases stays : staysBelow l name <;>
        simp [waits, stays, isRoot]

theorem mem_waiting_foldl (places : List String) (waiting : Entries (List String))
    (place : String) :
    other ∈ ((places.foldl (await name) waiting).get? place).getD [] ↔
      other ∈ (waiting.get? place).getD [] ∨ other = name ∧ place ∈ places := by
  induction places generalizing waiting with
  | nil => simp
  | cons p rest ih =>
    rw [List.foldl_cons, ih, await]
    by_cases here : place = p
    · rw [here, Entries.get?_put_self]
      simp only [Option.getD_some, List.mem_append, List.mem_cons]
      tauto
    · rw [Entries.get?_put_of_ne here]
      simp [here]

theorem mem_waiters_named (new : ¬h.Known name) (place : String) :
    other ∈ (h.named name).waiters place ↔
      place ≠ name ∧ other ∈ h.waiters place ∨
        other = name ∧ place ∈ (h.nearest (ancestors name)).1 := by
  rw [named_of_new new, waiters, mem_waiting_foldl, waiters]
  by_cases same : place = name
  · rw [same, Entries.get?_erase_self]
    simp
  · rw [Entries.get?_erase_of_ne same]
    simp [same]

/-! ## Loggers in their places -/

/-- Only loggers below a name wait for it. -/
def Tidy (h : Hierarchy) : Prop :=
  ∀ place waiter, waiter ∈ h.waiters place → place ∈ ancestors waiter

/-- A logger stands right below the nearest logger above it by name, or else below the root, and
waits for all names between. -/
structure Placed (h : Hierarchy) (name : String) : Prop where
  parent : (h.logger name).parent = (h.nearest (ancestors name)).2
  waits : ∀ place ∈ (h.nearest (ancestors name)).1, name ∈ h.waiters place

theorem Tidy.named (tidy : h.Tidy) (name : String) : (h.named name).Tidy := by
  by_cases known : h.Known name
  · rw [named_of_known known]
    exact tidy
  · intro place waiter waits
    rcases (mem_waiters_named known place).mp waits with ⟨-, before⟩ | ⟨rfl, passed⟩
    · exact tidy place waiter before
    · exact mem_of_mem_passed passed

/-- A logger is in its place when it comes. -/
theorem placed_named_self (new : ¬h.Known name) : (h.named name).Placed name := by
  have same : (h.named name).nearest (ancestors name) = h.nearest (ancestors name) := by
    refine nearest_congr fun n above => Bool.eq_iff_iff.mpr ((has_named h name n).trans ?_)
    refine or_iff_left ?_
    rintro ⟨rfl, -⟩
    exact not_mem_ancestors_self n above
  refine ⟨by rw [same, parent_named_self new], fun place passed => ?_⟩
  rw [same] at passed
  exact (mem_waiters_named new place).mpr (.inr ⟨rfl, passed⟩)

theorem absent_named (ne : other ≠ name) (absent : h.loggers.has other = false) :
    (h.named name).loggers.has other = false := by
  rw [Bool.eq_false_iff, Ne, has_named, not_or, absent]
  exact ⟨Bool.false_ne_true, fun same => ne same.1⟩

/-- A logger is put below a new one that comes between it and the one above it. -/
theorem Placed.named_between (placed : h.Placed other) (ne : other ≠ name)
    (here : h.loggers.has other = true) (notRoot : other ≠ rootName) (new : ¬h.Known name)
    {before rest : List String} (split : ancestors other = before ++ name :: rest)
    (passed : ∀ n ∈ before ++ [name], n ∈ (h.nearest (ancestors other)).1)
    (absent : ∀ n ∈ before, h.loggers.has n = false)
    (moves : staysBelow (h.logger other) name = false) : (h.named name).Placed other := by
  have distinct : ∀ n ∈ before, n ≠ name := by
    have all := nodup_ancestors other
    rw [split, List.nodup_append] at all
    exact fun n mem => all.2.2 n mem name List.mem_cons_self
  have nearest : (h.named name).nearest (ancestors other) = (before, some name) := by
    rw [split]
    refine nearest_of_present (fun n mem => absent_named (distinct n mem) (absent n mem)) ?_
    exact (has_named h name name).mpr (.inr ⟨rfl, fun isRoot => new (.inl isRoot)⟩)
  have waits : other ∈ h.waiters name := placed.waits name (passed name (by simp))
  refine ⟨?_, fun place mem => ?_⟩
  · rw [nearest, parent_named_of_ne new ne, if_pos ⟨notRoot, here, waits, moves⟩]
  · rw [nearest] at mem
    have waits' := placed.waits place (passed place (List.mem_append_left _ mem))
    exact (mem_waiters_named new place).mpr (.inl ⟨distinct place mem, waits'⟩)

/-- A logger stays below the one above it if the new one does not come between. -/
theorem Placed.named_outside (placed : h.Placed other) (ne : other ≠ name) (new : ¬h.Known name)
    (same : (h.named name).nearest (ancestors other) = h.nearest (ancestors other))
    (outside : name ∉ (h.nearest (ancestors other)).1)
    (stays : other ∈ h.waiters name → staysBelow (h.logger other) name = true) :
    (h.named name).Placed other := by
  refine ⟨?_, fun place mem => ?_⟩
  · rw [same, parent_named_of_ne new ne, if_neg, placed.parent]
    rintro ⟨-, -, waits, moves⟩
    rw [stays waits] at moves
    cases moves
  · rw [same] at mem
    have apart : place ≠ name := fun here => outside (here ▸ mem)
    exact (mem_waiters_named new place).mpr (.inl ⟨apart, placed.waits place mem⟩)

/-- A logger stays in its place when another one comes. If it stands below the root, the name of
the other one must not be a beginning of the root's. -/
theorem Placed.named (placed : h.Placed other) (tidy : h.Tidy) (here : h.loggers.has other = true)
    (notRoot : other ≠ rootName) (new : ¬h.Known name)
    (apart : name ∈ ancestors other → ¬name.toList <+: rootName.toList) :
    (h.named name).Placed other := by
  have ne : other ≠ name := fun same => new (.inr (same ▸ here))
  have stands : ∀ parent, (h.logger other).parent = parent →
      staysBelow (h.logger other) name = name.toList.isPrefixOf (parent.getD rootName).toList :=
    fun parent same => same ▸ rfl
  rcases h.nearest_cases (ancestors other) with
    ⟨first, absent⟩ | ⟨passed, found, rest, split, first, present, absent⟩
  · have stands' := stands none (placed.parent.trans (by rw [first]))
    by_cases between : name ∈ ancestors other
    · obtain ⟨before, rest, split⟩ := List.append_of_mem between
      refine placed.named_between ne here notRoot new split (fun n mem => ?_)
        (fun n mem => absent n ?_) ?_
      · rw [first, split]
        simp only [List.mem_append, List.mem_cons] at mem ⊢
        tauto
      · rw [split]
        exact List.mem_append_left _ mem
      · rw [stands', Bool.eq_false_iff, Ne, List.isPrefixOf_iff_prefix]
        exact apart between
    · refine placed.named_outside ne new ?_ ?_ fun waits => absurd (tidy name other waits) between
      · refine nearest_congr fun n above => ?_
        have apart' : n ≠ name := fun same => between (same ▸ above)
        rw [absent n above, absent_named apart' (absent n above)]
      · rw [first]
        exact between
  · have stands' := stands (some found) (placed.parent.trans (by rw [first]))
    have shorter : ∀ n ∈ passed, found.toList.length < n.toList.length := by
      have all := ancestors_pairwise other
      rw [split, List.pairwise_append] at all
      exact fun n mem => (all.2.2 n mem found List.mem_cons_self).2
    by_cases between : name ∈ passed
    · obtain ⟨before, more, rfl⟩ := List.append_of_mem between
      rw [List.append_assoc, List.cons_append] at split
      refine placed.named_between ne here notRoot new split (fun n mem => ?_)
        (fun n mem => absent n (List.mem_append_left _ mem)) ?_
      · rw [first]
        simp only [List.mem_append, List.mem_cons] at mem ⊢
        tauto
      · rw [stands', Bool.eq_false_iff, Ne, List.isPrefixOf_iff_prefix]
        exact fun begins => Nat.not_lt.mpr begins.length_le (shorter name between)
    · refine placed.named_outside ne new ?_ (by rw [first]; exact between) fun waits => ?_
      · rw [first, split]
        refine nearest_of_present (fun n mem => ?_) ((has_named h name found).mpr (.inl present))
        exact absent_named (fun same => between (same ▸ mem)) (absent n mem)
      · have above := tidy name other waits
        rw [split, List.mem_append, List.mem_cons] at above
        rcases above with passes | rfl | after
        · exact absurd passes between
        · exact absurd (.inr present) new
        · rw [stands', List.isPrefixOf_iff_prefix]
          exact (prefix_of_ancestors_split split after).1

/-- A logger is in its place after another one comes, or after it comes itself. -/
theorem placed_named (tidy : h.Tidy) (placed : h.loggers.has other = true → h.Placed other)
    (here : (h.named name).loggers.has other = true) (notRoot : other ≠ rootName)
    (apart : ∀ above ∈ ancestors other, above.toList <+: rootName.toList → above = rootName) :
    (h.named name).Placed other := by
  by_cases known : h.Known name
  · rw [named_of_known known] at here ⊢
    exact placed here
  · rcases (has_named h name other).mp here with before | ⟨rfl, -⟩
    · refine (placed before).named tidy before notRoot known fun above begins => known ?_
      exact .inl (apart name above begins)
    · exact placed_named_self known

/-! ## Changing a logger -/

/-- Two hierarchies in which the same loggers stand in the same places. -/
structure SamePlaces (h h' : Hierarchy) : Prop where
  has : ∀ n, h.loggers.has n = h'.loggers.has n
  length : h.loggers.length = h'.loggers.length
  parent : ∀ n, (h.logger n).parent = (h'.logger n).parent
  waiting : h.waiting = h'.waiting

theorem samePlaces_update (known : h.Known name) {f : Logger → Logger}
    (keeps : ∀ l, (f l).parent = l.parent) : h.SamePlaces (h.update name f) := by
  have parent : ∀ n, (h.logger n).parent = ((h.update name f).logger n).parent := by
    intro n
    by_cases same : n = name
    · rw [same, logger_update_self, keeps]
    · rw [logger_update_of_ne same]
  by_cases isRoot : name = rootName
  · have changed : h.update name f = { h with root := f h.root } := if_pos isRoot
    refine ⟨fun n => by rw [changed], by rw [changed], parent, by rw [changed]⟩
  · have changed : h.update name f =
        { h with loggers := h.loggers.put name (f (h.logger name)) } := if_neg isRoot
    have here : name ∈ h.loggers.keys := by
      have there := known.resolve_left isRoot
      rwa [← Bool.not_eq_false, Entries.has_eq_false_iff, Entries.get?_eq_none_iff, not_not] at there
    have keys := Entries.keys_put_of_mem here (f (h.logger name))
    refine ⟨fun n => ?_, ?_, parent, by rw [changed]⟩
    · rw [changed, Bool.eq_iff_iff, ← Bool.not_eq_false, ← Bool.not_eq_false,
        Entries.has_eq_false_iff, Entries.has_eq_false_iff, Entries.get?_eq_none_iff,
        Entries.get?_eq_none_iff, keys]
    · have := congrArg List.length keys
      simp only [Entries.keys, List.length_map] at this
      rw [changed, this]

namespace SamePlaces

variable {h h' : Hierarchy}

theorem refl (h : Hierarchy) : h.SamePlaces h := ⟨fun _ => rfl, rfl, fun _ => rfl, rfl⟩

theorem known_iff (same : h.SamePlaces h') (name : String) : h.Known name ↔ h'.Known name := by
  rw [Known, Known, same.has]

theorem nearest (same : h.SamePlaces h') (names : List String) :
    h.nearest names = h'.nearest names :=
  nearest_congr fun n _ => same.has n

theorem waiters (same : h.SamePlaces h') (name : String) : h.waiters name = h'.waiters name := by
  rw [Hierarchy.waiters, same.waiting]
  rfl

theorem tidy (same : h.SamePlaces h') (tidy : h.Tidy) : h'.Tidy := fun place waiter waits =>
  tidy place waiter (same.waiters place ▸ waits)

theorem placed (same : h.SamePlaces h') {name : String} (placed : h.Placed name) :
    h'.Placed name where
  parent := by rw [← same.parent, ← same.nearest, placed.parent]
  waits place mem := same.waiters place ▸ placed.waits place (same.nearest _ ▸ mem)

/-- A logger that is named comes to the same place. -/
theorem named (same : h.SamePlaces h') (name : String) :
    (h.named name).SamePlaces (h'.named name) := by
  by_cases known : h.Known name
  · rw [named_of_known known, named_of_known ((same.known_iff name).mp known)]
    exact same
  · have known' : ¬h'.Known name := fun there => known ((same.known_iff name).mpr there)
    have absent : ∀ g : Hierarchy, ¬g.Known name → (g.named name).loggers.length =
        g.loggers.length + 1 := by
      intro g new
      have absent : (g.adopt name).get? name = none := by
        rw [get?_adopt, Option.map_eq_none_iff, ← Entries.has_eq_false_iff, Bool.eq_false_iff]
        exact fun here => new (.inr here)
      rw [named_of_new new]
      show ((g.adopt name).put name _).length = _
      rw [Entries.put_of_get?_eq_none absent, List.length_append, adopt, List.length_map,
        List.length_singleton]
    refine ⟨fun n => ?_, ?_, fun n => ?_, ?_⟩
    · rw [Bool.eq_iff_iff, has_named, has_named, same.has]
    · rw [absent h known, absent h' known', same.length]
    · by_cases own : n = name
      · rw [own, parent_named_self known, parent_named_self known', same.nearest]
      · rw [parent_named_of_ne known own, parent_named_of_ne known' own, same.has, same.waiters,
          same.parent, staysBelow, staysBelow, same.parent]
    · rw [named_of_new known, named_of_new known', same.nearest, same.waiting]

/-- The ways to the root are the same. -/
theorem chain (same : h.SamePlaces h') (name : String) : h.chain name = h'.chain name := by
  have within : ∀ n name, h.chainWithin n name = h'.chainWithin n name := by
    intro n
    induction n with
    | zero => exact fun _ => rfl
    | succ n ih =>
      intro name
      rw [chainWithin, chainWithin, same.parent, ih]
  rw [Hierarchy.chain, Hierarchy.chain, same.length, within]

end SamePlaces

end Hierarchy

end SearchDesk.Logging
