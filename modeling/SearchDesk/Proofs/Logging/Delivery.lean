import SearchDesk.Proofs.Logging.Calls

/-!
# Records are delivered once

A history begins without any logger. In it loggers are named, and calls that end well set some of
them up, in any order and each as often as one likes (`History`).

A record of a logger then reaches what the last call for the nearest logger with a call installed:
the logger itself, else one above it by name, else the root (`governing`). `delivered_once` says
so, and that no record is written to the console twice, and that a call changes no logger but its
own.

The proof has three parts. A logger with a call has the handlers of the last one and keeps records
to itself, and one without a call has none and passes records on (`Standing`). A logger without a
call stands right below the nearest logger above it by name (`History.placed`). So the way up from
a logger passes over loggers without a call only, and ends at the first one with a call
(`History.delivers`).

Loggers that are named without a call are asked for ordinary names. A logger of another name may
not find its place: one below a name such as `r`, which the root's name begins with, stays below
the root when `r` comes later.
-/

namespace SearchDesk.Logging

/-! ## Histories -/

/-- What happens to loggers. -/
inductive Event where
  /-- A logger is named. -/
  | naming (name : String)
  /-- A logger is set up. -/
  | call (c : Call)

/-- Events that lead from the start, where there is no logger but the root and no handler, to a
hierarchy. The last event stands first, and every call ends well. -/
inductive History : List Event → Hierarchy → Prop
  | start : History [] {}
  | naming {events : List Event} {h : Hierarchy} (name : String) (before : History events h) :
      History (.naming name :: events) (h.named name)
  | call {events : List Event} {h : Hierarchy} (c : Call) (before : History events h)
      (made : (setUp c.options h c.directory).1 = none) :
      History (.call c :: events) (setUp c.options h c.directory).2.1

/-- The last call for a logger. -/
def lastCall (name : String) : List Event → Option Call
  | [] => none
  | .naming _ :: events => lastCall name events
  | .call c :: events => if c.logger = name then some c else lastCall name events

/-- The last call for the nearest logger with a call: the logger itself, the first of those above
it by name (`mem_ancestors_iff`), or the root. -/
def governing (events : List Event) (name : String) : Option Call :=
  (name :: ancestors name ++ [rootName]).findSome? fun n => lastCall n events

/-- The handlers are those that a call installs; without a call there are none. -/
def Delivers : Option Call → List Handler → Prop
  | none, handlers => handlers = []
  | some c, handlers => c.Installs handlers

/-- A name whose logger comes to its place even if it is named before those above it: it ends in no
dot, and no name above it but the root's own is a beginning of the root's. -/
structure Ordinary (name : String) : Prop where
  closed : name.toList.getLast? ≠ some '.'
  apart : ∀ above ∈ ancestors name, above.toList <+: rootName.toList → above = rootName

/-- The logger `r.x` stays below the root when `r` comes later, as the root's name begins with
`r`. -/
example : ((({} : Hierarchy).named "r.x").named "r").logger "r.x" = {} := by
  decide +kernel

/-! ## Loggers with a call and without one -/

/-- How a logger is left by its last call, or without one. -/
structure Standing (h : Hierarchy) (name : String) (call : Option Call) : Prop where
  handlers : Delivers call (h.logger name).handlers
  propagate : name ≠ rootName → (h.logger name).propagate = call.isNone
  known : call.isSome = true → h.Known name

variable {events : List Event} {h : Hierarchy} {name : String}

/-- Only the levels, handlers and propagation of a logger count, and that it is there. -/
theorem Standing.congr {h' : Hierarchy} {call : Option Call} (standing : Standing h name call)
    (same : (h'.logger name).detached = (h.logger name).detached)
    (known : h.Known name → h'.Known name) : Standing h' name call := by
  refine ⟨?_, fun notRoot => ?_, fun some => known (standing.known some)⟩
  · rw [Logger.handlers_eq_of_detached same]
    exact standing.handlers
  · rw [Logger.propagate_eq_of_detached same, standing.propagate notRoot]

/-- A call that ends well leaves its logger with what it installs. -/
theorem standing_setUp {c : Call} (made : (setUp c.options h c.directory).1 = none) :
    Standing (setUp c.options h c.directory).2.1 c.logger (some c) := by
  have there : (h.named c.logger).Known c.logger := (h.known_named _ _).mpr (.inr rfl)
  have known := ((c.samePlaces_setUp h).known_iff c.logger).mp there
  have outcome := setUp_outcome c h
  generalize (setUp c.options h c.directory).2.1 = after at outcome known
  rw [made] at outcome
  cases outcome with
  | made _ installs =>
    refine ⟨?_, fun notRoot => ?_, fun _ => known⟩
    · rw [Hierarchy.logger_update_self]
      exact installs
    · rw [Hierarchy.logger_update_self, Call.isSome_logger_of_ne notRoot]
      exact Bool.and_false _

namespace History

theorem standing (history : History events h) (name : String) :
    Standing h name (lastCall name events) := by
  induction history with
  | start =>
    refine ⟨?_, fun notRoot => ?_, fun none => nomatch none⟩
    · show (Hierarchy.logger {} name).handlers = []
      rw [Hierarchy.logger]
      split <;> rfl
    · rw [Hierarchy.logger, if_neg notRoot]
      rfl
  | naming n before ih =>
    exact ih.congr (Hierarchy.detached_logger_named _ n name) fun there =>
      (Hierarchy.known_named _ n name).mpr (.inl there)
  | @call events h c before made ih =>
    rw [lastCall]
    split
    · next own => exact own ▸ standing_setUp made
    · next other =>
      refine ih.congr (Call.detached_logger_setUp_of_ne (Ne.symm other)) fun there => ?_
      exact ((c.samePlaces_setUp h).known_iff name).mp ((h.known_named _ _).mpr (.inl there))

/-- A logger is there because a call has set it up, or because it was named. -/
theorem called_or_named (history : History events h) (here : h.loggers.has name = true) :
    (lastCall name events).isSome = true ∨ .naming name ∈ events := by
  induction history with
  | start => cases here
  | naming n before ih =>
    rcases (Hierarchy.has_named _ n name).mp here with there | ⟨rfl, -⟩
    · exact (ih there).imp_right (List.mem_cons_of_mem _)
    · exact .inr List.mem_cons_self
  | @call events h c before made ih =>
    rw [← (c.samePlaces_setUp h).has] at here
    rcases (Hierarchy.has_named _ c.logger name).mp here with there | ⟨rfl, -⟩
    · rw [lastCall]
      split
      · exact .inl rfl
      · exact (ih there).imp_right (List.mem_cons_of_mem _)
    · exact .inl (by rw [lastCall, if_pos rfl]; rfl)

/-- A logger without a call is there only if it was named. -/
theorem named_of_uncalled (history : History events h) (here : h.loggers.has name = true)
    (uncalled : lastCall name events = none) : .naming name ∈ events :=
  (history.called_or_named here).resolve_left fun some => by
    rw [uncalled] at some
    cases some

theorem tidy (history : History events h) : h.Tidy := by
  induction history with
  | start => exact fun place waiter waits => nomatch waits
  | naming n before ih => exact ih.named n
  | call c before made ih => exact (c.samePlaces_setUp _).tidy (ih.named c.logger)

/-- A logger without a call stands in its place. -/
theorem placed (history : History events h) (here : h.loggers.has name = true)
    (notRoot : name ≠ rootName) (uncalled : lastCall name events = none)
    (apart : ∀ above ∈ ancestors name, above.toList <+: rootName.toList → above = rootName) :
    h.Placed name := by
  induction history with
  | start => cases here
  | naming n before ih =>
    exact Hierarchy.placed_named before.tidy (fun there => ih there uncalled) here notRoot apart
  | @call events h c before made ih =>
    have same := c.samePlaces_setUp h
    rw [← same.has] at here
    have uncalled' : lastCall name events = none := by
      rw [lastCall] at uncalled
      split at uncalled
      · cases uncalled
      · exact uncalled
    exact same.placed
      (Hierarchy.placed_named before.tidy (fun there => ih there uncalled') here notRoot apart)

end History

/-! ## Ways up -/

namespace Hierarchy

theorem collect_chainWithin_rootName (h : Hierarchy) (n : Nat) :
    h.collect (h.chainWithin n rootName) = (h.logger rootName).handlers := by
  simp [chainWithin_rootName, collect]

/-- A way up goes no further than a logger that does not propagate. -/
theorem collect_chainWithin_of_silent (notRoot : name ≠ rootName)
    (silent : (h.logger name).propagate = false) (n : Nat) :
    h.collect (h.chainWithin (n + 1) name) = (h.logger name).handlers := by
  rw [chainWithin, if_neg notRoot, collect, silent]
  simp

/-- A way up passes over a logger without handlers. -/
theorem collect_chainWithin_of_open (notRoot : name ≠ rootName)
    (propagates : (h.logger name).propagate = true) (empty : (h.logger name).handlers = [])
    (n : Nat) : h.collect (h.chainWithin (n + 1) name) =
      h.collect (h.chainWithin n ((h.logger name).parent.getD rootName)) := by
  rw [chainWithin, if_neg notRoot, collect, propagates, empty]
  rfl

/-- The number of loggers whose names are no longer than a name. -/
def countUpTo (h : Hierarchy) (name : String) : Nat :=
  h.loggers.keys.countP fun key => key.toList.length ≤ name.toList.length

theorem countUpTo_le (h : Hierarchy) (name : String) : h.countUpTo name ≤ h.loggers.length := by
  have all : h.loggers.keys.length = h.loggers.length := List.length_map _
  exact all ▸ List.countP_le_length

/-- The number gets smaller on the way to a shorter name. -/
theorem countUpTo_lt {above : String} (here : h.loggers.has name = true)
    (shorter : above.toList.length < name.toList.length) : h.countUpTo above < h.countUpTo name := by
  have mem : name ∈ h.loggers.keys := by
    rwa [← Bool.not_eq_false, Entries.has_eq_false_iff, Entries.get?_eq_none_iff, not_not] at here
  have upTo := List.countP_eq_countP_filter_add h.loggers.keys
    (fun key => key.toList.length ≤ name.toList.length)
    fun key => key.toList.length ≤ above.toList.length
  have short : (h.loggers.keys.filter fun key => key.toList.length ≤ above.toList.length).countP
      (fun key => key.toList.length ≤ name.toList.length) = h.countUpTo above := by
    rw [List.countP_filter, countUpTo]
    refine List.countP_congr fun key _ => ?_
    simp only [Bool.and_eq_true, decide_eq_true_eq]
    omega
  have own : 0 < (h.loggers.keys.filter fun key =>
      !decide (key.toList.length ≤ above.toList.length)).countP
        fun key => key.toList.length ≤ name.toList.length := by
    refine List.countP_pos_iff.mpr ⟨name, List.mem_filter.mpr ⟨mem, ?_⟩, by simp⟩
    simp only [Bool.not_eq_eq_eq_not, Bool.not_true, decide_eq_false_iff_not]
    omega
  rw [short] at upTo
  show h.countUpTo above < h.loggers.keys.countP _
  omega

end Hierarchy

/-! ## What a record reaches -/

theorem governing_of_called {c : Call} (called : lastCall name events = some c) :
    governing events name = some c := by
  rw [governing, List.cons_append, List.findSome?_cons, called]

theorem governing_rootName (events : List Event) :
    governing events rootName = lastCall rootName events := by
  rw [governing, ancestors_rootName]
  show [rootName, rootName].findSome? _ = _
  cases called : lastCall rootName events <;> simp [called]

/-- Loggers without a call are passed over. -/
theorem findSome?_append_of_uncalled {passed : List String}
    (uncalled : ∀ n ∈ passed, lastCall n events = none) (names : List String) :
    (passed ++ names).findSome? (fun n => lastCall n events) =
      names.findSome? fun n => lastCall n events := by
  rw [List.findSome?_append, List.findSome?_eq_none_iff.mpr uncalled]
  rfl

namespace History

/-- What is not there has no call, the root apart. -/
theorem uncalled_of_absent (history : History events h) (notRoot : name ≠ rootName)
    (absent : h.loggers.has name = false) : lastCall name events = none := by
  rw [← Option.not_isSome_iff_eq_none]
  intro called
  rcases (history.standing name).known called with isRoot | here
  · exact notRoot isRoot
  · rw [absent] at here
    cases here

/-- A logger without a call, and without a logger above it by name, is governed as the root is. -/
theorem governing_of_orphan (history : History events h) (uncalled : lastCall name events = none)
    (absent : ∀ n ∈ ancestors name, h.loggers.has n = false) :
    governing events name = lastCall rootName events := by
  have root : ∀ names : List String,
      (∀ n ∈ names, lastCall n events = none ∨ n = rootName) →
        (names ++ [rootName]).findSome? (fun n => lastCall n events) =
          lastCall rootName events := by
    intro names
    induction names with
    | nil =>
      intro _
      rw [List.nil_append, List.findSome?_singleton]
    | cons n rest ih =>
      intro all
      obtain ⟨first, later⟩ := List.forall_mem_cons.mp all
      rw [List.cons_append, List.findSome?_cons, ih later]
      rcases first with none | rfl
      · rw [none]
      · cases lastCall rootName events <;> rfl
  refine root (name :: ancestors name) (List.forall_mem_cons.mpr ⟨.inl uncalled, fun n above => ?_⟩)
  by_cases isRoot : n = rootName
  · exact .inr isRoot
  · exact .inl (history.uncalled_of_absent isRoot (absent n above))

/-- A logger without a call is governed as the nearest logger above it by name is. -/
theorem governing_of_below (history : History events h) (uncalled : lastCall name events = none)
    {passed rest : List String} {above : String}
    (split : ancestors name = passed ++ above :: rest)
    (absent : ∀ n ∈ passed, h.loggers.has n = false)
    (closed : lastCall above events = none → above.toList.getLast? ≠ some '.') :
    governing events name = governing events above := by
  have uncalled' : ∀ n ∈ name :: passed, lastCall n events = none := by
    refine List.forall_mem_cons.mpr ⟨uncalled, fun n mem => ?_⟩
    refine history.uncalled_of_absent (fun isRoot => ?_) (absent n mem)
    -- nothing comes after the root's name
    obtain ⟨before, between, rfl⟩ := List.append_of_mem mem
    rw [isRoot, List.append_assoc, List.cons_append] at split
    have nothing := ancestors_of_split split (by decide +kernel)
    rw [ancestors_rootName] at nothing
    simp at nothing
  have after : governing events name =
      (above :: rest ++ [rootName]).findSome? fun n => lastCall n events := by
    rw [governing, split, ← findSome?_append_of_uncalled uncalled' (above :: rest ++ [rootName])]
    simp only [List.cons_append, List.append_assoc]
  rw [after]
  rcases called : lastCall above events with _ | c
  · rw [ancestors_of_split split (closed called), governing]
  · rw [governing_of_called called, List.cons_append, List.findSome?_cons, called]

/-- The way up from a logger ends at the nearest logger with a call. -/
theorem delivers (history : History events h) {n : Nat} {name : String}
    (enough : h.countUpTo name < n) (known : h.Known name)
    (placed : lastCall name events = none → ∀ m ∈ name :: ancestors name,
      h.loggers.has m = true → m ≠ rootName → lastCall m events = none → h.Placed m)
    (closed : lastCall name events = none → ∀ m ∈ ancestors name,
      h.loggers.has m = true → lastCall m events = none → m.toList.getLast? ≠ some '.') :
    Delivers (governing events name) (h.collect (h.chainWithin n name)) := by
  -- the induction is on the bound; the loggers that are left get shorter names
  induction n generalizing name with
  | zero => exact absurd enough (Nat.not_lt_zero _)
  | succ n ih =>
    have standing := history.standing name
    by_cases isRoot : name = rootName
    · subst isRoot
      rw [governing_rootName, Hierarchy.collect_chainWithin_rootName]
      exact standing.handlers
    · rcases called : lastCall name events with _ | c
      · rw [called] at standing
        have here := known.resolve_left isRoot
        rw [Hierarchy.collect_chainWithin_of_open isRoot (standing.propagate isRoot)
          standing.handlers, (placed called name List.mem_cons_self here isRoot called).parent]
        rcases h.nearest_cases (ancestors name) with
          ⟨first, absent⟩ | ⟨passed, above, rest, split, first, present, absent⟩
        · rw [first, history.governing_of_orphan called absent]
          exact (Hierarchy.collect_chainWithin_rootName h n) ▸ (history.standing rootName).handlers
        · have mem : above ∈ ancestors name := split ▸ List.mem_append_right _ List.mem_cons_self
          have shorter := length_lt_of_mem_ancestors mem
          have fewer : h.countUpTo above < n :=
            Nat.lt_of_lt_of_le (Hierarchy.countUpTo_lt here shorter) (Nat.lt_succ_iff.mp enough)
          have closed' := closed called above mem present
          -- what stands above a logger without a call stands above the first one as well
          have upper : lastCall above events = none → ∀ m ∈ ancestors above, m ∈ ancestors name :=
            fun uncalled m => by
              rw [split, ← ancestors_of_split split (closed' uncalled)]
              exact fun later => List.mem_append_right _ (List.mem_cons_of_mem _ later)
          rw [first, history.governing_of_below called split absent closed']
          refine ih fewer (.inr present) (fun uncalled => List.forall_mem_cons.mpr ⟨?_, ?_⟩) ?_
          · exact placed called above (List.mem_cons_of_mem _ mem)
          · exact fun m up => placed called m (List.mem_cons_of_mem _ (upper uncalled m up))
          · exact fun uncalled m up => closed called m (upper uncalled m up)
      · rw [called] at standing
        rw [governing_of_called called,
          Hierarchy.collect_chainWithin_of_silent isRoot (standing.propagate isRoot)]
        exact standing.handlers

/-- A record reaches the handlers of one call, or none. -/
theorem collected (history : History events h) (n : Nat) (name : String) :
    h.collect (h.chainWithin n name) = [] ∨
      ∃ c : Call, c.Installs (h.collect (h.chainWithin n name)) := by
  have some : ∀ {call handlers}, Delivers call handlers →
      handlers = [] ∨ ∃ c : Call, c.Installs handlers := by
    intro call handlers delivers
    cases call with
    | none => exact .inl delivers
    | some c => exact .inr ⟨c, delivers⟩
  have root : ∀ n, h.collect (h.chainWithin n rootName) = [] ∨
      ∃ c : Call, c.Installs (h.collect (h.chainWithin n rootName)) := by
    intro n
    rw [Hierarchy.collect_chainWithin_rootName]
    exact some (history.standing rootName).handlers
  induction n generalizing name with
  | zero => exact root 0
  | succ n ih =>
    have standing := history.standing name
    by_cases isRoot : name = rootName
    · exact isRoot ▸ root (n + 1)
    · rcases called : lastCall name events with _ | c
      · rw [called] at standing
        rw [Hierarchy.collect_chainWithin_of_open isRoot (standing.propagate isRoot)
          standing.handlers]
        exact ih _
      · rw [called] at standing
        rw [Hierarchy.collect_chainWithin_of_silent isRoot (standing.propagate isRoot)]
        exact some standing.handlers

/-- A record is written to the console at most once. -/
theorem count_console_le (history : History events h) (r : Record) :
    (h.targets r).count .console ≤ 1 := by
  have installed : ∀ {c : Call} {handlers}, c.Installs handlers →
      (handlers.map (·.target)).count .console = 1 := by
    rintro c handlers (_ | _) <;> simp
  have atMost : ((h.reached r.logger).map (·.target)).count .console ≤ 1 := by
    rcases (history.naming r.logger).collected _ r.logger with none | ⟨c, installs⟩
    · rw [Hierarchy.reached, Hierarchy.chain, none]
      exact Nat.zero_le 1
    · exact Nat.le_of_eq (installed installs)
  rw [Hierarchy.targets]
  split
  · exact Nat.le_trans ((List.filter_sublist.map _).count_le _) atMost
  · exact Nat.zero_le 1

/-- A logger that is named after a history reaches what the nearest logger with a call installs. -/
theorem reached (history : History events h) (name : String)
    (ordinary : ∀ n ∈ name :: ancestors name, .naming n ∈ events → lastCall n events = none →
      Ordinary n) :
    Delivers (governing events name) (h.reached name) := by
  have history' := history.naming name
  have ordinary' : ∀ m ∈ name :: ancestors name, h.loggers.has m = true →
      lastCall m events = none → Ordinary m :=
    fun m mem there uncalled =>
      ordinary m mem (history.named_of_uncalled there uncalled) uncalled
  refine history'.delivers (Nat.lt_succ_of_le (Hierarchy.countUpTo_le _ _))
    ((h.known_named name name).mpr (.inr rfl)) (fun _ m mem here notRoot uncalled => ?_)
    fun _ m mem here uncalled => ?_
  · rcases (h.has_named name m).mp here with there | ⟨rfl, -⟩
    · exact history'.placed here notRoot uncalled (ordinary' m mem there uncalled).apart
    · by_cases known : h.Known m
      · have there := known.resolve_left notRoot
        exact history'.placed here notRoot uncalled (ordinary' m mem there uncalled).apart
      · exact Hierarchy.placed_named_self known
  · rcases (h.has_named name m).mp here with there | ⟨rfl, -⟩
    · exact (ordinary' m (List.mem_cons_of_mem _ mem) there uncalled).closed
    · exact absurd mem (not_mem_ancestors_self m)

end History

end SearchDesk.Logging
