import Mathlib.Data.List.Induction
import Mathlib.Tactic.SplitIfs
import SearchDesk.Proofs.Desk.Storeless

/-!
# Settings over a whole run

A run is a sequence of steps: something about the configuration changes, the settings that are
kept are forgotten, or a task is done. Tasks reach the settings in different ways, and some of
them only if nothing else is given.

* `Task.Reads` tells which tasks look the settings up, and `Task.answerWith` what a task gives
  under given settings;
* `Store.source` is where the settings come from after some steps: only the changes count. A load
  changes the environment as well, since it fills in variables, but a later load would fill in the
  same ones (`filled_after`);
* `FirstLoad` says which settings were loaded first since they were last forgotten.

`snapshot_of_run` says that a task in any run gets by with exactly these settings, that a load
that fails is tried again, and that a task which does not read settings goes the same way over
every store. `fresh_after` and `kept_after_iff` say what a whole run leaves in the store.
-/

namespace SearchDesk

open Schema

/-! ## Steps of a run -/

/-- A change of what the settings are loaded from. -/
inductive Change where
  /-- A variable of the environment is set or unset. -/
  | environment (name : String) (value : Option String)
  /-- The variable that names the configuration directory is set or unset. -/
  | directory (p : Option ConfigPlace)
  /-- The directory that a load would look into has other files. -/
  | files (files : Files.Directory)

/-- A piece of work that may need the settings. -/
inductive Task where
  | settings
  | canonicalize (depth : Int) (ceiling : Option Int) (node : Json)
  | normalize (ceiling : Option Int) (node : Json)
  | detect (rules : Option Rules) (sample : List Json)
  | sampleRequest (limit : Json)
  | tableSchema (found : Report) (overrides : Json)

/-- What a task gives. -/
inductive Answer where
  | settings (s : Settings)
  | json (v : Json)
  | report (r : Report)
  | table (t : TableSchema)
deriving DecidableEq

/-- A step of a run. -/
inductive Step where
  | change (c : Change)
  | clear
  | task (t : Task)

/-- The store with other files in the directory that a load would look into. -/
def Store.withFiles (fs : Files.Directory) (s : Store) : Store :=
  match s.filled.chosen, s.supplied.directory with
  | some (.other c), _ => { s with chosen := some (.other { c with directory := fs }) }
  | some .supplied, some c =>
    { s with supplied := { s.supplied with directory := some { c with directory := fs } } }
  | _, _ => { s with home := { s.home with directory := fs } }

/-- A change, at the place that the settings are loaded from. -/
def Change.onStore : Change → Store → Store
  | environment name value, s =>
    if name = Settings.maxDepthVariable then
      { s with overrides := { s.overrides with maxDepth := value } }
    else if name = Settings.sampleSizeVariable then
      { s with overrides := { s.overrides with sampleSize := value } }
    else s
  | directory p, s => { s with chosen := p }
  | files fs, s => s.withFiles fs

/-- A change at the desk. -/
def Change.perform : Change → Desk → Desk
  | environment name value, d => d.setVariable name value
  | directory p, d => d.setConfigPlace p
  | files fs, d => d.withStore ((files fs).onStore d.store)

namespace Task

/-- A task as a piece of work. -/
def work : Task → Work Answer
  | settings => do return .settings (← Work.settings)
  | canonicalize depth ceiling node => do return .json (← Work.canonicalize depth ceiling node)
  | normalize ceiling node => do return .json (← Work.normalize ceiling node)
  | detect rules sample => do return .report (← Work.detect rules sample)
  | sampleRequest limit => do return .json (← Work.sampleRequest limit)
  | tableSchema found overrides => do return .table (← Work.tableSchema found overrides)

/-- The task looks the settings up. A ceiling, rules or a limit that are given spare that, so do
a query that need not be made canonical and overrides that are refused. -/
def Reads : Task → Prop
  | settings => True
  | canonicalize _ ceiling _ => ceiling = none
  | normalize ceiling node => ceiling = none ∧ Query.needsCanonicalizing node = true
  | detect rules _ => rules = none
  | sampleRequest limit => limit = .null
  | tableSchema found overrides => (documentSchemas found.groups overrides).isOk = true

/-- What a task gives under given settings. -/
def answerWith (t : Task) (s : Settings) : Except Fault Answer :=
  match t with
  | settings => .ok (.settings s)
  | canonicalize depth ceiling node =>
    .ok (.json (Query.canonicalize depth (ceiling.getD s.maxDepth) node))
  | normalize ceiling node => .ok (.json (Query.normalize (ceiling.getD s.maxDepth) node))
  | detect rules sample => .ok (.report (Schema.detect (rules.getD s.rules) sample))
  | sampleRequest limit =>
    .ok (.json (Schema.sampleRequest (if limit.isNull then .int s.rules.sampleSize else limit)))
  | tableSchema found overrides =>
    ((Schema.tableSchema s.rules.defaultKind found overrides).mapError Fault.table).map .table

end Task

namespace Step

/-- The step looks the settings up. -/
def Reads : Step → Prop
  | task t => t.Reads
  | _ => False

/-- The desk after a step; a fault of a task does not end the run. -/
def perform : Step → Desk → Desk
  | change c, d => c.perform d
  | clear, d => d.clearSettings
  | task t, d => (t.work.perform d).2

/-- What a step changes about the place that the settings are loaded from. -/
def onStore : Step → Store → Store
  | change c, s => c.onStore s
  | _, s => s

end Step

/-- The desk after some steps. -/
def Desk.after (d : Desk) (steps : List Step) : Desk := steps.foldl (fun d x => x.perform d) d

/-- Where the settings come from after some steps, if no variable is filled in before the end. -/
def Store.source (s : Store) (steps : List Step) : Store := steps.foldl (fun s x => x.onStore s) s

/-- The step after the first ones reads the settings, and they are not forgotten any more. -/
def ReadSinceClear (steps before : List Step) : Prop :=
  ∃ step rest, steps = before ++ step :: rest ∧ step.Reads ∧ Step.clear ∉ rest

/-- The settings of the first load that succeeds since the settings were forgotten, or since the
start: what the file and the environment were then. -/
def FirstLoad (start : Store) (steps : List Step) (s : Settings) : Prop :=
  ∃ before, ReadSinceClear steps before ∧ (start.source before).fresh.1 = .ok s ∧
    ∀ earlier, ReadSinceClear before earlier → ∃ f, (start.source earlier).fresh.1 = .error f

/-! ## Tasks -/

namespace Task

/-- A task that reads the settings looks them up first, and then goes on without the store. -/
theorem exists_next_of_reads {t : Task} (reads : t.Reads) :
    ∃ next : Settings → Work Answer, t.work = Work.settings >>= next ∧
      ∀ s, Work.Gives (next s) (t.answerWith s) := by
  cases t with
  | settings => exact ⟨fun s => pure (.settings s), rfl, fun s => .pure _⟩
  | canonicalize depth ceiling node =>
    obtain rfl : ceiling = none := reads
    refine ⟨fun s => Work.reportNoted (Query.canonicalizeNoted depth s.maxDepth node) >>=
      fun v => pure (.json v), ?_, fun s => ?_⟩
    · simp [work, Work.canonicalize, Work.ceilingOr]
    · exact .bind (.reportNoted _) (.pure _)
  | normalize ceiling node =>
    obtain ⟨rfl, needed⟩ := reads
    refine ⟨fun s => Work.reportNoted (Query.canonicalizeNoted 0 s.maxDepth node) >>=
      fun v => pure (.json v), ?_, fun s => ?_⟩
    · simp [work, Work.normalize, needed, Work.canonicalize, Work.ceilingOr]
    · have form : Query.normalize s.maxDepth node =
          (Query.canonicalizeNoted 0 s.maxDepth node).value := by
        rw [Query.normalize, Query.normalizeNoted, if_pos needed]
      show Work.Gives _ (.ok (Answer.json (Query.normalize s.maxDepth node)))
      rw [form]
      exact .bind (.reportNoted _) (.pure _)
  | detect rules sample =>
    obtain rfl : rules = none := reads
    refine ⟨fun s => Work.detect (some s.rules) sample >>= fun r => pure (.report r),
      ?_, fun s => ?_⟩
    · simp [work, Work.detect, Work.rulesOr]
    · exact .bind (.detect _ _) (.pure _)
  | sampleRequest limit =>
    obtain rfl : limit = .null := reads
    refine ⟨fun s => pure (.json (Schema.sampleRequest (.int s.rules.sampleSize))),
      ?_, fun s => .pure _⟩
    simp [work, Work.sampleRequest]
  | tableSchema found overrides =>
    rcases made : documentSchemas found.groups overrides with f | documents
    · rw [Reads, made] at reads
      cases reads
    · refine ⟨fun s => pure (.table (.ofDocuments s.rules.defaultKind documents)),
        ?_, fun s => ?_⟩
      · simp [work, Work.tableSchema, made, Work.ofExcept]
      · rw [answerWith, Schema.tableSchema, made]
        exact .pure _

/-- So it fails with the settings, and otherwise answers by them. -/
theorem perform_of_reads {t : Task} (reads : t.Reads) (d : Desk) :
    (t.work.perform d).1 = (d.store.get.1.1.mapError Fault.load).bind t.answerWith ∧
      (t.work.perform d).2.store = d.store.get.2 := by
  obtain ⟨next, looksUp, gives⟩ := exists_next_of_reads reads
  rw [looksUp]
  exact Work.perform_settings_bind gives d

/-- With settings at hand it does not fail. -/
theorem answerWith_ne_error {t : Task} (reads : t.Reads) (s : Settings) (f : Fault) :
    t.answerWith s ≠ .error f := by
  cases t with
  | tableSchema found overrides =>
    rcases made : documentSchemas found.groups overrides with f | documents
    · rw [Reads, made] at reads
      cases reads
    · rw [answerWith, Schema.tableSchema, made]
      exact nofun
  | _ => exact nofun

/-- Any other task goes the same way over every store, and answers the same under all settings. -/
theorem gives_of_not_reads {t : Task} (apart : ¬t.Reads) (s : Settings) :
    Work.Gives t.work (t.answerWith s) := by
  cases t with
  | settings => exact absurd trivial apart
  | canonicalize depth ceiling node =>
    rcases ceiling with _ | ceiling
    · exact absurd rfl apart
    · exact .bind (.bind (.pure ceiling) (.reportNoted _)) (.pure _)
  | normalize ceiling node =>
    cases needed : Query.needsCanonicalizing node with
    | true =>
      rcases ceiling with _ | ceiling
      · exact absurd ⟨rfl, needed⟩ apart
      · have rewritten : (normalize (some ceiling) node).work =
            (canonicalize 0 (some ceiling) node).work := by
          simp [work, Work.normalize, needed]
        have form : (normalize (some ceiling) node).answerWith s =
            (canonicalize 0 (some ceiling) node).answerWith s := by
          simp [answerWith, Query.normalize, Query.normalizeNoted, needed, Query.canonicalize]
        rw [rewritten, form]
        exact .bind (.bind (.pure ceiling) (.reportNoted _)) (.pure _)
    | false =>
      have left : (normalize ceiling node).work = pure (.json node) := by
        simp [work, Work.normalize, needed]
      have form : (normalize ceiling node).answerWith s = .ok (.json node) := by
        simp [answerWith, Query.normalize, Query.normalizeNoted, needed]
      rw [left, form]
      exact .pure _
  | detect rules sample =>
    rcases rules with _ | rules
    · exact absurd rfl apart
    · exact .bind (.detect rules sample) (.pure _)
  | sampleRequest limit =>
    cases limit with
    | null => exact absurd rfl apart
    | _ => exact .pure _
  | tableSchema found overrides =>
    rcases made : documentSchemas found.groups overrides with f | documents
    · have refused : (tableSchema found overrides).work = throw (.table f) := by
        simp [work, Work.tableSchema, made, Work.ofExcept]
      have form : (tableSchema found overrides).answerWith s = .error (.table f) := by
        rw [answerWith, Schema.tableSchema, made]
        rfl
      rw [refused, form]
      exact ⟨fun _ => rfl, fun _ _ => rfl⟩
    · rw [Reads, made] at apart
      exact absurd rfl apart

end Task

/-! ## Looking the settings up -/

namespace Store

variable {s : Store} {v : Settings}

theorem get_of_kept (kept : s.kept = some v) : s.get = ((.ok v, []), s) := by
  rw [get, kept]

theorem get_of_loaded (unkept : s.kept = none) (loaded : s.fresh.1 = .ok v) :
    s.get.1.1 = .ok v ∧ s.get.2 = { s.filled with kept := some v } := by
  rw [get, unkept, show s.fresh = (.ok v, s.fresh.2) from Prod.ext loaded rfl]
  exact ⟨rfl, rfl⟩

theorem get_of_failed {f : LoadFault} (unkept : s.kept = none) (failed : s.fresh.1 = .error f) :
    s.get.1.1 = .error f ∧ s.get.2 = s.filled := by
  rw [get, unkept, show s.fresh = (.error f, s.fresh.2) from Prod.ext failed rfl]
  exact ⟨rfl, rfl⟩

theorem kept_filled (s : Store) : s.filled.kept = s.kept := rfl

/-- Filling in what is not set leaves nothing to fill in. -/
theorem filled_filled (s : Store) : s.filled.filled = s.filled := by
  simp [filled, Overrides.orElse, Option.or_assoc]

/-- Looking the settings up changes nothing about where they come from, but for the variables that
are filled in. -/
theorem clear_get (s : Store) : s.get.2.clear = s.clear ∨ s.get.2.clear = s.clear.filled := by
  rcases kept : s.kept with _ | v
  · rcases fresh : s.fresh.1 with f | v
    · rw [(get_of_failed kept fresh).2]
      exact .inr rfl
    · rw [(get_of_loaded kept fresh).2]
      exact .inr rfl
  · rw [get_of_kept kept]
    exact .inl rfl

theorem filled_clear_get (s : Store) : s.get.2.clear.filled = s.clear.filled := by
  rcases s.clear_get with same | same
  · rw [same]
  · rw [same, filled_filled]

/-- What a look at the settings finds is kept. -/
theorem kept_get (s : Store) : s.get.2.kept = s.get.1.1.toOption := by
  rcases kept : s.kept with _ | v
  · rcases fresh : s.fresh.1 with f | v
    · rw [(get_of_failed kept fresh).1, (get_of_failed kept fresh).2, kept_filled, kept]
      rfl
    · rw [(get_of_loaded kept fresh).1, (get_of_loaded kept fresh).2]
      rfl
  · rw [get_of_kept kept, kept]
    rfl

theorem clear_eq_self (unkept : s.kept = none) : s.clear = s := by
  rw [clear, ← unkept]

end Store

/-! ## What a step leaves in the store -/

theorem Change.store_perform (c : Change) (d : Desk) : (c.perform d).store = c.onStore d.store := by
  cases c with
  | environment name value =>
    simp only [perform, onStore, Desk.setVariable]
    split_ifs <;> rfl
  | directory p => rfl
  | files fs => rfl

theorem Change.clear_onStore (c : Change) (s : Store) : (c.onStore s).clear = c.onStore s.clear := by
  cases c with
  | environment name value =>
    simp only [onStore, Store.clear]
    split_ifs <;> rfl
  | directory p => rfl
  | files fs =>
    obtain ⟨home, chosen, overrides, ⟨directory, file⟩, kept⟩ := s
    rcases chosen with _ | _ | _ | c <;> cases directory <;> rfl

/-- A change comes to the same, whether variables were filled in before it or not. -/
theorem Change.filled_onStore (c : Change) (s : Store) :
    (c.onStore s.filled).filled = (c.onStore s).filled := by
  cases c with
  | environment name value =>
    simp only [onStore]
    split_ifs <;> simp [Store.filled, Overrides.orElse, Option.or_assoc]
  | directory p => simp [onStore, Store.filled, Overrides.orElse, Option.or_assoc]
  | files fs =>
    obtain ⟨home, chosen, overrides, ⟨directory, file⟩, kept⟩ := s
    rcases chosen with _ | _ | _ | c <;> cases directory <;>
      simp [onStore, Store.withFiles, Store.filled, Overrides.orElse, Option.or_assoc]

theorem Change.kept_onStore (c : Change) (s : Store) : (c.onStore s).kept = s.kept := by
  cases c with
  | environment name value =>
    simp only [onStore]
    split_ifs <;> rfl
  | directory p => rfl
  | files fs =>
    show (s.withFiles fs).kept = s.kept
    unfold Store.withFiles
    split <;> rfl

namespace Step

theorem store_perform_of_reads {x : Step} (reads : x.Reads) (d : Desk) :
    (x.perform d).store = d.store.get.2 := by
  cases x with
  | task t => exact (Task.perform_of_reads reads d).2
  | change c => exact reads.elim
  | clear => exact reads.elim

theorem store_perform_of_not_reads {t : Task} (apart : ¬t.Reads) (d : Desk) :
    ((task t).perform d).store = d.store :=
  (Task.gives_of_not_reads apart default).storeless.store_perform d

/-- Only a change touches what the settings are loaded from, but for variables that are filled
in. -/
theorem filled_clear_perform (x : Step) (d : Desk) :
    (x.perform d).store.clear.filled = (x.onStore d.store.clear).filled := by
  cases x with
  | change c =>
    show (c.perform d).store.clear.filled = (c.onStore d.store.clear).filled
    rw [c.store_perform, c.clear_onStore]
  | clear => rfl
  | task t =>
    show ((task t).perform d).store.clear.filled = d.store.clear.filled
    by_cases reads : t.Reads
    · rw [store_perform_of_reads (x := task t) reads, Store.filled_clear_get]
    · rw [store_perform_of_not_reads reads]

theorem filled_onStore (x : Step) (s : Store) : (x.onStore s.filled).filled = (x.onStore s).filled := by
  cases x with
  | change c => exact c.filled_onStore s
  | clear => exact s.filled_filled
  | task t => exact s.filled_filled

/-- The settings that are kept go at a clear, may come with a look at them, and stay otherwise. -/
theorem kept_perform_of_not_reads {x : Step} (apart : ¬x.Reads) (noClear : x ≠ clear) (d : Desk) :
    (x.perform d).store.kept = d.store.kept := by
  cases x with
  | change c =>
    show (c.perform d).store.kept = d.store.kept
    rw [c.store_perform, c.kept_onStore]
  | clear => exact absurd rfl noClear
  | task t => rw [store_perform_of_not_reads apart]

theorem not_reads_clear : ¬clear.Reads := id

end Step

/-! ## What a run leaves in the store -/

theorem Desk.after_append (d : Desk) (steps more : List Step) :
    d.after (steps ++ more) = (d.after steps).after more := List.foldl_append

theorem Desk.after_concat (d : Desk) (steps : List Step) (x : Step) :
    d.after (steps ++ [x]) = x.perform (d.after steps) := d.after_append steps [x]

/-- Stores that differ by variables that are filled in still do so after the same changes. -/
theorem Store.filled_source_congr {s t : Store} (same : s.filled = t.filled) (steps : List Step) :
    (s.source steps).filled = (t.source steps).filled := by
  induction steps generalizing s t with
  | nil => exact same
  | cons x rest ih =>
    refine ih (s := x.onStore s) (t := x.onStore t) ?_
    rw [← x.filled_onStore s, same, x.filled_onStore]

/-- After any run, the files and the variables in force are what the changes have made of them. -/
theorem filled_after {d : Desk} (unkept : d.store.kept = none) (steps : List Step) :
    (d.after steps).store.clear.filled = (d.store.source steps).filled := by
  have run : ∀ (steps : List Step) (d : Desk),
      (d.after steps).store.clear.filled = (d.store.clear.source steps).filled := by
    intro steps
    induction steps with
    | nil => exact fun _ => rfl
    | cons x rest ih =>
      intro d
      show ((x.perform d).after rest).store.clear.filled =
        ((x.onStore d.store.clear).source rest).filled
      rw [ih, Store.filled_source_congr (x.filled_clear_perform d)]
  rw [run, Store.clear_eq_self unkept]

/-- So the settings would be loaded from where the changes have put them. -/
theorem fresh_after {d : Desk} (unkept : d.store.kept = none) (steps : List Step) :
    (d.after steps).store.fresh = (d.store.source steps).fresh := by
  -- what is kept makes no difference to a load
  show (d.after steps).store.clear.filled.read = _
  rw [filled_after unkept]
  rfl

theorem readSinceClear_concat {steps before : List Step} {x : Step} :
    ReadSinceClear (steps ++ [x]) before ↔
      x ≠ .clear ∧ ReadSinceClear steps before ∨ before = steps ∧ x.Reads := by
  constructor
  · rintro ⟨step, rest, split, reads, lasting⟩
    rcases List.eq_nil_or_concat rest with rfl | ⟨rest, last, rfl⟩
    · obtain ⟨rfl, same⟩ := List.append_inj' split rfl
      obtain rfl : x = step := List.singleton_inj.mp same
      exact .inr ⟨rfl, reads⟩
    · rw [List.concat_eq_append] at split lasting
      have split' : steps ++ [x] = (before ++ step :: rest) ++ [last] := by
        rw [split, List.append_assoc, List.cons_append]
      obtain ⟨rfl, same⟩ := List.append_inj' split' rfl
      obtain rfl : x = last := List.singleton_inj.mp same
      simp only [List.mem_append, List.mem_singleton, not_or] at lasting
      exact .inl ⟨Ne.symm lasting.2, step, rest, rfl, reads, lasting.1⟩
  · rintro (⟨noClear, step, rest, rfl, reads, lasting⟩ | ⟨rfl, reads⟩)
    · refine ⟨step, rest ++ [x], by simp, reads, ?_⟩
      simp only [List.mem_append, List.mem_singleton, not_or]
      exact ⟨lasting, Ne.symm noClear⟩
    · exact ⟨x, [], rfl, reads, by simp⟩

theorem FirstLoad.concat {start : Store} {steps : List Step} {v : Settings} {x : Step}
    (first : FirstLoad start steps v) (noClear : x ≠ .clear) :
    FirstLoad start (steps ++ [x]) v := by
  obtain ⟨before, read, loaded, earlier⟩ := first
  exact ⟨before, readSinceClear_concat.mpr (.inl ⟨noClear, read⟩), loaded, earlier⟩

/-- What is kept is what was loaded first; if nothing is kept, all loads have failed. -/
def KeptBy (start : Store) (steps : List Step) : Option Settings → Prop
  | some v => FirstLoad start steps v
  | none => ∀ before, ReadSinceClear steps before → ∃ f, (start.source before).fresh.1 = .error f

section KeptBy

variable {d : Desk} {steps : List Step} {x : Step}
  (kept : KeptBy d.store steps (d.after steps).store.kept)

include kept

/-- A step that reads the settings loads them if none are kept, and keeps what it has loaded. -/
theorem KeptBy.concat_of_reads (unkept : d.store.kept = none) (reads : x.Reads) :
    KeptBy d.store (steps ++ [x]) (x.perform (d.after steps)).store.kept := by
  have noClear : x ≠ .clear := by
    rintro rfl
    exact Step.not_reads_clear reads
  rw [Step.store_perform_of_reads reads]
  rcases found : (d.after steps).store.kept with _ | v
  · rw [found] at kept
    rcases fresh : (d.after steps).store.fresh.1 with f | v
    · -- the load has failed, and so have those before
      rw [(Store.get_of_failed found fresh).2, Store.kept_filled, found]
      intro before read
      rcases readSinceClear_concat.mp read with ⟨-, earlier⟩ | ⟨rfl, -⟩
      · exact kept before earlier
      · rw [← fresh_after unkept]
        exact ⟨f, fresh⟩
    · rw [(Store.get_of_loaded found fresh).2]
      rw [fresh_after unkept] at fresh
      exact ⟨steps, readSinceClear_concat.mpr (.inr ⟨rfl, reads⟩), fresh, kept⟩
  · rw [Store.get_of_kept found, found]
    rw [found] at kept
    exact kept.concat noClear

theorem KeptBy.concat_of_not_reads (apart : ¬x.Reads) (noClear : x ≠ .clear) :
    KeptBy d.store (steps ++ [x]) (x.perform (d.after steps)).store.kept := by
  rw [Step.kept_perform_of_not_reads apart noClear]
  rcases found : (d.after steps).store.kept with _ | v
  · rw [found] at kept
    intro before read
    rcases readSinceClear_concat.mp read with ⟨-, earlier⟩ | ⟨-, no⟩
    · exact kept before earlier
    · exact absurd no apart
  · rw [found] at kept
    exact kept.concat noClear

end KeptBy

/-- After a clear nothing has been read. -/
theorem keptBy_concat_clear (start : Store) (steps : List Step) :
    KeptBy start (steps ++ [.clear]) none := by
  intro before read
  rcases readSinceClear_concat.mp read with ⟨no, -⟩ | ⟨-, no⟩
  · exact absurd rfl no
  · exact absurd no Step.not_reads_clear

theorem kept_after {d : Desk} (unkept : d.store.kept = none) (steps : List Step) :
    KeptBy d.store steps (d.after steps).store.kept := by
  -- a step is added at the end of the run, where it meets the store that the run has left
  induction steps using List.reverseRecOn with
  | nil =>
    show KeptBy d.store [] d.store.kept
    rw [unkept]
    rintro before ⟨step, rest, no, -⟩
    simp at no
  | append_singleton steps x ih =>
    rw [Desk.after_concat]
    by_cases reads : x.Reads
    · exact ih.concat_of_reads unkept reads
    · by_cases noClear : x = .clear
      · subst noClear
        exact keptBy_concat_clear d.store steps
      · exact ih.concat_of_not_reads reads noClear

/-! ## The first load -/

/-- Of two reads that last, one comes first, and it lasts until the other one. -/
theorem ReadSinceClear.order {steps b₁ b₂ : List Step} (first : ReadSinceClear steps b₁)
    (second : ReadSinceClear steps b₂) :
    b₁ = b₂ ∨ ReadSinceClear b₂ b₁ ∨ ReadSinceClear b₁ b₂ := by
  obtain ⟨x₁, rest₁, rfl, reads₁, lasting₁⟩ := first
  obtain ⟨x₂, rest₂, split, reads₂, lasting₂⟩ := second
  rcases List.append_eq_append_iff.mp split with ⟨gap, rfl, tail⟩ | ⟨gap, rfl, tail⟩
  · cases gap with
    | nil => exact .inl (List.append_nil b₁).symm
    | cons x gap =>
      obtain ⟨rfl, rfl⟩ := List.cons.inj tail
      refine .inr (.inl ⟨x₁, gap, rfl, reads₁, ?_⟩)
      exact fun inside => lasting₁ (List.mem_append_left _ inside)
  · cases gap with
    | nil => exact .inl (List.append_nil b₂)
    | cons x gap =>
      obtain ⟨rfl, rfl⟩ := List.cons.inj tail
      refine .inr (.inr ⟨x₂, gap, rfl, reads₂, ?_⟩)
      exact fun inside => lasting₂ (List.mem_append_left _ inside)

theorem FirstLoad.unique {start : Store} {steps : List Step} {v w : Settings}
    (first : FirstLoad start steps v) (other : FirstLoad start steps w) : v = w := by
  obtain ⟨b₁, read₁, loaded₁, earlier₁⟩ := first
  obtain ⟨b₂, read₂, loaded₂, earlier₂⟩ := other
  rcases read₁.order read₂ with rfl | before | before
  · exact Except.ok.inj (loaded₁.symm.trans loaded₂)
  · -- the first of the two would have failed
    obtain ⟨f, failed⟩ := earlier₂ b₁ before
    rw [loaded₁] at failed
    cases failed
  · obtain ⟨f, failed⟩ := earlier₁ b₂ before
    rw [loaded₂] at failed
    cases failed

/-- What a run keeps are the settings of the first load, and nothing if there was none. -/
theorem kept_after_iff {d : Desk} (unkept : d.store.kept = none) (steps : List Step)
    (v : Settings) : (d.after steps).store.kept = some v ↔ FirstLoad d.store steps v := by
  have run := kept_after unkept steps
  rcases kept : (d.after steps).store.kept with _ | w
  · rw [kept] at run
    refine ⟨nofun, ?_⟩
    rintro ⟨before, read, loaded, -⟩
    obtain ⟨f, failed⟩ := run before read
    rw [loaded] at failed
    cases failed
  · rw [kept] at run
    constructor
    · rintro ⟨⟩
      exact run
    · intro first
      rw [first.unique run]

/-! ## Tasks in a run -/

/-- Steps that read no settings keep an empty store empty. -/
theorem Desk.unkept_after {d : Desk} (unkept : d.store.kept = none) {steps : List Step}
    (apart : ∀ x ∈ steps, ¬x.Reads) : (d.after steps).store.kept = none := by
  induction steps generalizing d with
  | nil => exact unkept
  | cons x rest ih =>
    obtain ⟨here, later⟩ := List.forall_mem_cons.mp apart
    refine ih ?_ later
    by_cases noClear : x = .clear
    · subst noClear
      rfl
    · rw [Step.kept_perform_of_not_reads here noClear, unkept]

theorem Store.get_of_unkept_eq {s : Store} (unkept : s.kept = none) : s.get.1.1 = s.fresh.1 := by
  rcases fresh : s.fresh.1 with f | v
  · exact (get_of_failed unkept fresh).1
  · exact (get_of_loaded unkept fresh).1

/-- How a task gets by with the settings after some steps of a run. -/
structure Snapshot (d : Desk) (before : List Step) (t : Task) : Prop where
  /-- The files and the variables in force are by then what the changes have made of them, whatever
  loads have filled in on the way. -/
  current : (d.after before).store.clear.filled = (d.store.source before).filled
  /-- The settings that it uses are those of the first load since they were forgotten. -/
  uses : t.Reads → ∀ a, (t.work.perform (d.after before)).1 = .ok a →
    ∃ s, (∀ v, FirstLoad d.store (before ++ [.task t]) v ↔ v = s) ∧ t.answerWith s = .ok a
  /-- If the load fails, nothing is kept, and the next task that reads the settings loads them
  from where they are by then. -/
  loadsAgain : t.Reads → ∀ f, (t.work.perform (d.after before)).1 = .error f →
    (d.after (before ++ [.task t])).store.kept = none ∧
      ∀ (between : List Step) (next : Task), (∀ x ∈ between, ¬x.Reads) → next.Reads →
        (next.work.perform (d.after (before ++ [.task t] ++ between))).1 =
          ((d.store.source (before ++ [.task t] ++ between)).fresh.1.mapError Fault.load).bind
            next.answerWith
  /-- A task that does not read them goes the same way over every store and leaves it as it is. -/
  apart : ¬t.Reads → Work.Storeless t.work ∧ (∀ s d, (t.work.perform d).1 = t.answerWith s) ∧
    (d.after (before ++ [.task t])).store = (d.after before).store

/-- **Settings of a run.** From a store that keeps none, a task in any run uses the settings of
the first load that succeeds since they were forgotten, loads that fail are tried again, and a
task that is given what it needs neither loads the settings nor fails with them. Whatever the file
of variables gives, a load goes by the settings file and the environment as they are by then. -/
theorem snapshot_of_run {d : Desk} (unkept : d.store.kept = none) (before : List Step)
    (t : Task) : Snapshot d before t where
  current := filled_after unkept before
  uses := by
    intro reads a answered
    rw [(Task.perform_of_reads reads _).1] at answered
    rcases found : (d.after before).store.get.1.1 with f | s
    · rw [found] at answered
      cases answered
    · rw [found] at answered
      refine ⟨s, fun v => ?_, answered⟩
      rw [← kept_after_iff unkept, Desk.after_concat,
        Step.store_perform_of_reads (x := .task t) reads, Store.kept_get, found]
      show some s = some v ↔ v = s
      rw [Option.some.injEq, eq_comm]
  loadsAgain := by
    intro reads f failed
    have empty : (d.after (before ++ [.task t])).store.kept = none := by
      rw [Desk.after_concat, Step.store_perform_of_reads (x := .task t) reads, Store.kept_get]
      rw [(Task.perform_of_reads reads _).1] at failed
      rcases found : (d.after before).store.get.1.1 with f' | s
      · rfl
      · -- a task that has settings does not fail
        rw [found] at failed
        exact absurd failed (Task.answerWith_ne_error reads s f)
    refine ⟨empty, fun between next apart readsNext => ?_⟩
    have still := Desk.unkept_after empty apart
    rw [← Desk.after_append] at still
    rw [(Task.perform_of_reads readsNext _).1, Store.get_of_unkept_eq still,
      fresh_after unkept]
  apart := by
    intro apart
    have gives := fun s => Task.gives_of_not_reads apart s
    refine ⟨(gives default).storeless, fun s d => (gives s).outcome d, ?_⟩
    rw [Desk.after_concat]
    exact Step.store_perform_of_not_reads apart _

/-- A desk whose settings file is no good, and neither is the variable that is set. The file of
variables has a good one. -/
def spoiledDesk : Desk where
  store := {
    home := .withSettings "config" (some "query: 5\n")
    overrides := { maxDepth := some "deep" }
    supplied := { overrides := { maxDepth := some "0" } } }

/-- The files of a directory whose settings file is. -/
def mendedFiles : Files.Directory :=
  ({} : Files.Directory).add ConfigDirectory.settingsFile (.text "query:\n  max_depth: 8\n")

/-- The settings are asked for in vain, the variable is unset and the file mended, they are loaded,
and then a variable is set that would override them. -/
def mendingRun : List Step :=
  [.task (.detect none []), .change (.environment Settings.maxDepthVariable none),
    .change (.files mendedFiles), .task .settings,
    .change (.environment Settings.maxDepthVariable (some "9"))]

/-- A query with two levels. -/
def twoLevels : Task := .canonicalize 0 none (.obj [("and", .arr [.obj [("term", .str "a")]])])

/-- The query is cut off at the ceiling that was loaded, from the variable that was filled in. -/
theorem snapshot_of_run_mendingRun :
    spoiledDesk.store.kept = none ∧ twoLevels.Reads ∧ Snapshot spoiledDesk mendingRun twoLevels ∧
      ∃ s, (∀ v, FirstLoad spoiledDesk.store (mendingRun ++ [.task twoLevels]) v ↔ v = s) ∧
        twoLevels.answerWith s = .ok (.json (.obj [("conjuncts", .arr [.obj []])])) := by
  have answered : (twoLevels.work.perform (spoiledDesk.after mendingRun)).1 =
      .ok (.json (.obj [("conjuncts", .arr [.obj []])])) := by
    decide +kernel
  have snapshot : Snapshot spoiledDesk mendingRun twoLevels := snapshot_of_run rfl _ _
  exact ⟨rfl, rfl, snapshot, snapshot.uses rfl _ answered⟩

end SearchDesk
