import SearchDesk.Proofs.Desk.FastPath
import SearchDesk.Proofs.Json.Everywhere
import SearchDesk.Proofs.Query.FixedPoint
import SearchDesk.Proofs.Query.SimplifiedKeys
import SearchDesk.Query.Recipe

/-!
# Queries that are built

A blueprint is a query expression: the constructors of queries, nested. Clauses and filters are
blueprints again, and all other arguments are any JSON values.

* `Blueprint.build` builds the query, which fails only where a constructor of a leaf does;
* `Blueprint.depth` charges one level for a list of queries and two for a clause, which puts the
  list into an object of its own; an empty list, a missing clause and a filter take none;
* `Unsimplified` says of a value that no object anywhere in it has a simplified key.

`build_stable` says that a query that is built is canonical, so canonicalization leaves it as it
is down to its depth, and that it uses the simplified dialect only if an argument brings it in.
Both go back to what a constructor puts into an object: its own keys are never simplified, and
the canonical ones stand over built queries (`settled_build`, `unsimplified_build`).
-/

namespace SearchDesk

namespace Query

/-- No object in the value has a simplified key. -/
def Unsimplified (v : Json) : Prop :=
  ∀ ms, Json.Occurs (.obj ms) v → hasSimplifiedKey ms = false

theorem hasSimplifiedKey_eq_false_iff {ms : Members} :
    hasSimplifiedKey ms = false ↔ ∀ e ∈ ms, e.1 ∉ Key.simplified := by
  rw [← Bool.not_eq_true, hasSimplifiedKey_iff]
  simp only [not_exists, not_and]

theorem unsimplified_arr_iff {items : List Json} :
    Unsimplified (.arr items) ↔ ∀ v ∈ items, Unsimplified v := by
  constructor
  · intro all v mem ms inside
    exact all ms (.item mem inside)
  · intro each ms inside
    cases inside with
    | item mem inside => exact each _ mem ms inside

theorem unsimplified_obj_iff {ms : Members} :
    Unsimplified (.obj ms) ↔ hasSimplifiedKey ms = false ∧ ∀ e ∈ ms, Unsimplified e.2 := by
  constructor
  · intro all
    exact ⟨all ms .here, fun e mem own inside => all own (.member mem inside)⟩
  · rintro ⟨own, each⟩ other inside
    cases inside with
    | here => exact own
    | member mem inside => exact each _ mem other inside

theorem unsimplified_str (s : String) : Unsimplified (.str s) := by
  intro ms inside
  cases inside

theorem unsimplified_null : Unsimplified .null := by
  intro ms inside
  cases inside

/-- Where no object has a simplified key, none is found. -/
theorem usesSimplified_eq_false (v : Json) (plain : Unsimplified v) : usesSimplified v = false := by
  -- a list in a member is searched too, so the induction is on what is found within a value
  have unused : ¬UsedWithin v := by
    induction v with
    | arr items ih =>
      rw [usedWithin_arr_iff]
      rintro ⟨q, item, used⟩
      exact ih q item (unsimplified_arr_iff.mp plain q item) (.inl used)
    | obj ms ih =>
      obtain ⟨own, each⟩ := unsimplified_obj_iff.mp plain
      rw [usedWithin_of_object rfl, usesSimplified_obj_iff]
      rintro ⟨e, mem, simplified | within⟩
      · exact hasSimplifiedKey_eq_false_iff.mp own e mem simplified
      · exact ih e mem (each e mem) within
    | _ => simp [UsedWithin, usesSimplified]
  rw [← Bool.not_eq_true]
  exact fun used => unused (.inl used)

/-! ## Blueprints -/

/-- Whether the queries of a form have no parts that are queries. -/
def Form.isLeaf : Form → Bool
  | .boolean | .conjunction | .disjunction => false
  | _ => true

/-- A query expression. -/
inductive Blueprint where
  | leaf (form : Form) (isLeaf : form.isLeaf = true) (value : String → Json)
  | conjunction (parts : List Blueprint)
  | disjunction (parts : List Blueprint) (min : Json)
  | boolean (must should mustNot : Option (List Blueprint)) (filter : Option Blueprint)
      (boost minShouldMatch : Json)

namespace Blueprint

/-- What holds of a leaf and passes from the parts of an expression to the whole holds of all
expressions. -/
@[elab_as_elim, induction_eliminator]
theorem induction {motive : Blueprint → Prop}
    (leaf : ∀ form isLeaf value, motive (.leaf form isLeaf value))
    (conjunction : ∀ parts, (∀ b ∈ parts, motive b) → motive (.conjunction parts))
    (disjunction : ∀ parts min, (∀ b ∈ parts, motive b) → motive (.disjunction parts min))
    (boolean : ∀ must should mustNot filter boost minShouldMatch,
      (∀ parts, must = some parts → ∀ b ∈ parts, motive b) →
      (∀ parts, should = some parts → ∀ b ∈ parts, motive b) →
      (∀ parts, mustNot = some parts → ∀ b ∈ parts, motive b) →
      (∀ b, filter = some b → motive b) →
      motive (.boolean must should mustNot filter boost minShouldMatch)) (b : Blueprint) :
    motive b :=
  match b with
  | .leaf form isLeaf value => leaf form isLeaf value
  | .conjunction parts =>
    conjunction parts fun b _ => induction leaf conjunction disjunction boolean b
  | .disjunction parts min =>
    disjunction parts min fun b _ => induction leaf conjunction disjunction boolean b
  | .boolean must should mustNot filter boost minShouldMatch =>
    boolean must should mustNot filter boost minShouldMatch
      (fun _ _ b _ => induction leaf conjunction disjunction boolean b)
      (fun _ _ b _ => induction leaf conjunction disjunction boolean b)
      (fun _ _ b _ => induction leaf conjunction disjunction boolean b)
      (fun b _ => induction leaf conjunction disjunction boolean b)
termination_by b
decreasing_by
  -- a part is smaller than the list that it is in, and the list than the clause
  all_goals simp_wf
  all_goals subst_vars
  all_goals try have := List.sizeOf_lt_of_mem ‹_ ∈ _›
  all_goals try simp only [Option.some.sizeOf_spec]
  all_goals omega

mutual

/-- The query that is built. -/
def build : Blueprint → Except BuildFault Json
  | .leaf form _ value => form.build value
  | .conjunction parts => do Query.conjunction (.arr (← buildAll parts))
  | .disjunction parts min => do Query.disjunction (.arr (← buildAll parts)) min
  | .boolean must should mustNot filter boost minShouldMatch => do
    let must ← buildClause must
    let should ← buildClause should
    let mustNot ← buildClause mustNot
    let filter ← buildFilter filter
    Query.boolean { must, should, mustNot, filter, boost, minShouldMatch }

/-- `build` on every part of a list. -/
def buildAll : List Blueprint → Except BuildFault (List Json)
  | [] => .ok []
  | b :: rest => do return (← build b) :: (← buildAll rest)

/-- The argument of a clause. -/
def buildClause : Option (List Blueprint) → Except BuildFault Json
  | none => .ok .null
  | some parts => do return .arr (← buildAll parts)

/-- The argument of a filter. -/
def buildFilter : Option Blueprint → Except BuildFault Json
  | none => .ok .null
  | some b => build b

end

mutual

/-- The number of levels of an expression below its root. -/
def depth : Blueprint → Nat
  | .leaf .. => 0
  | .conjunction parts => depthBelow 1 parts
  | .disjunction parts _ => depthBelow 1 parts
  | .boolean must should mustNot _ _ _ =>
    max (clauseDepth must) (max (clauseDepth should) (clauseDepth mustNot))

/-- The number of levels down through a list of parts that stands some steps deeper. -/
def depthBelow (steps : Nat) : List Blueprint → Nat
  | [] => 0
  | b :: rest => max (depth b + steps) (depthBelow steps rest)

/-- The number of levels down through a clause. -/
def clauseDepth : Option (List Blueprint) → Nat
  | none => 0
  | some parts => depthBelow 2 parts

end

mutual

/-- The values that are given as arguments, other than parts. -/
def arguments : Blueprint → List Json
  | .leaf form _ value => form.parameters.map value
  | .conjunction parts => argumentsBelow parts
  | .disjunction parts min => min :: argumentsBelow parts
  | .boolean must should mustNot filter boost minShouldMatch =>
    boost :: minShouldMatch :: (clauseArguments must ++ clauseArguments should
      ++ clauseArguments mustNot ++ filterArguments filter)

/-- `arguments` of every part of a list. -/
def argumentsBelow : List Blueprint → List Json
  | [] => []
  | b :: rest => arguments b ++ argumentsBelow rest

/-- The arguments in a clause. -/
def clauseArguments : Option (List Blueprint) → List Json
  | none => []
  | some parts => argumentsBelow parts

/-- The arguments in a filter. -/
def filterArguments : Option Blueprint → List Json
  | none => []
  | some b => arguments b

end

/-! ### Lists of parts -/

/-- Every query of a list is built from some part of it. -/
theorem exists_part_of_mem {parts : List Blueprint} {qs : List Json}
    (built : buildAll parts = .ok qs) {q : Json} (mem : q ∈ qs) :
    ∃ b ∈ parts, b.build = .ok q := by
  induction parts generalizing qs with
  | nil =>
    obtain rfl := Except.ok.inj built
    cases mem
  | cons b rest ih =>
    rw [buildAll] at built
    rcases first : b.build with f | q'
    · rw [first] at built
      cases built
    · rcases later : buildAll rest with f | qs'
      · rw [first, later] at built
        cases built
      · rw [first, later] at built
        obtain rfl : q' :: qs' = qs := Except.ok.inj built
        rcases List.mem_cons.mp mem with rfl | mem
        · exact ⟨b, List.mem_cons_self, first⟩
        · obtain ⟨b', inRest, same⟩ := ih later mem
          exact ⟨b', List.mem_cons_of_mem _ inRest, same⟩

theorem depth_le_of_mem {b : Blueprint} {parts : List Blueprint} (mem : b ∈ parts) (steps : Nat) :
    b.depth + steps ≤ depthBelow steps parts := by
  induction parts with
  | nil => cases mem
  | cons b' rest ih =>
    rw [depthBelow]
    rcases List.mem_cons.mp mem with rfl | later
    · omega
    · have := ih later
      omega

theorem arguments_subset_of_mem {b : Blueprint} {parts : List Blueprint} (mem : b ∈ parts) :
    b.arguments ⊆ argumentsBelow parts := by
  induction parts with
  | nil => cases mem
  | cons b' rest ih =>
    rw [argumentsBelow]
    rcases List.mem_cons.mp mem with rfl | later
    · exact List.subset_append_left _ _
    · exact List.Subset.trans (ih later) (List.subset_append_right _ _)

end Blueprint

/-! ## What the constructors put into an object -/

/-- An object is settled if no key of it is simplified and the queries under its keys are. -/
theorem settled_of_members {levels : Nat} {ms : Members}
    (members : ∀ e ∈ ms, e.1 ∉ Key.simplified ∧ ∀ q ∈ heldQueries e.1 e.2, Settled levels q) :
    Settled (levels + 1) (.obj ms) := by
  refine settled_obj_iff.mpr ⟨hasSimplifiedKey_eq_false_iff.mpr fun e mem => (members e mem).1, ?_⟩
  intro q below
  obtain ⟨e, mem, held⟩ := List.mem_flatMap.mp below
  exact (members e mem).2 q held

theorem unsimplified_of_members {ms : Members}
    (members : ∀ e ∈ ms, e.1 ∉ Key.simplified ∧ Unsimplified e.2) : Unsimplified (.obj ms) :=
  unsimplified_obj_iff.mpr ⟨hasSimplifiedKey_eq_false_iff.mpr fun e mem => (members e mem).1,
    fun e mem => (members e mem).2⟩

/-- Under a name that is not structural stands no query that canonicalization comes to. -/
theorem settled_under_name {key : String} (name : key ∉ Key.structural) (value : Json)
    (levels : Nat) : key ∉ Key.simplified ∧ ∀ q ∈ heldQueries key value, Settled levels q := by
  refine ⟨fun simplified => name ((by decide : Key.simplified ⊆ Key.structural) simplified), ?_⟩
  intro q held
  rw [heldQueries_of_not_structural name value] at held
  cases held

theorem mem_of_mem_present {attributes : List (String × Json)} {e : String × Json}
    (mem : e ∈ present attributes) : e ∈ attributes := (List.mem_filter.mp mem).1

/-! ### Leaves -/

/-- Whether a leaf is the object of its parameters. -/
def Form.isUniform : Form → Bool
  | .docIds | .geoBoundingBox | .matchAll | .matchNone => false
  | form => form.isLeaf

theorem Form.build_of_isUniform {form : Form} (uniform : form.isUniform = true)
    (value : String → Json) :
    form.build value = .ok (compact (form.parameters.map fun p => (p, value p))) := by
  cases form <;> first | rfl | cases uniform

theorem Form.parameters_plain {form : Form} (isLeaf : form.isLeaf = true) :
    ∀ p ∈ form.parameters, p ∉ Key.structural := by
  cases form <;> first | decide | cases isLeaf

theorem unsimplified_elements {v : Json} {vs : List Json} (plain : Unsimplified v)
    (listed : v.elements? = some vs) : Unsimplified (.arr vs) := by
  cases v with
  | arr items =>
    obtain rfl := Option.some.inj listed
    exact plain
  | obj ms =>
    obtain rfl := Option.some.inj listed
    refine unsimplified_arr_iff.mpr fun v mem => ?_
    obtain ⟨e, -, rfl⟩ := List.mem_map.mp mem
    exact unsimplified_str e.1
  | str s =>
    obtain rfl := Option.some.inj listed
    refine unsimplified_arr_iff.mpr fun v mem => ?_
    obtain ⟨c, -, rfl⟩ := List.mem_map.mp mem
    exact unsimplified_str _
  | _ => cases listed

theorem unsimplified_part {key : String} {v w : Json} (plain : Unsimplified v)
    (found : part key v = .ok w) : Unsimplified w := by
  cases v with
  | obj ms =>
    rw [part] at found
    rcases value : Entries.get? key ms with _ | w'
    · rw [value] at found
      cases found
    · rw [value] at found
      obtain rfl : w' = w := Except.ok.inj found
      exact (unsimplified_obj_iff.mp plain).2 _ (Entries.mem_of_get? value)
  | _ => cases found

theorem docIds_eq_ok {ids boost q : Json} (built : docIds ids boost = .ok q) :
    ∃ vs, ids.elements? = some vs ∧ q = compact [("ids", .arr vs), ("boost", boost)] := by
  unfold docIds listed at built
  rcases found : ids.elements? with _ | vs
  · rw [found] at built
    cases built
  · rw [found] at built
    exact ⟨vs, rfl, (Except.ok.inj built).symm⟩

theorem geoBoundingBox_eq_ok {field bounds boost q : Json}
    (built : geoBoundingBox field bounds boost = .ok q) :
    ∃ topLeft bottomRight, part "top_left" bounds = .ok topLeft ∧
      part "bottom_right" bounds = .ok bottomRight ∧
      q = compact [("field", field), ("top_left", topLeft), ("bottom_right", bottomRight),
        ("boost", boost)] := by
  unfold geoBoundingBox at built
  rcases first : part "top_left" bounds with _ | topLeft
  · rw [first] at built
    cases built
  · rcases second : part "bottom_right" bounds with _ | bottomRight
    · rw [first, second] at built
      cases built
    · rw [first, second] at built
      exact ⟨topLeft, bottomRight, rfl, rfl, (Except.ok.inj built).symm⟩

/-- A leaf is an object of attributes whose names are not structural, and their values come from
the parameters. -/
theorem Form.exists_attributes {form : Form} (isLeaf : form.isLeaf = true) {value : String → Json}
    {q : Json} (built : form.build value = .ok q) :
    ∃ attributes, q = compact attributes ∧ ∀ a ∈ attributes, a.1 ∉ Key.structural ∧
      ((∀ p ∈ form.parameters, Unsimplified (value p)) → Unsimplified a.2) := by
  have empty : Unsimplified (.obj []) := unsimplified_obj_iff.mpr ⟨rfl, by simp⟩
  by_cases uniform : form.isUniform = true
  · rw [form.build_of_isUniform uniform] at built
    refine ⟨_, (Except.ok.inj built).symm, ?_⟩
    intro a mem
    obtain ⟨p, inside, rfl⟩ := List.mem_map.mp mem
    exact ⟨form.parameters_plain isLeaf p inside, fun plain => plain p inside⟩
  · cases form with
    | docIds =>
      obtain ⟨vs, found, rfl⟩ := docIds_eq_ok built
      refine ⟨_, rfl, ?_⟩
      simp only [List.forall_mem_cons, Form.parameters]
      refine ⟨⟨by decide, ?_⟩, ⟨by decide, ?_⟩, by simp⟩
      · exact fun plain => unsimplified_elements plain.1 found
      · exact fun plain => plain.2.1
    | geoBoundingBox =>
      obtain ⟨topLeft, bottomRight, first, second, rfl⟩ := geoBoundingBox_eq_ok built
      refine ⟨_, rfl, ?_⟩
      simp only [List.forall_mem_cons, Form.parameters]
      refine ⟨⟨by decide, ?_⟩, ⟨by decide, ?_⟩, ⟨by decide, ?_⟩, ⟨by decide, ?_⟩, by simp⟩
      · exact fun plain => plain.1
      · exact fun plain => unsimplified_part plain.2.1 first
      · exact fun plain => unsimplified_part plain.2.1 second
      · exact fun plain => plain.2.2.1
    | matchAll =>
      refine ⟨_, (Except.ok.inj built).symm, ?_⟩
      simp only [List.forall_mem_cons, Form.parameters]
      exact ⟨⟨by decide, fun _ => empty⟩, ⟨by decide, fun plain => plain.1⟩, by simp⟩
    | matchNone =>
      refine ⟨_, (Except.ok.inj built).symm, ?_⟩
      simp only [List.forall_mem_cons, Form.parameters]
      exact ⟨⟨by decide, fun _ => empty⟩, ⟨by decide, fun plain => plain.1⟩, by simp⟩
    | _ => simp_all [Form.isUniform, Form.isLeaf]

/-! ### Lists of queries -/

theorem settled_conjunctionOf {levels : Nat} {qs : List Json}
    (settled : ∀ q ∈ qs, Settled levels q) : Settled (levels + 1) (conjunctionOf qs) := by
  refine settled_of_members fun e mem => ?_
  obtain rfl := List.mem_singleton.mp mem
  exact ⟨(by decide : Key.conjuncts ∉ Key.simplified), settled⟩

theorem settled_disjunctionOf {levels : Nat} {qs : List Json} (min : Json)
    (settled : ∀ q ∈ qs, Settled levels q) : Settled (levels + 1) (disjunctionOf qs min) := by
  refine settled_of_members fun e mem => ?_
  have given := mem_of_mem_present mem
  simp only [List.mem_cons, List.not_mem_nil, or_false] at given
  rcases given with rfl | rfl
  · exact ⟨(by decide : Key.disjuncts ∉ Key.simplified), settled⟩
  · exact settled_under_name (by decide : "min" ∉ Key.structural) min levels

theorem unsimplified_conjunctionOf {qs : List Json} (plain : ∀ q ∈ qs, Unsimplified q) :
    Unsimplified (conjunctionOf qs) := by
  refine unsimplified_of_members fun e mem => ?_
  obtain rfl := List.mem_singleton.mp mem
  exact ⟨(by decide : Key.conjuncts ∉ Key.simplified), unsimplified_arr_iff.mpr plain⟩

theorem unsimplified_disjunctionOf {qs : List Json} {min : Json} (plainMin : Unsimplified min)
    (plain : ∀ q ∈ qs, Unsimplified q) : Unsimplified (disjunctionOf qs min) := by
  refine unsimplified_of_members fun e mem => ?_
  have given := mem_of_mem_present mem
  simp only [List.mem_cons, List.not_mem_nil, or_false] at given
  rcases given with rfl | rfl
  · exact ⟨(by decide : Key.disjuncts ∉ Key.simplified), unsimplified_arr_iff.mpr plain⟩
  · exact ⟨(by decide : "min" ∉ Key.simplified), plainMin⟩

namespace Blueprint

theorem conjunction_eq_ok {parts : List Blueprint} {q : Json}
    (built : (conjunction parts).build = .ok q) :
    ∃ qs, buildAll parts = .ok qs ∧ q = conjunctionOf qs := by
  rw [build] at built
  rcases all : buildAll parts with _ | qs
  · rw [all] at built
    cases built
  · rw [all] at built
    exact ⟨qs, rfl, (Except.ok.inj built).symm⟩

theorem disjunction_eq_ok {parts : List Blueprint} {min q : Json}
    (built : (disjunction parts min).build = .ok q) :
    ∃ qs, buildAll parts = .ok qs ∧ q = disjunctionOf qs min := by
  rw [build] at built
  rcases all : buildAll parts with _ | qs
  · rw [all] at built
    cases built
  · rw [all] at built
    exact ⟨qs, rfl, (Except.ok.inj built).symm⟩

/-! ### The members of a boolean query -/

/-- The queries of a clause that is there and is not empty. -/
def Fills (clause : Option (List Blueprint)) (qs : List Json) : Prop :=
  qs ≠ [] ∧ ∃ parts, clause = some parts ∧ buildAll parts = .ok qs

/-- A member of the query that is built from a boolean expression. -/
inductive BooleanMember (must should mustNot : Option (List Blueprint))
    (filter : Option Blueprint) (boost minShouldMatch : Json) : String × Json → Prop
  | boost : BooleanMember _ _ _ _ _ _ ("boost", boost)
  | must {qs} (filled : Fills must qs) :
      BooleanMember _ _ _ _ _ _ (Key.must, conjunctionOf qs)
  | should {qs} (filled : Fills should qs) :
      BooleanMember _ _ _ _ _ _ (Key.should, disjunctionOf qs minShouldMatch)
  | mustNot {qs} (filled : Fills mustNot qs) :
      BooleanMember _ _ _ _ _ _ (Key.mustNot, disjunctionOf qs .null)
  | filter {b f} (given : filter = some b) (built : b.build = .ok f) :
      BooleanMember _ _ _ _ _ _ ("filter", f)

/-- A clause that is missing or empty leaves no member, and any other one leaves a member. -/
theorem clause_eq_ok {parts : Option (List Blueprint)} {v : Json}
    (built : buildClause parts = .ok v) {make : Json → Except BuildFault Json}
    {key : String} {left : Members} (made : clause key v make = .ok left)
    {wrap : List Json → Json} (wraps : ∀ qs, make (.arr qs) = .ok (wrap qs)) :
    ∀ e ∈ left, ∃ qs, Fills parts qs ∧ e = (key, wrap qs) := by
  intro e mem
  cases parts with
  | none =>
    obtain rfl : .null = v := Except.ok.inj built
    obtain rfl : [] = left := Except.ok.inj made
    cases mem
  | some parts =>
    rw [buildClause] at built
    rcases all : buildAll parts with _ | qs
    · rw [all] at built
      cases built
    · rw [all] at built
      obtain rfl : .arr qs = v := Except.ok.inj built
      cases qs with
      | nil =>
        obtain rfl : [] = left := Except.ok.inj made
        cases mem
      | cons q rest =>
        have entry : clause key (.arr (q :: rest)) make = .ok [(key, wrap (q :: rest))] := by
          have holds : (Json.arr (q :: rest)).holds = true := rfl
          rw [clause, if_pos holds, wraps]
          rfl
        rw [entry] at made
        obtain rfl := Except.ok.inj made
        exact ⟨q :: rest, ⟨by simp, parts, rfl, all⟩, List.mem_singleton.mp mem⟩

/-- A filter that is missing leaves no member. -/
theorem filter_eq_ok {filter : Option Blueprint} {v : Json} (built : buildFilter filter = .ok v) :
    ∀ e ∈ present [("filter", v)], ∃ b, filter = some b ∧ b.build = .ok v ∧ e = ("filter", v) := by
  intro e mem
  cases filter with
  | none =>
    obtain rfl : .null = v := Except.ok.inj built
    cases mem
  | some b => exact ⟨b, rfl, built, List.mem_singleton.mp (mem_of_mem_present mem)⟩

theorem boolean_eq_ok {c : Clauses} {q : Json} (built : Query.boolean c = .ok q) :
    ∃ must should mustNot, clause Key.must c.must Query.conjunction = .ok must ∧
      clause Key.should c.should (fun v => Query.disjunction v c.minShouldMatch) = .ok should ∧
      clause Key.mustNot c.mustNot (fun v => Query.disjunction v .null) = .ok mustNot ∧
      q = .obj (present [("boost", c.boost)] ++ must ++ should ++ mustNot
        ++ present [("filter", c.filter)]) := by
  unfold Query.boolean at built
  rcases first : clause Key.must c.must Query.conjunction with _ | must
  · rw [first] at built
    cases built
  rcases second : clause Key.should c.should
    (fun v => Query.disjunction v c.minShouldMatch) with _ | should
  · rw [first, second] at built
    cases built
  rcases third : clause Key.mustNot c.mustNot (fun v => Query.disjunction v .null) with _ | mustNot
  · rw [first, second, third] at built
    cases built
  rw [first, second, third] at built
  exact ⟨must, should, mustNot, rfl, rfl, rfl, (Except.ok.inj built).symm⟩

theorem build_boolean_eq_ok {must should mustNot : Option (List Blueprint)}
    {filter : Option Blueprint} {boost minShouldMatch q : Json}
    (built : (boolean must should mustNot filter boost minShouldMatch).build = .ok q) :
    ∃ ms, q = .obj ms ∧
      ∀ e ∈ ms, BooleanMember must should mustNot filter boost minShouldMatch e := by
  rw [build] at built
  rcases builtMust : buildClause must with _ | v₁
  · rw [builtMust] at built
    cases built
  rcases builtShould : buildClause should with _ | v₂
  · rw [builtMust, builtShould] at built
    cases built
  rcases builtMustNot : buildClause mustNot with _ | v₃
  · rw [builtMust, builtShould, builtMustNot] at built
    cases built
  rcases builtFilter : buildFilter filter with _ | v₄
  · rw [builtMust, builtShould, builtMustNot, builtFilter] at built
    cases built
  rw [builtMust, builtShould, builtMustNot, builtFilter] at built
  obtain ⟨ms₁, ms₂, ms₃, madeMust, madeShould, madeMustNot, rfl⟩ := boolean_eq_ok built
  refine ⟨_, rfl, fun e mem => ?_⟩
  simp only [List.mem_append] at mem
  rcases mem with (((mem | mem) | mem) | mem) | mem
  · obtain rfl := List.mem_singleton.mp (mem_of_mem_present mem)
    exact .boost
  · obtain ⟨qs, filled, rfl⟩ := clause_eq_ok builtMust madeMust (fun _ => rfl) e mem
    exact .must filled
  · obtain ⟨qs, filled, rfl⟩ := clause_eq_ok builtShould madeShould (fun _ => rfl) e mem
    exact .should filled
  · obtain ⟨qs, filled, rfl⟩ := clause_eq_ok builtMustNot madeMustNot (fun _ => rfl) e mem
    exact .mustNot filled
  · obtain ⟨b, given, built, rfl⟩ := filter_eq_ok builtFilter e mem
    exact .filter given built

/-! ## What is built -/

section
variable {levels : Nat}

/-- The queries of a list are settled one step below it. -/
theorem settled_of_buildAll {parts : List Blueprint} {qs : List Json}
    (built : buildAll parts = .ok qs)
    (ih : ∀ b ∈ parts, ∀ q, b.build = .ok q → ∀ levels, b.depth < levels → Settled levels q)
    {steps : Nat} (deep : depthBelow steps parts < levels + steps) :
    ∀ q ∈ qs, Settled levels q := by
  intro q mem
  obtain ⟨b, inside, builtPart⟩ := exists_part_of_mem built mem
  have below := depth_le_of_mem inside steps
  exact ih b inside q builtPart levels (by omega)

/-- A clause with a query in it has two levels above that query. -/
theorem settled_of_fills {clause : Option (List Blueprint)} {qs : List Json}
    (filled : Fills clause qs)
    (ih : ∀ parts, clause = some parts → ∀ b ∈ parts, ∀ q, b.build = .ok q →
      ∀ levels, b.depth < levels → Settled levels q)
    (deep : clauseDepth clause < levels + 1) :
    ∃ inner, levels = inner + 1 ∧ ∀ q ∈ qs, Settled inner q := by
  obtain ⟨filled, parts, rfl, built⟩ := filled
  obtain ⟨q, mem⟩ := List.exists_mem_of_ne_nil qs filled
  obtain ⟨b, inside, -⟩ := exists_part_of_mem built mem
  rw [clauseDepth] at deep
  have below := depth_le_of_mem inside 2
  refine ⟨levels - 1, by omega, ?_⟩
  exact settled_of_buildAll built (ih parts rfl) (by omega : depthBelow 2 parts < levels - 1 + 2)

/-- The query under a clause key is the only one that the member holds. -/
theorem settled_under_clause {key : String} (kind : key ∈ Key.clauses) {q : Json}
    (settled : Settled levels q) :
    key ∉ Key.simplified ∧ ∀ held ∈ heldQueries key q, Settled levels held := by
  refine ⟨(by decide : ∀ k ∈ Key.clauses, k ∉ Key.simplified) key kind, fun held mem => ?_⟩
  rw [heldQueries, if_pos kind] at mem
  rwa [List.mem_singleton.mp mem]

end

/-- What is built is settled on every level below its depth. -/
theorem settled_build (b : Blueprint) {q : Json} (built : b.build = .ok q) {levels : Nat}
    (deep : b.depth < levels) : Settled levels q := by
  -- the parts are fewer levels away than the whole, so the levels vary along the induction
  induction b generalizing q levels with
  | leaf form isLeaf value =>
    obtain ⟨attributes, rfl, plain⟩ := Form.exists_attributes isLeaf built
    obtain ⟨n, rfl⟩ : ∃ n, levels = n + 1 := ⟨levels - 1, by omega⟩
    refine settled_of_members fun e mem => ?_
    exact settled_under_name (plain e (mem_of_mem_present mem)).1 e.2 n
  | conjunction parts ih =>
    obtain ⟨qs, all, rfl⟩ := conjunction_eq_ok built
    rw [depth] at deep
    obtain ⟨n, rfl⟩ : ∃ n, levels = n + 1 := ⟨levels - 1, by omega⟩
    exact settled_conjunctionOf (settled_of_buildAll all (fun b mem _ h _ => ih b mem h) deep)
  | disjunction parts min ih =>
    obtain ⟨qs, all, rfl⟩ := disjunction_eq_ok built
    rw [depth] at deep
    obtain ⟨n, rfl⟩ : ∃ n, levels = n + 1 := ⟨levels - 1, by omega⟩
    exact settled_disjunctionOf min (settled_of_buildAll all (fun b mem _ h _ => ih b mem h) deep)
  | boolean must should mustNot filter boost minShouldMatch ihMust ihShould ihMustNot _ =>
    obtain ⟨ms, rfl, members⟩ := build_boolean_eq_ok built
    rw [depth] at deep
    obtain ⟨n, rfl⟩ : ∃ n, levels = n + 1 := ⟨levels - 1, by omega⟩
    refine settled_of_members fun e mem => ?_
    cases members e mem with
    | boost => exact settled_under_name (by decide : "boost" ∉ Key.structural) boost n
    | filter given built => exact settled_under_name (by decide : "filter" ∉ Key.structural) _ n
    | must filled =>
      have within : clauseDepth must < n + 1 := by omega
      obtain ⟨n, rfl, settled⟩ :=
        settled_of_fills filled (fun ps h b mem _ built _ => ihMust ps h b mem built) within
      exact settled_under_clause (by decide : Key.must ∈ Key.clauses)
        (settled_conjunctionOf settled)
    | should filled =>
      have within : clauseDepth should < n + 1 := by omega
      obtain ⟨n, rfl, settled⟩ :=
        settled_of_fills filled (fun ps h b mem _ built _ => ihShould ps h b mem built) within
      exact settled_under_clause (by decide : Key.should ∈ Key.clauses)
        (settled_disjunctionOf minShouldMatch settled)
    | mustNot filled =>
      have within : clauseDepth mustNot < n + 1 := by omega
      obtain ⟨n, rfl, settled⟩ :=
        settled_of_fills filled (fun ps h b mem _ built _ => ihMustNot ps h b mem built) within
      exact settled_under_clause (by decide : Key.mustNot ∈ Key.clauses)
        (settled_disjunctionOf .null settled)

theorem unsimplified_of_buildAll {parts : List Blueprint} {qs : List Json}
    (built : buildAll parts = .ok qs)
    (ih : ∀ b ∈ parts, ∀ q, b.build = .ok q → (∀ v ∈ b.arguments, Unsimplified v) →
      Unsimplified q)
    (plain : ∀ v ∈ argumentsBelow parts, Unsimplified v) : ∀ q ∈ qs, Unsimplified q := by
  intro q mem
  obtain ⟨b, inside, builtPart⟩ := exists_part_of_mem built mem
  exact ih b inside q builtPart fun v given => plain v (arguments_subset_of_mem inside given)

theorem unsimplified_of_fills {clause : Option (List Blueprint)} {qs : List Json}
    (filled : Fills clause qs)
    (ih : ∀ parts, clause = some parts → ∀ b ∈ parts, ∀ q, b.build = .ok q →
      (∀ v ∈ b.arguments, Unsimplified v) → Unsimplified q)
    (plain : ∀ v ∈ clauseArguments clause, Unsimplified v) : ∀ q ∈ qs, Unsimplified q := by
  obtain ⟨-, parts, rfl, built⟩ := filled
  exact unsimplified_of_buildAll built (ih parts rfl) plain

/-- The constructors bring in no simplified key. -/
theorem unsimplified_build (b : Blueprint) {q : Json} (built : b.build = .ok q)
    (plain : ∀ v ∈ b.arguments, Unsimplified v) : Unsimplified q := by
  induction b generalizing q with
  | leaf form isLeaf value =>
    obtain ⟨attributes, rfl, names⟩ := Form.exists_attributes isLeaf built
    rw [arguments, List.forall_mem_map] at plain
    refine unsimplified_of_members fun e mem => ?_
    obtain ⟨name, fromParameters⟩ := names e (mem_of_mem_present mem)
    exact ⟨(settled_under_name name e.2 0).1, fromParameters plain⟩
  | conjunction parts ih =>
    obtain ⟨qs, all, rfl⟩ := conjunction_eq_ok built
    exact unsimplified_conjunctionOf
      (unsimplified_of_buildAll all (fun b mem _ h => ih b mem h) plain)
  | disjunction parts min ih =>
    obtain ⟨qs, all, rfl⟩ := disjunction_eq_ok built
    rw [arguments, List.forall_mem_cons] at plain
    exact unsimplified_disjunctionOf plain.1
      (unsimplified_of_buildAll all (fun b mem _ h => ih b mem h) plain.2)
  | boolean must should mustNot filter boost minShouldMatch ihMust ihShould ihMustNot ihFilter =>
    obtain ⟨ms, rfl, members⟩ := build_boolean_eq_ok built
    simp only [arguments, List.forall_mem_cons, List.forall_mem_append] at plain
    obtain ⟨plainBoost, plainMin, ⟨⟨plainMust, plainShould⟩, plainMustNot⟩, plainFilter⟩ := plain
    refine unsimplified_of_members fun e mem => ?_
    cases members e mem with
    | boost => exact ⟨(by decide : "boost" ∉ Key.simplified), plainBoost⟩
    | filter given builtFilter =>
      subst given
      exact ⟨(by decide : "filter" ∉ Key.simplified), ihFilter _ rfl builtFilter plainFilter⟩
    | must filled =>
      refine ⟨(by decide : Key.must ∉ Key.simplified), unsimplified_conjunctionOf ?_⟩
      exact unsimplified_of_fills filled (fun ps h b mem _ built => ihMust ps h b mem built)
        plainMust
    | should filled =>
      refine ⟨(by decide : Key.should ∉ Key.simplified), unsimplified_disjunctionOf plainMin ?_⟩
      exact unsimplified_of_fills filled (fun ps h b mem _ built => ihShould ps h b mem built)
        plainShould
    | mustNot filled =>
      refine ⟨(by decide : Key.mustNot ∉ Key.simplified),
        unsimplified_disjunctionOf unsimplified_null ?_⟩
      exact unsimplified_of_fills filled (fun ps h b mem _ built => ihMustNot ps h b mem built)
        plainMustNot

/-- Whatever is built is an object. -/
theorem isObject_build (b : Blueprint) {q : Json} (built : b.build = .ok q) :
    q.isObject = true := by
  have settled : Settled (b.depth + 1) q := b.settled_build built (Nat.lt_succ_self _)
  cases q with
  | obj ms => rfl
  | _ => exact settled.elim

/-- **Built queries are stable.** Canonicalization leaves a query that is built as it is under
every ceiling from its depth on. If no argument uses the simplified dialect anywhere, then the
query does not, and it is normalized to itself under any ceiling, without a change to the
desk. -/
theorem build_stable {b : Blueprint} {q : Json} (built : b.build = .ok q) :
    (∀ m : Int, b.depth ≤ m → Query.canonicalize 0 m q = q ∧
      ∀ d, ((Work.canonicalize 0 (some m) q).perform d).1 = .ok q) ∧
    ((∀ v ∈ b.arguments, Unsimplified v) →
      usesSimplified q = false ∧ (∀ m, Query.normalize m q = q) ∧
        ∀ given d, (Work.normalize given q).perform d = (.ok q, d)) := by
  constructor
  · intro m deep
    have same : Query.canonicalize 0 m q = q := by
      rw [canonicalize_eq_self_iff_settled]
      refine b.settled_build built ?_
      unfold levelsLeft
      omega
    refine ⟨same, fun d => ?_⟩
    rw [Work.canonicalize_perform (Work.ceilingOr_some m d), same]
  · intro plain
    have unused := usesSimplified_eq_false q (b.unsimplified_build built plain)
    have object := b.isObject_build built
    have unseen : ¬ShowsSimplified q := by
      intro shows
      rw [(usesSimplified_iff_showsSimplified q).mpr ⟨object, shows⟩] at unused
      cases unused
    have unneeded : needsCanonicalizing q = false := by
      rw [← Bool.not_eq_true, Work.needsCanonicalizing_eq_true_iff, object]
      simpa using unseen
    refine ⟨unused, fun m => ?_, fun given d => ?_⟩
    · rw [normalize, normalizeNoted, unneeded]
      rfl
    · rw [Work.normalize, unneeded]
      rfl

/-- A disjunction in a clause, next to clauses that are empty or missing. -/
def nestedBlueprint : Blueprint :=
  let word (s : String) := leaf .term rfl fun p => if p = "term" then .str s else .null
  boolean (some [disjunction [word "a", word "b"] (.int 1), leaf .matchAll rfl fun _ => .null])
    (some []) none (some (conjunction [word "c"])) (.int 2) (.int 7)

/-- The query of the expression, of depth three. -/
def nestedQuery : Json :=
  .obj [("boost", .int 2),
    ("must", .obj [("conjuncts", .arr [
      .obj [("disjuncts", .arr [.obj [("term", .str "a")], .obj [("term", .str "b")]]),
        ("min", .int 1)],
      .obj [("match_all", .obj [])]])]),
    ("filter", .obj [("conjuncts", .arr [.obj [("term", .str "c")]])])]

theorem build_stable_nestedBlueprint :
    nestedBlueprint.build = .ok nestedQuery ∧ nestedBlueprint.depth = 3 ∧
      Query.canonicalize 0 3 nestedQuery = nestedQuery ∧
      (∀ v ∈ nestedBlueprint.arguments, Unsimplified v) ∧ usesSimplified nestedQuery = false := by
  have built : nestedBlueprint.build = .ok nestedQuery := rfl
  have deep : nestedBlueprint.depth = 3 := by decide +kernel
  have plain : ∀ v ∈ nestedBlueprint.arguments, Unsimplified v := by
    have given : nestedBlueprint.arguments = [.int 2, .int 7, .int 1, .str "a", .null, .null,
      .str "b", .null, .null, .null, .str "c", .null, .null] := rfl
    rw [given]
    intro v mem ms inside
    simp only [List.mem_cons, List.not_mem_nil, or_false] at mem
    rcases mem with rfl | rfl | rfl | rfl | rfl | rfl | rfl | rfl | rfl | rfl | rfl | rfl | rfl <;>
      cases inside
  obtain ⟨canonical, unused⟩ := build_stable built
  exact ⟨built, deep, (canonical 3 (by rw [deep]; decide)).1, plain, (unused plain).1⟩

end Blueprint

end Query

end SearchDesk
