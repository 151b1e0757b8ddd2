import SearchDesk.Proofs.Query.Meaning
import SearchDesk.Query.Build

/-!
# Boolean expressions, written and built

A boolean expression becomes a query in two ways. An agent writes it in the simplified dialect
(`Expr.simplified`), which is then made canonical, and a program builds it with `conjunction`,
`disjunction` and `boolean` (`Expr.built`), which may fail in general. `canonicalize_simplified`
says that building never fails and that both ways lead to the same query.

* a conjunction and a disjunction keep a list of queries that is empty;
* a negation is `boolean` with one excluded query, a list that is never empty, also where the
  query is the empty object;
* one level of the expression takes one level of the canonical form (`Expr.agrees`).
-/

namespace SearchDesk.Query

/-- A boolean expression over leaves, which are objects without a structural key. -/
inductive Expr where
  | leaf (ms : Members) (plain : ∀ k ∈ Key.structural, ms.get? k = none)
  | and (es : List Expr)
  | or (es : List Expr)
  | not (e : Expr)

namespace Expr

/-- What holds of a leaf and passes from the parts of an expression to the whole holds of all
expressions. -/
@[elab_as_elim, induction_eliminator]
theorem induction {motive : Expr → Prop}
    (leaf : ∀ ms plain, motive (.leaf ms plain))
    (and : ∀ es, (∀ e ∈ es, motive e) → motive (.and es))
    (or : ∀ es, (∀ e ∈ es, motive e) → motive (.or es))
    (not : ∀ e, motive e → motive (.not e)) (e : Expr) : motive e :=
  match e with
  | .leaf ms plain => leaf ms plain
  | .and es => and es fun e _ => induction leaf and or not e
  | .or es => or es fun e _ => induction leaf and or not e
  | .not e => not e (induction leaf and or not e)

mutual

/-- The expression in the simplified dialect. -/
def simplified : Expr → Json
  | .leaf ms _ => .obj ms
  | .and es => .obj [(Key.and, .arr (simplifiedItems es))]
  | .or es => .obj [(Key.or, .arr (simplifiedItems es))]
  | .not e => .obj [(Key.not, simplified e)]

/-- `simplified` on every expression of a list. -/
def simplifiedItems : List Expr → List Json
  | [] => []
  | e :: rest => simplified e :: simplifiedItems rest

end

mutual

/-- The expression made with the constructors of canonical queries. -/
def built : Expr → Except BuildFault Json
  | .leaf ms _ => .ok (.obj ms)
  | .and es => do conjunction (.arr (← builtItems es))
  | .or es => do disjunction (.arr (← builtItems es)) .null
  | .not e => do boolean { mustNot := .arr [← built e] }

/-- `built` on every expression of a list. -/
def builtItems : List Expr → Except BuildFault (List Json)
  | [] => .ok []
  | e :: rest => do return (← built e) :: (← builtItems rest)

end

mutual

/-- The number of levels of an expression below its root. -/
def depth : Expr → Nat
  | .leaf _ _ => 0
  | .and es => itemsDepth es
  | .or es => itemsDepth es
  | .not e => depth e + 1

/-- The number of levels from an expression down through a list of its parts. -/
def itemsDepth : List Expr → Nat
  | [] => 0
  | e :: rest => max (depth e + 1) (itemsDepth rest)

end

theorem depth_lt_of_mem {e : Expr} {es : List Expr} (h : e ∈ es) : e.depth < itemsDepth es := by
  induction es with
  | nil => cases h
  | cons e' rest ih =>
    rw [itemsDepth]
    rcases List.mem_cons.mp h with rfl | later
    · omega
    · have := ih later
      omega

/-! ## One level of both ways -/

section
variable (ceiling : Int) (levels : Nat)

theorem formValue_and (qs : List Json) :
    formValue ceiling (levels + 1) (.obj [(Key.and, .arr qs)]) =
      conjunctionOf (qs.map (formValue ceiling levels)) := by
  rw [formValue_obj]
  rfl

theorem formValue_or (qs : List Json) :
    formValue ceiling (levels + 1) (.obj [(Key.or, .arr qs)]) =
      disjunctionOf (qs.map (formValue ceiling levels)) .null := by
  rw [formValue_obj]
  rfl

theorem formValue_not (q : Json) :
    formValue ceiling (levels + 1) (.obj [(Key.not, q)]) =
      .obj [(Key.mustNot, disjunctionOf [formValue ceiling levels q] .null)] := by
  rw [formValue_obj]
  rfl

end

/-- A conjunction or a disjunction of queries is always built. -/
theorem conjunction_arr (qs : List Json) : conjunction (.arr qs) = .ok (conjunctionOf qs) := rfl

theorem disjunction_arr (qs : List Json) (min : Json) :
    disjunction (.arr qs) min = .ok (disjunctionOf qs min) := rfl

/-- One excluded query makes a list that is not empty, so the clause is there. -/
theorem boolean_excluding (q : Json) :
    boolean { mustNot := .arr [q] } = .ok (.obj [(Key.mustNot, disjunctionOf [q] .null)]) := rfl

/-- If every part is built as its form, so is the list of the parts. -/
theorem builtItems_eq_map {form : Json → Json} {es : List Expr}
    (parts : ∀ e ∈ es, e.built = .ok (form e.simplified)) :
    builtItems es = .ok ((simplifiedItems es).map form) := by
  induction es with
  | nil => rfl
  | cons e rest ih =>
    obtain ⟨here, later⟩ := List.forall_mem_cons.mp parts
    rw [builtItems, here, ih later]
    rfl

/-! ## Both ways -/

/-- Building the expression gives the canonical form of what is written, with any number of
levels that is enough. -/
def Agrees (ceiling : Int) (e : Expr) : Prop :=
  ∀ levels, e.depth < levels → e.built = .ok (formValue ceiling levels e.simplified)

/-- The parts of a list are all built with one level less than the whole. -/
theorem builtItems_of_agrees {ceiling : Int} {es : List Expr} {levels : Nat}
    (parts : ∀ e ∈ es, Agrees ceiling e) (deep : itemsDepth es < levels + 1) :
    builtItems es = .ok ((simplifiedItems es).map (formValue ceiling levels)) := by
  refine builtItems_eq_map fun e m => parts e m levels ?_
  have inItems := depth_lt_of_mem m
  omega

theorem agrees (ceiling : Int) (e : Expr) : Agrees ceiling e := by
  induction e with
  | leaf ms plain =>
    intro levels deep
    obtain ⟨n, rfl⟩ := Nat.exists_eq_succ_of_ne_zero (by omega : levels ≠ 0)
    rw [built, simplified, formValue_leaf ceiling n plain]
  | and es ih =>
    intro levels deep
    obtain ⟨n, rfl⟩ := Nat.exists_eq_succ_of_ne_zero (by omega : levels ≠ 0)
    rw [built, builtItems_of_agrees ih deep, simplified, formValue_and]
    exact conjunction_arr _
  | or es ih =>
    intro levels deep
    obtain ⟨n, rfl⟩ := Nat.exists_eq_succ_of_ne_zero (by omega : levels ≠ 0)
    rw [built, builtItems_of_agrees ih deep, simplified, formValue_or]
    exact disjunction_arr _ _
  | not e ih =>
    intro levels deep
    obtain ⟨n, rfl⟩ := Nat.exists_eq_succ_of_ne_zero (by omega : levels ≠ 0)
    rw [built, ih n (Nat.lt_of_succ_lt_succ deep), simplified, formValue_not]
    exact boolean_excluding _

end Expr

/-- **Two ways.** Building an expression never fails, and what it gives is the canonical form of
the expression as it is written, under every ceiling that the expression does not pass. -/
theorem canonicalize_simplified (e : Expr) {ceiling : Int} (deep : (e.depth : Int) ≤ ceiling) :
    e.built = .ok (canonicalize 0 ceiling e.simplified) := by
  have levels : e.depth < levelsLeft 0 ceiling := by
    unfold levelsLeft
    omega
  rw [canonicalize_eq_formValue]
  exact e.agrees ceiling _ levels

/-- An empty disjunction beside the negation of an empty leaf. -/
def sampleExpr : Expr :=
  .and [.or [], .not (.not (.leaf [] (by decide))), .leaf [("term", .str "a")] (by decide)]

theorem canonicalize_simplified_sampleExpr :
    (sampleExpr.depth : Int) ≤ 3 ∧
      sampleExpr.built = .ok (canonicalize 0 3 sampleExpr.simplified) := by
  have deep : (sampleExpr.depth : Int) ≤ 3 := by decide
  exact ⟨deep, canonicalize_simplified sampleExpr deep⟩

end SearchDesk.Query
