import SearchDesk.Proofs.Json.Comparison
import SearchDesk.Query.Build

/-!
# What a boolean query keeps of its parameters

`boolean` has six parameters. A boost and a filter are left out if they are null, a clause list if
it is null or empty, and the least number of clauses that should match if it is null or if no
clause should match. `boolean_alike_iff` says that nothing else is lost: two queries are equal
exactly if their parameters are (`SameClauses`), whichever way values are compared (`Comparison`).

The members of a boolean query have five possible keys, all different, and which of them are there
is told by `Clauses.fields`. So queries are compared key by key, and the queries below a clause in
the same way.
-/

namespace SearchDesk.Query

open Json (Comparison)

namespace Clauses

/-- Every clause list is a list, or null. -/
structure Listed (c : Clauses) : Prop where
  must : c.must = .null ∨ ∃ qs, c.must = .arr qs
  should : c.should = .null ∨ ∃ qs, c.should = .arr qs
  mustNot : c.mustNot = .null ∨ ∃ qs, c.mustNot = .arr qs

end Clauses

/-- The parameters of two boolean queries are alike: null is as good as an empty clause list, and
the least number of clauses that should match counts only if there are any. -/
structure SameClauses (alike : Json → Json → Prop) (c c' : Clauses) : Prop where
  boost : alike c.boost c'.boost
  filter : alike c.filter c'.filter
  must : alike (.arr (childrenOf c.must)) (.arr (childrenOf c'.must))
  should : alike (.arr (childrenOf c.should)) (.arr (childrenOf c'.should))
  mustNot : alike (.arr (childrenOf c.mustNot)) (.arr (childrenOf c'.mustNot))
  minShouldMatch : childrenOf c.should ≠ [] → alike c.minShouldMatch c'.minShouldMatch

/-! ## Members that may be missing -/

/-- A parameter that counts unless it is null. -/
def given (v : Json) : Option Json := if v.isNull then none else some v

/-- A clause that is there unless its list is empty. -/
def filled (build : List Json → Json) (qs : List Json) : Option Json :=
  if qs.isEmpty then none else some (build qs)

theorem present_eq_valued (attributes : List (String × Json)) :
    present attributes = Entries.valued (attributes.map fun a => (a.1, given a.2)) := by
  induction attributes with
  | nil => rfl
  | cons a rest ih =>
    have kept : present (a :: rest) =
        if a.2.isNull then present rest else a :: present rest := by
      cases null : a.2.isNull <;> simp [present, null]
    rw [kept, ih, List.map_cons, given]
    cases a.2.isNull <;> rfl

namespace Clauses

/-- The members of a boolean query, of which some may be missing. -/
def fields (c : Clauses) : Entries (Option Json) :=
  [("boost", given c.boost),
    (Key.must, filled conjunctionOf (childrenOf c.must)),
    (Key.should, filled (disjunctionOf · c.minShouldMatch) (childrenOf c.should)),
    (Key.mustNot, filled (disjunctionOf · .null) (childrenOf c.mustNot)),
    ("filter", given c.filter)]

theorem nodup_keys_fields (c : Clauses) : c.fields.keys.Nodup := by
  show ["boost", Key.must, Key.should, Key.mustNot, "filter"].Nodup
  decide

end Clauses

theorem clause_eq_valued {key : String} {v : Json} {build : Json → Except BuildFault Json}
    {form : List Json → Json} (listed : v = .null ∨ ∃ qs, v = .arr qs)
    (built : ∀ qs, build (.arr qs) = .ok (form qs)) :
    clause key v build = .ok (Entries.valued [(key, filled form (childrenOf v))]) := by
  rcases listed with rfl | ⟨qs, rfl⟩
  · rfl
  · cases qs with
    | nil => rfl
    | cons q qs =>
      rw [clause, built]
      rfl

theorem boolean_eq_fields {c : Clauses} (listed : c.Listed) :
    boolean c = .ok (.obj c.fields.valued) := by
  have must : clause Key.must c.must conjunction =
      .ok (Entries.valued [(Key.must, filled conjunctionOf (childrenOf c.must))]) :=
    clause_eq_valued listed.must fun _ => rfl
  have should : clause Key.should c.should (disjunction · c.minShouldMatch) =
      .ok (Entries.valued
        [(Key.should, filled (disjunctionOf · c.minShouldMatch) (childrenOf c.should))]) :=
    clause_eq_valued listed.should fun _ => rfl
  have mustNot : clause Key.mustNot c.mustNot (disjunction · .null) =
      .ok (Entries.valued
        [(Key.mustNot, filled (disjunctionOf · .null) (childrenOf c.mustNot))]) :=
    clause_eq_valued listed.mustNot fun _ => rfl
  have parts : c.fields = [("boost", given c.boost)] ++
      [(Key.must, filled conjunctionOf (childrenOf c.must))] ++
      [(Key.should, filled (disjunctionOf · c.minShouldMatch) (childrenOf c.should))] ++
      [(Key.mustNot, filled (disjunctionOf · .null) (childrenOf c.mustNot))] ++
      [("filter", given c.filter)] := rfl
  rw [boolean, must, should, mustNot, present_eq_valued, present_eq_valued, parts]
  simp only [Entries.valued, List.filterMap_append]
  rfl

section
variable {alike : Json → Json → Prop} (comparison : Comparison alike)
include comparison

theorem rel_given (v w : Json) : Option.Rel alike (given v) (given w) ↔ alike v w := by
  have keeps : ∀ u : Json, u ≠ .null → given u = some u := by
    intro u some
    cases u <;> first | rfl | exact absurd rfl some
  by_cases null : v = .null
  · rw [null, comparison.null_left]
    by_cases null' : w = .null
    · rw [null']
      exact iff_of_true .none rfl
    · rw [keeps w null']
      exact iff_of_false (nomatch ·) null'
  · rw [keeps v null]
    by_cases null' : w = .null
    · rw [null', comparison.null_right]
      exact iff_of_false (nomatch ·) null
    · rw [keeps w null']
      exact ⟨fun | .some same => same, .some⟩

theorem rel_filled (form form' : List Json → Json) {also : Prop} {qs qs' : List Json}
    (forms : alike (form qs) (form' qs') ↔ alike (.arr qs) (.arr qs') ∧ also) :
    Option.Rel alike (filled form qs) (filled form' qs') ↔
      alike (.arr qs) (.arr qs') ∧ (qs ≠ [] → also) := by
  cases qs with
  | nil =>
    cases qs' with
    | nil => exact iff_of_true .none ⟨comparison.arr_nil, fun some => absurd rfl some⟩
    | cons q' qs' =>
      exact iff_of_false (nomatch ·) fun same => nomatch comparison.arr_length same.1
  | cons q qs =>
    cases qs' with
    | nil => exact iff_of_false (nomatch ·) fun same => nomatch comparison.arr_length same.1
    | cons q' qs' =>
      constructor
      · rintro ⟨same⟩
        obtain ⟨lists, too⟩ := forms.mp same
        exact ⟨lists, fun _ => too⟩
      · rintro ⟨lists, too⟩
        exact .some (forms.mpr ⟨lists, too (List.cons_ne_nil q qs)⟩)

theorem conjunctionOf_alike_iff (qs qs' : List Json) :
    alike (conjunctionOf qs) (conjunctionOf qs') ↔ alike (.arr qs) (.arr qs') := by
  refine (comparison.obj_cons List.not_mem_nil List.not_mem_nil).trans ?_
  exact and_iff_left comparison.obj_nil

theorem disjunctionOf_alike_iff (qs qs' : List Json) (min min' : Json) :
    alike (disjunctionOf qs min) (disjunctionOf qs' min') ↔
      alike (.arr qs) (.arr qs') ∧ alike min min' := by
  have fields : ∀ qs min, disjunctionOf qs min =
      .obj (Entries.valued [(Key.disjuncts, given (.arr qs)), ("min", given min)]) :=
    fun qs min => congrArg Json.obj (present_eq_valued _)
  rw [fields, fields]
  refine (comparison.obj_valued_iff ?_ ?_).trans ?_
  · rfl
  · show [Key.disjuncts, "min"].Nodup
    decide
  · rw [List.forall₂_cons, List.forall₂_cons, rel_given comparison, rel_given comparison]
    exact and_congr_right fun _ => and_iff_left .nil

theorem fields_alike_iff (c c' : Clauses) :
    alike (.obj c.fields.valued) (.obj c'.fields.valued) ↔ SameClauses alike c c' := by
  have must := rel_filled comparison conjunctionOf conjunctionOf
    ((conjunctionOf_alike_iff comparison (childrenOf c.must) (childrenOf c'.must)).trans
      (and_iff_left trivial).symm)
  have should := rel_filled comparison (disjunctionOf · c.minShouldMatch)
    (disjunctionOf · c'.minShouldMatch) (disjunctionOf_alike_iff comparison
      (childrenOf c.should) (childrenOf c'.should) c.minShouldMatch c'.minShouldMatch)
  have mustNot := rel_filled comparison (disjunctionOf · .null) (disjunctionOf · .null)
    (disjunctionOf_alike_iff comparison (childrenOf c.mustNot) (childrenOf c'.mustNot) .null .null)
  have keys : c.fields.keys = c'.fields.keys := rfl
  refine (comparison.obj_valued_iff keys c.nodup_keys_fields).trans ?_
  simp only [Clauses.fields, List.forall₂_cons, rel_given comparison, must, should, mustNot]
  constructor
  · rintro ⟨boost, ⟨must, -⟩, ⟨should, min⟩, ⟨mustNot, -⟩, filter, -⟩
    exact ⟨boost, filter, must, should, mustNot, min⟩
  · rintro ⟨boost, filter, must, should, mustNot, min⟩
    have null : alike .null .null := (comparison.null_left .null).mpr rfl
    exact ⟨boost, ⟨must, fun _ => trivial⟩, ⟨should, min⟩, ⟨mustNot, fun _ => null⟩, filter, .nil⟩

end

/-- Boolean queries are built from clause lists and any other parameters, and two of them are equal
exactly if their parameters are, also for other ways to compare values. So a boost of zero is told
apart from none, and an empty clause list is not. -/
theorem boolean_alike_iff {c c' : Clauses} (listed : c.Listed) (listed' : c'.Listed) :
    ∃ n n', boolean c = .ok n ∧ boolean c' = .ok n' ∧ (n = n' ↔ SameClauses (· = ·) c c') ∧
      ∀ alike, Comparison alike → (alike n n' ↔ SameClauses alike c c') :=
  ⟨_, _, boolean_eq_fields listed, boolean_eq_fields listed',
    fields_alike_iff Json.comparison_eq c c',
    fun _ comparison => fields_alike_iff comparison c c'⟩

/-- An empty list with a minimum is as good as none, and a filter in another order is told apart
only where the order of keys counts. -/
theorem boolean_alike_reordered_filter :
    let c : Clauses :=
      { should := .arr [], minShouldMatch := .int 2,
        filter := .obj [("term", .str "a"), ("field", .str "b")] }
    let c' : Clauses := { filter := .obj [("field", .str "b"), ("term", .str "a")] }
    ∃ n n', boolean c = .ok n ∧ boolean c' = .ok n' ∧ n ≠ n' ∧ Json.Reordered n n' := by
  intro c c'
  have listed : c.Listed := ⟨.inl rfl, .inr ⟨[], rfl⟩, .inl rfl⟩
  have listed' : c'.Listed := ⟨.inl rfl, .inl rfl, .inl rfl⟩
  obtain ⟨n, n', built, built', same, alike⟩ := boolean_alike_iff listed listed'
  refine ⟨n, n', built, built', fun eq => ?_, (alike _ Json.comparison_reordered).mpr ?_⟩
  · have filters := (same.mp eq).filter
    simp [c, c'] at filters
  · have filters : Json.Reordered c.filter c'.filter :=
      Json.reordered_obj_iff.mpr (.of_perm (by decide) (.swap _ _ _))
    exact ⟨.same _, filters, .same _, .same _, .same _, fun some => absurd rfl some⟩

end SearchDesk.Query
