import SearchDesk.Json.Equality
import SearchDesk.Proofs.Query.Position

/-!
# Members beside a rewritten key

What becomes of the other members of an object of which a simplified key is rewritten. They
all stay, unless one of them stands under the very key that the rewritten one moves to: its
value is then replaced, so that a clause is lost. `siblings_kept_iff` says so for every
object that canonicalization reaches; `hybridNode` is an object that loses a clause.
-/

namespace SearchDesk.Query

section
variable (form : Json → Json) {ms : Members} {key : String}

/-- Every key beside the rewritten one is a key of the form. -/
theorem has_formMembers_of_ne (found : rewrittenKey? ms = some key) {k : String} (ne : k ≠ key)
    (present : ms.has k = true) : (formMembers form ms).has k = true := by
  obtain ⟨v, value⟩ := rewrittenKey?_get? found
  rw [Entries.has_iff_get?_isSome] at present ⊢
  by_cases target : k = Key.target key
  · rw [target, get?_formMembers_rewritten form found value]
    rfl
  · rw [get?_formMembers_of_ne form found ne target, present]

/-- The members beside the rewritten key keep their values exactly if none of them stands
under the target key with another value than the rewritten one. -/
theorem formMembers_siblings_iff (found : rewrittenKey? ms = some key) {v : Json}
    (value : ms.get? key = some v) :
    (∀ k, k ≠ key → ms.has k = true → (formMembers form ms).get? k = ms.get? k) ↔
      ∀ w, ms.get? (Key.target key) = some w → w = rewritten form key v := by
  have atTarget := get?_formMembers_rewritten form found value
  constructor
  · intro stay w present
    have has : ms.has (Key.target key) = true := by
      rw [Entries.has_iff_get?_isSome, present]
      rfl
    have same := stay _ (Key.target_ne (rewrittenKey?_mem found)) has
    rw [atTarget, present] at same
    exact (Option.some.inj same).symm
  · intro noClash k ne present
    by_cases target : k = Key.target key
    · rw [Entries.has_iff_get?_isSome] at present
      obtain ⟨w, member⟩ := Option.isSome_iff_exists.mp present
      rw [target] at member ⊢
      rw [atTarget, member, noClash w member]
    · exact get?_formMembers_of_ne form found ne target

end

/-- **Siblings.** In the form of an object that canonicalization reaches within the ceiling,
the keys beside the rewritten one are all there, and all but the target key have their
values. The target key has its value too exactly if that is the rewritten one. -/
theorem siblings_kept_iff {depth ceiling : Int} {root : Json} {path : List Step} {ms : Members}
    {key : String} (reaches : Reaches root path (.obj ms))
    (within : depth + path.length ≤ ceiling) (found : rewrittenKey? ms = some key) :
    ∃ (v : Json) (out : Members), ms.get? key = some v ∧
      (canonicalize depth ceiling root).at? (places path) = some (.obj out) ∧
      (∀ k, k ≠ key → ms.has k = true → out.has k = true) ∧
      (∀ k, k ≠ key → k ≠ Key.target key → out.get? k = ms.get? k) ∧
      ((∀ k, k ≠ key → ms.has k = true → out.get? k = ms.get? k) ↔
        ∀ w, ms.get? (Key.target key) = some w →
          w = rewritten (canonicalize (depth + path.length + 1) ceiling) key v) := by
  obtain ⟨v, value⟩ := rewrittenKey?_get? found
  let form := canonicalize (depth + path.length + 1) ceiling
  have there : (canonicalize depth ceiling root).at? (places path) =
      some (.obj (formMembers form ms)) := by
    rw [canonicalize_at? reaches (by omega), canonicalize_obj within]
  exact ⟨v, formMembers form ms, value, there,
    fun k ne present => has_formMembers_of_ne form found ne present,
    fun k ne noTarget => get?_formMembers_of_ne form found ne noTarget,
    formMembers_siblings_iff form found value⟩

/-- An object with a negation in both dialects. -/
def hybridNode : Members :=
  [("not", .obj [("term", .str "a")]), ("must_not", .obj [("term", .str "b")])]

/-- Below a clause, at the last level within the ceiling. -/
theorem siblings_kept_iff_hybridNode :
    Reaches (.obj [("must", .obj hybridNode)]) [.clause Key.must] (.obj hybridNode) ∧
      (0 : Int) + [Step.clause Key.must].length ≤ 1 ∧
      rewrittenKey? hybridNode = some Key.not ∧
      ∃ (v : Json) (out : Members), hybridNode.get? Key.not = some v ∧
        (canonicalize 0 1 (.obj [("must", .obj hybridNode)])).at? (places [.clause Key.must]) =
          some (.obj out) ∧
        (∀ k, k ≠ Key.not → hybridNode.has k = true → out.has k = true) ∧
        (∀ k, k ≠ Key.not → k ≠ Key.target Key.not → out.get? k = hybridNode.get? k) ∧
        ((∀ k, k ≠ Key.not → hybridNode.has k = true → out.get? k = hybridNode.get? k) ↔
          ∀ w, hybridNode.get? (Key.target Key.not) = some w →
            w = rewritten (canonicalize (0 + [Step.clause Key.must].length + 1) 1) Key.not v) := by
  have reaches : Reaches (.obj [("must", .obj hybridNode)]) [.clause Key.must]
      (.obj hybridNode) :=
    .clause (by decide : Opens _ Key.must) (by decide) rfl (.here _)
  have within : (0 : Int) + [Step.clause Key.must].length ≤ 1 := by decide
  have found : rewrittenKey? hybridNode = some Key.not := by decide
  exact ⟨reaches, within, found, siblings_kept_iff reaches within found⟩

/-- The clause that stood under `must_not` beside `not` is lost. -/
theorem mustNot_lost_hybridNode :
    rewrittenKey? hybridNode = some Key.not ∧
      ¬∃ out : Members, canonicalize 0 50 (.obj hybridNode) = .obj out ∧
        ∀ k, k ≠ Key.not → hybridNode.has k = true → out.get? k = hybridNode.get? k := by
  refine ⟨by decide, ?_⟩
  rintro ⟨out, form, stay⟩
  have canonical : canonicalize 0 50 (.obj hybridNode) =
      .obj [("must_not", .obj [("disjuncts", .arr [.obj [("term", .str "a")]])])] := by
    decide
  rw [canonical] at form
  obtain rfl := Json.obj.inj form
  have same := stay Key.mustNot (by decide) (by decide)
  exact absurd same (by decide)

end SearchDesk.Query
