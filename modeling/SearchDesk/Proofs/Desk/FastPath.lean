import SearchDesk.Proofs.Desk.Perform
import SearchDesk.Proofs.Query.Descendants
import SearchDesk.Proofs.Query.Settled

/-!
# Normalizing without rewriting

A query is normalized by making it canonical, but one that uses no simplified key is left
alone. `normalize_agrees_iff` says when this makes no difference: exactly if the query is no
object, has a simplified key in sight, or is settled within the ceiling. An object that has none in
sight is returned as it is, also where it is malformed or too deep.
-/

namespace SearchDesk.Work

open Query

/-- Reporting what a canonical form leaves out does not change it. -/
theorem reportNoted_perform (r : Noted Json) (d : Desk) :
    ((reportNoted r).perform d).1 = .ok r.value := by
  obtain ⟨d', filed, -⟩ := exists_perform_forM_report .queries (fun _ => .debug) Notice.message
    r.notices d
  unfold reportNoted
  rw [perform_bind_of_ok filed, perform_pure]

/-- A query is made canonical with the ceiling in force. -/
theorem canonicalize_perform {given : Option Int} {ceiling : Int} {d : Desk}
    (inForce : ((ceilingOr given).perform d).1 = .ok ceiling) (depth : Int) (node : Json) :
    ((canonicalize depth given node).perform d).1 =
      .ok (Query.canonicalize depth ceiling node) := by
  rcases answer : (ceilingOr given).perform d with ⟨c, d'⟩
  rw [answer] at inForce
  obtain rfl : c = .ok ceiling := inForce
  unfold canonicalize
  rw [perform_bind_of_ok answer, reportNoted_perform]
  rfl

theorem ceilingOr_some (m : Int) (d : Desk) : ((ceilingOr (some m)).perform d).1 = .ok m := rfl

/-- A query that need not be made canonical is left as it is. -/
theorem normalize_perform_of_not_needed (given : Option Int) {node : Json}
    (h : needsCanonicalizing node = false) (d : Desk) :
    ((normalize given node).perform d).1 = .ok node := by
  unfold normalize
  rw [h]
  rfl

theorem needsCanonicalizing_eq_true_iff (node : Json) :
    needsCanonicalizing node = true ↔ node.isObject = false ∨ ShowsSimplified node := by
  have needed : needsCanonicalizing node = true ↔
      node.isObject = false ∨ usesSimplified node = true := by
    cases node <;> simp [needsCanonicalizing, Json.isObject]
  rw [needed, usesSimplified_iff_showsSimplified]
  cases node.isObject <;> simp

/-- **Fast path.** With the ceiling in force, given or taken from the settings, normalizing
gives the canonical form exactly for what is no object, for what has a simplified key in sight, and
for what is settled; an object that has none in sight is returned as it is. Unless simplified keys
stand only in lists right inside lists, they are in sight if they stand anywhere. -/
theorem normalize_agrees_iff {given : Option Int} {ceiling : Int} {d : Desk}
    (inForce : ((ceilingOr given).perform d).1 = .ok ceiling) (node : Json) :
    (((normalize given node).perform d).1 = ((canonicalize 0 given node).perform d).1 ↔
      node.isObject = false ∨ ShowsSimplified node ∨ Settled (levelsLeft 0 ceiling) node) ∧
    (node.isObject = true → ¬ShowsSimplified node →
      ((normalize given node).perform d).1 = .ok node) ∧
    ((HidesSimplified node → ShowsSimplified node) →
      (ShowsSimplified node ↔ HoldsSimplified node)) := by
  refine and_assoc.mp ⟨?_, showsSimplified_iff_holdsSimplified⟩
  cases needed : needsCanonicalizing node with
  | true =>
    have same : normalize given node = canonicalize 0 given node := by
      unfold normalize
      rw [if_pos needed]
    have uses := (needsCanonicalizing_eq_true_iff node).mp needed
    refine ⟨⟨fun _ => uses.imp_right .inl, fun _ => by rw [same]⟩, fun object unseen => ?_⟩
    rcases uses with noObject | shows
    · rw [object] at noObject
      cases noObject
    · exact absurd shows unseen
  | false =>
    have left := normalize_perform_of_not_needed given needed d
    have unneeded : ¬(node.isObject = false ∨ ShowsSimplified node) := by
      rw [← needsCanonicalizing_eq_true_iff, needed]
      exact Bool.false_ne_true
    refine ⟨?_, fun _ _ => left⟩
    rw [left, canonicalize_perform inForce, Except.ok.injEq, eq_comm, canonicalize_eq_formValue,
      formValue_eq_self_iff, ← or_assoc, or_iff_right unneeded]

/-- A desk that keeps the settings of the project. -/
def settledDesk : Desk := { store := { home := default, kept := some {} } }

/-- A canonical clause over something that is no query. -/
def malformedClause : Json := .obj [("must", .int 5)]

/-- No ceiling is given, so the one of the settings is in force. -/
theorem normalize_agrees_iff_malformedClause :
    ((ceilingOr none).perform settledDesk).1 = .ok 50 ∧ ¬HoldsSimplified malformedClause ∧
      (((normalize none malformedClause).perform settledDesk).1 =
          ((canonicalize 0 none malformedClause).perform settledDesk).1 ↔
        Settled (levelsLeft 0 50) malformedClause) ∧
      ((normalize none malformedClause).perform settledDesk).1 = .ok malformedClause := by
  have inForce : ((ceilingOr none).perform settledDesk).1 = .ok 50 := rfl
  obtain ⟨agrees, left, -⟩ := normalize_agrees_iff inForce malformedClause
  have unseen : ¬ShowsSimplified malformedClause := by
    intro shows
    have found := (usesSimplified_iff_showsSimplified malformedClause).mpr ⟨rfl, shows⟩
    exact absurd found (by decide)
  have hides : ¬HidesSimplified malformedClause := by
    rintro ⟨outer, inner, inSight, -⟩
    -- the only member is a number
    cases inSight with
    | member mem inside =>
      obtain rfl := List.mem_singleton.mp mem
      cases inside
  have nowhere : ¬HoldsSimplified malformedClause := by
    rw [holdsSimplified_iff]
    exact not_or.mpr ⟨unseen, hides⟩
  refine ⟨inForce, nowhere, ?_, left rfl unseen⟩
  rw [agrees, or_iff_right (by decide), or_iff_right unseen]

/-- The malformed clause is left in place where canonicalization empties it. -/
theorem normalize_disagrees_malformedClause :
    ((normalize (some 50) malformedClause).perform settledDesk).1 = .ok malformedClause ∧
      ((canonicalize 0 (some 50) malformedClause).perform settledDesk).1 =
        .ok (.obj [("must", .obj [])]) ∧
      ((normalize (some 50) malformedClause).perform settledDesk).1 ≠
        ((canonicalize 0 (some 50) malformedClause).perform settledDesk).1 := by
  have left := normalize_perform_of_not_needed (some 50)
    (by decide : needsCanonicalizing malformedClause = false) settledDesk
  have emptied := canonicalize_perform (ceilingOr_some 50 settledDesk) 0 malformedClause
  have form : Query.canonicalize 0 50 malformedClause = .obj [("must", .obj [])] := by decide
  rw [form] at emptied
  refine ⟨left, emptied, ?_⟩
  rw [left, emptied]
  simp [malformedClause]

end SearchDesk.Work
