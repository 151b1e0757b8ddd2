import SearchDesk.Proofs.Desk.Console
import SearchDesk.Proofs.Desk.FastPath
import SearchDesk.Proofs.Query.Losses

/-!
# Losses in the journal

What stands in the journal after a query was made canonical under a given ceiling. Every place at
which something was cut off or left out has its record, in the order of the walk, and there are no
others (`losses_reported`). So a journal without a record of a cut says that a higher ceiling would
have given the same.
-/

namespace SearchDesk.Work

open Query

/-- Under a given ceiling nothing but the notices of the canonical form comes into the journal. -/
theorem canonicalize_journal (depth ceiling : Int) (root : Json) (d : Desk) :
    ∃ d', (canonicalize depth (some ceiling) root).perform d =
        (.ok (Query.canonicalize depth ceiling root), d') ∧
      d'.journal = d.journal ++ noticeRecords (canonicalizeNoted depth ceiling root).notices := by
  obtain ⟨d', filed, journal⟩ := exists_perform_forM_journal .queries (fun _ => .debug)
    Notice.message (canonicalizeNoted depth ceiling root).notices d
  refine ⟨d', ?_, journal⟩
  have given : (ceilingOr (some ceiling)).perform d = (.ok ceiling, d) := rfl
  rw [canonicalize, perform_bind_of_ok given, reportNoted, perform_bind_of_ok filed]
  rfl

/-- A record of a cut is never one of something that was left out. -/
theorem message_truncated_ne (k c : Int) (shape : Json.Shape) :
    (Notice.truncated k c).message ≠ (Notice.dropped shape).message := by
  intro same
  have cut : "Query tree truncated at depth ".toList =
      'Q' :: "uery tree truncated at depth ".toList := by decide
  have left : "Dropping non-object query node of type ".toList =
      'D' :: "ropping non-object query node of type ".toList := by decide
  have texts : ("Query tree truncated at depth " ++ integerText k ++ " (max " ++ integerText c
      ++ ")").toList = ("Dropping non-object query node of type " ++ shape.name).toList :=
    congrArg String.toList same
  simp only [String.toList_append, cut, left, List.cons_append] at texts
  have first : 'Q' = 'D' := (List.cons.inj texts).1
  exact absurd first (by decide)

/-- A number, a conjunction with one query too many levels down, and null, in one list. -/
def lossyTree : Json :=
  .obj [("boost", .int 2),
    ("or", .arr [.int 5, .obj [("and", .arr [.obj [("term", .str "a")]])], .null])]

example :
    (canonicalizeNoted 0 1 lossyTree).notices = [.dropped .int, .truncated 2 1] := by
  decide

end SearchDesk.Work
