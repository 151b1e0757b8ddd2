import SearchDesk.Proofs.Json.Readable
import SearchDesk.Proofs.Query.Level

/-!
# Canonical queries read back

The canonical form of a readable query is readable: taking out the rewritten key and putting in its
target leaves the keys distinct, and no number is touched. One level is `readable_formMembers`; the
whole tree follows by induction on the levels.
-/

namespace SearchDesk.Query

open Json (Readable readable_arr_iff readable_obj_iff)

section
variable {form : Json → Json} (each : ∀ q, Readable q → Readable (form q))

include each

theorem readable_map_form {items : List Json} (readable : Readable (.arr items)) :
    Readable (.arr (items.map form)) := by
  rw [readable_arr_iff] at *
  rw [List.forall_mem_map]
  exact fun v mem => each v (readable v mem)

theorem readable_rewritten (key : String) {v : Json} (readable : Readable v) :
    Readable (rewritten form key v) := by
  unfold rewritten
  split
  · refine readable_obj_iff.mpr ⟨List.nodup_singleton _, fun e mem => ?_⟩
    rw [List.mem_singleton.mp mem, readable_arr_iff]
    rintro q mem
    rw [List.mem_singleton.mp mem]
    exact each v readable
  · apply readable_map_form each
    cases v with
    | arr items => exact readable
    | _ => exact readable_arr_iff.mpr (by simp [childrenOf])

theorem readable_kept (key : String) {v : Json} (readable : Readable v) :
    Readable (kept form key v) := by
  unfold kept
  split
  · exact each v readable
  · split
    · split
      · exact readable_map_form each readable
      · exact readable
    · exact readable

theorem readable_formMembers {ms : Members} (readable : Readable (.obj ms)) :
    Readable (.obj (formMembers form ms)) := by
  rcases found : rewrittenKey? ms with _ | key
  · obtain ⟨distinct, members⟩ := readable_obj_iff.mp readable
    rw [formMembers_of_unrewritten form found, readable_obj_iff]
    constructor
    · rw [Entries.keys, List.map_map]
      exact distinct
    · rw [List.forall_mem_map]
      exact fun e mem => readable_kept each e.1 (members e mem)
  · obtain ⟨v, value⟩ := rewrittenKey?_get? found
    rw [formMembers_of_rewritten form found value]
    exact Json.readable_put (Json.readable_erase readable key) _
      (readable_rewritten each key (Json.inherited_readable.get? readable value))

end

theorem readable_emptyQuery : Readable emptyQuery :=
  readable_obj_iff.mpr ⟨List.nodup_nil, by simp⟩

theorem readable_formValue (ceiling : Int) (levels : Nat) {q : Json} (readable : Readable q) :
    Readable (formValue ceiling levels q) := by
  induction levels generalizing q with
  | zero => exact readable_emptyQuery
  | succ levels ih =>
    cases q with
    | obj ms =>
      rw [formValue_obj]
      exact readable_formMembers (fun _ => ih) readable
    | _ => exact readable_emptyQuery

theorem readable_canonicalize (depth ceiling : Int) {q : Json} (readable : Readable q) :
    Readable (canonicalize depth ceiling q) := by
  rw [canonicalize_eq_formValue]
  exact readable_formValue ceiling _ readable

end SearchDesk.Query
