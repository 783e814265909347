import Mathlib
import CounterCache.Engine.Controller.Reads

/-!
# Descending ranges by rank

A descending range of a sorted set lists its members from the highest (score, member) down,
from one rank to another. The two ends may count back from the last rank: `-1` names the last,
`-n` the first. An end that names no rank is not an error; the range holds just the ranks that
exist between the two ends, and nothing when the ends are the wrong way round.

The code clamps the two ends differently (a negative start at the first rank, a non-negative
stop at the last) and then slices the reversed entry list. Main statement:
`revRange_eq_rankedBetween`, that this slicing lists exactly the entries of any descending
listing whose rank lies between the two ends, as `ZREVRANGE` and the store's reads answer it.
`ranking_top` then says that a ranking view reads its top `limit` entries.
-/

namespace CounterCache

namespace SortedSet

/-! ## Ranks of a listing -/

/-- The ranks `lo` to `hi - 1` of a list whose ranks start at `k ≤ lo` are a slice of it. -/
theorem map_fst_filter_zipIdx {α : Type} (d : List α) (k lo hi : Nat) (hk : k ≤ lo) :
    ((d.zipIdx k).filter fun p => decide (lo ≤ p.2 ∧ p.2 < hi)).map Prod.fst =
      (d.drop (lo - k)).take (hi - lo) := by
  induction d generalizing k lo with
  | nil => simp
  | cons x d ih =>
    rw [List.zipIdx_cons, List.filter_cons]
    by_cases hlo : lo = k
    · subst hlo
      -- every later rank is past `lo`, so only the upper end still filters
      have htail : ((d.zipIdx (lo + 1)).filter fun p => decide (lo ≤ p.2 ∧ p.2 < hi)) =
          (d.zipIdx (lo + 1)).filter fun p => decide (lo + 1 ≤ p.2 ∧ p.2 < hi) := by
        apply List.filter_congr
        intro p hp
        have := List.le_snd_of_mem_zipIdx hp
        simp only [decide_eq_decide]
        omega
      have hrest := ih (lo + 1) (lo + 1) le_rfl
      rw [Nat.sub_self, List.drop_zero] at hrest
      by_cases hhi : lo < hi
      · rw [if_pos (by simpa using hhi), List.map_cons, htail, hrest, Nat.sub_self,
          List.drop_zero, show hi - lo = hi - (lo + 1) + 1 by omega, List.take_succ_cons]
      · rw [if_neg (by simpa using hhi), htail, hrest, show hi - lo = 0 by omega,
          show hi - (lo + 1) = 0 by omega]
        simp
    · have hhead : ¬ (lo ≤ k ∧ k < hi) := by omega
      rw [if_neg (by simpa using hhead), ih (k + 1) lo (by omega),
        show lo - k = lo - (k + 1) + 1 by omega, List.drop_succ_cons]

/-- The rank an end of a descending range names: a negative end counts back from the last rank,
`-1` being the last. It is not clamped to the ranks that exist. -/
def endRank (n : Nat) (i : Int) : Int := if i < 0 then n + i else i

/-- The entries of a listing whose rank lies between `s` and `e`, both included, in order. -/
def rankedBetween (d : List Scored) (s e : Int) : List Scored :=
  ((d.zipIdx).filter fun p => decide (s ≤ p.2 ∧ p.2 ≤ e)).map Prod.fst

/-- The first `m` entries of a listing are those of ranks `0` to `m - 1`. -/
theorem rankedBetween_zero (d : List Scored) (m : Nat) :
    rankedBetween d 0 (m - 1) = d.take m := by
  have h := map_fst_filter_zipIdx d 0 0 m le_rfl
  rw [Nat.sub_zero, List.drop_zero] at h
  rw [← h, rankedBetween]
  congr 1
  apply List.filter_congr
  intro p _
  simp only [decide_eq_decide]
  omega

/-- A listing of a set's entries from the highest (score, member) down. -/
def Descending (z : SortedSet) (d : List Scored) : Prop :=
  d.Pairwise (fun a b => Scored.before b a = true) ∧ ∀ e, e ∈ d ↔ z.score? e.1 = some e.2

theorem descending_toList_reverse (z : SortedSet) : Descending z z.toList.reverse := by
  refine ⟨List.pairwise_reverse.2 (z.ordered.imp fun h => h.1), fun e => ?_⟩
  rw [List.mem_reverse]
  exact mem_iff_scoreIn z.ordered e

/-- A set has one descending listing: its entries reversed. -/
theorem eq_toList_reverse_of_descending {z : SortedSet} {d : List Scored}
    (hd : Descending z d) : d = z.toList.reverse := by
  have hasymm : ∀ {a b : Scored}, Scored.before b a = true → ¬ Scored.before a b = true :=
    fun h => by rw [Scored.before_asymm h]; exact Bool.false_ne_true
  have hz := descending_toList_reverse z
  exact eq_of_pairwise_of_mem_iff hasymm hd.1 hz.1 fun e => (hd.2 e).trans (hz.2 e).symm

/-! ## The range the code computes -/

theorem revRange_eq_rankedBetween_reverse (z : SortedSet) (start stop : Int) :
    z.revRange start stop =
      rankedBetween z.toList.reverse (endRank z.card start) (endRank z.card stop) := by
  have hlen : z.toList.reverse.length = z.card := by simp [toList, card]
  have hrank : ∀ p ∈ z.toList.reverse.zipIdx, p.2 < z.card := fun p hp => by
    simpa [hlen] using List.snd_lt_add_of_mem_zipIdx hp
  -- the code clamps the first rank at 0 and the last at `card - 1`
  have hs : (if start < 0 then max ((z.card : Int) + start) 0 else start) =
      max (endRank z.card start) 0 := by
    unfold endRank; split_ifs <;> omega
  have he : (if stop < 0 then (z.card : Int) + stop else min stop ((z.card : Int) - 1)) =
      min (endRank z.card stop) (z.card - 1) := by
    unfold endRank; split_ifs <;> omega
  unfold revRange rankedBetween
  dsimp only
  rw [hs, he]
  generalize endRank z.card start = s, endRank z.card stop = e
  split
  · rename_i hempty
    symm
    rw [List.map_eq_nil_iff, List.filter_eq_nil_iff]
    intro p hp
    have := hrank p hp
    simp only [Bool.or_eq_true, decide_eq_true_eq] at hempty
    simp only [decide_eq_true_eq]
    omega
  · rename_i hrange
    simp only [Bool.or_eq_true, decide_eq_true_eq, not_or] at hrange
    -- between the clamped ends every rank exists, so the window is a slice
    have hwindow := map_fst_filter_zipIdx z.toList.reverse 0 (max s 0).toNat
      ((min e (z.card - 1)).toNat + 1) (Nat.zero_le _)
    rw [List.filter_congr (q := fun p =>
      decide ((max s 0).toNat ≤ p.2 ∧ p.2 < (min e (z.card - 1)).toNat + 1)), hwindow]
    · rw [Nat.sub_zero, show (min e (z.card - 1) - max s 0 + 1).toNat =
        (min e (z.card - 1)).toNat + 1 - (max s 0).toNat by omega]
      rfl
    · intro p hp
      have := hrank p hp
      simp only [decide_eq_decide]
      omega

end SortedSet

/-! ## What the store answers -/

theorem Keyspace.rangeAt_eq_revRange {ks : Keyspace} {now : Nat} {k : String} {z : SortedSet}
    (h : ks.sortedSet? k now = .ok (some z)) (start stop : Int) :
    ks.rangeAt now k start stop = .ok (z.revRange start stop) := by
  simp [Keyspace.rangeAt, h, Except.map]

theorem Transaction.execute_zrevrange {t : Transaction} {k : String} {z : SortedSet}
    (h : t.keyspace.sortedSet? k t.now = .ok (some z)) (start stop : Int) (withScores : Bool) :
    (execute (.zrevrange k start stop withScores)).run t =
      .ok (.array ((z.revRange start stop).flatMap fun e =>
        if withScores then [.bulk e.1, .bulk (toString e.2)] else [.bulk e.1])) t := by
  simp [execute, zrevrange, sortedSet?, h, ofExcept, EStateM.run, bind, EStateM.bind, get,
    getThe, MonadStateOf.get, EStateM.get, pure, EStateM.pure]

namespace Controller

theorem ofExcept_run {α : Type} (r : Except Error α) (c : Controller) :
    (ofExcept r).run.run c = (r, c) := by
  cases r <;> rfl

theorem ofExcept_bind {α β : Type} (r : Except Error α) (g : α → Except Error β) :
    ofExcept (r >>= g) = ofExcept r >>= fun a => ofExcept (g a) := by
  cases r <;> rfl

theorem ofExcept_map {α β : Type} (r : Except Error α) (g : α → β) :
    ofExcept (r.map g) = (do let a ← ofExcept r; pure (g a)) := by
  cases r <;> rfl

/-- Parsing each item inside the controller fails or answers as parsing them all outside. -/
theorem mapM_ofExcept {α β : Type} (f : α → Except Error β) (xs : List α) :
    (xs.mapM fun x => ofExcept (f x)) = ofExcept (xs.mapM f) := by
  induction xs with
  | nil => rfl
  | cons x xs ih =>
    simp only [List.mapM_cons, ih, ofExcept_bind]
    rfl

theorem run_bind_of_run {α β : Type} {x : CtlM α} {c c₁ : Controller} {a : α}
    (hx : x.run.run c = (.ok a, c₁)) (g : α → CtlM β) :
    (x >>= g).run.run c = (g a).run.run c₁ := by
  simp only [ExceptT.run_bind, StateT.run_bind, hx]
  rfl

/-- A ranking view reads its top `limit` entries (at most `2^63 - 1` of them), from the highest
score down, each member read as an id. -/
theorem ranking_top {c : Controller} {kind : Kind} {view : String} {z : SortedSet}
    (h : c.cache.keyspace.sortedSet? (Keys.ranking kind view) c.now = .ok (some z))
    (limit : Nat) :
    (ranking kind view limit).run.run c =
      ((z.toList.reverse.take (min limit (Nat.pow 2 63 - 1))).mapM
        (fun e => (parseId e.1).map (·, e.2)), c) := by
  by_cases hl : limit = 0
  · subst hl
    rfl
  · have hparse : (fun (e : Scored) =>
        (do return (← ofExcept (parseId e.1), e.2) : CtlM (Nat × Int))) =
          fun e => ofExcept ((parseId e.1).map (·, e.2)) := by
      funext e
      rw [ofExcept_map]
    -- the view is read from rank 0 to rank `limit - 1`, which exists
    have hend : SortedSet.endRank z.card ((min limit (Nat.pow 2 63 - 1) : Nat) - 1) =
        ((min limit (Nat.pow 2 63 - 1) : Nat) : Int) - 1 := by
      have hp : 0 < Nat.pow 2 63 - 1 := by decide
      unfold SortedSet.endRank; split_ifs <;> omega
    have hrange := Keyspace.rangeAt_eq_revRange h 0 ((min limit (Nat.pow 2 63 - 1) : Nat) - 1)
    rw [SortedSet.revRange_eq_rankedBetween_reverse, hend,
      show SortedSet.endRank z.card 0 = 0 from rfl, SortedSet.rankedBetween_zero] at hrange
    have hmembers : (cachedRange (Keys.ranking kind view) 0
        ((min limit (Nat.pow 2 63 - 1) : Nat) - 1)).run.run c =
          (.ok (z.toList.reverse.take (min limit (Nat.pow 2 63 - 1))), c) := by
      -- reading the clock and the cache leaves the controller as it is
      show (ofExcept _).run.run c = _
      rw [ofExcept_run, hrange]
    simp only [ranking, hl, if_false]
    rw [hparse]
    simp only [mapM_ofExcept]
    rw [run_bind_of_run hmembers, ofExcept_run]

end Controller

/-- A descending range, as the sorted set, the store and `ZREVRANGE` give it, lists exactly
the entries of the descending listing whose rank lies between the two ends, in order. A
negative end counts back from the last rank; ends are not clamped in this statement. A ranking
view is the range from rank `0` to rank `limit - 1`. -/
theorem revRange_eq_rankedBetween (z : SortedSet) (d : List Scored) (hd : SortedSet.Descending z d)
    (start stop : Int) :
    let ranks := SortedSet.rankedBetween d (SortedSet.endRank z.card start)
      (SortedSet.endRank z.card stop)
    z.revRange start stop = ranks ∧
    (∀ (ks : Keyspace) now k, ks.sortedSet? k now = .ok (some z) →
      ks.rangeAt now k start stop = .ok ranks) ∧
    (∀ (t : Transaction) k withScores, t.keyspace.sortedSet? k t.now = .ok (some z) →
      (Transaction.execute (.zrevrange k start stop withScores)).run t =
        .ok (.array (ranks.flatMap fun e =>
          if withScores then [.bulk e.1, .bulk (toString e.2)] else [.bulk e.1])) t) ∧
    (∀ (c : Controller) kind view limit,
      c.cache.keyspace.sortedSet? (Keys.ranking kind view) c.now = .ok (some z) →
      (Controller.ranking kind view limit).run.run c =
        ((SortedSet.rankedBetween d 0 ((min limit (Nat.pow 2 63 - 1) : Nat) - 1)).mapM
          (fun e => (Controller.parseId e.1).map (·, e.2)), c)) := by
  obtain rfl := SortedSet.eq_toList_reverse_of_descending hd
  intro ranks
  have hrev : z.revRange start stop = ranks :=
    SortedSet.revRange_eq_rankedBetween_reverse z start stop
  refine ⟨hrev, fun ks now k h => ?_, fun t k withScores h => ?_, fun c kind view limit h => ?_⟩
  · rw [Keyspace.rangeAt_eq_revRange h, hrev]
  · rw [Transaction.execute_zrevrange h, hrev]
  · rw [Controller.ranking_top h, SortedSet.rankedBetween_zero]

/-- Four members ranked from the top; the range from the second-to-last rank to a stop past the
end holds the last two. -/
theorem revRange_eq_rankedBetween_last_two :
    SortedSet.Descending (SortedSet.ofList [("a", 0), ("b", 1), ("c", 2), ("d", 3)])
        [("d", 3), ("c", 2), ("b", 1), ("a", 0)] ∧
      (SortedSet.ofList [("a", 0), ("b", 1), ("c", 2), ("d", 3)]).revRange (-2) 10 =
        [("b", 1), ("a", 0)] := by
  have hd : SortedSet.Descending (SortedSet.ofList [("a", 0), ("b", 1), ("c", 2), ("d", 3)])
      [("d", 3), ("c", 2), ("b", 1), ("a", 0)] := by
    have h := SortedSet.descending_toList_reverse
      (SortedSet.ofList [("a", 0), ("b", 1), ("c", 2), ("d", 3)])
    have hl : (SortedSet.ofList [("a", 0), ("b", 1), ("c", 2), ("d", 3)]).toList.reverse =
        [("d", 3), ("c", 2), ("b", 1), ("a", 0)] := by decide
    rwa [hl] at h
  refine ⟨hd, ?_⟩
  rw [(revRange_eq_rankedBetween _ _ hd (-2) 10).1]
  decide

end CounterCache
