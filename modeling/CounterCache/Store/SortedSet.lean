import CounterCache.Data.KeyMap
import CounterCache.Error
import CounterCache.Text.Decimal

/-!
# Sorted sets

A sorted set maps members to integer scores and lists them in ascending (score, member) order.
It is held as that list itself, each member once, and carries the proof of that order, so the
order is the representation: equal sets are equal values (`ext_score?`), `toList` needs no
sorting, and a descending range is a slice of the reversed list.

Main statements: `score?_insert_self`, `score?_insert_ne`, `score?_erase_self` and
`score?_erase_ne` say what the writes do to a member's score; with `ext_score?` they give the
laws `insert_insert`, `insert_of_score?`, `erase_of_score?_none`, `erase_insert_of_score?_none`
and `insert_erase_of_score?`. `revRange` is defined by the rank arithmetic of descending ranges.
-/

namespace CounterCache

/-- A member with its score. -/
abbrev Scored := String × Int

/-- The order of a sorted set: by score, then by member. -/
def Scored.before (a b : Scored) : Bool :=
  a.2 < b.2 || (a.2 == b.2 && decide (a.1 < b.1))

namespace Scored

theorem before_def (a b : Scored) :
    Scored.before a b = (a.2 < b.2 || (a.2 == b.2 && decide (a.1 < b.1))) := rfl

theorem before_irrefl (a : Scored) : Scored.before a a = false := by
  simp [before_def]

theorem before_trans {a b c : Scored} (hab : Scored.before a b = true)
    (hbc : Scored.before b c = true) : Scored.before a c = true := by
  simp only [before_def, Bool.or_eq_true, decide_eq_true_eq, Bool.and_eq_true, beq_iff_eq]
    at hab hbc ⊢
  rcases hab with hab | ⟨hab, hab'⟩ <;> rcases hbc with hbc | ⟨hbc, hbc'⟩
  · exact .inl (Int.lt_trans hab hbc)
  · exact .inl (hbc ▸ hab)
  · exact .inl (hab ▸ hbc)
  · exact .inr ⟨hab.trans hbc, String.lt_trans hab' hbc'⟩

theorem before_asymm {a b : Scored} (hab : Scored.before a b = true) :
    Scored.before b a = false := by
  cases hba : Scored.before b a with
  | false => rfl
  | true =>
    have := before_trans hab hba
    rw [before_irrefl] at this
    exact absurd this Bool.false_ne_true

/-- Two entries of different members are ordered one way or the other. -/
theorem before_total {a b : Scored} (hne : a.1 ≠ b.1) (hab : Scored.before a b = false) :
    Scored.before b a = true := by
  simp only [before_def, Bool.or_eq_false_iff, decide_eq_false_iff_not, Bool.and_eq_false_imp,
    beq_iff_eq] at hab
  simp only [before_def, Bool.or_eq_true, decide_eq_true_eq, Bool.and_eq_true, beq_iff_eq]
  obtain ⟨hlt, htie⟩ := hab
  by_cases hs : a.2 = b.2
  · refine .inr ⟨hs.symm, ?_⟩
    have hle : b.1 ≤ a.1 := String.not_lt.1 (by simpa using htie hs)
    exact String.not_le.1 fun hab => hne (String.le_antisymm hab hle)
  · exact .inl (by omega)

end Scored

/-- Entries in strictly ascending (score, member) order, each member once. -/
def Ordered (es : List Scored) : Prop :=
  es.Pairwise fun a b => Scored.before a b = true ∧ a.1 ≠ b.1

/-- A set of members with integer scores, as a list in ascending (score, member) order. -/
structure SortedSet where
  entries : List Scored := []
  ordered : Ordered entries := by exact List.Pairwise.nil
  deriving DecidableEq, Repr

namespace SortedSet

/-- The set with no members. -/
def empty : SortedSet := {}

instance : Inhabited SortedSet := ⟨empty⟩

/-- Score of a member in an entry list. -/
def scoreIn (m : String) : List Scored → Option Int
  | [] => none
  | (m', s) :: rest => if m' = m then some s else scoreIn m rest

theorem scoreIn_nil (m : String) : scoreIn m [] = none := rfl

theorem scoreIn_cons (m : String) (x : Scored) (rest : List Scored) :
    scoreIn m (x :: rest) = if x.1 = m then some x.2 else scoreIn m rest := rfl

/-- Score of a member. -/
def score? (z : SortedSet) (m : String) : Option Int := scoreIn m z.entries

theorem score?_eq_scoreIn (z : SortedSet) (m : String) : z.score? m = scoreIn m z.entries := rfl

/-- Number of members. -/
def card (z : SortedSet) : Nat := z.entries.length

/-- The set has no members. -/
def isEmpty (z : SortedSet) : Bool := z.entries.isEmpty

/-- Places an entry before the first entry that does not come before it. -/
def place (e : Scored) : List Scored → List Scored
  | [] => [e]
  | x :: rest => if Scored.before e x then e :: x :: rest else x :: place e rest

theorem place_nil (e : Scored) : place e [] = [e] := rfl

theorem place_cons (e x : Scored) (rest : List Scored) :
    place e (x :: rest) = if Scored.before e x then e :: x :: rest else x :: place e rest := rfl

theorem mem_place {e x : Scored} {es : List Scored} (h : x ∈ place e es) : x = e ∨ x ∈ es := by
  induction es with
  | nil => simpa [place_nil] using h
  | cons y rest ih =>
    rw [place_cons] at h
    split at h
    · simpa using h
    · rcases List.mem_cons.1 h with rfl | h
      · exact .inr List.mem_cons_self
      · rcases ih h with h | h
        · exact .inl h
        · exact .inr (List.mem_cons_of_mem _ h)

/-- Placing an entry whose member is not listed keeps the order. -/
theorem ordered_place {e : Scored} {es : List Scored} (h : Ordered es)
    (hfresh : ∀ x ∈ es, x.1 ≠ e.1) : Ordered (place e es) := by
  induction es with
  | nil => exact List.pairwise_singleton _ _
  | cons x rest ih =>
    have ⟨hhead, hrest⟩ := List.pairwise_cons.1 h
    rw [place_cons]
    split
    · rename_i hex
      refine List.pairwise_cons.2 ⟨?_, h⟩
      intro y hy
      rcases List.mem_cons.1 hy with rfl | hy
      · exact ⟨hex, Ne.symm (hfresh _ List.mem_cons_self)⟩
      · exact ⟨Scored.before_trans hex (hhead y hy).1,
          Ne.symm (hfresh y (List.mem_cons_of_mem _ hy))⟩
    · rename_i hex
      -- `e` goes after `x`, which then comes before everything in the new tail
      have hxe : Scored.before x e = true :=
        Scored.before_total (Ne.symm (hfresh x List.mem_cons_self)) (by simpa using hex)
      refine List.pairwise_cons.2 ⟨?_, ih hrest fun y hy => hfresh y (List.mem_cons_of_mem _ hy)⟩
      intro y hy
      rcases mem_place hy with rfl | hy
      · exact ⟨hxe, hfresh x List.mem_cons_self⟩
      · exact hhead y hy

/-- Removes a member. -/
def erase (z : SortedSet) (m : String) : SortedSet :=
  ⟨z.entries.filter (·.1 != m), z.ordered.filter _⟩

/-- Sets a member's score, adding the member if needed. -/
def insert (z : SortedSet) (m : String) (s : Int) : SortedSet :=
  ⟨place (m, s) (z.erase m).entries, ordered_place (z.erase m).ordered fun x hx => by
    simpa using (List.mem_filter.1 hx).2⟩

theorem entries_erase (z : SortedSet) (m : String) :
    (z.erase m).entries = z.entries.filter (·.1 != m) := rfl

theorem entries_insert (z : SortedSet) (m : String) (s : Int) :
    (z.insert m s).entries = place (m, s) (z.erase m).entries := rfl

/-- Sets a member's score and says whether the member is new. -/
def add (z : SortedSet) (m : String) (s : Int) : Bool × SortedSet :=
  ((z.score? m).isNone, z.insert m s)

/-- Removes a member and says whether it was there. -/
def remove (z : SortedSet) (m : String) : Bool × SortedSet :=
  ((z.score? m).isSome, z.erase m)

/-- Adds `delta` to a member's score (an absent member counts as 0) and gives the new score. A
sum outside the signed 64-bit range fails, and the set stays as it was. -/
def incrBy (z : SortedSet) (m : String) (delta : Int) : Except Error (Int × SortedSet) :=
  let score := (z.score? m).getD 0 + delta
  if Text.InI64 score then .ok (score, z.insert m score)
  else .error (.invalidArgument "increment would overflow")

/-- Builds a set from pairs in any order; a later pair of a member wins. -/
def ofList (ps : List Scored) : SortedSet :=
  ps.foldl (fun z p => z.insert p.1 p.2) empty

/-- Members with scores in ascending (score, member) order. -/
def toList (z : SortedSet) : List Scored := z.entries

/-- The members ranked `start` to `stop` in descending order, both ends included. A negative
end counts from the last rank (`-1` is the last); a start before the first rank is the first,
a stop past the last rank is the last, and an empty or reversed range is empty. -/
def revRange (z : SortedSet) (start stop : Int) : List Scored :=
  let len : Int := z.card
  let s := if start < 0 then max (len + start) 0 else start
  let e := if stop < 0 then len + stop else min stop (len - 1)
  if s > e || s ≥ len then []
  else (z.entries.reverse.drop s.toNat).take (e - s + 1).toNat

theorem scoreIn_filter_ne (m m2 : String) (es : List Scored) :
    scoreIn m2 (es.filter (·.1 != m)) = if m = m2 then none else scoreIn m2 es := by
  induction es with
  | nil => simp [scoreIn_nil]
  | cons e rest ih =>
    obtain ⟨m', s'⟩ := e
    by_cases h : m' = m
    · subst h
      rw [List.filter_cons_of_neg (by simp), ih]
      by_cases h2 : m' = m2 <;> simp [scoreIn_cons, h2]
    · rw [List.filter_cons_of_pos (by simpa using h)]
      simp only [scoreIn_cons, ih]
      by_cases h2 : m' = m2
      · subst h2; simp [Ne.symm h]
      · simp [h2]

theorem scoreIn_place_of_none (e : Scored) (m2 : String) (es : List Scored)
    (h : scoreIn e.1 es = none) :
    scoreIn m2 (place e es) = if e.1 = m2 then some e.2 else scoreIn m2 es := by
  induction es with
  | nil => simp [place_nil, scoreIn_cons, scoreIn_nil]
  | cons x rest ih =>
    obtain ⟨m', s'⟩ := x
    have hne : m' ≠ e.1 := by
      intro hm; simp [scoreIn_cons, hm] at h
    have hrest : scoreIn e.1 rest = none := by
      simpa [scoreIn_cons, hne] using h
    rw [place_cons]
    by_cases hb : Scored.before e (m', s')
    · simp only [hb, if_true]
      by_cases h2 : e.1 = m2
      · simp [scoreIn_cons, h2]
      · simp [scoreIn_cons, h2]
    · simp only [hb, if_false, Bool.false_eq_true, scoreIn_cons, ih hrest]
      by_cases h2 : m' = m2
      · subst h2; simp [Ne.symm hne]
      · simp [h2]

@[simp] theorem score?_erase_self (z : SortedSet) (m : String) : (z.erase m).score? m = none := by
  simp [score?_eq_scoreIn, entries_erase, scoreIn_filter_ne]

@[simp] theorem score?_insert_self (z : SortedSet) (m : String) (s : Int) :
    (z.insert m s).score? m = some s := by
  have h := scoreIn_place_of_none (m, s) m (z.erase m).entries (by
    simpa [score?_eq_scoreIn] using score?_erase_self z m)
  simpa [entries_insert, score?_eq_scoreIn] using h

theorem score?_erase_ne (z : SortedSet) {m m2 : String} (hne : m ≠ m2) :
    (z.erase m).score? m2 = z.score? m2 := by
  simp [score?_eq_scoreIn, entries_erase, scoreIn_filter_ne, hne]

theorem score?_insert_ne (z : SortedSet) {m m2 : String} (s : Int) (hne : m ≠ m2) :
    (z.insert m s).score? m2 = z.score? m2 := by
  have h := scoreIn_place_of_none (m, s) m2 (z.erase m).entries (by
    simpa [score?_eq_scoreIn] using score?_erase_self z m)
  simp only [hne, if_false] at h
  simpa [entries_insert, score?_eq_scoreIn, entries_erase, scoreIn_filter_ne, hne] using h

/-- In an ordered list an entry is present exactly when its member's score is its score. -/
theorem mem_iff_scoreIn {es : List Scored} (h : Ordered es) (e : Scored) :
    e ∈ es ↔ scoreIn e.1 es = some e.2 := by
  induction es generalizing e with
  | nil => simp [scoreIn_nil]
  | cons x rest ih =>
    obtain ⟨m', s'⟩ := x
    have ⟨hhead, hrest⟩ := List.pairwise_cons.1 h
    simp only [List.mem_cons, scoreIn_cons, ih hrest]
    by_cases hm : m' = e.1
    · -- the head holds the member, so no later entry can
      have hnone : scoreIn e.1 rest = none := by
        cases hl : scoreIn e.1 rest with
        | none => rfl
        | some w =>
          have hmem := (ih hrest (e.1, w)).2 hl
          exact absurd hm (hhead _ hmem).2
      obtain ⟨m, w⟩ := e
      simp only at hm hnone
      subst hm
      simp [hnone, eq_comm]
    · have hne : e ≠ (m', s') := fun he => hm (he ▸ rfl)
      simp [hm, hne]

/-- Two sorted sets with the same scores are equal. -/
theorem ext_score? {z z' : SortedSet} (h : ∀ m, z.score? m = z'.score? m) : z = z' := by
  obtain ⟨es, hes⟩ := z
  obtain ⟨es', hes'⟩ := z'
  have hasymm : ∀ {a b : Scored}, (Scored.before a b = true ∧ a.1 ≠ b.1) →
      ¬ (Scored.before b a = true ∧ b.1 ≠ a.1) := fun hab hba => by
    rw [Scored.before_asymm hab.1] at hba
    exact Bool.false_ne_true hba.1
  have hmem : ∀ e, e ∈ es ↔ e ∈ es' := fun e => by
    rw [mem_iff_scoreIn hes, mem_iff_scoreIn hes']
    exact iff_of_eq (congrArg (· = some e.2) (h e.1))
  have heq : es = es' := eq_of_pairwise_of_mem_iff hasymm hes hes' hmem
  subst heq
  rfl

/-! ## Laws of the writes -/

/-- A second score for a member overrides the first. -/
@[simp] theorem insert_insert (z : SortedSet) (m : String) (s s' : Int) :
    (z.insert m s).insert m s' = z.insert m s' := by
  apply ext_score?
  intro m2
  by_cases hm : m = m2
  · subst hm
    simp
  · rw [score?_insert_ne _ _ hm, score?_insert_ne _ _ hm, score?_insert_ne _ _ hm]

/-- Setting the score a member already has changes nothing. -/
theorem insert_of_score? {z : SortedSet} {m : String} {s : Int} (h : z.score? m = some s) :
    z.insert m s = z := by
  apply ext_score?
  intro m2
  by_cases hm : m = m2
  · subst hm
    rw [score?_insert_self, h]
  · exact score?_insert_ne _ _ hm

/-- Removing an absent member changes nothing. -/
theorem erase_of_score?_none {z : SortedSet} {m : String} (h : z.score? m = none) :
    z.erase m = z := by
  apply ext_score?
  intro m2
  by_cases hm : m = m2
  · subst hm
    rw [score?_erase_self, h]
  · exact score?_erase_ne _ hm

/-- Removing a member that was absent before an insert undoes the insert. -/
theorem erase_insert_of_score?_none {z : SortedSet} {m : String} (s : Int)
    (h : z.score? m = none) : (z.insert m s).erase m = z := by
  apply ext_score?
  intro m2
  by_cases hm : m = m2
  · subst hm
    rw [score?_erase_self, h]
  · rw [score?_erase_ne _ hm, score?_insert_ne _ _ hm]

/-- Putting back the score a member had undoes a removal. -/
theorem insert_erase_of_score? {z : SortedSet} {m : String} {s : Int}
    (h : z.score? m = some s) : (z.erase m).insert m s = z := by
  apply ext_score?
  intro m2
  by_cases hm : m = m2
  · subst hm
    rw [score?_insert_self, h]
  · rw [score?_insert_ne _ _ hm, score?_erase_ne _ hm]

end SortedSet

end CounterCache
