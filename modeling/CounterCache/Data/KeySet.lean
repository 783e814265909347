import CounterCache.Data.KeyMap

/-!
# Sets of text

`KeySet` holds its members as a strictly ascending list and carries the proof of that order, so
equal sets are equal values (`ext_contains`) and members are listed in code-point order.

Main statements: `mem_insert` and `mem_erase` say what `insert` and `erase` do to membership;
with `ext_contains` they give the set laws `insert_of_contains`, `erase_of_not_contains`,
`erase_insert_of_not_contains` and `insert_erase_of_contains`.
-/

namespace CounterCache

/-- A finite set of texts, as a strictly ascending list. -/
structure KeySet where
  members : List String := []
  ascending : members.Pairwise (· < ·) := by exact List.Pairwise.nil
  deriving DecidableEq, Repr

namespace KeySet

/-- The set with no members. -/
def empty : KeySet := {}

instance : Inhabited KeySet := ⟨empty⟩

/-- Membership test. -/
def contains (s : KeySet) (m : String) : Bool := s.members.contains m

theorem contains_def (s : KeySet) (m : String) : s.contains m = s.members.contains m := rfl

/-- Inserts a text into an ascending list, keeping it strictly ascending. -/
def insertSorted (m : String) : List String → List String
  | [] => [m]
  | x :: rest =>
    if m = x then x :: rest
    else if m < x then m :: x :: rest
    else x :: insertSorted m rest

theorem insertSorted_nil (m : String) : insertSorted m [] = [m] := rfl

theorem insertSorted_cons (m x : String) (rest : List String) :
    insertSorted m (x :: rest) =
      if m = x then x :: rest else if m < x then m :: x :: rest else x :: insertSorted m rest :=
  rfl

theorem mem_insertSorted (m x : String) (xs : List String) :
    x ∈ insertSorted m xs ↔ x = m ∨ x ∈ xs := by
  induction xs with
  | nil => simp [insertSorted_nil]
  | cons y rest ih =>
    rw [insertSorted_cons]
    by_cases h : m = y
    · subst h; simp
    · by_cases hl : m < y
      · simp [h, hl]
      · simp only [h, hl, if_false, List.mem_cons, ih]
        constructor
        · rintro (h1 | h1 | h1) <;> simp [h1]
        · rintro (h1 | h1 | h1) <;> simp [h1]

theorem ascending_insertSorted (m : String) {xs : List String} (h : xs.Pairwise (· < ·)) :
    (insertSorted m xs).Pairwise (· < ·) := by
  induction xs with
  | nil => exact List.pairwise_singleton _ _
  | cons x rest ih =>
    have ⟨hhead, hrest⟩ := List.pairwise_cons.1 h
    rw [insertSorted_cons]
    split
    · exact h
    · split
      · rename_i _ hlt
        refine List.pairwise_cons.2 ⟨?_, h⟩
        intro y hy
        rcases List.mem_cons.1 hy with rfl | hy
        · exact hlt
        · exact String.lt_trans hlt (hhead y hy)
      · rename_i hne hlt
        -- the new member goes after `x`, which is then below everything that follows it
        have hgt : x < m :=
          String.not_le.1 fun hle => hne (String.le_antisymm hle (String.not_lt.1 hlt))
        refine List.pairwise_cons.2 ⟨?_, ih hrest⟩
        intro y hy
        rcases (mem_insertSorted m y rest).1 hy with rfl | hy
        · exact hgt
        · exact hhead y hy

/-- Adds a member. -/
def insert (s : KeySet) (m : String) : KeySet :=
  ⟨insertSorted m s.members, ascending_insertSorted m s.ascending⟩

/-- Removes a member. -/
def erase (s : KeySet) (m : String) : KeySet := ⟨s.members.filter (· != m), s.ascending.filter _⟩

theorem members_insert (s : KeySet) (m : String) :
    (s.insert m).members = insertSorted m s.members := rfl

theorem members_erase (s : KeySet) (m : String) :
    (s.erase m).members = s.members.filter (· != m) := rfl

/-- Number of members. -/
def size (s : KeySet) : Nat := s.members.length

/-- The set has no members. -/
def isEmpty (s : KeySet) : Bool := s.members.isEmpty

/-- Builds a set from texts in any order, duplicates included. -/
def ofList (ms : List String) : KeySet := ms.foldl insert empty

theorem mem_insert (s : KeySet) (m x : String) :
    (s.insert m).contains x = true ↔ x = m ∨ s.contains x = true := by
  simp [contains_def, members_insert, mem_insertSorted]

theorem mem_erase (s : KeySet) (m x : String) :
    (s.erase m).contains x = true ↔ x ≠ m ∧ s.contains x = true := by
  simp [contains_def, members_erase, and_comm]

/-- Two sets with the same members are equal. -/
theorem ext_contains {s s' : KeySet} (h : ∀ x, s.contains x = s'.contains x) : s = s' := by
  obtain ⟨xs, hxs⟩ := s
  obtain ⟨ys, hys⟩ := s'
  have hmem : ∀ x, x ∈ xs ↔ x ∈ ys := fun x => by
    simpa [contains_def] using h x
  have heq : xs = ys := eq_of_pairwise_of_mem_iff (fun hab => String.lt_asymm hab) hxs hys hmem
  subst heq
  rfl

/-! ## Set laws -/

/-- Adding a member already present changes nothing. -/
theorem insert_of_contains {s : KeySet} {m : String} (h : s.contains m = true) :
    s.insert m = s := by
  apply ext_contains
  intro x
  apply Bool.eq_iff_iff.2
  rw [mem_insert]
  constructor
  · rintro (rfl | hx)
    · exact h
    · exact hx
  · exact .inr

/-- Removing an absent member changes nothing. -/
theorem erase_of_not_contains {s : KeySet} {m : String} (h : s.contains m = false) :
    s.erase m = s := by
  apply ext_contains
  intro x
  apply Bool.eq_iff_iff.2
  rw [mem_erase]
  constructor
  · exact And.right
  · intro hx
    refine ⟨?_, hx⟩
    rintro rfl
    rw [h] at hx
    exact Bool.false_ne_true hx

/-- Removing a member that was absent before an add undoes the add. -/
theorem erase_insert_of_not_contains {s : KeySet} {m : String} (h : s.contains m = false) :
    (s.insert m).erase m = s := by
  apply ext_contains
  intro x
  apply Bool.eq_iff_iff.2
  rw [mem_erase, mem_insert]
  constructor
  · rintro ⟨hne, rfl | hx⟩
    · exact absurd rfl hne
    · exact hx
  · intro hx
    refine ⟨?_, .inr hx⟩
    rintro rfl
    rw [h] at hx
    exact Bool.false_ne_true hx

/-- Adding back a member that was present undoes a removal. -/
theorem insert_erase_of_contains {s : KeySet} {m : String} (h : s.contains m = true) :
    (s.erase m).insert m = s := by
  apply ext_contains
  intro x
  apply Bool.eq_iff_iff.2
  rw [mem_insert, mem_erase]
  constructor
  · rintro (rfl | ⟨_, hx⟩)
    · exact h
    · exact hx
  · intro hx
    by_cases hxm : x = m
    · exact .inl hxm
    · exact .inr ⟨hxm, hx⟩

end KeySet

end CounterCache
