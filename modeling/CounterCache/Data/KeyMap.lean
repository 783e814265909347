/-!
# Maps keyed by text

`KeyMap α` holds its entries as a list in strictly ascending key order, and carries the proof
of that order. The list is the map's one form: two maps with the same lookups are the same value
(`ext_find?`), so equality of maps is equality of their contents, and iteration is in key order
(code-point order, which is also the bytewise order of the UTF-8 encodings).

Main statements: `find?_insert_self`, `find?_insert_ne`, `find?_erase_self` and
`find?_erase_ne` say what `insert` and `erase` do to lookups; with `ext_find?` they give the
map laws `insert_insert`, `insert_of_find?`, `erase_insert_of_find?_none`,
`insert_erase_of_find?` and `erase_of_find?_none`.
-/

namespace CounterCache

/-- Two lists ordered by the same strict order and holding the same elements are equal: the
order leaves each collection one listing. -/
theorem eq_of_pairwise_of_mem_iff {β : Type} {r : β → β → Prop}
    (asymm : ∀ {a b}, r a b → ¬ r b a) {l₁ l₂ : List β} (h₁ : l₁.Pairwise r)
    (h₂ : l₂.Pairwise r) (h : ∀ a, a ∈ l₁ ↔ a ∈ l₂) : l₁ = l₂ := by
  have hne : ∀ {a b}, r a b → a ≠ b := fun hab heq => asymm hab (heq ▸ hab)
  have hperm : l₁.Perm l₂ := (List.perm_ext_iff_of_nodup (h₁.imp hne) (h₂.imp hne)).2 h
  exact hperm.eq_of_pairwise (fun _ _ _ _ hab hba => absurd hba (asymm hab)) h₁ h₂

/-- Entries in strictly ascending key order. -/
def KeysAscend {α : Type} (es : List (String × α)) : Prop :=
  es.Pairwise fun a b => a.1 < b.1

/-- A finite map from text keys, as a list of entries in strictly ascending key order. -/
structure KeyMap (α : Type) where
  entries : List (String × α) := []
  ascending : KeysAscend entries := by exact List.Pairwise.nil
  deriving DecidableEq, Repr

namespace KeyMap

variable {α : Type}

/-- The map with no entries. -/
def empty : KeyMap α := {}

instance : Inhabited (KeyMap α) := ⟨empty⟩

/-- The value stored under a key in an entry list: the first entry with that key. -/
def lookup (k : String) : List (String × α) → Option α
  | [] => none
  | (k', v) :: rest => if k' = k then some v else lookup k rest

theorem lookup_nil (k : String) : lookup k ([] : List (String × α)) = none := rfl

theorem lookup_cons (k k' : String) (v : α) (rest : List (String × α)) :
    lookup k ((k', v) :: rest) = if k' = k then some v else lookup k rest := rfl

/-- The value stored under a key. -/
def find? (m : KeyMap α) (k : String) : Option α := lookup k m.entries

theorem find?_eq_lookup (m : KeyMap α) (k : String) : m.find? k = lookup k m.entries := rfl

/-- The key is present. -/
def contains (m : KeyMap α) (k : String) : Bool := (m.find? k).isSome

/-- Inserts an entry into a key-sorted list, replacing the entry of the same key. -/
def insertSorted (k : String) (v : α) : List (String × α) → List (String × α)
  | [] => [(k, v)]
  | (k', v') :: rest =>
    if k = k' then (k, v) :: rest
    else if k < k' then (k, v) :: (k', v') :: rest
    else (k', v') :: insertSorted k v rest

theorem insertSorted_nil (k : String) (v : α) : insertSorted k v [] = [(k, v)] := rfl

theorem insertSorted_cons (k k' : String) (v v' : α) (rest : List (String × α)) :
    insertSorted k v ((k', v') :: rest) =
      if k = k' then (k, v) :: rest
      else if k < k' then (k, v) :: (k', v') :: rest
      else (k', v') :: insertSorted k v rest := rfl

theorem mem_insertSorted {k : String} {v : α} {es : List (String × α)} {e : String × α}
    (h : e ∈ insertSorted k v es) : e = (k, v) ∨ e ∈ es := by
  induction es with
  | nil => simpa [insertSorted_nil] using h
  | cons x rest ih =>
    obtain ⟨k', v'⟩ := x
    rw [insertSorted_cons] at h
    split at h
    · rcases List.mem_cons.1 h with h | h
      · exact .inl h
      · exact .inr (List.mem_cons_of_mem _ h)
    · split at h
      · simpa using h
      · rcases List.mem_cons.1 h with h | h
        · exact .inr (h ▸ List.mem_cons_self)
        · rcases ih h with h | h
          · exact .inl h
          · exact .inr (List.mem_cons_of_mem _ h)

theorem keysAscend_insertSorted (k : String) (v : α) {es : List (String × α)}
    (h : KeysAscend es) : KeysAscend (insertSorted k v es) := by
  induction es with
  | nil => exact List.pairwise_singleton _ _
  | cons x rest ih =>
    obtain ⟨k', v'⟩ := x
    have ⟨hhead, hrest⟩ := List.pairwise_cons.1 h
    rw [insertSorted_cons]
    split
    · rename_i hk
      subst hk
      exact List.pairwise_cons.2 ⟨hhead, hrest⟩
    · split
      · rename_i _ hlt
        refine List.pairwise_cons.2 ⟨?_, h⟩
        intro y hy
        rcases List.mem_cons.1 hy with rfl | hy
        · exact hlt
        · exact String.lt_trans hlt (hhead y hy)
      · rename_i hne hlt
        -- the key goes after `k'`, which is then smaller than every entry of the new tail
        have hgt : k' < k :=
          String.not_le.1 fun hle => hne (String.le_antisymm hle (String.not_lt.1 hlt))
        refine List.pairwise_cons.2 ⟨?_, ih hrest⟩
        intro y hy
        rcases mem_insertSorted hy with rfl | hy
        · exact hgt
        · exact hhead y hy

/-- Stores a value under a key, replacing any value it had. -/
def insert (m : KeyMap α) (k : String) (v : α) : KeyMap α :=
  ⟨insertSorted k v m.entries, keysAscend_insertSorted k v m.ascending⟩

/-- Removes a key. -/
def erase (m : KeyMap α) (k : String) : KeyMap α :=
  ⟨m.entries.filter (·.1 != k), m.ascending.filter _⟩

theorem entries_insert (m : KeyMap α) (k : String) (v : α) :
    (m.insert k v).entries = insertSorted k v m.entries := rfl

theorem entries_erase (m : KeyMap α) (k : String) :
    (m.erase k).entries = m.entries.filter (·.1 != k) := rfl

/-- Number of entries. -/
def size (m : KeyMap α) : Nat := m.entries.length

/-- The map has no entries. -/
def isEmpty (m : KeyMap α) : Bool := m.entries.isEmpty

/-- Keys in ascending order. -/
def keys (m : KeyMap α) : List String := m.entries.map (·.1)

/-- Keeps the entries that satisfy a test. -/
def filter (m : KeyMap α) (p : String → α → Bool) : KeyMap α :=
  ⟨m.entries.filter fun e => p e.1 e.2, m.ascending.filter _⟩

/-- Builds a map from entries in any order; a later entry of a key wins. -/
def ofList (es : List (String × α)) : KeyMap α :=
  es.foldl (fun m e => m.insert e.1 e.2) empty

theorem lookup_insertSorted (k k2 : String) (v : α) (es : List (String × α)) :
    lookup k2 (insertSorted k v es) = if k = k2 then some v else lookup k2 es := by
  induction es with
  | nil => rw [insertSorted_nil, lookup_cons]
  | cons e rest ih =>
    obtain ⟨k', v'⟩ := e
    rw [insertSorted_cons]
    by_cases h : k = k'
    · subst h
      by_cases h2 : k = k2 <;> simp [lookup_cons, h2]
    · by_cases hl : k < k'
      · simp [h, hl, lookup_cons]
      · simp only [h, hl, if_false, lookup_cons, ih]
        by_cases h2 : k' = k2
        · subst h2; simp [h]
        · simp [h2]

theorem lookup_filter_ne (k k2 : String) (es : List (String × α)) :
    lookup k2 (es.filter (·.1 != k)) = if k = k2 then none else lookup k2 es := by
  induction es with
  | nil => simp [lookup_nil]
  | cons e rest ih =>
    obtain ⟨k', v'⟩ := e
    by_cases h : k' = k
    · subst h
      rw [List.filter_cons_of_neg (by simp), ih]
      by_cases h2 : k' = k2 <;> simp [lookup_cons, h2]
    · rw [List.filter_cons_of_pos (by simpa using h)]
      simp only [lookup_cons, ih]
      by_cases h2 : k' = k2
      · subst h2; simp [Ne.symm h]
      · simp [h2]

/-- In an ascending list an entry is present exactly when the lookup of its key finds its
value. -/
theorem mem_iff_lookup {es : List (String × α)} (h : KeysAscend es) (e : String × α) :
    e ∈ es ↔ lookup e.1 es = some e.2 := by
  induction es generalizing e with
  | nil => simp [lookup_nil]
  | cons x rest ih =>
    obtain ⟨k', v'⟩ := x
    have ⟨hhead, hrest⟩ := List.pairwise_cons.1 h
    simp only [List.mem_cons, lookup_cons, ih hrest]
    by_cases hk : k' = e.1
    · -- the head holds the key, so no later entry can
      have hnone : lookup e.1 rest = none := by
        cases hl : lookup e.1 rest with
        | none => rfl
        | some w =>
          have hmem := (ih hrest (e.1, w)).2 hl
          exact absurd (hk ▸ hhead _ hmem) (String.lt_irrefl _)
      obtain ⟨k, w⟩ := e
      simp only at hk hnone
      subst hk
      simp [hnone, eq_comm]
    · have hne : e ≠ (k', v') := fun he => hk (he ▸ rfl)
      simp [hk, hne]

/-- Two maps with the same lookups are equal. -/
theorem ext_find? {m m' : KeyMap α} (h : ∀ k, m.find? k = m'.find? k) : m = m' := by
  obtain ⟨es, hes⟩ := m
  obtain ⟨es', hes'⟩ := m'
  have hmem : ∀ e, e ∈ es ↔ e ∈ es' := fun e => by
    rw [mem_iff_lookup hes, mem_iff_lookup hes']
    exact iff_of_eq (congrArg (· = some e.2) (h e.1))
  have heq : es = es' := eq_of_pairwise_of_mem_iff (fun hab => String.lt_asymm hab) hes hes' hmem
  subst heq
  rfl

@[simp] theorem find?_insert_self (m : KeyMap α) (k : String) (v : α) :
    (m.insert k v).find? k = some v := by
  simp [find?_eq_lookup, entries_insert, lookup_insertSorted]

theorem find?_insert_ne (m : KeyMap α) (k k2 : String) (v : α) (hne : k ≠ k2) :
    (m.insert k v).find? k2 = m.find? k2 := by
  simp [find?_eq_lookup, entries_insert, lookup_insertSorted, hne]

@[simp] theorem find?_erase_self (m : KeyMap α) (k : String) : (m.erase k).find? k = none := by
  simp [find?_eq_lookup, entries_erase, lookup_filter_ne]

theorem find?_erase_ne (m : KeyMap α) (k k2 : String) (hne : k ≠ k2) :
    (m.erase k).find? k2 = m.find? k2 := by
  simp [find?_eq_lookup, entries_erase, lookup_filter_ne, hne]

/-! ## Map laws -/

/-- A second insert under a key overrides the first. -/
@[simp] theorem insert_insert (m : KeyMap α) (k : String) (v w : α) :
    (m.insert k v).insert k w = m.insert k w := by
  apply ext_find?
  intro k2
  by_cases hk : k = k2
  · subst hk
    simp
  · rw [find?_insert_ne _ _ _ _ hk, find?_insert_ne _ _ _ _ hk, find?_insert_ne _ _ _ _ hk]

/-- Inserting the value a key already has changes nothing. -/
theorem insert_of_find? {m : KeyMap α} {k : String} {v : α} (h : m.find? k = some v) :
    m.insert k v = m := by
  apply ext_find?
  intro k2
  by_cases hk : k = k2
  · subst hk
    rw [find?_insert_self, h]
  · exact find?_insert_ne _ _ _ _ hk

/-- Erasing an absent key changes nothing. -/
theorem erase_of_find?_none {m : KeyMap α} {k : String} (h : m.find? k = none) :
    m.erase k = m := by
  apply ext_find?
  intro k2
  by_cases hk : k = k2
  · subst hk
    rw [find?_erase_self, h]
  · exact find?_erase_ne _ _ _ hk

/-- Erasing a key that was absent before an insert undoes the insert. -/
theorem erase_insert_of_find?_none {m : KeyMap α} {k : String} (v : α)
    (h : m.find? k = none) : (m.insert k v).erase k = m := by
  apply ext_find?
  intro k2
  by_cases hk : k = k2
  · subst hk
    rw [find?_erase_self, h]
  · rw [find?_erase_ne _ _ _ hk, find?_insert_ne _ _ _ _ hk]

/-- Putting back the value a key had undoes an erase. -/
theorem insert_erase_of_find? {m : KeyMap α} {k : String} {v : α} (h : m.find? k = some v) :
    (m.erase k).insert k v = m := by
  apply ext_find?
  intro k2
  by_cases hk : k = k2
  · subst hk
    rw [find?_insert_self, h]
  · rw [find?_insert_ne _ _ _ _ hk, find?_erase_ne _ _ _ hk]

end KeyMap

end CounterCache
