import Mathlib
import CounterCache.Lua.Table

/-!
# Tables built as sequences

`Table.ofSeq vs` stores the values `vs` at the keys `1, 2, …` one after another into a new
table. Each store either fills the next free slot of the array part or, when the array part is
full, rehashes: the counts of integer keys by slice then ask for the least power of two that
holds them, and the array part grows to it. So a table built this way keeps every value in its
array part, sized to the least power of two at least as long as the sequence, with no hash part
(`Dense`), as long as the sequence fits the largest array part Lua allows, `2 ^ 31` values.

Main statements: `dense_ofSeq`, and what a dense table reads at each key (`Dense.reads_int`,
`Dense.reads_end`, `Dense.reads_str`); `reads_fieldTable` for the table of one text field.
-/

namespace CounterCache.Lua

namespace Value

@[simp] theorem isNil_nil : Value.nil.isNil = true := rfl

@[simp] theorem isNil_str (b : ByteArray) : (Value.str b).isNil = false := rfl

end Value

namespace Table

/-! ## Sizes of the array part -/

/-- The least power of two at least `n`, and zero for zero: the array part that holds the keys
`1 … n`. -/
def denseSize (n : Nat) : Nat := if n = 0 then 0 else 2 ^ ceilLog2 n

theorem ceilLog2_eq_iff {k s : Nat} (hk : 1 ≤ k) :
    ceilLog2 k = s ↔ 2 ^ s / 2 < k ∧ k ≤ 2 ^ s := by
  unfold ceilLog2
  split
  case isTrue h =>
    -- `k = 1`: only `s = 0` has `2 ^ s / 2 = 0`
    obtain rfl : k = 1 := by omega
    cases s with
    | zero => simp
    | succ s =>
      have : 1 ≤ 2 ^ s := Nat.one_le_two_pow
      simp only [Nat.pow_succ, Nat.mul_div_cancel _ (by decide : 0 < 2)]
      omega
  case isFalse h =>
    cases s with
    | zero => simp; omega
    | succ s =>
      simp only [Nat.pow_succ, Nat.mul_div_cancel _ (by decide : 0 < 2), Nat.add_right_cancel_iff,
        Nat.log2_eq_iff (by omega : k - 1 ≠ 0)]
      omega

theorem le_two_pow_ceilLog2 {n : Nat} (hn : 1 ≤ n) : 2 ^ ceilLog2 n / 2 < n ∧ n ≤ 2 ^ ceilLog2 n :=
  (ceilLog2_eq_iff hn).1 rfl

theorem ceilLog2_le {n : Nat} (hn : 1 ≤ n) (h : n ≤ 2 ^ maxArrayBits) : ceilLog2 n ≤ maxArrayBits := by
  have hc := le_two_pow_ceilLog2 hn
  by_contra hlt
  have : 2 ^ (maxArrayBits + 1) ≤ 2 ^ ceilLog2 n := Nat.pow_le_pow_right (by decide) (by omega)
  rw [Nat.pow_succ] at this
  omega

theorem le_denseSize (n : Nat) : n ≤ denseSize n := by
  unfold denseSize
  split
  · omega
  · exact (le_two_pow_ceilLog2 (by omega)).2

/-- Below a power of two, the next key keeps the array size. -/
theorem denseSize_succ_of_lt {n : Nat} (h : n < denseSize n) : denseSize (n + 1) = denseSize n := by
  unfold denseSize at h ⊢
  have hn : n ≠ 0 := by rintro rfl; simp at h
  have hc := le_two_pow_ceilLog2 (Nat.one_le_iff_ne_zero.2 hn)
  simp only [hn, if_false] at h ⊢
  rw [if_neg (by omega), (ceilLog2_eq_iff (k := n + 1) (s := ceilLog2 n) (by omega)).2 ⟨by omega, by omega⟩]

/-! ## Counting keys by slice -/

/-- How many of the keys `1 … n` fall in slice `s`, the keys `k` with `ceilLog2 k = s`. -/
def sliceCount (n s : Nat) : Nat := min n (2 ^ s) - min n (2 ^ s / 2)

/-- The counts by slice of the keys `1 … n`, as a rehash tallies them. -/
def slices (n : Nat) : Array Nat := Array.ofFn fun s : Fin (maxArrayBits + 1) => sliceCount n s

theorem sliceCount_succ (n s : Nat) :
    sliceCount (n + 1) s = sliceCount n s + if ceilLog2 (n + 1) = s then 1 else 0 := by
  have hhalf : 2 ^ s / 2 ≤ 2 ^ s := Nat.div_le_self _ _
  unfold sliceCount
  split
  case isTrue h =>
    have := (ceilLog2_eq_iff (by omega)).1 h
    omega
  case isFalse h =>
    rw [ceilLog2_eq_iff (by omega)] at h
    omega

theorem size_slices (n : Nat) : (slices n).size = maxArrayBits + 1 := Array.size_ofFn

theorem getElem_slices (n : Nat) {i : Nat} (hi : i < (slices n).size) :
    (slices n)[i] = sliceCount n i := by
  simp [slices]

theorem slices_zero : slices 0 = Array.replicate (maxArrayBits + 1) 0 := by
  ext i hi₁ hi₂
  · simp [size_slices]
  · simp [getElem_slices, sliceCount]

theorem slices_succ (n : Nat) : (slices n).modify (ceilLog2 (n + 1)) (· + 1) = slices (n + 1) := by
  ext i hi₁ hi₂
  · simp [size_slices]
  · simp only [Array.getElem_modify, getElem_slices, sliceCount_succ]
    split <;> simp_all

theorem getD_slices (n : Nat) {i : Nat} (hi : i ≤ maxArrayBits) : (slices n).getD i 0 = sliceCount n i := by
  have hi' : i < (slices n).size := by rw [size_slices]; omega
  rw [Array.getD_eq_getD_getElem?, Array.getElem?_eq_getElem hi', Option.getD_some, getElem_slices]

theorem countKey_slices {n : Nat} (hn : n + 1 ≤ 2 ^ maxArrayBits) :
    countKey (slices n) (n + 1) = (slices (n + 1), 1) := by
  have hk : ((n : Int) + 1).toNat = n + 1 := by omega
  have hpow : Int.pow 2 maxArrayBits = ((2 ^ maxArrayBits : Nat) : Int) := by simp [Int.pow_eq]
  simp only [countKey, hpow, hk, slices_succ]
  rw [if_pos (by omega)]

/-- Counting a sequence of values with no `nil` among them gives the slices of its keys. -/
theorem foldl_count_zipIdx (vs : List Value) (hvs : ∀ v ∈ vs, v.isNil = false)
    (hlen : vs.length ≤ 2 ^ maxArrayBits) :
    vs.zipIdx.foldl (fun (acc : Array Nat × Nat) (vi : Value × Nat) =>
        if vi.1.isNil then acc else (acc.1.modify (ceilLog2 (vi.2 + 1)) (· + 1), acc.2 + 1))
      (slices 0, 0) = (slices vs.length, vs.length) := by
  induction vs using List.reverseRecOn with
  | nil => rfl
  | append_singleton vs v ih =>
    have hv : v.isNil = false := hvs v (by simp)
    rw [List.zipIdx_append, List.foldl_append,
      ih (fun w hw => hvs w (by simp [hw])) (by simp at hlen; omega)]
    simp [hv, slices_succ]

theorem countArray_of_toList {t : Table} {vs : List Value} (h : t.array.toList = vs)
    (hvs : ∀ v ∈ vs, v.isNil = false) (hlen : vs.length ≤ 2 ^ maxArrayBits) :
    t.countArray (Array.replicate (maxArrayBits + 1) 0) = (slices vs.length, vs.length) := by
  rw [countArray, ← slices_zero, ← Array.foldl_toList, Array.toList_zipIdx, h]
  exact foldl_count_zipIdx vs hvs hlen

/-! ## The array size a rehash picks for the keys `1 … n` -/

/-- One round of the search for the array size: stop past the last slice or once the keys fit
half the candidate, else count slice `i` in and double the candidate. -/
theorem arraySize_go_succ (nums : Array Nat) (count i a na opt fuel : Nat) :
    arraySize.go nums count i a na opt (fuel + 1) =
      if i > maxArrayBits ∨ count ≤ Nat.pow 2 i / 2 then (opt, na)
      else if a + nums.getD i 0 > Nat.pow 2 i / 2 then
        arraySize.go nums count (i + 1) (a + nums.getD i 0) (a + nums.getD i 0) (Nat.pow 2 i) fuel
      else arraySize.go nums count (i + 1) (a + nums.getD i 0) na opt fuel := rfl

section ArraySize

variable {n : Nat} (hn : 1 ≤ n) (hmax : n ≤ 2 ^ maxArrayBits)
include hn hmax

/-- Below the slice of `n`, each slice is more than half used: the candidate size doubles. -/
theorem go_slices_step {i : Nat} (hi : i ≤ ceilLog2 n) (na opt fuel : Nat) :
    arraySize.go (slices n) n i (min n (2 ^ i / 2)) na opt (fuel + 1) =
      arraySize.go (slices n) n (i + 1) (min n (2 ^ i)) (min n (2 ^ i)) (2 ^ i) fuel := by
  have hc := le_two_pow_ceilLog2 hn
  have hcmax := ceilLog2_le hn hmax
  have hle : 2 ^ i / 2 ≤ 2 ^ ceilLog2 n / 2 :=
    Nat.div_le_div_right (Nat.pow_le_pow_right (by decide) hi)
  have hlt : 2 ^ i / 2 < 2 ^ i := Nat.div_lt_self (Nat.two_pow_pos i) (by decide)
  have hsum : min n (2 ^ i / 2) + sliceCount n i = min n (2 ^ i) := by
    unfold sliceCount
    omega
  rw [arraySize_go_succ, Nat.pow_eq, if_neg (by omega), getD_slices n (by omega), hsum,
    if_pos (by omega)]

omit hmax in
/-- Past the slice of `n`, no key is left to count. -/
theorem go_slices_last (a na opt fuel : Nat) :
    arraySize.go (slices n) n (ceilLog2 n + 1) a na opt (fuel + 1) = (opt, na) := by
  have hc := le_two_pow_ceilLog2 hn
  have hhalf : 2 ^ (ceilLog2 n + 1) / 2 = 2 ^ ceilLog2 n := by
    rw [Nat.pow_succ, Nat.mul_div_cancel _ (by decide)]
  rw [arraySize_go_succ, Nat.pow_eq, hhalf, if_pos (by omega)]

theorem go_slices (j : Nat) :
    ∀ i, i + j = ceilLog2 n → ∀ na opt extra,
      arraySize.go (slices n) n i (min n (2 ^ i / 2)) na opt (j + 2 + extra) =
        (2 ^ ceilLog2 n, n) := by
  have hc := le_two_pow_ceilLog2 hn
  induction j with
  | zero =>
    intro i hi na opt extra
    rw [Nat.add_zero] at hi
    subst hi
    rw [show 0 + 2 + extra = (extra + 1) + 1 by omega, go_slices_step hn hmax le_rfl,
      go_slices_last hn, Nat.min_eq_left hc.2]
  | succ j ih =>
    intro i hi na opt extra
    have hhalf : 2 ^ (i + 1) / 2 = 2 ^ i := by rw [Nat.pow_succ, Nat.mul_div_cancel _ (by decide)]
    rw [show j + 1 + 2 + extra = (j + 2 + extra) + 1 by omega, go_slices_step hn hmax (by omega),
      ← hhalf, ih (i + 1) (by omega)]

/-- For the keys `1 … n`, a rehash picks the least power of two at least `n`, all of them in the
array part. -/
theorem arraySize_slices : arraySize (slices n) n = (denseSize n, n) := by
  have hcmax := ceilLog2_le hn hmax
  have h := go_slices hn hmax (ceilLog2 n) 0 (by omega) 0 0 (maxArrayBits - ceilLog2 n)
  rw [show ceilLog2 n + 2 + (maxArrayBits - ceilLog2 n) = maxArrayBits + 2 by omega] at h
  unfold arraySize denseSize
  simpa [show n ≠ 0 by omega] using h

end ArraySize

/-! ## Reading a key -/

/-- Reading key `k` of `t` gives `x`, and the read leaves the length hint where it is. -/
def Reads (t : Table) (k x : Value) : Prop := t.get k = x ∧ (t.place k).2 = none

theorem place_int_eq (t : Table) (i : Int) : t.place (.int i) = t.placeInt i := rfl

theorem place_str_eq (t : Table) (b : ByteArray) :
    t.place (.str b) = match t.findNode (.str b) with
      | some i => (.node i, none)
      | none => (.absent, none) := rfl

theorem valueAt_array (t : Table) (i : Nat) : t.valueAt (.array i) = t.array.getD i .nil := rfl

/-- An integer key up to the length hint lives in the array part. -/
theorem place_int_of_le_limit {t : Table} {k : Int} (hk₁ : 1 ≤ k) (hk₂ : k ≤ t.limit) :
    t.place (.int k) = (.array (k - 1).toNat, none) := by
  rw [place_int_eq]
  unfold placeInt
  rw [if_pos ⟨hk₁, hk₂⟩]

/-! ## Storing a key -/

theorem set_eq_rawSet (t : Table) (k v : Value) : t.set k v = rawSet 16 t k v := rfl

/-- A store at an integer key up to the length hint overwrites its slot of the array part. -/
theorem rawSet_int_of_le_limit {t : Table} {k : Int} (hk₁ : 1 ≤ k) (hk₂ : k ≤ t.limit)
    (fuel : Nat) (v : Value) :
    rawSet fuel t (.int k) v = { t with array := t.array.set! (k - 1).toNat v } := by
  rw [rawSet.eq_1, place_int_of_le_limit hk₁ hk₂]
  rfl

/-- A store at a key the table does not hold inserts it. -/
theorem rawSet_of_absent {t : Table} {k : Value} (hp : t.place k = (.absent, none)) (fuel : Nat)
    (v : Value) : rawSet fuel t k v = newKey fuel t k v := by
  rw [rawSet.eq_1, hp]
  rfl

/-- A table with no hash part takes a new key only after a rehash. -/
theorem newKey_of_nodes_empty {t : Table} {v : Value} (hv : v.isNil = false)
    (hn : t.nodes.size = 0) (fuel : Nat) (k : Value) :
    newKey (fuel + 1) t k v = rawSet fuel (rehash fuel t k) k v := by
  rw [newKey.eq_2]
  simp only [hv, hn, Bool.false_eq_true, ↓reduceIte]

/-! ## Dense tables -/

/-- A table holding `vs` at the keys `1 … vs.length` in its array part, filled up with `nil` to
`denseSize`, with no hash part and no metatable, its length hint at the end of the array part. -/
structure Dense (t : Table) (vs : List Value) : Prop where
  array_eq : t.array.toList = vs ++ List.replicate (denseSize vs.length - vs.length) .nil
  limit_eq : t.limit = t.array.size
  limitIsSize_eq : t.limitIsSize = true
  nodes_eq : t.nodes = #[]
  metatable_eq : t.metatable = none

theorem dense_empty : Dense {} [] where
  array_eq := by simp [denseSize]
  limit_eq := rfl
  limitIsSize_eq := rfl
  nodes_eq := rfl
  metatable_eq := rfl

namespace Dense

variable {t : Table} {vs : List Value}

theorem size_eq (h : Dense t vs) : t.array.size = denseSize vs.length := by
  rw [← Array.length_toList, h.array_eq]
  have := le_denseSize vs.length
  simp only [List.length_append, List.length_replicate]
  omega

theorem settleLimit_eq (h : Dense t vs) : t.settleLimit = t := by
  unfold settleLimit
  rw [← h.limit_eq, ← h.limitIsSize_eq]

theorem findNode_eq (h : Dense t vs) (k : Value) : t.findNode k = none := by
  unfold findNode
  simp [h.nodes_eq]

theorem place_int_of_le (h : Dense t vs) {k : Int} (hk₁ : 1 ≤ k) (hk₂ : k ≤ denseSize vs.length) :
    t.place (.int k) = (.array (k - 1).toNat, none) :=
  place_int_of_le_limit hk₁ (by rw [h.limit_eq, h.size_eq]; exact hk₂)

theorem place_int_of_lt (h : Dense t vs) {k : Int} (hk : denseSize vs.length < k) :
    t.place (.int k) = (.absent, none) := by
  rw [place_int_eq]
  unfold placeInt
  rw [h.limit_eq, h.size_eq, h.limitIsSize_eq, h.findNode_eq, if_neg (by omega), if_neg (by simp)]

theorem place_str (h : Dense t vs) (b : ByteArray) : t.place (.str b) = (.absent, none) := by
  rw [place_str_eq, h.findNode_eq]

theorem set_length_append_replicate (vs : List Value) (v : Value) (k : Nat) :
    (vs ++ List.replicate (k + 1) Value.nil).set vs.length v =
      vs ++ [v] ++ List.replicate k Value.nil := by
  rw [List.set_append_right _ _ le_rfl, Nat.sub_self, List.replicate_succ, List.set_cons_zero,
    List.append_assoc, List.singleton_append]

/-- Growing the array part of a dense table with no entry for the hash part pads it with `nil`. -/
theorem resize_grow (h : Dense t vs) {size : Nat} (hsize : t.array.size ≤ size) (fuel : Nat) :
    resize (fuel + 1) t size 0 =
      { t with array := t.array ++ Array.replicate (size - t.array.size) .nil, limit := size,
               lastFree := 0 } := by
  rw [resize.eq_2]
  unfold freshNodes
  simp only [h.settleLimit_eq, ↓reduceIte, Array.size_empty, h.nodes_eq,
    if_neg (Nat.not_lt.2 hsize), h.limitIsSize_eq]
  rfl

theorem set_of_lt (h : Dense t vs) (hroom : vs.length < denseSize vs.length) (v : Value) :
    Dense (t.set (.int (vs.length + 1)) v) (vs ++ [v]) := by
  rw [set_eq_rawSet,
    rawSet_int_of_le_limit (by omega) (by rw [h.limit_eq, h.size_eq]; omega)]
  obtain ⟨k, hk⟩ : ∃ k, denseSize vs.length - vs.length = k + 1 := ⟨_, (Nat.succ_pred_eq_of_pos
    (by omega)).symm⟩
  refine ⟨?_, ?_, h.limitIsSize_eq, h.nodes_eq, h.metatable_eq⟩
  · simp only [Array.toList_set!, h.array_eq, hk, List.length_append, List.length_singleton,
      denseSize_succ_of_lt hroom]
    rw [show ((vs.length : Int) + 1 - 1).toNat = vs.length by omega,
      show denseSize vs.length - (vs.length + 1) = k by omega, set_length_append_replicate]
  · simp [h.limit_eq]

theorem set_of_full (h : Dense t vs) (hfull : vs.length = denseSize vs.length)
    (hvs : ∀ w ∈ vs, w.isNil = false) (hmax : vs.length < 2 ^ maxArrayBits) {v : Value}
    (hv : v.isNil = false) :
    Dense (t.set (.int (vs.length + 1)) v) (vs ++ [v]) := by
  have hp := h.place_int_of_lt (k := vs.length + 1) (by omega)
  rw [set_eq_rawSet, rawSet_of_absent hp, newKey_of_nodes_empty hv (by simp [h.nodes_eq])]
  have harr : t.array.toList = vs := by
    rw [h.array_eq, ← hfull, Nat.sub_self, List.replicate_zero, List.append_nil]
  have hr : rehash 15 t (.int (vs.length + 1)) = resize 15 t (denseSize (vs.length + 1)) 0 := by
    have hhash : t.countHash (slices vs.length) = (slices vs.length, 0, 0) := by
      simp [countHash, h.nodes_eq]
    rw [rehash.eq_1, h.settleLimit_eq, countArray_of_toList harr hvs hmax.le]
    simp only [hhash, countKey_slices hmax, Nat.add_zero, arraySize_slices (n := vs.length + 1) (by omega) hmax,
      Nat.sub_self]
  have hD := le_denseSize (vs.length + 1)
  rw [hr, resize_grow h (by rw [h.size_eq]; omega),
    rawSet_int_of_le_limit (by omega) (by dsimp only; omega),
    show ((vs.length : Int) + 1 - 1).toNat = vs.length by omega]
  obtain ⟨k, hk⟩ : ∃ k, denseSize (vs.length + 1) - vs.length = k + 1 := ⟨_, (Nat.succ_pred_eq_of_pos
    (by omega)).symm⟩
  refine ⟨?_, ?_, h.limitIsSize_eq, h.nodes_eq, h.metatable_eq⟩
  · rw [Array.toList_set!, Array.toList_append, harr, Array.toList_replicate, h.size_eq, ← hfull, hk,
      set_length_append_replicate, List.length_append, List.length_singleton]
    congr 2
    omega
  · simp only [Array.size_set!, Array.size_append, Array.size_replicate, h.size_eq]
    omega

/-- Storing a value that is not `nil` at the key after the sequence of a dense table keeps it
dense, while the sequence fits the largest array part. -/
theorem set_next (h : Dense t vs) (hvs : ∀ w ∈ vs, w.isNil = false)
    (hmax : vs.length < 2 ^ maxArrayBits) {v : Value} (hv : v.isNil = false) :
    Dense (t.set (.int (vs.length + 1)) v) (vs ++ [v]) := by
  rcases (le_denseSize vs.length).lt_or_eq with hroom | hfull
  · exact h.set_of_lt hroom v
  · exact h.set_of_full hfull hvs hmax hv

theorem getD_array (h : Dense t vs) (i : Nat) :
    t.array.getD i .nil = vs.getD i .nil := by
  rw [Array.getD_eq_getD_getElem?, ← Array.getElem?_toList, h.array_eq, List.getD_eq_getElem?_getD]
  rcases Nat.lt_or_ge i vs.length with hi | hi
  · rw [List.getElem?_append_left hi]
  · rw [List.getElem?_append_right hi, List.getElem?_eq_none hi, List.getElem?_replicate]
    split <;> rfl

theorem reads_int (h : Dense t vs) {i : Nat} (hi : i < vs.length) :
    t.Reads (.int (i + 1)) vs[i] := by
  have hp := h.place_int_of_le (k := i + 1) (by omega) (by have := le_denseSize vs.length; omega)
  rw [show ((i : Int) + 1 - 1).toNat = i by omega] at hp
  refine ⟨?_, by rw [hp]⟩
  unfold get
  rw [hp, valueAt_array, h.getD_array, List.getD_eq_getElem _ _ hi]

theorem reads_end (h : Dense t vs) : t.Reads (.int (vs.length + 1)) .nil := by
  rcases Nat.lt_or_ge vs.length (denseSize vs.length) with hroom | hfull
  · have hp := h.place_int_of_le (k := vs.length + 1) (by omega) (by omega)
    rw [show ((vs.length : Int) + 1 - 1).toNat = vs.length by omega] at hp
    refine ⟨?_, by rw [hp]⟩
    unfold get
    rw [hp, valueAt_array, h.getD_array, List.getD_eq_default _ _ le_rfl]
  · have hp := h.place_int_of_lt (k := vs.length + 1) (by omega)
    exact ⟨by unfold get; rw [hp]; rfl, by rw [hp]⟩

theorem reads_str (h : Dense t vs) (b : ByteArray) : t.Reads (.str b) .nil := by
  have hp := h.place_str b
  exact ⟨by unfold get; rw [hp]; rfl, by rw [hp]⟩

theorem length_le_slots (h : Dense t vs) : vs.length ≤ t.array.size + t.nodes.size := by
  have := le_denseSize vs.length
  rw [h.size_eq]
  omega

end Dense

/-! ## A table of one field -/

theorem mainPosition_one_str (b : ByteArray) : mainPosition 1 (.str b) = 0 := Nat.mod_one _

/-- A hash part of one node holds a string key at that node or nowhere. -/
theorem findNode_single_str (key val : Value) (lf : Nat) (b : ByteArray) :
    ({ nodes := #[{ key, val }], lastFree := lf } : Table).findNode (.str b) =
      if !key.isNil && key.rawEq (.str b) then some 0 else none := by
  unfold findNode
  simp only [List.size_toArray, List.length_singleton, mainPosition_one_str]
  rfl

/-- A new table given one field keyed by a string holds it in a hash part of one node. -/
theorem set_str_empty (b : ByteArray) {v : Value} (hv : v.isNil = false) :
    ({} : Table).set (.str b) v = { nodes := #[{ key := .str b, val := v }], lastFree := 1 } := by
  have hp : ({} : Table).place (.str b) = (.absent, none) := by
    rw [place_str_eq]
    rfl
  -- with no entry to count, the rehash asks for no array part and one node
  have hr : rehash 15 {} (.str b) = resize 15 {} 0 1 := by
    rw [rehash.eq_1]
    rfl
  have hp1 : ({ nodes := #[{}], lastFree := 1 } : Table).place (.str b) = (.absent, none) := by
    rw [place_str_eq, findNode_single_str]
    rfl
  rw [set_eq_rawSet, rawSet_of_absent hp, newKey_of_nodes_empty hv rfl, hr, resize.eq_2]
  unfold settleLimit freshNodes
  simp [ceilLog2]
  rw [rawSet_of_absent hp1, newKey.eq_2]
  simp [hv, mainPosition_one_str]

/-- Reading a string key of a table of one field keyed by a string. -/
theorem reads_single (b b' : ByteArray) (v : Value) :
    ({ nodes := #[{ key := .str b, val := v }], lastFree := 1 } : Table).Reads (.str b')
      (if (Value.str b).rawEq (.str b') then v else .nil) := by
  have hp : ({ nodes := #[{ key := .str b, val := v }], lastFree := 1 } : Table).place (.str b') =
      (if (Value.str b).rawEq (.str b') then .node 0 else .absent, none) := by
    rw [place_str_eq, findNode_single_str]
    by_cases h : (Value.str b).rawEq (.str b') <;> simp [h]
  refine ⟨?_, by rw [hp]⟩
  unfold get
  rw [hp]
  split <;> rfl

theorem ofSeq_append_singleton (vs : List Value) (v : Value) :
    ofSeq (vs ++ [v]) = (ofSeq vs).set (.int (vs.length + 1)) v := by
  simp [ofSeq, List.zipIdx_append]

/-- A sequence of values that are not `nil`, no longer than the largest array part, makes a
dense table. -/
theorem dense_ofSeq (vs : List Value) (hvs : ∀ v ∈ vs, v.isNil = false)
    (hmax : vs.length ≤ 2 ^ maxArrayBits) : Dense (ofSeq vs) vs := by
  induction vs using List.reverseRecOn with
  | nil => exact dense_empty
  | append_singleton vs v ih =>
    have hvs' : ∀ w ∈ vs, w.isNil = false := fun w hw => hvs w (by simp [hw])
    have hlen : vs.length < 2 ^ maxArrayBits := by simp at hmax; omega
    rw [ofSeq_append_singleton]
    exact (ih hvs' hlen.le).set_next hvs' hlen (hvs v (by simp))

end Table

end CounterCache.Lua
