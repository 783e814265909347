import Mathlib
import CounterCache.Proofs.Utf8
import CounterCache.Store.Batch.Codec
import CounterCache.Store.Keyspace
import CounterCache.Text.Decimal

/-!
# Batches read back as written

A batch is persisted in the fixed-width binary layout and read back by `WriteBatch.decode`. This
module proves the round trip: every batch whose numbers fit their fields is read back exactly,
and a snapshot of a keyspace, read back and restored into an empty keyspace, gives the keyspace's
live entries.

The laws are stated with `Reads r bs a`: the reader `r` takes `a` off the front of `bs` and
leaves whatever followed. Readers are built with `bind`, so their laws are built with
`Reads.bind` from the laws of the primitive readers, one field at a time. The containers need one
more step: a hash, sorted set or set is read as its listing and rebuilt by repeated insertion,
which gives back the container because the listing is the container's own ordered one
(`KeyMap.ofList_entries`, `SortedSet.ofList_toList`, `KeySet.ofList_members`).

A number is written in a field of fixed width, so only numbers that fit are read back: text
lengths, element counts, times and deadlines below `2 ^ 64`, scores in the signed 64-bit range.
The predicates `Fits` say so for each kind of data.

Main statements: `WriteBatch.decode_encode`, `Keyspace.applyBatch_snapshot` and
`snapshot_round_trip`.
-/

namespace CounterCache

namespace Binary

/-- `r` takes `a` off the front of `bs`, whatever bytes follow. -/
def Reads {α : Type} (r : Reader α) (bs : List UInt8) (a : α) : Prop :=
  ∀ rest, r.run (bs ++ rest) = .ok (a, rest)

namespace Reads

variable {α β : Type}

theorem pure (a : α) : Reads (Pure.pure a : Reader α) [] a := fun _ => rfl

/-- A reader followed by its continuation reads the two encodings one after the other. -/
theorem bind {r : Reader α} {k : α → Reader β} {bs bs' cs : List UInt8} {a : α} {b : β}
    (h : Reads r bs a) (hk : Reads (k a) bs' b) (hcs : cs = bs ++ bs') :
    Reads (r >>= k) cs b := by
  intro rest
  rw [hcs, List.append_assoc, StateT.run_bind, h (bs' ++ rest)]
  exact hk rest

theorem map {r : Reader α} {f : α → β} {bs : List UInt8} {a : α} (h : Reads r bs a) :
    Reads (f <$> r) bs (f a) := by
  intro rest
  rw [StateT.run_map, h rest]
  rfl

end Reads

/-! ## Fields -/

theorem take_reads (bs : List UInt8) : Reads (take bs.length) bs bs := take_append bs

theorem readLe_reads {w n : Nat} (h : n < 256 ^ w) : Reads (readLe w) (le w n) n :=
  fun rest => readLe_le w n rest (by rw [Nat.pow_eq]; exact h)

theorem readU8_reads {n : Nat} (h : n < 256) : Reads readU8 (le 1 n) n :=
  readLe_reads (by simpa using h)

theorem readU32_reads {n : Nat} (h : n < 2 ^ 32) : Reads readU32 (u32 n) n :=
  readLe_reads (by norm_num at h ⊢; exact h)

theorem readU64_reads {n : Nat} (h : n < 2 ^ 64) : Reads readU64 (u64 n) n :=
  readLe_reads (by norm_num at h ⊢; exact h)

/-- Eight bytes of two's complement read back as the signed number written. -/
theorem readI64_reads {z : Int} (h : Text.InI64 z) : Reads readI64 (i64 z) z := by
  have h64 : Int.pow 2 64 = 18446744073709551616 := rfl
  have h63 : Nat.pow 2 63 = 9223372036854775808 := rfl
  simp only [Text.InI64, Text.i64Min, Text.i64Max] at h
  have hlt : (z % Int.pow 2 64).toNat < 256 ^ 8 := by rw [h64]; omega
  -- the residue is the number itself when `z ≥ 0` and `z + 2 ^ 64` otherwise
  have hval : (if (z % Int.pow 2 64).toNat < Nat.pow 2 63 then ((z % Int.pow 2 64).toNat : Int)
      else ((z % Int.pow 2 64).toNat : Int) - Int.pow 2 64) = z := by
    rw [h64, h63]; split <;> omega
  unfold readI64 i64
  refine Reads.bind (readLe_reads hlt) ?_ (List.append_nil _).symm
  rw [hval]
  exact Reads.pure z

/-- Text whose UTF-8 length fits the eight-byte length field. -/
def TextFits (s : String) : Prop := s.utf8ByteSize < 2 ^ 64

instance (s : String) : Decidable (TextFits s) := inferInstanceAs (Decidable (_ < _))

theorem readText_reads {s : String} (h : TextFits s) : Reads readText (text s) s := by
  unfold readText
  have hlen := Text.length_toUTF8_toList s
  refine Reads.bind (readU64_reads h) ?_ rfl
  rw [← hlen]
  refine Reads.bind (take_reads _) ?_ (List.append_nil _).symm
  rw [Text.decodeUtf8_toUTF8]
  exact Reads.pure s

theorem readTag_reads {t count : Nat} (ht : t < count) (hc : count ≤ 2 ^ 32) :
    Reads (readTag count) (u32 t) t := by
  unfold readTag
  refine Reads.bind (readU32_reads (by omega)) ?_ (List.append_nil _).symm
  rw [if_pos ht]
  exact Reads.pure t

/-! ## Sequences and options -/

section Sequences

variable {α : Type} {elem : Reader α} {f : α → List UInt8}

theorem readMany_reads (xs : List α) (hx : ∀ x ∈ xs, Reads elem (f x) x) (acc : List α) :
    Reads (readMany elem acc xs.length) (xs.map f).flatten (acc.reverse ++ xs) := by
  induction xs generalizing acc with
  | nil => simpa [readMany] using Reads.pure acc.reverse
  | cons x xs ih =>
    have hrest := ih (fun y hy => hx y (List.mem_cons_of_mem x hy)) (x :: acc)
    rw [List.reverse_cons, List.append_assoc, List.singleton_append] at hrest
    exact Reads.bind (hx x List.mem_cons_self) hrest (by simp)

theorem readSeq_reads {xs : List α} (hlen : xs.length < 2 ^ 64)
    (hx : ∀ x ∈ xs, Reads elem (f x) x) : Reads (readSeq elem) (seq f xs) xs :=
  Reads.bind (readU64_reads hlen) (by simpa using readMany_reads xs hx []) rfl

theorem readOption_reads {o : Option α} (ho : ∀ a ∈ o, Reads elem (f a) a) :
    Reads (readOption elem) (option f o) o := by
  cases o with
  | none => exact Reads.bind (readU8_reads (n := 0) (by decide)) (Reads.pure none) rfl
  | some a => exact Reads.bind (readU8_reads (n := 1) (by decide)) (ho a rfl).map rfl

end Sequences

theorem readOption_u64_reads {o : Option Nat} (ho : ∀ d ∈ o, d < 2 ^ 64) :
    Reads (readOption readU64) (option u64 o) o :=
  readOption_reads fun d hd => readU64_reads (ho d hd)

end Binary

open Binary

/-! ## Containers rebuilt from their listings -/

namespace KeyMap

variable {α : Type}

/-- A key at the head of an ascending list appears nowhere after it. -/
theorem lookup_head_tail {k : String} {v : α} {rest : List (String × α)}
    (h : KeysAscend ((k, v) :: rest)) : lookup k rest = none := by
  have ⟨hhead, hrest⟩ := List.pairwise_cons.1 h
  cases hl : lookup k rest with
  | none => rfl
  | some w =>
    have hmem := (mem_iff_lookup hrest (k, w)).2 hl
    exact absurd (hhead _ hmem) (String.lt_irrefl _)

/-- Inserting the entries of an ascending list in turn gives each key the list's value if it has
one, and the starting map's otherwise. -/
theorem find?_foldl_insert {es : List (String × α)} (h : KeysAscend es) (m : KeyMap α)
    (k : String) :
    (es.foldl (fun m e => m.insert e.1 e.2) m).find? k = (lookup k es).or (m.find? k) := by
  induction es generalizing m with
  | nil => simp [lookup]
  | cons e rest ih =>
    obtain ⟨k', v'⟩ := e
    rw [List.foldl_cons, ih (List.pairwise_cons.1 h).2]
    by_cases hk : k' = k
    · subst hk
      simp [lookup, lookup_head_tail h]
    · simp [lookup, hk, find?_insert_ne _ _ _ _ hk]

/-- A map rebuilt from its own entries is the map. -/
theorem ofList_entries (m : KeyMap α) : ofList m.entries = m := by
  apply ext_find?
  intro k
  rw [ofList, find?_foldl_insert m.ascending]
  simp [empty, find?, lookup]

end KeyMap

namespace SortedSet

/-- A member at the head of an ordered list appears nowhere after it. -/
theorem scoreIn_head_tail {m : String} {s : Int} {rest : List Scored}
    (h : Ordered ((m, s) :: rest)) : scoreIn m rest = none := by
  have ⟨hhead, hrest⟩ := List.pairwise_cons.1 h
  cases hl : scoreIn m rest with
  | none => rfl
  | some w =>
    have hmem := (mem_iff_scoreIn hrest (m, w)).2 hl
    exact absurd rfl (hhead _ hmem).2

theorem score?_foldl_insert {es : List Scored} (h : Ordered es) (z : SortedSet) (m : String) :
    (es.foldl (fun z p => z.insert p.1 p.2) z).score? m = (scoreIn m es).or (z.score? m) := by
  induction es generalizing z with
  | nil => simp [scoreIn]
  | cons e rest ih =>
    obtain ⟨m', s'⟩ := e
    rw [List.foldl_cons, ih (List.pairwise_cons.1 h).2]
    by_cases hm : m' = m
    · subst hm
      simp [scoreIn, scoreIn_head_tail h]
    · simp [scoreIn, hm, score?_insert_ne _ _ hm]

/-- A sorted set rebuilt from its own ordered pairs is the set. -/
theorem ofList_toList (z : SortedSet) : ofList z.toList = z := by
  apply ext_score?
  intro m
  rw [ofList, toList, score?_foldl_insert z.ordered]
  simp [empty, score?, scoreIn]

end SortedSet

namespace KeySet

theorem contains_foldl_insert (ms : List String) (s : KeySet) (x : String) :
    (ms.foldl insert s).contains x = (ms.contains x || s.contains x) := by
  induction ms generalizing s with
  | nil => simp
  | cons m rest ih =>
    rw [List.foldl_cons, ih]
    by_cases hx : x = m
    · subst hx
      simp [(mem_insert s x x).2 (.inl rfl)]
    · have hkeep : (s.insert m).contains x = s.contains x := by
        apply Bool.eq_iff_iff.2
        rw [mem_insert]
        simp [hx]
      simp [hkeep, hx]

/-- A set rebuilt from its own members is the set. -/
theorem ofList_members (s : KeySet) : ofList s.members = s := by
  apply ext_contains
  intro x
  rw [ofList, contains_foldl_insert]
  simp [empty, contains]

end KeySet

/-! ## What fits the layout -/

namespace Value

/-- Every number of the value fits its field: text lengths and element counts in eight bytes,
scores in the signed 64-bit range. -/
def Fits : Value → Prop
  | .str s => TextFits s
  | .hash h => h.size < 2 ^ 64 ∧ ∀ e ∈ h.entries, TextFits e.1 ∧ TextFits e.2
  | .zset z => z.card < 2 ^ 64 ∧ ∀ e ∈ z.toList, TextFits e.1 ∧ Text.InI64 e.2
  | .set s => s.size < 2 ^ 64 ∧ ∀ m ∈ s.members, TextFits m

instance : DecidablePred Fits
  | .str s => inferInstanceAs (Decidable (TextFits s))
  | .hash _ => inferInstanceAs (Decidable (_ ∧ _))
  | .zset _ => inferInstanceAs (Decidable (_ ∧ _))
  | .set _ => inferInstanceAs (Decidable (_ ∧ _))

end Value

namespace Entry

/-- The value fits and the deadline, if any, fits eight bytes. -/
def Fits (e : Entry) : Prop := e.value.Fits ∧ ∀ d ∈ e.expiresAt, d < 2 ^ 64

instance : DecidablePred Fits := fun _ => inferInstanceAs (Decidable (_ ∧ _))

end Entry

namespace WriteOp

/-- Every text, score, deadline and entry of the operation fits its field. -/
def Fits : WriteOp → Prop
  | .set k v => TextFits k ∧ TextFits v
  | .hset k f v => TextFits k ∧ TextFits f ∧ TextFits v
  | .hdel k f | .zrem k f | .sadd k f | .srem k f => TextFits k ∧ TextFits f
  | .zset k m s => TextFits k ∧ TextFits m ∧ Text.InI64 s
  | .delete k => TextFits k
  | .expireAt k d => TextFits k ∧ ∀ t ∈ d, t < 2 ^ 64
  | .restore k e => TextFits k ∧ e.Fits

instance : DecidablePred Fits
  | .set .. | .hset .. | .hdel .. | .zrem .. | .sadd .. | .srem .. | .zset .. | .expireAt ..
  | .restore .. => inferInstanceAs (Decidable (_ ∧ _))
  | .delete k => inferInstanceAs (Decidable (TextFits k))

end WriteOp

namespace WriteBatch

/-- The time, the number of operations and every operation fit their fields. -/
def Fits (b : WriteBatch) : Prop :=
  b.timestamp < 2 ^ 64 ∧ b.ops.length < 2 ^ 64 ∧ ∀ op ∈ b.ops, op.Fits

instance : DecidablePred Fits := fun _ => inferInstanceAs (Decidable (_ ∧ _))

end WriteBatch

namespace Keyspace

/-- Every key and stored entry fits the layout, and so does the number of keys. -/
def Fits (ks : Keyspace) : Prop :=
  ks.size < 2 ^ 64 ∧ ∀ e ∈ ks.entries.entries, TextFits e.1 ∧ e.2.Fits

instance : DecidablePred Fits := fun _ => inferInstanceAs (Decidable (_ ∧ _))

end Keyspace

/-! ## Round trips -/

namespace Value

theorem decode_reads {v : Value} (h : v.Fits) : Reads decode v.encode v := by
  -- each kind: its tag, then its contents; a container is rebuilt from its listing
  cases v with
  | str s =>
    refine Reads.bind (readTag_reads (t := 0) (by decide) (by norm_num)) ?_ rfl
    exact Reads.bind (readText_reads h) (Reads.pure _) (List.append_nil _).symm
  | hash m =>
    have hpair : ∀ p ∈ m.entries,
        Reads (do return (← readText, ← readText)) (text p.1 ++ text p.2) p := fun p hp =>
      Reads.bind (readText_reads (h.2 p hp).1)
        (Reads.bind (readText_reads (h.2 p hp).2) (Reads.pure _) (List.append_nil _).symm) rfl
    refine Reads.bind (readTag_reads (t := 1) (by decide) (by norm_num)) ?_ rfl
    refine Reads.bind (readSeq_reads h.1 hpair) ?_ (List.append_nil _).symm
    rw [KeyMap.ofList_entries]
    exact Reads.pure _
  | zset z =>
    have hpair : ∀ p ∈ z.toList,
        Reads (do return (← readText, ← readI64)) (text p.1 ++ i64 p.2) p := fun p hp =>
      Reads.bind (readText_reads (h.2 p hp).1)
        (Reads.bind (readI64_reads (h.2 p hp).2) (Reads.pure _) (List.append_nil _).symm) rfl
    refine Reads.bind (readTag_reads (t := 2) (by decide) (by norm_num)) ?_ rfl
    refine Reads.bind (readSeq_reads h.1 hpair) ?_ (List.append_nil _).symm
    rw [show SortedSet.ofList z.entries = z from SortedSet.ofList_toList z]
    exact Reads.pure _
  | set s =>
    refine Reads.bind (readTag_reads (t := 3) (by decide) (by norm_num)) ?_ rfl
    refine Reads.bind (readSeq_reads h.1 fun m hm => readText_reads (h.2 m hm)) ?_
      (List.append_nil _).symm
    rw [KeySet.ofList_members]
    exact Reads.pure _

end Value

theorem Entry.decode_reads {e : Entry} (h : e.Fits) : Reads Entry.decode e.encode e :=
  Reads.bind (Value.decode_reads h.1)
    (Reads.bind (readOption_u64_reads h.2) (Reads.pure _) (List.append_nil _).symm) rfl

namespace WriteOp

theorem decode_reads {op : WriteOp} (h : op.Fits) : Reads decode op.encode op := by
  -- each operation: its tag, then its fields in order
  cases op with
  | set k v =>
    exact Reads.bind (readTag_reads (t := 0) (by decide) (by norm_num))
      (Reads.bind (readText_reads h.1) (Reads.bind (readText_reads h.2) (Reads.pure _)
        (List.append_nil _).symm) rfl) (by simp [encode])
  | hset k f v =>
    exact Reads.bind (readTag_reads (t := 1) (by decide) (by norm_num))
      (Reads.bind (readText_reads h.1) (Reads.bind (readText_reads h.2.1)
        (Reads.bind (readText_reads h.2.2) (Reads.pure _) (List.append_nil _).symm) rfl) rfl)
      (by simp [encode])
  | hdel k f =>
    exact Reads.bind (readTag_reads (t := 2) (by decide) (by norm_num))
      (Reads.bind (readText_reads h.1) (Reads.bind (readText_reads h.2) (Reads.pure _)
        (List.append_nil _).symm) rfl) (by simp [encode])
  | zset k m s =>
    exact Reads.bind (readTag_reads (t := 3) (by decide) (by norm_num))
      (Reads.bind (readText_reads h.1) (Reads.bind (readText_reads h.2.1)
        (Reads.bind (readI64_reads h.2.2) (Reads.pure _) (List.append_nil _).symm) rfl) rfl)
      (by simp [encode])
  | zrem k m =>
    exact Reads.bind (readTag_reads (t := 4) (by decide) (by norm_num))
      (Reads.bind (readText_reads h.1) (Reads.bind (readText_reads h.2) (Reads.pure _)
        (List.append_nil _).symm) rfl) (by simp [encode])
  | sadd k m =>
    exact Reads.bind (readTag_reads (t := 5) (by decide) (by norm_num))
      (Reads.bind (readText_reads h.1) (Reads.bind (readText_reads h.2) (Reads.pure _)
        (List.append_nil _).symm) rfl) (by simp [encode])
  | srem k m =>
    exact Reads.bind (readTag_reads (t := 6) (by decide) (by norm_num))
      (Reads.bind (readText_reads h.1) (Reads.bind (readText_reads h.2) (Reads.pure _)
        (List.append_nil _).symm) rfl) (by simp [encode])
  | delete k =>
    exact Reads.bind (readTag_reads (t := 7) (by decide) (by norm_num))
      (Reads.bind (readText_reads h) (Reads.pure _) (List.append_nil _).symm) rfl
  | expireAt k d =>
    exact Reads.bind (readTag_reads (t := 8) (by decide) (by norm_num))
      (Reads.bind (readText_reads h.1) (Reads.bind (readOption_u64_reads h.2) (Reads.pure _)
        (List.append_nil _).symm) rfl) (by simp [encode])
  | restore k e =>
    exact Reads.bind (readTag_reads (t := 9) (by decide) (by norm_num))
      (Reads.bind (readText_reads h.1) (Reads.bind (Entry.decode_reads h.2) (Reads.pure _)
        (List.append_nil _).symm) rfl) (by simp [encode])

end WriteOp

namespace WriteBatch

/-- A batch is read back from its bytes, whatever bytes follow them. -/
theorem decode_encode_append {b : WriteBatch} (h : b.Fits) (rest : List UInt8) :
    decode (b.encode ++ rest) = .ok b := by
  have hreads : Reads (do
      let t ← readU64
      let ops ← readSeq WriteOp.decode
      return (⟨t, ops⟩ : WriteBatch)) b.encode b :=
    Reads.bind (readU64_reads h.1)
      (Reads.bind (readSeq_reads h.2.1 fun op hop => WriteOp.decode_reads (h.2.2 op hop))
        (Reads.pure _) (List.append_nil _).symm) (by simp [encode])
  unfold decode
  rw [StateT.run'_eq, hreads rest]
  rfl

/-- A batch whose numbers fit the layout is read back from its bytes. -/
theorem decode_encode {b : WriteBatch} (h : b.Fits) : decode b.encode = .ok b := by
  simpa using decode_encode_append h []

theorem decode?_encode {b : WriteBatch} (h : b.Fits) : decode? b.encode = .ok b := by
  simp [decode?, decode_encode h, Except.mapError]

end WriteBatch

/-! ## Snapshots restore the live entries -/

namespace Keyspace

/-- Storing an entry under a key does not depend on whether an expired entry was evicted from
that key first. -/
theorem put_evictExpired (ks : Keyspace) (k : String) (now : Nat) (e : Entry) :
    (ks.evictExpired k now).put k e = ks.put k e := by
  unfold evictExpired
  split
  · split
    · apply ext_raw?
      intro k2
      by_cases hk : k = k2
      · subst hk; simp
      · rw [raw?_put_ne _ _ hk, raw?_put_ne _ _ hk, raw?_remove_ne _ hk]
    · rfl
  · rfl

/-- Restoring a list of entries stores them in turn and never fails. -/
theorem applyOps_restore (ks : Keyspace) (now : Nat) (es : List (String × Entry)) :
    ks.applyOps now (es.map fun e => .restore e.1 e.2) =
      (⟨es.foldl (fun m e => m.insert e.1 e.2) ks.entries⟩, none) := by
  induction es generalizing ks with
  | nil => rfl
  | cons e rest ih =>
    simp only [List.map_cons, applyOps, apply, WriteOp.key, put_evictExpired, List.foldl_cons]
    exact ih _

/-- Restoring a snapshot into an empty keyspace stores exactly the live entries: the keyspace
with its expired entries purged. -/
theorem applyBatch_snapshot (ks : Keyspace) (now : Nat) :
    empty.applyBatch (ks.snapshot now) = ((ks.purgeExpired now).1, none) := by
  rw [applyBatch, snapshot, applyOps_restore]
  simp only [purgeExpired, live, Prod.mk.injEq, and_true]
  congr 1
  exact KeyMap.ofList_entries (ks.entries.filter fun _ e => !e.isExpired now)

theorem length_live_le (ks : Keyspace) (now : Nat) : (ks.live now).length ≤ ks.size :=
  List.length_filter_le _ _

/-- A snapshot of a keyspace that fits the layout, taken at a time that fits, fits too. -/
theorem snapshot_fits {ks : Keyspace} (h : ks.Fits) {now : Nat} (hnow : now < 2 ^ 64) :
    (ks.snapshot now).Fits := by
  refine ⟨hnow, ?_, ?_⟩
  · simpa [snapshot] using lt_of_le_of_lt (length_live_le ks now) h.1
  · intro op hop
    simp only [snapshot, List.mem_map] at hop
    obtain ⟨e, he, rfl⟩ := hop
    exact h.2 e (List.mem_of_mem_filter he)

end Keyspace

/-- A snapshot round trip: a batch whose numbers fit the layout is read back from its bytes, and
a snapshot of a keyspace that fits, read back and restored into an empty keyspace, is read back
as the same batch and restores exactly the entries that were live at the snapshot's time, with
their values and deadlines. -/
theorem snapshot_round_trip :
    (∀ b : WriteBatch, b.Fits → WriteBatch.decode b.encode = .ok b) ∧
    ∀ (ks : Keyspace) (now : Nat), ks.Fits → now < 2 ^ 64 →
      WriteBatch.decode (ks.snapshot now).encode = .ok (ks.snapshot now) ∧
        Keyspace.empty.applyBatch (ks.snapshot now) = ((ks.purgeExpired now).1, none) :=
  ⟨fun _ h => WriteBatch.decode_encode h, fun ks _ h hnow =>
    ⟨WriteBatch.decode_encode (Keyspace.snapshot_fits h hnow), Keyspace.applyBatch_snapshot ks _⟩⟩

/-- The round trip on a batch of a field write and a negative score, and on a keyspace holding a
persistent string and a string whose deadline has passed at the snapshot's time. -/
theorem snapshot_round_trip_example :
    let b : WriteBatch := ⟨7, [.hset "article:1" "agree" "1", .zset "article:hot" "1" (-3)]⟩
    let ks : Keyspace := (Keyspace.empty.put "a" ⟨.str "x", none⟩).put "b" ⟨.str "y", some 3⟩
    (b.Fits ∧ WriteBatch.decode b.encode = .ok b) ∧
      (ks.Fits ∧ 5 < 2 ^ 64 ∧ WriteBatch.decode (ks.snapshot 5).encode = .ok (ks.snapshot 5) ∧
        Keyspace.empty.applyBatch (ks.snapshot 5) = ((ks.purgeExpired 5).1, none)) :=
  ⟨⟨by decide, snapshot_round_trip.1 _ (by decide)⟩,
    ⟨by decide, by norm_num, snapshot_round_trip.2 _ _ (by decide) (by norm_num)⟩⟩

end CounterCache
