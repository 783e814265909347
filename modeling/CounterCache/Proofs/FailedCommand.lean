import Mathlib
import CounterCache.Proofs.Rollback
import CounterCache.Script.Eval

/-!
# A failing command leaves no trace

A command runs in a transaction that may already hold the writes of earlier commands. When the
command fails, the transaction comes back exactly as the command found it: its keyspace, the
notes that take its writes back and its recorded batch. A script that catches the failure with
`redis.pcall` therefore goes on from a transaction in which no part of the failed command was
written, even for a command over several fields, members or keys.

Every failure of a command is raised before its first write. The reads that can fail (a key of
another type, a stored value that is no integer, a sum out of range) come first; each write
after them is of a type the key was just read as holding, or as holding nothing, and such a
write cannot fail. For a command over several fields or members, the write of one leaves the
key holding that type or nothing, so the writes for the next ones cannot fail either.

Two kinds of triple carry this, for a condition `P` on the transaction:
* a call is total from `P` when, started in `P`, it answers and ends in `P`;
* a call is clean into `P` when it fails only with the transaction it started from, and ends
  in `P` when it answers.

Main statement: `execute_error_unchanged`.
-/

namespace CounterCache

theorem Entry.isExpired_mk (v : Value) (d : Option Nat) (now : Nat) :
    (Entry.mk v d).isExpired now = d.any (· ≤ now) := by
  cases d <;> rfl

namespace Keyspace

variable {ks : Keyspace} {k : String} {now : Nat}

/-! ## A write to a key of its own type -/

theorem isExpired_of_get? {e : Entry} (h : ks.get? k now = some e) :
    e.isExpired now = false := by
  unfold get? at h
  split at h
  · rename_i e' _
    by_cases hx : e'.isExpired now = true
    · simp [hx] at h
    · simp only [hx, if_false, Option.some.injEq, Bool.false_eq_true] at h
      subst h
      simpa using hx
  · simp at h

/-- Evicting the key's expired entry leaves it storing its live entry. -/
theorem raw?_evictExpired_self (ks : Keyspace) (k : String) (now : Nat) :
    (ks.evictExpired k now).raw? k = ks.get? k now := by
  unfold evictExpired get?
  cases hr : ks.raw? k with
  | none => rw [hr]
  | some e =>
    by_cases hx : e.isExpired now = true
    · simp [hx]
    · simp [hx, hr]

theorem get?_evictExpired_self (ks : Keyspace) (k : String) (now : Nat) :
    (ks.evictExpired k now).get? k now = ks.get? k now := by
  conv_lhs => unfold get?
  rw [raw?_evictExpired_self]
  cases hg : ks.get? k now with
  | none => rfl
  | some e => simp [isExpired_of_get? hg]

@[simp] theorem get?_put_self (ks : Keyspace) (k : String) (e : Entry) (now : Nat) :
    (ks.put k e).get? k now = if e.isExpired now then none else some e := by
  simp [get?]

@[simp] theorem get?_remove_self (ks : Keyspace) (k : String) (now : Nat) :
    (ks.remove k).get? k now = none := by
  simp [get?]

/-- `op` writes `read`'s type at `k`: every keyspace where `k` reads through `read` without a
type error accepts it, and `k` still reads so after it. -/
def TypedWrite {α : Type} (read : Keyspace → String → Nat → Except Error (Option α)) (k : String)
    (op : WriteOp) : Prop :=
  ∀ ks now a, read ks k now = .ok a → ∃ ks', ks.apply op now = .ok ks' ∧ ∃ a', read ks' k now = .ok a'

/- The hash, sorted-set and set writes are typed writes of their readers. Each acts on the key's
live entry (`raw?_evictExpired_self`) and keeps its deadline, so a live entry stays live. -/

theorem typedWrite_hset (k f v : String) :
    TypedWrite hash? k (.hset k f v) := by
  intro ks now a h
  simp only [apply, WriteOp.key, raw?_evictExpired_self]
  unfold hash? at h
  cases hg : ks.get? k now with
  | none => simp [hash?, Entry.isExpired_mk]
  | some e =>
    obtain ⟨val, d⟩ := e
    have hx := isExpired_of_get? hg
    rw [Entry.isExpired_mk] at hx
    cases val <;> simp [hg] at h ⊢
    simp [hash?, Entry.isExpired_mk, hx]

theorem typedWrite_hdel (k f : String) :
    TypedWrite hash? k (.hdel k f) := by
  intro ks now a h
  simp only [apply, WriteOp.key, raw?_evictExpired_self]
  unfold hash? at h
  cases hg : ks.get? k now with
  | none => simp [hash?, get?_evictExpired_self, hg]
  | some e =>
    obtain ⟨val, d⟩ := e
    have hx := isExpired_of_get? hg
    rw [Entry.isExpired_mk] at hx
    cases val <;> simp [hg] at h ⊢
    unfold putOrRemove
    split <;> simp [hash?, Entry.isExpired_mk, hx]

theorem typedWrite_zset (k m : String) (s : Int) :
    TypedWrite sortedSet? k (.zset k m s) := by
  intro ks now a h
  simp only [apply, WriteOp.key, raw?_evictExpired_self]
  unfold sortedSet? at h
  cases hg : ks.get? k now with
  | none => simp [sortedSet?, Entry.isExpired_mk]
  | some e =>
    obtain ⟨val, d⟩ := e
    have hx := isExpired_of_get? hg
    rw [Entry.isExpired_mk] at hx
    cases val <;> simp [hg] at h ⊢
    simp [sortedSet?, Entry.isExpired_mk, hx]

theorem typedWrite_zrem (k m : String) :
    TypedWrite sortedSet? k (.zrem k m) := by
  intro ks now a h
  simp only [apply, WriteOp.key, raw?_evictExpired_self]
  unfold sortedSet? at h
  cases hg : ks.get? k now with
  | none => simp [sortedSet?, get?_evictExpired_self, hg]
  | some e =>
    obtain ⟨val, d⟩ := e
    have hx := isExpired_of_get? hg
    rw [Entry.isExpired_mk] at hx
    cases val <;> simp [hg] at h ⊢
    unfold putOrRemove
    split <;> simp [sortedSet?, Entry.isExpired_mk, hx]

theorem typedWrite_sadd (k m : String) :
    TypedWrite set? k (.sadd k m) := by
  intro ks now a h
  simp only [apply, WriteOp.key, raw?_evictExpired_self]
  unfold set? at h
  cases hg : ks.get? k now with
  | none => simp [set?, Entry.isExpired_mk]
  | some e =>
    obtain ⟨val, d⟩ := e
    have hx := isExpired_of_get? hg
    rw [Entry.isExpired_mk] at hx
    cases val <;> simp [hg] at h ⊢
    simp [set?, Entry.isExpired_mk, hx]

theorem typedWrite_srem (k m : String) :
    TypedWrite set? k (.srem k m) := by
  intro ks now a h
  simp only [apply, WriteOp.key, raw?_evictExpired_self]
  unfold set? at h
  cases hg : ks.get? k now with
  | none => simp [set?, get?_evictExpired_self, hg]
  | some e =>
    obtain ⟨val, d⟩ := e
    have hx := isExpired_of_get? hg
    rw [Entry.isExpired_mk] at hx
    cases val <;> simp [hg] at h ⊢
    unfold putOrRemove
    split <;> simp [set?, Entry.isExpired_mk, hx]

end Keyspace
namespace Transaction

open Std.Do

set_option mvcgen.warning false

/-- Key `k` reads through `read` without a type error at the transaction's time: it holds a live
entry of the reader's type, or no live entry. -/
def ReadsAs {α : Type} (read : Keyspace → String → Nat → Except Error (Option α)) (k : String)
    (t : Transaction) : Prop :=
  ∃ a, read t.keyspace k t.now = .ok a

/-- A key that reads without a type error does not read with one. -/
theorem ReadsAs.ne_error {α : Type} {read : Keyspace → String → Nat → Except Error (Option α)}
    {k : String} {t : Transaction} {e : Error} (h : ReadsAs read k t)
    (he : read t.keyspace k t.now = .error e) : False := by
  obtain ⟨a, ha⟩ := h
  rw [ha] at he
  cases he

/-! ## Calls that cannot fail -/

section Total

/- The triples registered for `RestoresTo` are set aside in each proof: `mvcgen` would prefer
them to the ones given here. -/

/-- A write that every keyspace where `k` reads through `read` accepts, leaving `k` readable,
cannot fail on a transaction where `k` reads so. -/
theorem write_total {α : Type} {read : Keyspace → String → Nat → Except Error (Option α)}
    {k : String} {op : WriteOp} (hop : Keyspace.TypedWrite read k op) :
    ⦃fun t => ⌜ReadsAs read k t⌝⦄ write op
    ⦃post⟨fun _ t => ⌜ReadsAs read k t⌝, fun _ _ => ⌜False⌝⟩⦄ := by
  mvcgen [write, ofExcept, -write_spec]
  · rename_i t ht _ ks happly
    obtain ⟨a, ha⟩ := ht
    obtain ⟨ks', hks', a', ha'⟩ := hop _ _ a ha
    rw [happly, Except.ok.injEq] at hks'
    exact ⟨a', hks' ▸ ha'⟩
  · rename_i t ht _ e happly
    obtain ⟨a, ha⟩ := ht
    obtain ⟨ks', hks', -⟩ := hop _ _ a ha
    rw [happly] at hks'
    cases hks'

theorem hset_total (k f v : String) :
    ⦃fun t => ⌜ReadsAs Keyspace.hash? k t⌝⦄ hset k f v
    ⦃post⟨fun _ t => ⌜ReadsAs Keyspace.hash? k t⌝, fun _ _ => ⌜False⌝⟩⦄ := by
  have hw := write_total (Keyspace.typedWrite_hset k f v)
  mvcgen [hset, hget, ofExcept, hw, -write_spec, -hset_spec]
  exact ReadsAs.ne_error ‹_› ‹_›

theorem hdel_total (k f : String) :
    ⦃fun t => ⌜ReadsAs Keyspace.hash? k t⌝⦄ hdel k f
    ⦃post⟨fun _ t => ⌜ReadsAs Keyspace.hash? k t⌝, fun _ _ => ⌜False⌝⟩⦄ := by
  have hw := write_total (Keyspace.typedWrite_hdel k f)
  mvcgen [hdel, hget, ofExcept, hw, -write_spec, -hdel_spec]
  exact ReadsAs.ne_error ‹_› ‹_›

theorem zadd_total (k m : String) (score : Int) (nx : Bool) :
    ⦃fun t => ⌜ReadsAs Keyspace.sortedSet? k t⌝⦄ zadd k m score nx
    ⦃post⟨fun _ t => ⌜ReadsAs Keyspace.sortedSet? k t⌝, fun _ _ => ⌜False⌝⟩⦄ := by
  have hw := write_total (Keyspace.typedWrite_zset k m score)
  mvcgen [zadd, zscore, sortedSet?, ofExcept, hw, -write_spec, -zadd_spec]
  exact ReadsAs.ne_error ‹_› ‹_›

theorem zrem_total (k m : String) :
    ⦃fun t => ⌜ReadsAs Keyspace.sortedSet? k t⌝⦄ zrem k m
    ⦃post⟨fun _ t => ⌜ReadsAs Keyspace.sortedSet? k t⌝, fun _ _ => ⌜False⌝⟩⦄ := by
  have hw := write_total (Keyspace.typedWrite_zrem k m)
  mvcgen [zrem, zscore, sortedSet?, ofExcept, hw, -write_spec, -zrem_spec]
  exact ReadsAs.ne_error ‹_› ‹_›

theorem sadd_total (k m : String) :
    ⦃fun t => ⌜ReadsAs Keyspace.set? k t⌝⦄ sadd k m
    ⦃post⟨fun _ t => ⌜ReadsAs Keyspace.set? k t⌝, fun _ _ => ⌜False⌝⟩⦄ := by
  have hw := write_total (Keyspace.typedWrite_sadd k m)
  mvcgen [sadd, sismember, set?, ofExcept, hw, -write_spec, -sadd_spec]
  exact ReadsAs.ne_error ‹_› ‹_›

theorem srem_total (k m : String) :
    ⦃fun t => ⌜ReadsAs Keyspace.set? k t⌝⦄ srem k m
    ⦃post⟨fun _ t => ⌜ReadsAs Keyspace.set? k t⌝, fun _ _ => ⌜False⌝⟩⦄ := by
  have hw := write_total (Keyspace.typedWrite_srem k m)
  mvcgen [srem, sismember, set?, ofExcept, hw, -write_spec, -srem_spec]
  exact ReadsAs.ne_error ‹_› ‹_›

/-- Deleting a key never fails. -/
theorem del_total (k : String) :
    ⦃fun _ => ⌜True⌝⦄ del k ⦃post⟨fun _ _ => ⌜True⌝, fun _ _ => ⌜False⌝⟩⦄ := by
  mvcgen [del, exists?, write, ofExcept, -write_spec, -del_spec]

/-- Running a call that is total from `P` on each item in turn is total from `P`. -/
theorem countTrue_total {β : Type} (P : Transaction → Prop) (f : β → TxnM Bool)
    (hf : ∀ x, ⦃fun t => ⌜P t⌝⦄ f x ⦃post⟨fun _ t => ⌜P t⌝, fun _ _ => ⌜False⌝⟩⦄)
    (xs : List β) :
    ⦃fun t => ⌜P t⌝⦄ countTrue f xs ⦃post⟨fun _ t => ⌜P t⌝, fun _ _ => ⌜False⌝⟩⦄ := by
  induction xs with
  | nil => mvcgen [countTrue, -countTrue_spec]
  | cons x xs ih => mvcgen [countTrue, hf, ih, -countTrue_spec]

end Total

/-! ## Calls that fail before they write -/

section Clean

/- A removal fails only at the read that finds its key's type, before its write; when it answers,
its key reads as the removal's type or as nothing. -/

theorem hdel_clean (k f : String) (t₀ : Transaction) :
    ⦃fun t => ⌜t = t₀⌝⦄ hdel k f
    ⦃post⟨fun _ t => ⌜ReadsAs Keyspace.hash? k t⌝, fun _ t => ⌜t = t₀⌝⟩⦄ := by
  have hw := write_total (Keyspace.typedWrite_hdel k f)
  mvcgen [hdel, hget, ofExcept, hw, -write_spec, -hdel_spec]
  all_goals exact ⟨_, ‹_›⟩

theorem zrem_clean (k m : String) (t₀ : Transaction) :
    ⦃fun t => ⌜t = t₀⌝⦄ zrem k m
    ⦃post⟨fun _ t => ⌜ReadsAs Keyspace.sortedSet? k t⌝, fun _ t => ⌜t = t₀⌝⟩⦄ := by
  have hw := write_total (Keyspace.typedWrite_zrem k m)
  mvcgen [zrem, zscore, sortedSet?, ofExcept, hw, -write_spec, -zrem_spec]
  all_goals exact ⟨_, ‹_›⟩

theorem srem_clean (k m : String) (t₀ : Transaction) :
    ⦃fun t => ⌜t = t₀⌝⦄ srem k m
    ⦃post⟨fun _ t => ⌜ReadsAs Keyspace.set? k t⌝, fun _ t => ⌜t = t₀⌝⟩⦄ := by
  have hw := write_total (Keyspace.typedWrite_srem k m)
  mvcgen [srem, sismember, set?, ofExcept, hw, -write_spec, -srem_spec]
  all_goals exact ⟨_, ‹_›⟩

/-- A loop whose first call fails only before writing and lands in `P`, and whose every call is
total from `P`, fails only with the transaction it started from. -/
theorem countTrue_clean {β : Type} (P : Transaction → Prop) (f : β → TxnM Bool)
    (hc : ∀ x t₀, ⦃fun t => ⌜t = t₀⌝⦄ f x ⦃post⟨fun _ t => ⌜P t⌝, fun _ t => ⌜t = t₀⌝⟩⦄)
    (hf : ∀ x, ⦃fun t => ⌜P t⌝⦄ f x ⦃post⟨fun _ t => ⌜P t⌝, fun _ _ => ⌜False⌝⟩⦄)
    (xs : List β) (t₀ : Transaction) :
    ⦃fun t => ⌜t = t₀⌝⦄ countTrue f xs ⦃post⟨fun _ _ => ⌜True⌝, fun _ t => ⌜t = t₀⌝⟩⦄ := by
  cases xs with
  | nil => mvcgen [countTrue, -countTrue_spec]
  | cons x xs =>
    have hrest := countTrue_total P f hf xs
    have hfirst := hc x t₀
    mvcgen [countTrue, hfirst, hrest, -countTrue_spec]

/-- Every command fails only with the transaction it started from. -/
theorem execute_clean (c : Command) (t₀ : Transaction) :
    ⦃fun t => ⌜t = t₀⌝⦄ execute c ⦃post⟨fun _ _ => ⌜True⌝, fun _ t => ⌜t = t₀⌝⟩⦄ := by
  cases c
  case del ks =>
    have hloop := countTrue_total (fun _ => True) del del_total ks
    mvcgen [execute, hloop, -countTrue_spec, -execute_spec]
  case hset k pairs =>
    have hloop := countTrue_total (ReadsAs Keyspace.hash? k) (fun p : String × String => hset k p.1 p.2)
      (fun p => hset_total k p.1 p.2) pairs
    mvcgen [execute, hgetall, ofExcept, hloop, -countTrue_spec, -execute_spec]
    exact ⟨_, ‹_›⟩
  case hdel k fs =>
    have hloop := countTrue_clean _ (hdel k) (hdel_clean k) (hdel_total k) fs t₀
    mvcgen [execute, hloop, -countTrue_spec, -execute_spec]
  case zadd k nx members =>
    have hloop := countTrue_total (ReadsAs Keyspace.sortedSet? k)
      (fun p : Int × String => zadd k p.2 p.1 nx) (fun p => zadd_total k p.2 p.1 nx) members
    mvcgen [execute, sortedSet?, ofExcept, hloop, -countTrue_spec, -execute_spec]
    exact ⟨_, ‹_›⟩
  case zrem k ms =>
    have hloop := countTrue_clean _ (zrem k) (zrem_clean k) (zrem_total k) ms t₀
    mvcgen [execute, hloop, -countTrue_spec, -execute_spec]
  case sadd k ms =>
    have hloop := countTrue_total _ (sadd k) (sadd_total k) ms
    mvcgen [execute, set?, ofExcept, hloop, -countTrue_spec, -execute_spec]
    exact ⟨_, ‹_›⟩
  case srem k ms =>
    have hloop := countTrue_clean _ (srem k) (srem_clean k) (srem_total k) ms t₀
    mvcgen [execute, hloop, -countTrue_spec, -execute_spec]
  all_goals
    mvcgen [execute, getString, setString, expire, exists?, ttl, hget, hgetall, hsetnx, hset,
      hincrby, sortedSet?, zscore, zincrby, zcard, zrevrange, set?, sismember, scard, del, write,
      ofExcept, -write_spec, -del_spec, -expire_spec, -setString_spec, -hset_spec, -hsetnx_spec,
      -hincrby_spec, -zincrby_spec, -execute_spec]

end Clean

/-- A command a script runs through `redis.call` or `redis.pcall` has its arguments converted
and parsed first, which fails without touching the transaction, and then runs. -/
theorem dispatch_run (args : List Lua.Value) (t : Transaction) :
    (Script.dispatch args).run t =
      match (args.mapM Script.argText).bind Command.parse with
      | .ok cmd => (execute cmd).run t
      | .error e => .error e t := by
  unfold Script.dispatch
  cases args.mapM Script.argText with
  | error e => rfl
  | ok argv =>
    show (do let cmd ← liftM (Command.parse argv); execute cmd : TxnM Reply).run t =
      match Command.parse argv with
      | .ok cmd => (execute cmd).run t
      | .error e => .error e t
    cases Command.parse argv <;> rfl

/-- A failure of a command leaves its transaction as it found it. -/
theorem execute_run_error {c : Command} {t t' : Transaction} {e : Error}
    (h : (execute c).run t = .error e t') : t' = t := by
  -- the triple's postconditions, read at the result of the run
  exact EStateM.of_wp_run_eq (P := Transaction.Outcome (fun _ _ => True) (fun _ s => s = t)) h
    (fun _ => execute_clean c t t rfl)

/-- A command that fails leaves the transaction exactly as it found it, whatever earlier
commands wrote: the keyspace, the notes that take writes back and the recorded batch. The same
holds of a command a script runs through `redis.call` or `redis.pcall`, so a failure that
`redis.pcall` catches commits no part of a command over several fields, members or keys. -/
theorem execute_error_unchanged (t t' : Transaction) (e : Error) :
    (∀ c : Command, (execute c).run t = .error e t' → t' = t) ∧
      (∀ args : List Lua.Value, (Script.dispatch args).run t = .error e t' → t' = t) := by
  refine ⟨fun c h => execute_run_error h, fun args h => ?_⟩
  rw [dispatch_run] at h
  split at h
  · exact execute_run_error h
  · cases h
    rfl

/-- An `HDEL` of two fields on a key holding a string fails at its first read, in a transaction
that has already written that key, and so does the same command reached from a script. -/
theorem execute_error_unchanged_example :
    let t : Transaction :=
      ⟨Keyspace.empty.put "k" ⟨.str "v", none⟩, 0, [.key "k" none], [.set "k" "v"]⟩
    let args : List Lua.Value :=
      [.str ⟨#[72, 68, 69, 76]⟩, .str ⟨#[107]⟩, .str ⟨#[97]⟩, .str ⟨#[98]⟩]
    (execute (.hdel "k" ["a", "b"])).run t = .error (.wrongType "k") t ∧
      (Script.dispatch args).run t = .error (.wrongType "k") t ∧ t = t ∧ t = t := by
  intro t args
  have hcmd : (execute (.hdel "k" ["a", "b"])).run t = .error (.wrongType "k") t := by rfl
  have hlua : (Script.dispatch args).run t = .error (.wrongType "k") t := by
    have hparse : (args.mapM Script.argText).bind Command.parse = .ok (.hdel "k" ["a", "b"]) := by
      decide +kernel
    rw [dispatch_run, hparse]
    exact hcmd
  exact ⟨hcmd, hlua, (execute_error_unchanged t t (.wrongType "k")).1 _ hcmd,
    (execute_error_unchanged t t (.wrongType "k")).2 _ hlua⟩

end Transaction

end CounterCache
