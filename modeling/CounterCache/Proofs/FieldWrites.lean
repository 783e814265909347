import Mathlib
import CounterCache.Proofs.FloorDecrement
import CounterCache.Proofs.ExpiryArithmetic

/-!
# Writing a hash field by field

The templates that rehydrate and refresh a record write its fields one at a time into the hash
at their first key (`HSETNX` for a rehydrate, `HSET` for a refresh) and then give the key its
lifetime. `KeyMap.writeFields` is the hash such a run leaves: a refresh sets every named field
(`find?_writeFields_insert`), a rehydrate only those the hash lacked (`find?_writeFields_fill`).

Each command is first followed on a key that reads as a hash, a sorted set or nothing
(`Transaction.hset_run_of_hash?`, `hsetnx_run_of_hash?`, `zadd_run_of_sortedSet?`, ...), then a
whole template: `Template.run_writeFields_expire` for the record templates, and
`Template.run_refreshRanking` for the script that resets a ranking score where the member is
ranked.
-/

namespace CounterCache

namespace KeyMap

/-- Sets a field only where the hash lacks it. -/
def fill (h : KeyMap String) (f v : String) : KeyMap String :=
  if (h.find? f).isSome then h else h.insert f v

/-- The hash a key holds after writing each field in turn with `write`, from the hash it held
or from nothing. -/
def writeFields (write : KeyMap String → String → String → KeyMap String)
    (o : Option (KeyMap String)) (ps : List (String × String)) : Option (KeyMap String) :=
  ps.foldl (fun o p => some (write (o.getD empty) p.1 p.2)) o

/-- Writing at least one field leaves a hash. -/
theorem writeFields_cons_isSome (write : KeyMap String → String → String → KeyMap String)
    (o : Option (KeyMap String)) (p : String × String) (ps : List (String × String)) :
    (writeFields write o (p :: ps)).isSome := by
  induction ps generalizing o p with
  | nil => rfl
  | cons q ps ih => exact ih _ q

@[simp] theorem writeFields_cons (write : KeyMap String → String → String → KeyMap String)
    (o : Option (KeyMap String)) (p : String × String) (ps : List (String × String)) :
    writeFields write o (p :: ps) = writeFields write (some (write (o.getD empty) p.1 p.2)) ps :=
  rfl

/-- Setting fields with distinct names: a named field holds its value, any other field what
it held. -/
theorem find?_writeFields_insert (o : Option (KeyMap String)) (ps : List (String × String))
    (hnd : (ps.map Prod.fst).Nodup) (f : String) :
    ((writeFields insert o ps).getD empty).find? f = (ps.lookup f).or ((o.getD empty).find? f) := by
  induction ps generalizing o with
  | nil => simp [writeFields]
  | cons p ps ih =>
    obtain ⟨g, w⟩ := p
    obtain ⟨hg, hnd⟩ := List.nodup_cons.1 hnd
    rw [writeFields_cons, ih _ hnd, Option.getD_some]
    by_cases hf : f = g
    · subst hf
      have hnone : ps.lookup f = none :=
        List.lookup_eq_none_iff.2 fun q hq => by
          simpa using fun heq : f = q.1 => hg (List.mem_map.2 ⟨q, hq, heq.symm⟩)
      simp [hnone]
    · have hlook : ((g, w) :: ps).lookup f = ps.lookup f := by
        rw [List.lookup, beq_false_of_ne hf]
      rw [find?_insert_ne _ _ _ _ (Ne.symm hf), hlook]

/-- Filling fields: a field the hash held keeps its value, and an absent one takes the first
value named for it. -/
theorem find?_writeFields_fill (o : Option (KeyMap String)) (ps : List (String × String))
    (f : String) :
    ((writeFields fill o ps).getD empty).find? f = ((o.getD empty).find? f).or (ps.lookup f) := by
  induction ps generalizing o with
  | nil => simp [writeFields]
  | cons p ps ih =>
    obtain ⟨g, w⟩ := p
    rw [writeFields_cons, ih, Option.getD_some]
    by_cases hf : f = g
    · subst hf
      cases hfound : (o.getD empty).find? f <;> simp [fill, hfound]
    · have hfill : ((o.getD empty).fill g w).find? f = (o.getD empty).find? f := by
        unfold fill
        split
        · rfl
        · exact find?_insert_ne _ _ _ _ (Ne.symm hf)
      have hlook : ((g, w) :: ps).lookup f = ps.lookup f := by
        rw [List.lookup, beq_false_of_ne hf]
      rw [hfill, hlook]

/-- In a list of pairs with distinct first components, each pair is what its first component
looks up. -/
theorem lookup_of_mem {ps : List (String × String)} (hnd : (ps.map Prod.fst).Nodup)
    {p : String × String} (hp : p ∈ ps) : ps.lookup p.1 = some p.2 := by
  induction ps with
  | nil => cases hp
  | cons q ps ih =>
    obtain ⟨g, w⟩ := q
    obtain ⟨hq, hnd⟩ := List.nodup_cons.1 hnd
    rcases List.mem_cons.1 hp with rfl | hp
    · simp [List.lookup]
    · have hne : p.1 ≠ g := fun h => hq (List.mem_map.2 ⟨p, hp, h⟩)
      rw [List.lookup, beq_false_of_ne hne]
      exact ih hnd hp

end KeyMap

namespace Keyspace

variable {ks : Keyspace} {k : String} {now : Nat}

/-- Setting a field at a key that holds a live hash, or nothing live, leaves the key holding
the hash with that field set; no other key changes. -/
theorem apply_hset_of_hash? {o : Option (KeyMap String)} (h : ks.hash? k now = .ok o)
    (f v : String) :
    ∃ ks', ks.apply (.hset k f v) now = .ok ks' ∧ AgreeOff k ks ks' ∧
      ks'.hash? k now = .ok (some ((o.getD KeyMap.empty).insert f v)) := by
  have happly : ∃ ks', ks.apply (.hset k f v) now = .ok ks' ∧
      ks'.hash? k now = .ok (some ((o.getD KeyMap.empty).insert f v)) := by
    simp only [apply, WriteOp.key, raw?_evictExpired_self]
    unfold hash? at h
    cases hg : ks.get? k now with
    | none =>
      simp only [hg, Option.map_none, Except.ok.injEq] at h
      subst h
      simp [hash?, Entry.isExpired_mk]
    | some e =>
      obtain ⟨val, d⟩ := e
      have hx := isExpired_of_get? hg
      rw [Entry.isExpired_mk] at hx
      cases val <;> simp [hg] at h ⊢
      subst h
      simp [hash?, Entry.isExpired_mk, hx]
  obtain ⟨ks', hks', hh⟩ := happly
  exact ⟨ks', hks', apply_agreeOff hks', hh⟩

/-- Setting a member's score at a key that holds a live sorted set, or nothing live. -/
theorem apply_zset_of_sortedSet? {zo : Option SortedSet} (h : ks.sortedSet? k now = .ok zo)
    (m : String) (s : Int) :
    ∃ ks' z', ks.apply (.zset k m s) now = .ok ks' ∧ AgreeOff k ks ks' ∧
      ks'.sortedSet? k now = .ok (some z') ∧ z'.score? m = some s := by
  have happly : ∃ ks', ks.apply (.zset k m s) now = .ok ks' ∧
      ks'.sortedSet? k now = .ok (some ((zo.getD SortedSet.empty).insert m s)) := by
    simp only [apply, WriteOp.key, raw?_evictExpired_self]
    unfold sortedSet? at h
    cases hg : ks.get? k now with
    | none =>
      simp only [hg, Option.map_none, Except.ok.injEq] at h
      subst h
      simp [sortedSet?, Entry.isExpired_mk]
    | some e =>
      obtain ⟨val, d⟩ := e
      have hx := isExpired_of_get? hg
      rw [Entry.isExpired_mk] at hx
      cases val <;> simp [hg] at h ⊢
      subst h
      simp [sortedSet?, Entry.isExpired_mk, hx]
  obtain ⟨ks', hks', hz⟩ := happly
  exact ⟨ks', _, hks', apply_agreeOff hks', hz, SortedSet.score?_insert_self _ _ _⟩

/-- Removing a member at a key that holds a live sorted set leaves the key readable as a sorted
set or nothing. -/
theorem apply_zrem_of_sortedSet? {zo : Option SortedSet} (h : ks.sortedSet? k now = .ok zo)
    (m : String) :
    ∃ ks' zo', ks.apply (.zrem k m) now = .ok ks' ∧ AgreeOff k ks ks' ∧
      ks'.sortedSet? k now = .ok zo' := by
  obtain ⟨ks', hks', zo', hzo'⟩ := typedWrite_zrem k m ks now zo h
  exact ⟨ks', zo', hks', apply_agreeOff hks', hzo'⟩

/-- A key that reads as a hash holds a live entry of that hash. -/
theorem get?_of_hash? {h : KeyMap String} (hh : ks.hash? k now = .ok (some h)) :
    ∃ d, ks.get? k now = some ⟨.hash h, d⟩ := by
  unfold hash? at hh
  cases hg : ks.get? k now with
  | none => simp [hg] at hh
  | some e =>
    obtain ⟨val, d⟩ := e
    cases val <;> simp [hg] at hh
    exact ⟨d, by rw [hh]⟩

/-- A keyspace that differs from `ks` only at `k` becomes `ks` with the same entry put at `k`. -/
theorem put_of_agreeOff {ks' : Keyspace} (h : AgreeOff k ks ks') (e : Entry) :
    ks'.put k e = ks.put k e := by
  apply ext_raw?
  intro k2
  by_cases hk : k = k2
  · subst hk
    simp
  · rw [raw?_put_ne _ _ hk, raw?_put_ne _ _ hk, h k2 hk]

theorem get?_congr {ks' : Keyspace} (h : ks'.raw? k = ks.raw? k) :
    ks'.get? k now = ks.get? k now := by
  simp only [get?, h]

theorem sortedSet?_congr {ks' : Keyspace} (h : ks'.raw? k = ks.raw? k) :
    ks'.sortedSet? k now = ks.sortedSet? k now := by
  simp only [sortedSet?, get?_congr h]

theorem hashAt_congr {ks' : Keyspace} (h : ks'.raw? k = ks.raw? k) :
    ks'.hashAt now k = ks.hashAt now k := by
  simp only [hashAt, hash?, get?_congr h]

theorem ttlAt_congr {ks' : Keyspace} (h : ks'.raw? k = ks.raw? k) :
    ks'.ttlAt now k = ks.ttlAt now k := by
  simp only [ttlAt, ttlMillis?, get?_congr h]

/-- A hash stored for `ttl` seconds is live, reads back whole, and has `ttl` seconds left, as long
as neither the deadline nor the rounding of the time left passes the largest unsigned 64-bit
integer. -/
theorem put_hash_reads (ks : Keyspace) (k : String) (H : KeyMap String) {now ttl : Nat}
    (httl : 0 < ttl) (hb : max now 500 + 1000 * ttl ≤ Text.u64Max) :
    (ks.put k ⟨.hash H, some (min (now + ttl * 1000) Text.u64Max)⟩).contains k now = true ∧
      (ks.put k ⟨.hash H, some (min (now + ttl * 1000) Text.u64Max)⟩).hashAt now k = .ok H ∧
      (ks.put k ⟨.hash H, some (min (now + ttl * 1000) Text.u64Max)⟩).ttlAt now k = ttl := by
  unfold Text.u64Max at hb
  have hdl : min (now + ttl * 1000) Text.u64Max = now + ttl * 1000 := by
    unfold Text.u64Max
    omega
  have hlive : Entry.isExpired ⟨.hash H, some (now + ttl * 1000)⟩ now = false := by
    simp only [Entry.isExpired, decide_eq_false_iff_not]
    omega
  have hget : (ks.put k ⟨.hash H, some (min (now + ttl * 1000) Text.u64Max)⟩).get? k now =
      some ⟨.hash H, some (now + ttl * 1000)⟩ := by
    rw [hdl, get?_put_self, hlive, if_neg Bool.false_ne_true]
  -- the time left is `ttl * 1000` ms, and adding the 500 ms of rounding does not wrap
  have hround : roundedSeconds (ttl * 1000) = ttl := by
    unfold roundedSeconds Text.u64Max
    rw [Nat.mod_eq_of_lt (by omega)]
    omega
  refine ⟨by simp [contains, hget], by simp [hashAt, hash?, hget, Except.map], ?_⟩
  simp [ttlAt, ttlMillis?, hget, hround]

end Keyspace

namespace Transaction

variable {t : Transaction} {k f v : String} {o : Option (KeyMap String)}

theorem run_bind_of_ok {α β : Type} {x : TxnM α} {g : α → TxnM β} {a : α} {t' : Transaction}
    (h : x.run t = .ok a t') : (x >>= g).run t = (g a).run t' := by
  simp only [EStateM.run, bind, EStateM.bind] at h ⊢
  rw [h]

theorem hget_run_of_hash? (h : t.keyspace.hash? k t.now = .ok o) :
    (hget k f).run t = .ok ((o.getD KeyMap.empty).find? f) t := by
  cases o <;> simp [hget, h, ofExcept, EStateM.run, bind, EStateM.bind, get, getThe,
    MonadStateOf.get, EStateM.get, pure, EStateM.pure, KeyMap.empty, KeyMap.find?, KeyMap.lookup]

/-- Setting a field at a key that holds a live hash, or nothing live. -/
theorem hset_run_of_hash? (h : t.keyspace.hash? k t.now = .ok o) :
    ∃ b t', (hset k f v).run t = .ok b t' ∧ t'.now = t.now ∧
      Keyspace.AgreeOff k t.keyspace t'.keyspace ∧
      t'.keyspace.hash? k t.now = .ok (some ((o.getD KeyMap.empty).insert f v)) := by
  obtain ⟨ks', happly, hoff, hh⟩ := Keyspace.apply_hset_of_hash? h f v
  have hrun : (hset k f v).run t = .ok (((o.getD KeyMap.empty).find? f).isNone)
      ⟨ks', t.now, Undo.forWrite (t.keyspace.raw? k) (.hset k f v) t.now :: t.undo,
        t.ops ++ [.hset k f v]⟩ := by
    rw [hset, run_bind_of_ok (hget_run_of_hash? h)]
    simp [write, WriteOp.key, happly, ofExcept, EStateM.run, bind, EStateM.bind, get, getThe,
      MonadStateOf.get, EStateM.get, pure, EStateM.pure, set, EStateM.set, MonadStateOf.set]
  exact ⟨_, _, hrun, rfl, hoff, hh⟩

theorem zscore_run_of_sortedSet? {zo : Option SortedSet} {m : String}
    (h : t.keyspace.sortedSet? k t.now = .ok zo) :
    (zscore k m).run t = .ok (zo.bind (·.score? m)) t := by
  simp [zscore, sortedSet?, h, ofExcept, EStateM.run, bind, EStateM.bind, get, getThe,
    MonadStateOf.get, EStateM.get, pure, EStateM.pure]

/-- Setting a member's score at a key that holds a live sorted set, or nothing live. -/
theorem zadd_run_of_sortedSet? {zo : Option SortedSet} {m : String} {s : Int}
    (h : t.keyspace.sortedSet? k t.now = .ok zo) :
    ∃ b t', (zadd k m s false).run t = .ok b t' ∧ t'.now = t.now ∧
      Keyspace.AgreeOff k t.keyspace t'.keyspace ∧
      ∃ z', t'.keyspace.sortedSet? k t.now = .ok (some z') ∧ z'.score? m = some s := by
  obtain ⟨ks', z', happly, hoff, hz, hs⟩ := Keyspace.apply_zset_of_sortedSet? h m s
  have hrun : (zadd k m s false).run t = .ok ((zo.bind (·.score? m)).isNone)
      ⟨ks', t.now, Undo.forWrite (t.keyspace.raw? k) (.zset k m s) t.now :: t.undo,
        t.ops ++ [.zset k m s]⟩ := by
    rw [zadd, run_bind_of_ok (zscore_run_of_sortedSet? h)]
    simp [write, WriteOp.key, happly, ofExcept, EStateM.run, bind, EStateM.bind, get, getThe,
      MonadStateOf.get, EStateM.get, pure, EStateM.pure, set, EStateM.set, MonadStateOf.set]
  exact ⟨_, _, hrun, rfl, hoff, z', hz, hs⟩

/-- Removing a member at a key that holds a live sorted set, or nothing live: it says whether
the member was there, and writes only if it was. -/
theorem zrem_run_of_sortedSet? {zo : Option SortedSet} {m : String}
    (h : t.keyspace.sortedSet? k t.now = .ok zo) :
    ∃ t', (zrem k m).run t = .ok (zo.bind (·.score? m)).isSome t' ∧ t'.now = t.now ∧
      Keyspace.AgreeOff k t.keyspace t'.keyspace ∧
      (∃ zo', t'.keyspace.sortedSet? k t.now = .ok zo') ∧
      ((zo.bind (·.score? m)).isNone → t' = t) := by
  cases hm : zo.bind (·.score? m) with
  | none =>
    refine ⟨t, ?_, rfl, Keyspace.AgreeOff.refl _ _, ⟨zo, h⟩, fun _ => rfl⟩
    rw [zrem, run_bind_of_ok (zscore_run_of_sortedSet? h), hm]
    rfl
  | some sc =>
    obtain ⟨ks', zo', happly, hoff, hz⟩ := Keyspace.apply_zrem_of_sortedSet? h m
    refine ⟨⟨ks', t.now, Undo.forWrite (t.keyspace.raw? k) (.zrem k m) t.now :: t.undo,
      t.ops ++ [.zrem k m]⟩, ?_, rfl, hoff, ⟨zo', hz⟩, by simp⟩
    rw [zrem, run_bind_of_ok (zscore_run_of_sortedSet? h), hm]
    simp [write, WriteOp.key, happly, ofExcept, EStateM.run, bind, EStateM.bind, get, getThe,
      MonadStateOf.get, EStateM.get, pure, EStateM.pure, set, EStateM.set, MonadStateOf.set]

/-- A hash that holds a field is a hash, not nothing. -/
theorem eq_some_of_find? {w : String} (h : (o.getD KeyMap.empty).find? f = some w) :
    o = some (o.getD KeyMap.empty) := by
  cases o with
  | none => simp [KeyMap.empty, KeyMap.find?, KeyMap.lookup] at h
  | some _ => rfl

/-- Setting a field, where absent, at a key that holds a live hash or nothing live. -/
theorem hsetnx_run_of_hash? (h : t.keyspace.hash? k t.now = .ok o) :
    ∃ b t', (hsetnx k f v).run t = .ok b t' ∧ t'.now = t.now ∧
      Keyspace.AgreeOff k t.keyspace t'.keyspace ∧
      t'.keyspace.hash? k t.now = .ok (some ((o.getD KeyMap.empty).fill f v)) := by
  cases hf : (o.getD KeyMap.empty).find? f with
  | some w =>
    -- the field is there: nothing is written
    refine ⟨false, t, ?_, rfl, Keyspace.AgreeOff.refl _ _, ?_⟩
    · rw [hsetnx, run_bind_of_ok (hget_run_of_hash? h), hf]
      rfl
    · rw [h, KeyMap.fill, hf, Option.isSome_some, if_pos rfl]
      exact congrArg _ (eq_some_of_find? hf)
  | none =>
    obtain ⟨b, t', hrun, hnow, hoff, hh⟩ := hset_run_of_hash? (f := f) (v := v) h
    refine ⟨b, t', ?_, hnow, hoff, by rw [hh, KeyMap.fill, hf]; rfl⟩
    rw [hsetnx, run_bind_of_ok (hget_run_of_hash? h), hf]
    exact hrun

end Transaction

namespace Template

open Transaction

variable {inv : Invocation} {key : String}

/-- A step that writes one field of the hash at the first key slot, named by a literal and
valued by an argument, with `write`: from any state where that key reads as a hash or as
nothing, it goes on with its flag set and the field written, and changes no other key. -/
def WritesField (inv : Invocation) (key : String) (mk : String → Nat → Step)
    (write : KeyMap String → String → String → KeyMap String) : Prop :=
  ∀ f i v fr t o, inv.args[i]? = some v → t.keyspace.hash? key t.now = .ok o →
    ∃ b t', (runStep inv (mk f i) fr).run t = .ok (.next, { fr with last := b }) t' ∧
      t'.now = t.now ∧ Keyspace.AgreeOff key t.keyspace t'.keyspace ∧
      t'.keyspace.hash? key t.now = .ok (some (write (o.getD KeyMap.empty) f v))

theorem writesField_hset (hk : inv.keys[0]? = some key) :
    WritesField inv key (fun f i => .hset (.slot 0) (.lit f) (.arg i)) KeyMap.insert := by
  intro f i v fr t o hv h
  obtain ⟨b, t', hrun, hnow, hoff, hh⟩ := hset_run_of_hash? (f := f) (v := v) h
  refine ⟨true, t', ?_, hnow, hoff, hh⟩
  simp only [runStep, Invocation.key, Invocation.value, Invocation.arg, hk, hv, liftM, monadLift,
    MonadLift.monadLift, Transaction.ofExcept, pure_bind]
  rw [run_bind_of_ok hrun]
  rfl

theorem writesField_hsetnx (hk : inv.keys[0]? = some key) :
    WritesField inv key (fun f i => .hsetnx (.slot 0) (.lit f) (.arg i)) KeyMap.fill := by
  intro f i v fr t o hv h
  obtain ⟨b, t', hrun, hnow, hoff, hh⟩ := hsetnx_run_of_hash? (f := f) (v := v) h
  refine ⟨b, t', ?_, hnow, hoff, hh⟩
  simp only [runStep, Invocation.key, Invocation.value, Invocation.arg, hk, hv, liftM, monadLift,
    MonadLift.monadLift, Transaction.ofExcept, pure_bind]
  rw [run_bind_of_ok hrun]
  rfl

/-- Field writes in turn, each naming its field and the argument that holds its value, write
the fields in turn and go on to whatever steps follow. -/
theorem runSteps_writesField {mk : String → Nat → Step}
    {write : KeyMap String → String → String → KeyMap String} (hw : WritesField inv key mk write)
    {ps : List (String × Nat)} {qs : List (String × String)}
    (hq : List.Forall₂ (fun p q => p.1 = q.1 ∧ inv.args[p.2]? = some q.2) ps qs)
    (fr : Frame) {t : Transaction} {o : Option (KeyMap String)}
    (h : t.keyspace.hash? key t.now = .ok o) :
    ∃ fr' t', (∀ rest, (runSteps inv ((ps.map fun p => mk p.1 p.2) ++ rest) fr).run t =
        (runSteps inv rest fr').run t') ∧
      fr'.status = fr.status ∧ fr'.current = fr.current ∧ t'.now = t.now ∧
      Keyspace.AgreeOff key t.keyspace t'.keyspace ∧
      t'.keyspace.hash? key t.now = .ok (KeyMap.writeFields write o qs) := by
  induction hq generalizing t o fr with
  | nil => exact ⟨fr, t, fun _ => rfl, rfl, rfl, rfl, Keyspace.AgreeOff.refl _ _, h⟩
  | @cons p q ps qs hpq _ ih =>
    obtain ⟨b, t₁, hrun, hnow, hoff, hh⟩ := hw p.1 p.2 q.2 fr t o hpq.2 h
    rw [hpq.1, ← hnow] at hh
    obtain ⟨fr', t', hrest, hst, hcur, hnow', hoff', hh'⟩ := ih { fr with last := b } hh
    refine ⟨fr', t', fun rest => ?_, hst, hcur, hnow'.trans hnow, hoff.trans hoff', ?_⟩
    · rw [List.map_cons, List.cons_append, runSteps_cons, run_bind_of_ok hrun]
      exact hrest rest
    · rw [hnow] at hh'
      exact hh'

/-- Giving the key of the first slot the lifetime held by an argument. -/
theorem runStep_expire_eq {n : Nat} {secs : Int} (hk : inv.keys[0]? = some key)
    (hs : inv.args[n]? = some (toString secs)) (hi : Text.InI64 secs) (fr : Frame) :
    runStep inv (.expire (.slot 0) (.arg n)) fr =
      (do let b ← expire key secs; pure (Flow.next, { fr with last := b })) := by
  have hint : inv.int (.arg n) = .ok secs := by
    simp only [Invocation.int, Invocation.value, Invocation.arg, hs, bind, Except.bind,
      parseInt_toString, if_pos hi]
  simp only [runStep, Invocation.key, hk, hint, liftM, monadLift, MonadLift.monadLift,
    Transaction.ofExcept, pure_bind]

/-- The fields named by argument slots from `n` on, each paired with the argument given there. -/
theorem forall₂_zipIdx_zip {args : List String} :
    ∀ (names vals : List String) (n : Nat), names.length = vals.length →
      (∀ j (hj : j < vals.length), args[n + j]? = some vals[j]) →
      List.Forall₂ (fun p q => p.1 = q.1 ∧ args[p.2]? = some q.2) (names.zipIdx n)
        (names.zip vals)
  | [], _, _, _, _ => .nil
  | f :: names, [], _, hlen, _ => absurd hlen (by simp)
  | f :: names, v :: vals, n, hlen, hargs => by
    have h0 := hargs 0 (by simp)
    rw [Nat.add_zero, List.getElem_cons_zero] at h0
    refine .cons ⟨rfl, h0⟩
      (forall₂_zipIdx_zip names vals (n + 1) (by simpa using hlen) fun j hj => ?_)
    have h1 := hargs (j + 1) (by simpa using hj)
    rwa [List.getElem_cons_succ, ← Nat.add_assoc, Nat.add_right_comm] at h1

/-- A template that writes the fields named by its argument slots, then gives the key the
lifetime of its last argument, leaves the key holding the written hash with that lifetime, at
a key that held a hash or nothing live; no other key changes, and it answers 0. -/
theorem run_writeFields_expire (key : String) (vals : List String) {tm : Template}
    {names : List String} {secs : Int}
    {mk : String → Nat → Step} {write : KeyMap String → String → String → KeyMap String}
    (hsteps : tm.steps =
      (names.zipIdx.map fun p => mk p.1 p.2) ++ [.expire (.slot 0) (.arg names.length)])
    (harity : tm.checkArity [key] (vals ++ [toString secs]) = .ok ())
    (hw : WritesField ⟨[key], vals ++ [toString secs]⟩ key mk write)
    (hlen : names.length = vals.length) (hne : names ≠ []) (hs : 0 < secs)
    (hi : Text.InI64 secs) {t : Transaction} {o : Option (KeyMap String)}
    (h : t.keyspace.hash? key t.now = .ok o) :
    ∃ H t', KeyMap.writeFields write o (names.zip vals) = some H ∧
      (tm.run [key] (vals ++ [toString secs])).run t = .ok 0 t' ∧ t'.now = t.now ∧
      t'.keyspace =
        t.keyspace.put key ⟨.hash H, some (min (t.now + secs.toNat * 1000) Text.u64Max)⟩ := by
  have hq := @forall₂_zipIdx_zip (vals ++ [toString secs]) names vals 0 hlen
    fun j hj => by simp [List.getElem?_append_left hj]
  obtain ⟨fr, t₁, hrun, hst, -, hnow, hoff, hh⟩ :=
    runSteps_writesField hw hq {} h
  obtain ⟨H, hH⟩ : ∃ H, KeyMap.writeFields write o (names.zip vals) = some H := by
    obtain ⟨f, names⟩ := names
    · exact absurd rfl hne
    obtain ⟨v, vals⟩ := vals
    · exact absurd hlen (by simp)
    exact Option.isSome_iff_exists.1 (KeyMap.writeFields_cons_isSome _ _ _ _)
  rw [hH, ← hnow] at hh
  obtain ⟨d, hget⟩ := Keyspace.get?_of_hash? hh
  obtain ⟨t₂, hexp, hnow₂, hks₂⟩ := Transaction.expire_run hget hs
  have hlast : (vals ++ [toString secs])[names.length]? = some (toString secs) := by
    simp [hlen]
  have hsteps_run : (runSteps ⟨[key], vals ++ [toString secs]⟩ tm.steps {}).run t =
      .ok (.next, { fr with last := true }) t₂ := by
    rw [hsteps, hrun, runSteps_cons, runStep_expire_eq rfl hlast hi, bind_assoc,
      run_bind_of_ok hexp]
    simp only [pure_bind, runSteps_nil]
    rfl
  refine ⟨H, t₂, hH, ?_, hnow₂.trans hnow, ?_⟩
  · rw [run, harity]
    simp only [liftM_eq_ofExcept, ofExcept_ok, pure_bind]
    rw [run_bind_of_ok hsteps_run]
    show EStateM.Result.ok fr.status t₂ = _
    rw [hst]
  · rw [hks₂, hnow]
    exact Keyspace.put_of_agreeOff hoff _

theorem exists?_run (t : Transaction) (k : String) :
    (exists? k).run t = .ok (t.keyspace.contains k t.now) t := rfl

/-- Refreshing a ranking score with the counter key live: a ranked member takes the new score
and an unranked one stays out; only the ranking key changes, and the script answers 0. -/
theorem run_refreshRanking {t : Transaction} {counter rk m : String} {score : Int}
    (hlive : t.keyspace.contains counter t.now = true) (hi : Text.InI64 score)
    {zo : Option SortedSet} (hz : t.keyspace.sortedSet? rk t.now = .ok zo) :
    ∃ t', (Catalog.refreshRanking.run [counter, rk] [m, toString score]).run t = .ok 0 t' ∧
      t'.now = t.now ∧ Keyspace.AgreeOff rk t.keyspace t'.keyspace ∧
      t'.keyspace.scoreAt t.now rk m = .ok ((zo.bind (·.score? m)).map fun _ => score) := by
  have hint : Invocation.int ⟨[counter, rk], [m, toString score]⟩ (.arg 1) = .ok score := by
    simp only [Invocation.int, Invocation.value, Invocation.arg, List.getElem?_cons_succ,
      List.getElem?_cons_zero, bind, Except.bind, parseInt_toString, if_pos hi]
  obtain ⟨t₁, hrem, hnow₁, hoff₁, ⟨zo₁, hz₁⟩, hsame⟩ := zrem_run_of_sortedSet? (m := m) hz
  -- the counter key is live, so the first step goes on; the second removes the member
  have hfirst : (runStep ⟨[counter, rk], [m, toString score]⟩
      (.when (.absent (Catalog.k 0)) [.ret 2]) {}).run t = .ok (.next, {}) t := by
    simp only [runStep, Catalog.k, Invocation.key, List.getElem?_cons_zero,
      liftM_eq_ofExcept, ofExcept_ok, pure_bind]
    rw [run_bind_of_ok (exists?_run t counter), hlive]
    rfl
  have hsecond : (runStep ⟨[counter, rk], [m, toString score]⟩
      (.zrem (Catalog.k 1) (Catalog.a 0)) {}).run t =
      .ok (.next, { last := (zo.bind (·.score? m)).isSome }) t₁ := by
    simp only [runStep, Catalog.k, Catalog.a, Invocation.key, Invocation.value, Invocation.arg,
      List.getElem?_cons_zero, List.getElem?_cons_succ, liftM_eq_ofExcept, ofExcept_ok, pure_bind]
    rw [run_bind_of_ok hrem]
    rfl
  have hcheck : Catalog.refreshRanking.checkArity [counter, rk] [m, toString score] = .ok () := rfl
  -- the score is written back only if the member was there
  have hthird : ∀ b t₂ (hadd : (zadd rk m score false).run t₁ = .ok b t₂),
      (runStep ⟨[counter, rk], [m, toString score]⟩
        (.when .changed [.zadd (Catalog.k 1) (Catalog.a 0) (Catalog.a 1) false])
        { last := true }).run t₁ = .ok (.next, { last := b }) t₂ := by
    intro b t₂ hadd
    simp only [runStep, Catalog.k, Catalog.a, Invocation.key, Invocation.value, Invocation.arg,
      List.getElem?_cons_zero, List.getElem?_cons_succ, hint, liftM_eq_ofExcept, ofExcept_ok,
      pure_bind, if_true, runSteps_cons, runSteps_nil, bind_assoc]
    rw [run_bind_of_ok hadd]
    rfl
  cases hm : zo.bind (·.score? m) with
  | none =>
    -- the member was not ranked: nothing is written
    have ht₁ : t₁ = t := hsame (by rw [hm]; rfl)
    subst ht₁
    refine ⟨t₁, ?_, rfl, Keyspace.AgreeOff.refl _ _, ?_⟩
    · rw [hm] at hsecond
      have hsteps : (runSteps ⟨[counter, rk], [m, toString score]⟩ Catalog.refreshRanking.steps
          {}).run t₁ = .ok (.next, { last := false }) t₁ := by
        show (runSteps _ [_, _, _] {}).run t₁ = _
        rw [runSteps_cons, run_bind_of_ok hfirst]
        dsimp only
        rw [runSteps_cons, run_bind_of_ok hsecond]
        dsimp only
        simp only [runSteps_cons, runStep, Option.isSome_none, runSteps_nil]
        rfl
      rw [run, hcheck]
      simp only [liftM_eq_ofExcept, ofExcept_ok, pure_bind]
      rw [run_bind_of_ok hsteps]
      rfl
    · simp [Keyspace.scoreAt, hz, hm, Except.map]
  | some sc =>
    rw [← hnow₁] at hz₁
    obtain ⟨b, t₂, hadd, hnow₂, hoff₂, z', hz', hs'⟩ :=
      zadd_run_of_sortedSet? (m := m) (s := score) hz₁
    refine ⟨t₂, ?_, hnow₂.trans hnow₁, hoff₁.trans hoff₂, ?_⟩
    · rw [hm, Option.isSome_some] at hsecond
      have hsteps : (runSteps ⟨[counter, rk], [m, toString score]⟩ Catalog.refreshRanking.steps
          {}).run t = .ok (.next, { last := b }) t₂ := by
        show (runSteps _ [_, _, _] {}).run t = _
        rw [runSteps_cons, run_bind_of_ok hfirst]
        dsimp only
        rw [runSteps_cons, run_bind_of_ok hsecond]
        dsimp only
        rw [runSteps_cons, run_bind_of_ok (hthird b t₂ hadd)]
        dsimp only
        rw [runSteps_nil]
        rfl
      rw [run, hcheck]
      simp only [liftM_eq_ofExcept, ofExcept_ok, pure_bind]
      rw [run_bind_of_ok hsteps]
      rfl
    · rw [hnow₁] at hz'
      simp [Keyspace.scoreAt, hz', hs', Except.map]

end Template

namespace Catalog

theorem refresh_steps (name : String) (keys args : List String) :
    (refresh name keys args).steps =
      (args.dropLast.zipIdx.map fun p => .hset (.slot 0) (.lit p.1) (.arg p.2)) ++
        [.expire (.slot 0) (.arg args.dropLast.length)] := by
  rw [List.length_dropLast]
  rfl

theorem rehydrate_steps (name : String) (keys args : List String) :
    (rehydrate name keys args).steps =
      (args.dropLast.zipIdx.map fun p => .hsetnx (.slot 0) (.lit p.1) (.arg p.2)) ++
        [.expire (.slot 0) (.arg args.dropLast.length)] := by
  rw [List.length_dropLast]
  rfl

end Catalog

end CounterCache
