import Mathlib
import CounterCache.Proofs.BatchReplay
import CounterCache.Proofs.JournalCheckpoint
import CounterCache.Store.Journaled

/-!
# Reopening a store replays what it did

A durable store journals the batch of every unit of work that commits with writes, and from
time to time checkpoints its live keyspace into a new journal file. This module follows a store
opened on an empty directory through any sequence of units, checkpoints and purges at
non-decreasing times (`StoreStep`), and shows that reopening it at any point replays its journal
to a keyspace with the same live entries as the store's, and to the very same keyspace while
nothing was checkpointed or purged.

The invariant is `Consistent`: the journal is one file of whole records, and their replay is a
keyspace that agrees with the store's on the live entries at the time of the last step. A unit
keeps it because its batch replays its writes (`Transaction.applyBatch_commit`) and a failed
unit rolls back; a checkpoint because its image restores the live entries; a purge because it
removes only expired ones.

The same invariant settles a crash in the middle of a checkpoint: whatever state the crash
leaves (`CheckpointCrash`), reopening gives the live keyspace of the store, and batches appended
afterwards are replayed after it.

Two bounds of the journal format are assumed, as the format has them: every record it writes is
at most `maxRecordSize` bytes and fits its fields (`WriteBatch.Journalable`), and the file
numbers stay below `2 ^ 64`.
-/

namespace CounterCache

open Journal

/-- A batch the journal can hold and read back: it fits the layout, and its record is not over
the reader's limit. -/
def WriteBatch.Journalable (b : WriteBatch) : Prop :=
  b.Fits ∧ b.encode.length ≤ maxRecordSize

instance : DecidablePred WriteBatch.Journalable := fun _ => inferInstanceAs (Decidable (_ ∧ _))

namespace Transaction

/-- A unit of work a script runs: its calls, any of which may fail and be caught, then a commit,
or an error that aborts the unit. -/
def session (cs : List Call) (abort : Option Error) : TxnM Unit := do
  modify (·.performAll cs)
  match abort with
  | some e => throw e
  | none => pure ()

theorem session_run (cs : List Call) (abort : Option Error) (t : Transaction) :
    (session cs abort).run t = match abort with
      | some e => .error e (t.performAll cs)
      | none => .ok () (t.performAll cs) := by
  cases abort <;> rfl

end Transaction

/-! ## Replaying records -/

namespace Store

/-- Replay decodes the first record and applies it, over nothing for a checkpoint, or stops at
its decoding error. -/
theorem replay_cons (ks : Keyspace) (r : Record) (rest : List Record) :
    replay ks (r :: rest) =
      match WriteBatch.decode? r.data with
      | .error e => .error e
      | .ok b => replay ((if r.kind = .checkpoint then Keyspace.empty else ks).applyBatch b).1 rest :=
  rfl

theorem replay_cons_ok {ks : Keyspace} {r : Record} {b : WriteBatch}
    (h : WriteBatch.decode? r.data = .ok b) (rest : List Record) :
    replay ks (r :: rest) =
      replay ((if r.kind = .checkpoint then Keyspace.empty else ks).applyBatch b).1 rest := by
  rw [replay_cons, h]

/-- Replay goes on from the keyspace the records before replayed to. -/
theorem replay_append {ks R : Keyspace} {rs : List Record} (h : replay ks rs = .ok R)
    (rs' : List Record) : replay ks (rs ++ rs') = replay R rs' := by
  induction rs generalizing ks with
  | nil =>
    rw [List.nil_append, Except.ok.inj h]
  | cons r rs ih =>
    cases hb : WriteBatch.decode? r.data with
    | error e =>
      rw [replay_cons, hb] at h
      cases h
    | ok b =>
      rw [replay_cons_ok hb] at h
      rw [List.cons_append, replay_cons_ok hb]
      exact ih h

theorem replay_batchRecord (ks : Keyspace) {b : WriteBatch} (h : b.Fits) :
    replay ks [batchRecord b] = .ok (ks.applyBatch b).1 := by
  have hb : WriteBatch.decode? (batchRecord b).data = .ok b := WriteBatch.decode?_encode h
  rw [replay_cons_ok hb]
  rfl

/-- An image record starts over from an empty keyspace. -/
theorem replay_imageRecord (ks : Keyspace) {image : WriteBatch} (h : image.Fits) :
    replay ks [imageRecord image] = .ok (Keyspace.empty.applyBatch image).1 := by
  have hb : WriteBatch.decode? (imageRecord image).data = .ok image := WriteBatch.decode?_encode h
  rw [replay_cons_ok hb]
  rfl

/-- The image of a keyspace's live entries, replayed over anything, gives back exactly those
entries. -/
theorem replay_snapshot (R₀ ks : Keyspace) {now : Nat} (h : (ks.snapshot now).Fits) :
    replay R₀ [imageRecord (ks.snapshot now)] = .ok (ks.purgeExpired now).1 := by
  rw [replay_imageRecord R₀ h, Keyspace.applyBatch_snapshot]

/-- Batches replay one after the other. -/
theorem replay_batchRecords (ks : Keyspace) {bs : List WriteBatch} (h : ∀ b ∈ bs, b.Fits) :
    replay ks (bs.map batchRecord) = .ok (bs.foldl (fun R b => (R.applyBatch b).1) ks) := by
  induction bs generalizing ks with
  | nil => rfl
  | cons b bs ih =>
    rw [List.map_cons, ← List.singleton_append,
      replay_append (replay_batchRecord ks (h b List.mem_cons_self))]
    exact ih _ fun x hx => h x (List.mem_cons_of_mem b hx)

theorem length_batchRecord {b : WriteBatch} (h : b.Journalable) :
    (batchRecord b).data.length ≤ maxRecordSize := h.2

theorem length_imageRecord {b : WriteBatch} (h : b.Journalable) :
    (imageRecord b).data.length ≤ maxRecordSize := h.2

theorem maybeCheckpoint_eq (s : Store) (now : Nat) :
    s.maybeCheckpoint now = s.checkpoint now ∨ s.maybeCheckpoint now = s := by
  unfold maybeCheckpoint
  split_ifs
  · exact .inl rfl
  · exact .inr rfl

/-- Opening an empty directory starts the journal at an empty file `1`. -/
theorem openDir_empty (threshold : Nat) :
    openDir {} threshold =
      .ok ⟨Keyspace.empty, some ⟨Directory.single 1 [], 1, 0⟩, threshold⟩ := by
  have hnums : ({} : Directory).journalNumbers = [] := by
    simp [Directory.journalNumbers, KeyMap.keys]
  simp [openDir, Journal.open, hnums, recoverFiles, Directory.append, Directory.read?,
    Directory.size, Directory.single, KeyMap.find?]
  rfl

end Store

/-! ## A store's life -/

/-- One step of a store's life, at a time in unix milliseconds. -/
inductive StoreStep where
  /-- A unit of work: its calls, then a commit or an aborting error. -/
  | unit (now : Nat) (cs : List Transaction.Call) (abort : Option Error)
  /-- A checkpoint of the live keyspace. -/
  | checkpoint (now : Nat)
  /-- A purge of the expired entries. -/
  | purge (now : Nat)

namespace StoreStep

/-- The time the step is taken at. -/
def time : StoreStep → Nat
  | .unit now .. | .checkpoint now | .purge now => now

/-- The step is a unit of work. -/
def isUnit : StoreStep → Bool
  | .unit .. => true
  | _ => false

/-- Takes the step. -/
def run (s : Store) : StoreStep → Store
  | .unit now cs abort => (s.atomically now (Transaction.session cs abort)).2
  | .checkpoint now => s.checkpoint now
  | .purge now => (s.purge now).1

/-- What the step may write to the journal fits it: the batch of a unit that commits and the
image of the checkpoint the commit may trigger, or the image of a checkpoint. -/
def Fits (s : Store) : StoreStep → Prop
  | .unit now cs abort => abort = none →
      ((Transaction.begin s.keyspace now).performAll cs).batch.Journalable ∧
        (((Transaction.begin s.keyspace now).performAll cs).keyspace.snapshot now).Journalable
  | .checkpoint now => (s.keyspace.snapshot now).Journalable
  | .purge _ => True

end StoreStep

/-- Takes the steps in turn. -/
def Store.runSteps (s : Store) (steps : List StoreStep) : Store := steps.foldl StoreStep.run s

/-- Every step of a run fits the journal, from the store the step is taken in. -/
def RunFits : Store → List StoreStep → Prop
  | _, [] => True
  | s, st :: rest => st.Fits s ∧ RunFits (st.run s) rest

instance (s : Store) : DecidablePred (StoreStep.Fits s)
  | .unit .. => inferInstanceAs (Decidable (_ → _))
  | .checkpoint _ => inferInstanceAs (Decidable (WriteBatch.Journalable _))
  | .purge _ => inferInstanceAs (Decidable True)

instance decidableRunFits : (s : Store) → (steps : List StoreStep) → Decidable (RunFits s steps)
  | _, [] => isTrue trivial
  | s, st :: rest =>
    have := decidableRunFits (st.run s) rest
    inferInstanceAs (Decidable (st.Fits s ∧ RunFits (st.run s) rest))

/-- Opening reads records that replay to `R'`: the store opened has `R'`, and batches its journal
appends are replayed after it by the next opening. -/
theorem openDir_of_opensTo {d : Directory} {pre : List Record} (hd : OpensTo d pre)
    {R' : Keyspace} (hreplay : Store.replay Keyspace.empty pre = .ok R') (threshold : Nat) :
    ∃ s', Store.openDir d threshold = .ok s' ∧ s'.keyspace = R' ∧
      ∃ j', s'.journal = some j' ∧ ∀ bs : List WriteBatch, (∀ b ∈ bs, b.Journalable) →
        ∃ s'', Store.openDir (bs.foldl (fun j b => j.append b) j').dir threshold = .ok s'' ∧
          s''.keyspace = bs.foldl (fun R b => (R.applyBatch b).1) R' := by
  obtain ⟨j', hopen, hmore⟩ := hd
  refine ⟨⟨R', some j', threshold⟩, ?_, rfl, j', rfl, ?_⟩
  · unfold Store.openDir
    simp only [hopen, bind, Except.bind, hreplay]
    rfl
  intro bs hbs
  obtain ⟨j'', hopen''⟩ := hmore (bs.map batchRecord) (by
    simpa using fun b hb => Store.length_batchRecord (hbs b hb))
  have hfold : bs.foldl (fun j b => j.append b) j' =
      (bs.map batchRecord).foldl Journal.appendRecord j' := by
    simp [List.foldl_map, append_eq_appendRecord]
  have hreplay' := Store.replay_append hreplay (bs.map batchRecord)
  rw [Store.replay_batchRecords R' fun b hb => (hbs b hb).1] at hreplay'
  refine ⟨⟨bs.foldl (fun R b => (R.applyBatch b).1) R', some j'', threshold⟩, ?_, rfl⟩
  unfold Store.openDir
  simp only [hfold, hopen'', bind, Except.bind, hreplay']
  rfl

/-! ## The invariant -/

/-- The store's journal `j` is one file of the whole records `recs`, whose replay `R` agrees
with the store's keyspace on the live entries at `u`, and equals it while `exact` holds and the
journal is still on its first file. -/
structure Consistent (exact : Bool) (u : Nat) (s : Store) (j : Journal) (recs : List Record)
    (R : Keyspace) : Prop where
  journal : s.journal = some j
  dir : j.dir = Directory.single j.number (recs.flatMap Record.encode)
  number_pos : 1 ≤ j.number
  sized : ∀ r ∈ recs, r.data.length ≤ maxRecordSize
  replay : Store.replay Keyspace.empty recs = .ok R
  agree : Keyspace.LiveAgree u R s.keyspace
  exact_eq : exact = true → j.number = 1 → R = s.keyspace

namespace Consistent

variable {exact : Bool} {u : Nat} {s : Store} {j : Journal} {recs : List Record} {R : Keyspace}

theorem mono (h : Consistent exact u s j recs R) {v : Nat} (huv : u ≤ v) :
    Consistent exact v s j recs R :=
  { h with agree := h.agree.mono huv }

theorem weaken (h : Consistent exact u s j recs R) : Consistent false u s j recs R :=
  { h with exact_eq := fun h => absurd h Bool.false_ne_true }

theorem journal_eq (h : Consistent exact u s j recs R) :
    j = ⟨Directory.single j.number (recs.flatMap Record.encode), j.number, j.size⟩ := by
  obtain ⟨dir, n, size⟩ := j
  simp only at h ⊢
  rw [← h.dir]

/-- A checkpoint starts the journal over with the image of the live keyspace. -/
theorem checkpoint (h : Consistent exact u s j recs R) {now : Nat} (hnum : j.number < Text.u64Max)
    (himage : (s.keyspace.snapshot now).Journalable) :
    Consistent exact now (s.checkpoint now) (j.checkpoint (s.keyspace.snapshot now))
      [imageRecord (s.keyspace.snapshot now)] (s.keyspace.purgeExpired now).1 := by
  have hj : j.checkpoint (s.keyspace.snapshot now) =
      ⟨Directory.single (j.number + 1) (imageRecord (s.keyspace.snapshot now)).encode,
        j.number + 1, (imageRecord (s.keyspace.snapshot now)).encode.length⟩ := by
    rw [h.journal_eq]
    exact checkpoint_single hnum _ _ _
  refine ⟨by simp [Store.checkpoint, h.journal], ?_, ?_, ?_, ?_, ?_, ?_⟩
  · rw [hj]
    simp
  · rw [hj]
    simp
  · simpa using Store.length_imageRecord himage
  · exact Store.replay_snapshot _ _ himage.1
  · exact Keyspace.liveAgree_purgeExpired _ _
  · -- the journal has moved to its second file
    intro _ hone
    rw [hj] at hone
    have := h.number_pos
    simp at hone
    omega

/-- Appending a committed batch adds its record, and the replay applies it. -/
theorem append (h : Consistent exact u s j recs R) {now : Nat} (hu : u ≤ now) {t : Transaction}
    (hnow : t.now = now) (hcommit : s.keyspace.applyBatch t.batch = (t.keyspace, none))
    (hfits : t.batch.Journalable) :
    Consistent exact now ⟨t.keyspace, some (j.append t.batch), s.checkpointThreshold⟩
      (j.append t.batch) (recs ++ [batchRecord t.batch]) (R.applyBatch t.batch).1 := by
  have hj : j.append t.batch = ⟨Directory.single j.number
      ((recs ++ [batchRecord t.batch]).flatMap Record.encode), j.number,
      j.size + (batchRecord t.batch).encode.length⟩ := by
    rw [append_eq_appendRecord, h.journal_eq, appendRecord_single]
    simp
  refine ⟨rfl, by rw [hj], by rw [hj]; exact h.number_pos, ?_, ?_, ?_, ?_⟩
  · intro r hr
    rcases List.mem_append.1 hr with hr | hr
    · exact h.sized r hr
    · rw [List.mem_singleton.1 hr]
      exact Store.length_batchRecord hfits
  · rw [Store.replay_append h.replay]
    exact Store.replay_batchRecord R hfits.1
  · -- the replay applies the batch at the unit's time, where the two keyspaces agree
    have hts : t.batch.timestamp = now := hnow
    have hagree := ((h.agree.mono hu).applyOps t.batch.ops).2
    have hk : (s.keyspace.applyOps now t.batch.ops).1 = t.keyspace := by
      have hfst := congrArg Prod.fst hcommit
      rwa [Keyspace.applyBatch, hts] at hfst
    rw [hk] at hagree
    rwa [Keyspace.applyBatch, hts]
  · intro hexact hone
    rw [hj] at hone
    rw [h.exact_eq hexact hone]
    simpa using congrArg Prod.fst hcommit

/-- A unit that commits journals its batch if it wrote anything, and keeps the invariant. -/
theorem commit (h : Consistent exact u s j recs R) {now : Nat} (hu : u ≤ now) {t : Transaction}
    (hnow : t.now = now) (hcommit : s.keyspace.applyBatch t.batch = (t.keyspace, none))
    (hfits : t.batch.Journalable) :
    ∃ j' recs' R', Consistent exact now ⟨t.keyspace,
      s.journal.map (fun j => if t.batch.ops.isEmpty then j else j.append t.batch),
      s.checkpointThreshold⟩ j' recs' R' ∧ j'.number = j.number := by
  rw [h.journal, Option.map_some]
  by_cases hempty : t.batch.ops.isEmpty = true
  · -- nothing was written: the keyspace is the one the unit opened on
    have hsame : t.keyspace = s.keyspace := by
      have hnil : t.batch.ops = [] := List.isEmpty_iff.1 hempty
      have hfst := congrArg Prod.fst hcommit
      rw [Keyspace.applyBatch, hnil, Keyspace.applyOps_nil] at hfst
      exact hfst.symm
    refine ⟨j, recs, R, ?_, rfl⟩
    rw [if_pos hempty, hsame]
    exact { h.mono hu with journal := rfl }
  · rw [if_neg hempty]
    refine ⟨_, _, _, h.append hu hnow hcommit hfits, ?_⟩
    simp [append_eq_appendRecord, Journal.appendRecord]

/-- A unit keeps the invariant: an aborted one rolls back and leaves the journal alone, a
committed one journals its batch and may trigger a checkpoint. -/
theorem unit (h : Consistent exact u s j recs R) {now : Nat} (hu : u ≤ now)
    (cs : List Transaction.Call) (abort : Option Error)
    (hfits : (StoreStep.unit now cs abort).Fits s) (hnum : j.number < Text.u64Max) :
    ∃ j' recs' R', Consistent exact now ((StoreStep.unit now cs abort).run s) j' recs' R' ∧
      j'.number ≤ j.number + 1 := by
  set t := (Transaction.begin s.keyspace now).performAll cs with ht
  have hrun := Transaction.session_run cs abort (Transaction.begin s.keyspace now)
  cases abort with
  | some e =>
    -- the unit rolls back to the keyspace it opened on
    have hback : t.rollback = s.keyspace :=
      Transaction.restoresTo_performAll (Transaction.restoresTo_begin _ _) cs
    have hs : (StoreStep.unit now cs (some e)).run s = s := by
      simp only [StoreStep.run, Store.atomically, Transaction.atomically, hrun]
      rw [← ht, hback]
    rw [hs]
    exact ⟨j, recs, R, h.mono hu, by omega⟩
  | none =>
    obtain ⟨hbatch, himage⟩ := hfits rfl
    obtain ⟨j₁, recs₁, R₁, h₁, hj₁⟩ := h.commit hu (Transaction.now_performAll _ cs)
      (Transaction.replays_performAll s.keyspace now cs) hbatch
    have hs : (StoreStep.unit now cs none).run s = Store.maybeCheckpoint ⟨t.keyspace,
        s.journal.map (fun j => if t.batch.ops.isEmpty then j else j.append t.batch),
        s.checkpointThreshold⟩ now := by
      simp only [StoreStep.run, Store.atomically, Transaction.atomically, hrun]
      rfl
    rw [hs]
    rcases Store.maybeCheckpoint_eq _ now with hc | hc <;> rw [hc]
    · refine ⟨_, _, _, h₁.checkpoint (by omega) himage, ?_⟩
      show j₁.number + 1 ≤ j.number + 1
      omega
    · exact ⟨j₁, recs₁, R₁, h₁, by omega⟩

/-- Step lemma: every step keeps the invariant, at the step's time, and moves the journal on by
at most one file. -/
theorem step (h : Consistent exact u s j recs R) (st : StoreStep) (hu : u ≤ st.time)
    (hfits : st.Fits s) (hnum : j.number < Text.u64Max) :
    ∃ j' recs' R', Consistent (exact && st.isUnit) st.time (st.run s) j' recs' R' ∧
      j'.number ≤ j.number + 1 := by
  cases st with
  | unit now cs abort =>
    have hu' : u ≤ now := hu
    obtain ⟨j', recs', R', h', hj'⟩ := h.unit hu' cs abort hfits hnum
    refine ⟨j', recs', R', ?_, hj'⟩
    simpa only [StoreStep.isUnit, StoreStep.time, Bool.and_true] using h'
  | checkpoint now =>
    have hu' : u ≤ now := hu
    show ∃ j' recs' R', Consistent (exact && false) now (s.checkpoint now) j' recs' R' ∧
      j'.number ≤ j.number + 1
    refine ⟨_, _, _, by simpa only [Bool.and_false] using (h.checkpoint hnum hfits).weaken, ?_⟩
    show j.number + 1 ≤ j.number + 1
    omega
  | purge now =>
    -- purging removes only expired entries, which the replay may keep
    have hagree : Keyspace.LiveAgree now R (s.keyspace.purgeExpired now).1 :=
      (h.agree.mono hu).trans (Keyspace.liveAgree_purgeExpired s.keyspace now).symm
    exact ⟨j, recs, R, ⟨h.journal, h.dir, h.number_pos, h.sized, h.replay, hagree,
      fun hf => absurd hf (by simp [StoreStep.isUnit])⟩, by omega⟩

/-- Run lemma: steps at non-decreasing times from `u` on, each fitting the journal, keep the
invariant at every time from the last step on. -/
theorem runSteps (h : Consistent exact u s j recs R) (steps : List StoreStep)
    (hsorted : (steps.map StoreStep.time).Pairwise (· ≤ ·)) (hu : ∀ st ∈ steps, u ≤ st.time)
    (hfits : RunFits s steps) (hnum : j.number + steps.length < Text.u64Max) :
    ∃ j' recs' R', j'.number ≤ j.number + steps.length ∧
      ∀ T, u ≤ T → (∀ st ∈ steps, st.time ≤ T) →
        Consistent (exact && steps.all StoreStep.isUnit) T (s.runSteps steps) j' recs' R' := by
  induction steps generalizing exact u s j recs R with
  | nil => exact ⟨j, recs, R, by simp, fun T hT _ => by simpa [Store.runSteps] using h.mono hT⟩
  | cons st rest ih =>
    obtain ⟨hfirst, hrest⟩ := List.pairwise_cons.1 hsorted
    have hafter : ∀ st' ∈ rest, st.time ≤ st'.time := fun st' hst' =>
      hfirst _ (List.mem_map_of_mem hst')
    obtain ⟨j₁, recs₁, R₁, h₁, hj₁⟩ :=
      h.step st (hu st List.mem_cons_self) hfits.1 (by simp at hnum; omega)
    obtain ⟨j', recs', R', hj', hrun⟩ :=
      ih h₁ hrest hafter hfits.2 (by simp at hnum; omega)
    refine ⟨j', recs', R', by simp; omega, fun T hT htimes => ?_⟩
    have h' := hrun T (htimes st List.mem_cons_self) fun st' hst' =>
      htimes st' (List.mem_cons_of_mem st hst')
    simpa [Store.runSteps, Bool.and_assoc] using h'

/-- Reopening the store reads its journal file back and replays it. -/
theorem reopen (h : Consistent exact u s j recs R) (hnum : j.number ≤ Text.u64Max) :
    s.reopen = .ok ⟨R, some ⟨Directory.single j.number (recs.flatMap Record.encode), j.number,
      (recs.flatMap Record.encode).length⟩, s.checkpointThreshold⟩ := by
  have hopen := open_single h.sized hnum (t := []) (Or.inl rfl)
  rw [List.append_nil] at hopen
  unfold Store.reopen Store.openDir
  simp only [h.journal, h.dir, hopen, bind, Except.bind, h.replay]
  rfl

/-- A crash in the middle of a checkpoint of the live keyspace at `now` loses nothing live, and
batches journaled after reopening are replayed after what was recovered. -/
theorem crash (h : Consistent exact u s j recs R) {now : Nat} (hu : u ≤ now)
    (hnum : j.number < Text.u64Max) (himage : (s.keyspace.snapshot now).Journalable)
    {d : Directory} (hd : CheckpointCrash j (s.keyspace.snapshot now) d) (threshold : Nat) :
    ∃ s', Store.openDir d threshold = .ok s' ∧ s'.keyspace.live now = s.keyspace.live now ∧
      ∃ j', s'.journal = some j' ∧ ∀ bs : List WriteBatch, (∀ b ∈ bs, b.Journalable) →
        ∃ s'', Store.openDir (bs.foldl (fun j b => j.append b) j').dir threshold = .ok s'' ∧
          s''.keyspace = bs.foldl (fun R b => (R.applyBatch b).1) s'.keyspace := by
  rw [h.journal_eq] at hd
  -- the crash leaves the old records, the old records and the image, or the image alone
  obtain ⟨pre, R', hopens, hreplay, hagree⟩ : ∃ pre R', OpensTo d pre ∧
      Store.replay Keyspace.empty pre = .ok R' ∧ Keyspace.LiveAgree now R' s.keyspace := by
    rcases opensTo_checkpointCrash h.sized (by omega) (Store.length_imageRecord himage) hd with
      hd | hd | hd
    · exact ⟨_, _, hd, h.replay, h.agree.mono hu⟩
    · exact ⟨_, _, hd, by
        rw [Store.replay_append h.replay]; exact Store.replay_snapshot R _ himage.1,
        Keyspace.liveAgree_purgeExpired _ _⟩
    · exact ⟨_, _, hd, Store.replay_snapshot _ _ himage.1, Keyspace.liveAgree_purgeExpired _ _⟩
  obtain ⟨s', hs', hks, j', hj', hmore⟩ := openDir_of_opensTo hopens hreplay threshold
  refine ⟨s', hs', by rw [hks]; exact hagree.live_eq, j', hj', ?_⟩
  rw [hks]
  exact hmore

end Consistent

/-- A store opened on an empty directory: an empty keyspace, and an empty file `1`. -/
theorem consistent_openDir_empty (threshold : Nat) :
    Consistent true 0 ⟨Keyspace.empty, some ⟨Directory.single 1 [], 1, 0⟩, threshold⟩
      ⟨Directory.single 1 [], 1, 0⟩ [] Keyspace.empty :=
  ⟨rfl, rfl, le_refl 1, by simp, rfl, Keyspace.LiveAgree.refl _ _, fun _ _ => rfl⟩

/-- Run lemma from an empty directory: after steps at non-decreasing times that fit the
journal, the store is consistent with its journal at every time from its last step on, exactly
so while every step was a unit. -/
theorem consistent_runSteps {threshold : Nat} {s₀ : Store} {steps : List StoreStep}
    (hopen : Store.openDir {} threshold = .ok s₀)
    (hsorted : (steps.map StoreStep.time).Pairwise (· ≤ ·))
    (hlen : steps.length + 1 < Text.u64Max) (hfits : RunFits s₀ steps) :
    ∃ j recs R, j.number < Text.u64Max ∧ ∀ T, (∀ st ∈ steps, st.time ≤ T) →
      Consistent (steps.all StoreStep.isUnit) T (s₀.runSteps steps) j recs R := by
  rw [Store.openDir_empty, Except.ok.injEq] at hopen
  subst hopen
  obtain ⟨j, recs, R, hnum, hrun⟩ := (consistent_openDir_empty threshold).runSteps steps hsorted
    (fun _ _ => Nat.zero_le _) hfits (by simp only; omega)
  refine ⟨j, recs, R, by simp only at hnum; omega, fun T hT => ?_⟩
  simpa only [Bool.true_and] using hrun T (Nat.zero_le _) hT

/-! ## Reopening after a run -/

/-- Replay reproduces the store. The batch a session commits, applied to the keyspace the
session opened on, succeeds and gives exactly the keyspace it commits, whichever of its calls
failed. And a store opened on an empty directory, after units, checkpoints and purges at
non-decreasing times whose records the journal can hold, reopens to a keyspace with the same
live entries at every time from its last step on; if every step was a unit and no checkpoint
moved the journal off its first file, to the very same keyspace, expired entries included. -/
theorem journal_replays_store :
    (∀ (K : Keyspace) (now : Nat) (cs : List Transaction.Call),
      K.applyBatch ((Transaction.begin K now).performAll cs).commit.2 =
        (((Transaction.begin K now).performAll cs).commit.1, none)) ∧
    ∀ (threshold : Nat) (s₀ : Store) (steps : List StoreStep),
      Store.openDir {} threshold = .ok s₀ →
      (steps.map StoreStep.time).Pairwise (· ≤ ·) → steps.length + 1 < Text.u64Max →
      RunFits s₀ steps →
      ∃ s', (s₀.runSteps steps).reopen = .ok s' ∧
        (∀ T, (∀ st ∈ steps, st.time ≤ T) →
          s'.keyspace.live T = (s₀.runSteps steps).keyspace.live T) ∧
        (steps.all StoreStep.isUnit = true →
          (s₀.runSteps steps).journal.map (·.number) = some 1 →
            s'.keyspace = (s₀.runSteps steps).keyspace) := by
  refine ⟨Transaction.applyBatch_commit, fun threshold s₀ steps hopen hsorted hlen hfits => ?_⟩
  obtain ⟨j, recs, R, hnum, hrun⟩ := consistent_runSteps hopen hsorted hlen hfits
  -- a time no step comes after, to read the facts that hold at every such time
  obtain ⟨T₀, hT₀⟩ : ∃ T₀, ∀ st ∈ steps, st.time ≤ T₀ :=
    ⟨(steps.map StoreStep.time).sum, fun st hst => List.le_sum_of_mem (List.mem_map_of_mem hst)⟩
  have hc := hrun T₀ hT₀
  refine ⟨_, hc.reopen hnum.le, fun T hT => (hrun T hT).agree.live_eq, fun hunits hone => ?_⟩
  have hj : j.number = 1 := by simpa [hc.journal] using hone
  exact hc.exact_eq hunits hj

/-- A key set with a one-second lifetime and purged once expired, then a hash field written. -/
theorem journal_replays_store_example :
    let steps : List StoreStep := [.unit 5 [.set "a" "1", .expire "a" 1] none, .purge 2000,
      .unit 3000 [.hset "h" "f" "v"] none]
    let s₀ : Store := ⟨Keyspace.empty, some ⟨Directory.single 1 [], 1, 0⟩, 0⟩
    Store.openDir {} 0 = .ok s₀ ∧ (steps.map StoreStep.time).Pairwise (· ≤ ·) ∧
      steps.length + 1 < Text.u64Max ∧ RunFits s₀ steps ∧
      ∃ s', (s₀.runSteps steps).reopen = .ok s' ∧
        (∀ T, (∀ st ∈ steps, st.time ≤ T) →
          s'.keyspace.live T = (s₀.runSteps steps).keyspace.live T) ∧
        (steps.all StoreStep.isUnit = true →
          (s₀.runSteps steps).journal.map (·.number) = some 1 →
            s'.keyspace = (s₀.runSteps steps).keyspace) := by
  intro steps s₀
  have hopen : Store.openDir {} 0 = .ok s₀ := Store.openDir_empty 0
  have hsorted : (steps.map StoreStep.time).Pairwise (· ≤ ·) := by decide
  have hlen : steps.length + 1 < Text.u64Max := by decide
  have hfits : RunFits s₀ steps := by decide +kernel
  exact ⟨hopen, hsorted, hlen, hfits, journal_replays_store.2 0 s₀ steps hopen hsorted hlen hfits⟩

/-- Crash during a checkpoint. A store opened on an empty directory runs units, checkpoints and
purges at non-decreasing times, then checkpoints its keyspace as at `now` and crashes at any point
of that checkpoint. Opening the directory the crash left gives a store with the live entries
the keyspace had at `now`, and batches its journal appends are replayed after that keyspace by
the next opening. -/
theorem checkpoint_crash_recovers :
    ∀ (threshold : Nat) (s₀ : Store) (steps : List StoreStep) (now : Nat),
      Store.openDir {} threshold = .ok s₀ →
      (steps.map StoreStep.time).Pairwise (· ≤ ·) → (∀ st ∈ steps, st.time ≤ now) →
      steps.length + 1 < Text.u64Max → RunFits s₀ steps →
      ((s₀.runSteps steps).keyspace.snapshot now).Journalable →
      ∃ j, (s₀.runSteps steps).journal = some j ∧
        ∀ d, CheckpointCrash j ((s₀.runSteps steps).keyspace.snapshot now) d →
          ∃ s', Store.openDir d threshold = .ok s' ∧
            s'.keyspace.live now = (s₀.runSteps steps).keyspace.live now ∧
            ∃ j', s'.journal = some j' ∧
              ∀ bs : List WriteBatch, (∀ b ∈ bs, b.Journalable) →
                ∃ s'', Store.openDir (bs.foldl (fun j b => j.append b) j').dir threshold =
                    .ok s'' ∧
                  s''.keyspace = bs.foldl (fun R b => (R.applyBatch b).1) s'.keyspace := by
  intro threshold s₀ steps now hopen hsorted hnow hlen hfits himage
  obtain ⟨j, recs, R, hnum, hrun⟩ := consistent_runSteps hopen hsorted hlen hfits
  have hc := hrun now hnow
  exact ⟨j, hc.journal, fun d hd => hc.crash le_rfl hnum himage hd threshold⟩

/-- A unit that writes a string and a sorted-set member, a checkpoint, then a crash in the
middle of a second checkpoint. -/
theorem checkpoint_crash_recovers_example :
    let steps : List StoreStep := [.unit 5 [.set "a" "1", .zadd "z" "m" 3 false] none,
      .checkpoint 6]
    let s₀ : Store := ⟨Keyspace.empty, some ⟨Directory.single 1 [], 1, 0⟩, 0⟩
    Store.openDir {} 0 = .ok s₀ ∧ (steps.map StoreStep.time).Pairwise (· ≤ ·) ∧
      (∀ st ∈ steps, st.time ≤ 10) ∧ steps.length + 1 < Text.u64Max ∧ RunFits s₀ steps ∧
      ((s₀.runSteps steps).keyspace.snapshot 10).Journalable ∧
      ∃ j, (s₀.runSteps steps).journal = some j ∧
        ∀ d, CheckpointCrash j ((s₀.runSteps steps).keyspace.snapshot 10) d →
          ∃ s', Store.openDir d 0 = .ok s' ∧
            s'.keyspace.live 10 = (s₀.runSteps steps).keyspace.live 10 ∧
            ∃ j', s'.journal = some j' ∧
              ∀ bs : List WriteBatch, (∀ b ∈ bs, b.Journalable) →
                ∃ s'', Store.openDir (bs.foldl (fun j b => j.append b) j').dir 0 = .ok s'' ∧
                  s''.keyspace = bs.foldl (fun R b => (R.applyBatch b).1) s'.keyspace := by
  intro steps s₀
  have hopen : Store.openDir {} 0 = .ok s₀ := Store.openDir_empty 0
  have hsorted : (steps.map StoreStep.time).Pairwise (· ≤ ·) := by decide
  have hnow : ∀ st ∈ steps, st.time ≤ 10 := by decide
  have hlen : steps.length + 1 < Text.u64Max := by decide
  have hfits : RunFits s₀ steps := by decide +kernel
  have himage : ((s₀.runSteps steps).keyspace.snapshot 10).Journalable := by decide +kernel
  exact ⟨hopen, hsorted, hnow, hlen, hfits, himage,
    checkpoint_crash_recovers 0 s₀ steps 10 hopen hsorted hnow hlen hfits himage⟩

end CounterCache
