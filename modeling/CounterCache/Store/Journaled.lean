import CounterCache.Journal.Directory
import CounterCache.Options
import CounterCache.Store.Transaction

/-!
# A store with a journal

A store is a keyspace and, when it is durable, a journal. Every unit of work runs in one
transaction; a unit that fails is rolled back, and a unit that succeeds appends its
batch to the journal, if it wrote anything, before its writes count as done. When the journal's
current file reaches the checkpoint threshold, the live keyspace is checkpointed into the next
file.

Opening a durable store replays its journal: a checkpoint starts over from an empty keyspace, a
batch is applied at its own time, and a batch that fails part way is skipped from that point on,
keeping the operations before the failure. A payload that does not decode as a batch fails the
whole opening.
-/

namespace CounterCache

open CounterCache.Journal

/-- A keyspace with its journal, if the store is durable, and the journal size that triggers a
checkpoint (`0` for never). -/
structure Store where
  keyspace : Keyspace := {}
  journal : Option Journal.Journal := none
  checkpointThreshold : Nat := 0
  deriving Repr, Inhabited

namespace Store

/-- Replays journal records into a keyspace. -/
def replay (ks : Keyspace) : List Record → Except Error Keyspace
  | [] => .ok ks
  | r :: rest =>
    match WriteBatch.decode? r.data with
    | .error e => .error e
    | .ok b =>
      let ks := if r.kind = .checkpoint then Keyspace.empty else ks
      replay (ks.applyBatch b).1 rest

/-- Opens the durable store of a directory: the journal's records replayed from nothing. -/
def openDir (d : Directory) (threshold : Nat) : Except Error Store := do
  let (j, records) ← Journal.open d
  let ks ← replay Keyspace.empty records
  return ⟨ks, some j, threshold⟩

/-- Opens the durable store of a directory that may be missing, named `path` in messages. A
missing directory is created empty when `create` holds. -/
def openPath (dir : Option Directory) (path : String) (create : Bool) (threshold : Nat) :
    Except Error Store :=
  match dir with
  | some d => openDir d threshold
  | none =>
    if create then openDir {} threshold
    else .error (.notFound ("store directory \"" ++ path ++ "\""))

/-- Opens a store as options say: the options are checked first; without a journal the store
lives in memory, and with one the directory's journal is replayed, a missing directory being
created when the options allow it. -/
def openWith (o : Options) (dir : Option Directory) (path : String) : Except Error Store := do
  o.validate
  if o.useJournal then openPath dir path o.createIfMissing o.checkpointThreshold
  else return { keyspace := .empty }

/-- Closes the store and opens it again: a durable store replays its directory, a store without
a journal comes back empty. -/
def reopen (s : Store) : Except Error Store :=
  match s.journal with
  | some j => openDir j.dir s.checkpointThreshold
  | none => .ok { s with keyspace := .empty }

/-- The size of the journal's current file, `0` without a journal. -/
def journalSize (s : Store) : Nat := (s.journal.map (·.size)).getD 0

/-- Checkpoints the live keyspace at `now`; a store without a journal is unchanged. -/
def checkpoint (s : Store) (now : Nat) : Store :=
  { s with journal := s.journal.map fun j => j.checkpoint (s.keyspace.snapshot now) }

/-- Checkpoints when the journal has reached the threshold. -/
def maybeCheckpoint (s : Store) (now : Nat) : Store :=
  if s.checkpointThreshold > 0 ∧ s.journalSize ≥ s.checkpointThreshold then s.checkpoint now
  else s

/-- Runs one unit of work at `now`. On success the batch is journaled, if not empty, and the
writes kept; on failure the transaction is rolled back and the journal left alone. -/
def atomically {α : Type} (s : Store) (now : Nat) (act : TxnM α) :
    Except Error (α × WriteBatch) × Store :=
  match Transaction.atomically s.keyspace now act with
  | (.error e, ks) => (.error e, { s with keyspace := ks })
  | (.ok (a, b), ks) =>
    let j := s.journal.map fun j => if b.ops.isEmpty then j else j.append b
    (.ok (a, b), ({ s with keyspace := ks, journal := j } : Store).maybeCheckpoint now)

/-- Removes expired entries; the number removed. -/
def purge (s : Store) (now : Nat) : Store × Nat :=
  let (ks, n) := s.keyspace.purgeExpired now
  ({ s with keyspace := ks }, n)

/-- The live keyspace as an image, written as bytes, read back and restored into an empty
keyspace: the image, its size in bytes and the restored keyspace. -/
def imageRoundTrip (ks : Keyspace) (now : Nat) : Except Error (WriteBatch × Nat × Keyspace) := do
  let image := ks.snapshot now
  let bytes := image.encode
  let back ← WriteBatch.decode? bytes
  return (image, bytes.length, (Keyspace.empty.applyBatch back).1)

theorem atomically_error {α : Type} (s : Store) (now : Nat) (act : TxnM α) (e : Error)
    (ks : Keyspace) (h : Transaction.atomically s.keyspace now act = (.error e, ks)) :
    s.atomically now act = (.error e, { s with keyspace := ks }) := by
  simp [atomically, h]

end Store

end CounterCache
