import CounterCache.Binary
import CounterCache.Error
import CounterCache.Store.Batch

/-!
# Batches as bytes

A batch is persisted in the fixed-width binary layout: its timestamp, then its operations as a
sequence. An operation is a four-byte tag and its fields in order; the tags follow the order of
the operation kinds (`set` 0 up to `restore` 9). A whole entry is its value, a tag (`str` 0,
`hash` 1, `zset` 2, `set` 3) and the contents, then its optional deadline. A hash is written as
its fields in key order, a sorted set as its (member, score) pairs in ascending order and a set
as its members in order.

Reading a container back takes its elements in the order given, a later element of the same
key or member replacing an earlier one.
-/

namespace CounterCache

open CounterCache.Binary

namespace Value

/-- The bytes of a value: its tag and contents. -/
def encode : Value → List UInt8
  | .str s => u32 0 ++ text s
  | .hash h => u32 1 ++ seq (fun (p : String × String) => text p.1 ++ text p.2) h.entries
  | .zset z => u32 2 ++ seq (fun (p : String × Int) => text p.1 ++ i64 p.2) z.toList
  | .set s => u32 3 ++ seq text s.members

/-- Reads a value. -/
def decode : Reader Value := do
  match ← readTag 4 with
  | 0 => return .str (← readText)
  | 1 => return .hash (KeyMap.ofList (← readSeq do return (← readText, ← readText)))
  | 2 => return .zset (SortedSet.ofList (← readSeq do return (← readText, ← readI64)))
  | _ => return .set (KeySet.ofList (← readSeq readText))

end Value

namespace Entry

/-- The bytes of an entry: its value, then its optional deadline. -/
def encode (e : Entry) : List UInt8 := e.value.encode ++ option u64 e.expiresAt

/-- Reads an entry. -/
def decode : Reader Entry := do
  let v ← Value.decode
  let d ← readOption readU64
  return ⟨v, d⟩

end Entry

namespace WriteOp

/-- The bytes of an operation: its tag, then its fields. -/
def encode : WriteOp → List UInt8
  | .set k v => u32 0 ++ text k ++ text v
  | .hset k f v => u32 1 ++ text k ++ text f ++ text v
  | .hdel k f => u32 2 ++ text k ++ text f
  | .zset k m s => u32 3 ++ text k ++ text m ++ i64 s
  | .zrem k m => u32 4 ++ text k ++ text m
  | .sadd k m => u32 5 ++ text k ++ text m
  | .srem k m => u32 6 ++ text k ++ text m
  | .delete k => u32 7 ++ text k
  | .expireAt k d => u32 8 ++ text k ++ option u64 d
  | .restore k e => u32 9 ++ text k ++ e.encode

/-- Reads an operation. -/
def decode : Reader WriteOp := do
  match ← readTag 10 with
  | 0 => return .set (← readText) (← readText)
  | 1 => return .hset (← readText) (← readText) (← readText)
  | 2 => return .hdel (← readText) (← readText)
  | 3 => return .zset (← readText) (← readText) (← readI64)
  | 4 => return .zrem (← readText) (← readText)
  | 5 => return .sadd (← readText) (← readText)
  | 6 => return .srem (← readText) (← readText)
  | 7 => return .delete (← readText)
  | 8 => return .expireAt (← readText) (← readOption readU64)
  | _ => return .restore (← readText) (← Entry.decode)

end WriteOp

namespace WriteBatch

/-- The bytes of a batch: its timestamp, then its operations. -/
def encode (b : WriteBatch) : List UInt8 := u64 b.timestamp ++ seq WriteOp.encode b.ops

/-- Reads a batch from the front of the bytes; bytes after it are ignored. -/
def decode (bs : List UInt8) : Except DecodeError WriteBatch :=
  (do
    let t ← readU64
    let ops ← readSeq WriteOp.decode
    return (⟨t, ops⟩ : WriteBatch)).run' bs

/-- Reads a batch, failing with the store's serialization error. -/
def decode? (bs : List UInt8) : Except Error WriteBatch :=
  (decode bs).mapError fun e => Error.serialization e.message

end WriteBatch

end CounterCache
