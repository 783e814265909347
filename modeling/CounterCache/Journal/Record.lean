import CounterCache.Binary
import CounterCache.Error
import CounterCache.Journal.Checksum

/-!
# Journal records

A journal file is a sequence of records. A record frames one payload: a four-byte checksum of the
kind byte and the payload, the payload's four-byte length, the kind byte (`1` for a batch, `2`
for a checkpoint) and the payload itself; all numbers little-endian.

Reading a file back takes records from the front until the bytes end or a record is damaged: a
header cut short, a length over the limit, a payload cut short, an unknown kind or a checksum
that does not match. Recovery keeps the records before the first damage and reports how many
bytes they span, which is where a torn tail begins.
-/

namespace CounterCache.Journal

open CounterCache.Binary

/-- What a record's payload means on replay. -/
inductive RecordKind where
  /-- The writes of one committed unit. -/
  | batch
  /-- A whole keyspace image: replay starts over from it. -/
  | checkpoint
  deriving DecidableEq, Repr, Inhabited

namespace RecordKind

/-- The kind byte. -/
def code : RecordKind → UInt8
  | .batch => 1
  | .checkpoint => 2

/-- The kind of a kind byte. -/
def ofCode? : UInt8 → Option RecordKind
  | 1 => some .batch
  | 2 => some .checkpoint
  | _ => none

theorem ofCode?_code (k : RecordKind) : ofCode? k.code = some k := by
  cases k <;> rfl

end RecordKind

/-- A framed payload. -/
structure Record where
  kind : RecordKind
  data : List UInt8
  deriving DecidableEq, Repr, Inhabited

/-- Bytes of a record header: checksum, length and kind. -/
def headerSize : Nat := 9

/-- The longest payload a reader accepts. -/
def maxRecordSize : Nat := Nat.pow 2 30

/-- How a record is damaged. -/
inductive Damage where
  /-- Fewer bytes than a header. -/
  | tooShort (n : Nat)
  /-- A kind byte that names no kind. -/
  | badKind (t : Nat)
  /-- Fewer payload bytes than the header announces. -/
  | incomplete (expected got : Nat)
  /-- The stored checksum differs from the computed one. -/
  | checksum (expected got : UInt32)
  /-- A file ends inside a header. -/
  | truncatedHeader (n : Nat)
  /-- A header announces a payload over the limit. -/
  | tooLong (len : Nat)
  /-- A file ends inside a payload. -/
  | truncatedRecord (expected got : Nat)
  deriving DecidableEq, Repr, Inhabited

/-- A number in lowercase hexadecimal after `0x`, without padding. -/
def hex0x (n : Nat) : String :=
  "0x" ++ String.ofList (Nat.toDigits 16 n)

/-- The text of a damage. -/
def Damage.message : Damage → String
  | .tooShort n => "Record too short: " ++ toString n ++ " bytes"
  | .badKind t => "Invalid record type: " ++ toString t
  | .incomplete e g => "Incomplete record: expected " ++ toString e ++ " bytes, got " ++ toString g
  | .checksum e g => "Checksum mismatch: expected " ++ hex0x e.toNat ++ ", got " ++ hex0x g.toNat
  | .truncatedHeader n => "Truncated header: " ++ toString n ++ " bytes"
  | .tooLong n => "Record length " ++ toString n ++ " exceeds limit"
  | .truncatedRecord e g =>
    "Truncated record: expected " ++ toString e ++ " bytes, got " ++ toString g

/-- A damage as a store error. -/
def Damage.toError (d : Damage) : Error := .corruption d.message

namespace Record

/-- The checksum of a record: over the kind byte and the payload. -/
def checksum (k : RecordKind) (data : List UInt8) : UInt32 := crc32 (k.code :: data)

/-- The bytes of a record. -/
def encode (r : Record) : List UInt8 :=
  u32 (checksum r.kind r.data).toNat ++ u32 r.data.length ++ r.kind.code :: r.data

/-- Reads the record at the front of the bytes; bytes after its payload are ignored. -/
def decode (bs : List UInt8) : Except Damage Record :=
  if bs.length < headerSize then .error (.tooShort bs.length)
  else
    let stored := (ofLe (bs.take 4)).toUInt32
    let len := ofLe ((bs.drop 4).take 4)
    let t := bs.getD 8 0
    match RecordKind.ofCode? t with
    | none => .error (.badKind t.toNat)
    | some k =>
      let rest := bs.drop headerSize
      if rest.length < len then .error (.incomplete len rest.length)
      else
        let data := rest.take len
        let expected := checksum k data
        if stored = expected then .ok ⟨k, data⟩ else .error (.checksum expected stored)

end Record

/-- Reads the next record of a file: `none` at a clean end, else the record and the bytes after
it, which are fewer than before. -/
def readNext (bs : List UInt8) :
    Except Damage (Option (Record × { rest : List UInt8 // rest.length < bs.length })) :=
  let header := bs.take headerSize
  if h0 : header.length = 0 then .ok none
  else if header.length < headerSize then .error (.truncatedHeader header.length)
  else
    let len := ofLe ((header.drop 4).take 4)
    if len > maxRecordSize then .error (.tooLong len)
    else
      let body := (bs.drop headerSize).take len
      if body.length < len then .error (.truncatedRecord len body.length)
      else
        match Record.decode (header ++ body) with
        | .error d => .error d
        | .ok r =>
          .ok (some (r, ⟨bs.drop (headerSize + len), by
            have hl : header.length = min headerSize bs.length := List.length_take
            simp only [List.length_drop]
            omega⟩))

/-- Reads records until the end or the first damage: the records read, the damage if one
stopped the reading, and the number of bytes the records span. -/
def readAll (bs : List UInt8) : List Record × Option Damage × Nat :=
  match readNext bs with
  | .ok none => ([], none, 0)
  | .error d => ([], some d, 0)
  | .ok (some (r, ⟨rest, _⟩)) =>
    let (rs, d, n) := readAll rest
    (r :: rs, d, n + (bs.length - rest.length))
termination_by bs.length

/-- The records before the first damage, and the number of bytes they span. -/
def recover (bs : List UInt8) : List Record × Nat :=
  let (rs, _, n) := readAll bs
  (rs, n)

end CounterCache.Journal
