import CounterCache.Text.Utf8

/-!
# Fixed-width binary layout

The layout that write batches are persisted in. Integers are little-endian and of fixed width:
one byte, four bytes for enumeration tags, eight bytes for lengths, unsigned and signed values
(signed ones in two's complement). Text is its UTF-8 length followed by its bytes; a sequence is
its length followed by its elements; an optional value is a `0` byte, or a `1` byte and the value.
Bytes after a decoded value are left to the caller.

Writers produce byte lists; a `Reader` consumes a byte list from the front and fails with a
`DecodeError` that names the first fault.

Main statement: `readLe_le` reads back what `le` writes, for every width and every number that
fits it, whatever bytes follow.
-/

namespace CounterCache.Binary

open CounterCache.Text

/-! ## Writing -/

/-- The `width` low bytes of `n`, least significant first. -/
def le (width n : Nat) : List UInt8 :=
  match width with
  | 0 => []
  | w + 1 => (n % 256).toUInt8 :: le w (n / 256)

/-- A four-byte unsigned number. -/
def u32 (n : Nat) : List UInt8 := le 4 n

/-- An eight-byte unsigned number. -/
def u64 (n : Nat) : List UInt8 := le 8 n

/-- An eight-byte signed number, in two's complement. -/
def i64 (n : Int) : List UInt8 := le 8 (n % (Int.pow 2 64 : Int)).toNat

/-- Text: its byte length, then its UTF-8 bytes. -/
def text (s : String) : List UInt8 := u64 s.utf8ByteSize ++ s.toUTF8.toList

/-- A sequence: its length, then each element. -/
def seq {α : Type} (f : α → List UInt8) (xs : List α) : List UInt8 :=
  u64 xs.length ++ (xs.map f).flatten

/-- An optional value: `0`, or `1` and the value. -/
def option {α : Type} (f : α → List UInt8) : Option α → List UInt8
  | none => [0]
  | some a => 1 :: f a

/-! ## Reading -/

/-- Why bytes do not decode. -/
inductive DecodeError where
  /-- The input ended before the value did. -/
  | endOfInput
  /-- Text bytes that are not UTF-8. -/
  | badText (e : Utf8Error)
  /-- An enumeration tag outside `0 ≤ tag < count`. -/
  | badVariant (tag count : Nat)
  /-- An option tag other than `0` and `1`. -/
  | badTag (tag : Nat)
  deriving DecidableEq, Repr, Inhabited

/-- The text of a decoding failure. -/
def DecodeError.message : DecodeError → String
  | .endOfInput => "io error: unexpected end of file"
  | .badText e => "string is not valid utf8: " ++ e.message
  | .badVariant t n =>
    "invalid value: integer `" ++ toString t ++ "`, expected variant index 0 <= i < " ++ toString n
  | .badTag t => "tag for enum is not valid, found " ++ toString t

/-- A decoder: consumes bytes from the front of the input. -/
abbrev Reader := StateT (List UInt8) (Except DecodeError)

/-- Takes the next `n` bytes. -/
def take (n : Nat) : Reader (List UInt8) := fun bs =>
  if n ≤ bs.length then .ok (bs.take n, bs.drop n) else .error .endOfInput

/-- The number that little-endian bytes encode. -/
def ofLe : List UInt8 → Nat
  | [] => 0
  | b :: rest => b.toNat + 256 * ofLe rest

/-- Reads a little-endian number of the given width. -/
def readLe (width : Nat) : Reader Nat := do
  return ofLe (← take width)

/-- Reads one byte. -/
def readU8 : Reader Nat := readLe 1

/-- Reads a four-byte unsigned number. -/
def readU32 : Reader Nat := readLe 4

/-- Reads an eight-byte unsigned number. -/
def readU64 : Reader Nat := readLe 8

/-- Reads an eight-byte signed number. -/
def readI64 : Reader Int := do
  let n ← readLe 8
  return if n < Nat.pow 2 63 then (n : Int) else (n : Int) - Int.pow 2 64

/-- Reads text: a length, then that many UTF-8 bytes. -/
def readText : Reader String := do
  let n ← readU64
  let bs ← take n
  match decodeUtf8 bs with
  | .ok s => return s
  | .error e => throw (.badText e)

/-- Reads `n` more elements, after the ones in `acc` (kept in reverse). -/
def readMany {α : Type} (elem : Reader α) (acc : List α) : Nat → Reader (List α)
  | 0 => return acc.reverse
  | n + 1 => do
    let a ← elem
    readMany elem (a :: acc) n

/-- Reads a sequence: a length, then the elements. -/
def readSeq {α : Type} (elem : Reader α) : Reader (List α) := do
  let n ← readU64
  readMany elem [] n

/-- Reads an optional value. -/
def readOption {α : Type} (elem : Reader α) : Reader (Option α) := do
  match ← readU8 with
  | 0 => return none
  | 1 => return some (← elem)
  | t => throw (.badTag t)

/-- Reads an enumeration tag below `count`. -/
def readTag (count : Nat) : Reader Nat := do
  let t ← readU32
  if t < count then return t else throw (.badVariant t count)

/-! ## Laws -/

theorem le_length (w n : Nat) : (le w n).length = w := by
  induction w generalizing n with
  | zero => rfl
  | succ w ih => simp [le, ih]

theorem ofLe_le (w n : Nat) (h : n < Nat.pow 256 w) : ofLe (le w n) = n := by
  rw [Nat.pow_eq] at h
  induction w generalizing n with
  | zero => simp at h; simp [le, ofLe, h]
  | succ w ih =>
    have hq : n / 256 < 256 ^ w := by
      rw [Nat.div_lt_iff_lt_mul (by decide)]; rw [Nat.pow_succ] at h; exact h
    simp only [le, ofLe, ih _ hq]
    have hb : (n % 256).toUInt8.toNat = n % 256 := by
      simp [Nat.toUInt8]
    rw [hb]; omega

theorem take_append (bs rest : List UInt8) :
    take bs.length (bs ++ rest) = .ok (bs, rest) := by
  simp [take]

theorem readLe_le (w n : Nat) (rest : List UInt8) (h : n < Nat.pow 256 w) :
    (readLe w).run (le w n ++ rest) = .ok (n, rest) := by
  have ht := take_append (le w n) rest
  rw [le_length] at ht
  have hrun : (take w).run (le w n ++ rest) = .ok (le w n, rest) := ht
  simp only [readLe, StateT.run_bind, hrun, StateT.run_pure]
  simp only [bind, Except.bind, pure, Except.pure, ofLe_le w n h]

end CounterCache.Binary
