import CounterCache.Decimal.Text
import CounterCache.Decimal.Binary
import CounterCache.Text.Utf8
import CounterCache.Text.GraphemeExtend

/-!
# Reading JSON text with positioned faults

A reader walks the bytes of a JSON document and stops at the first fault, reported as a reason
and a position: the line is one more than the newlines before the fault, the column the bytes
after the last of them. A fault seen by looking at the next byte is placed with that byte
counted; a fault in what was already read is placed right after it.

Numbers are read as a reader of 64-bit fields reads them. Digits that fit an unsigned 64-bit
word give that integer, and a minus sign before digits up to `2 ^ 63` a negative integer. Every
other number (a fraction, an exponent, more digits, `-0`) gives a double: the double of its
significand, multiplied or divided by the double of a power of ten. That is not always the
nearest double, and a number too large for a double is a fault.

Strings accept the JSON escapes. A `\u` escape of a surrogate must pair a leading with a
trailing one, and a control character must be escaped.

Main statement: `skipBlank_offset` says that skipping blanks moves the cursor by exactly the
blanks it drops.
-/

namespace CounterCache.Json

open CounterCache.Decimal

/-- What a reader found where it wanted something else. -/
inductive Found where
  | bool (b : Bool)
  | unsigned (n : Nat)
  | signed (i : Int)
  | float (f : Float)
  | str (s : String)
  | null
  | seq
  | map

/-- A double in a diagnostic: the fewest digits that read back, written positionally while the
decimal exponent `x` of the leading digit has `-5 ≤ x < 16`, a whole number with `.0`, and
otherwise one digit, the rest after a point, and the exponent with its sign. -/
def floatText (f : Float) : String :=
  match classify f with
  | .finite neg 0 _ => signText neg ++ "0.0"
  | .finite neg m e =>
    let (c, p) := shortest m e
    let digits := (toString c).toList
    let x := p + digits.length - 1
    if -5 ≤ x ∧ x < 16 then
      let t := positional c p
      signText neg ++ (if t.contains '.' then t else t ++ ".0")
    else
      let frac := digits.drop 1
      signText neg ++ String.ofList (digits.take 1) ++
        (if frac.isEmpty then "" else "." ++ String.ofList frac) ++
        (if x < 0 then "e-" else "e+") ++ toString x.natAbs
  | .infinite neg => signText neg ++ "inf"
  | .nan _ => "NaN"

/-- A character as a quoted string shows it: the escapes `\t`, `\r`, `\n`, `\0`, `\\` and
`\"`; a grapheme extender or a character that is not printable as `\u` and its hex code in
braces; the rest as itself. -/
def quotedChar (c : Char) : String :=
  match c with
  | '\t' => "\\t"
  | '\r' => "\\r"
  | '\n' => "\\n"
  | '\\' => "\\\\"
  | '"' => "\\\""
  | _ =>
    if c.toNat = 0 then "\\0"
    else if CounterCache.Text.isGraphemeExtend c || !CounterCache.Text.isPrintable c then
      "\\u\x7b" ++ String.ofList (Nat.toDigits 16 c.toNat) ++ "\x7d"
    else c.toString

/-- A string in double quotes, escaped by `quotedChar`. -/
def quoted (s : String) : String :=
  "\"" ++ String.join (s.toList.map quotedChar) ++ "\""

/-- How a finding is named in a diagnostic. -/
def Found.text : Found → String
  | .bool b => "boolean `" ++ (if b then "true" else "false") ++ "`"
  | .unsigned n => "integer `" ++ toString n ++ "`"
  | .signed i => "integer `" ++ toString i ++ "`"
  | .float f => "floating point `" ++ floatText f ++ "`"
  | .str s => "string " ++ quoted s
  | .null => "null"
  | .seq => "sequence"
  | .map => "map"

/-- Why reading failed. -/
inductive Reason where
  | eofValue
  | eofObject
  | eofList
  | eofString
  | expectedColon
  | expectedListCommaOrEnd
  | expectedObjectCommaOrEnd
  | expectedIdent
  | expectedValue
  | invalidEscape
  | invalidNumber
  | numberOutOfRange
  | loneLeadingSurrogate
  | unexpectedEndOfHexEscape
  | controlCharacter
  | keyMustBeString
  | trailingComma
  | trailingCharacters
  /-- A value of the wrong kind: what was found and a description of what was wanted. -/
  | invalidType (found : Found) (expected : String)
  /-- A value of the right kind out of the wanted range. -/
  | invalidValue (found : Found) (expected : String)
  | duplicateField (name : String)

/-- The text of a reason. -/
def Reason.text : Reason → String
  | .eofValue => "EOF while parsing a value"
  | .eofObject => "EOF while parsing an object"
  | .eofList => "EOF while parsing a list"
  | .eofString => "EOF while parsing a string"
  | .expectedColon => "expected `:`"
  | .expectedListCommaOrEnd => "expected `,` or `]`"
  | .expectedObjectCommaOrEnd => "expected `,` or `\x7d`"
  | .expectedIdent => "expected ident"
  | .expectedValue => "expected value"
  | .invalidEscape => "invalid escape"
  | .invalidNumber => "invalid number"
  | .numberOutOfRange => "number out of range"
  | .loneLeadingSurrogate => "lone leading surrogate in hex escape"
  | .unexpectedEndOfHexEscape => "unexpected end of hex escape"
  | .controlCharacter => "control character (\\u0000-\\u001F) found while parsing a string"
  | .keyMustBeString => "key must be a string"
  | .trailingComma => "trailing comma"
  | .trailingCharacters => "trailing characters"
  | .invalidType f e => "invalid type: " ++ f.text ++ ", expected " ++ e
  | .invalidValue f e => "invalid value: " ++ f.text ++ ", expected " ++ e
  | .duplicateField n => "duplicate field `" ++ n ++ "`"

/-- A fault: its reason and the number of bytes before its position. -/
structure Fault where
  reason : Reason
  offset : Nat

/-- The line and column of the position after `offset` bytes of a document. -/
def lineColumn (doc : List UInt8) (offset : Nat) : Nat × Nat :=
  (doc.take offset).foldl (fun (lc : Nat × Nat) (b : UInt8) =>
    if b == 10 then (lc.1 + 1, 0) else (lc.1, lc.2 + 1)) (1, 0)

/-- A fault's diagnostic in a document: its reason and position. -/
def Fault.message (f : Fault) (doc : List UInt8) : String :=
  let (l, c) := lineColumn doc f.offset
  f.reason.text ++ " at line " ++ toString l ++ " column " ++ toString c

/-- A place in a document: the bytes not yet read and the number read. -/
structure Cursor where
  rest : List UInt8
  offset : Nat

/-- Reading a document: the cursor moves on, and a fault ends the reading. -/
abbrev ReadM := StateT Cursor (Except Fault)

/-- A JSON blank: space, tab, line feed or carriage return. -/
def isBlank (b : UInt8) : Bool := b == 32 || b == 9 || b == 10 || b == 13

/-- A decimal digit. -/
def isDigit (b : UInt8) : Bool := 48 ≤ b && b ≤ 57

/-- The value of a digit. -/
def digitValue (b : UInt8) : Nat := b.toNat - 48

/-- The next byte, not read. -/
def peek : ReadM (Option UInt8) := return (← get).rest.head?

/-- Reads one byte, if any is left. -/
def eat : ReadM Unit :=
  modify fun c => match c.rest with
    | [] => c
    | _ :: r => ⟨r, c.offset + 1⟩

/-- Reads the next byte. -/
def next : ReadM (Option UInt8) := do
  let b ← peek
  eat
  return b

/-- Fails at the current position. -/
def fail {α : Type} (r : Reason) : ReadM α := do
  throw ⟨r, (← get).offset⟩

/-- Fails at the position after the next byte, or at the end. -/
def failAhead {α : Type} (r : Reason) : ReadM α := do
  let c ← get
  throw ⟨r, c.offset + (if c.rest.isEmpty then 0 else 1)⟩

/-- Skips blanks: the byte after them, not read. -/
def skipBlank : ReadM (Option UInt8) :=
  modifyGet fun c =>
    let rest := c.rest.dropWhile isBlank
    (rest.head?, ⟨rest, c.offset + (c.rest.length - rest.length)⟩)

theorem skipBlank_offset (c : Cursor) :
    ((skipBlank.run c) : Except Fault (Option UInt8 × Cursor)) =
      .ok ((c.rest.dropWhile isBlank).head?,
        ⟨c.rest.dropWhile isBlank, c.offset + (c.rest.takeWhile isBlank).length⟩) := by
  have hl : c.rest.length = (c.rest.takeWhile isBlank).length +
      (c.rest.dropWhile isBlank).length := by
    rw [← List.length_append, List.takeWhile_append_dropWhile]
  simp only [skipBlank, StateT.run, modifyGet, MonadStateOf.modifyGet, StateT.modifyGet]
  simp only [pure, Except.pure]
  congr 3
  omega

/-- Reads a run of digits. -/
def takeDigits : ReadM (List UInt8) :=
  modifyGet fun c =>
    let ds := c.rest.takeWhile isDigit
    (ds, ⟨c.rest.dropWhile isDigit, c.offset + ds.length⟩)

/-- Reads the bytes of a literal after its first, each of which must match. -/
def literal (bytes : List UInt8) : ReadM Unit :=
  bytes.forM fun b => do
    match ← next with
    | none => fail .eofValue
    | some x => if x == b then pure () else fail .expectedIdent

/-- The greatest unsigned 64-bit word. -/
def wordLimit : Nat := Nat.pow 2 64 - 1

/-- Appends digits to a significand while it fits a 64-bit word: the significand and the digits
left over, the first of which would not fit. -/
def accumulate (sig : Nat) : List UInt8 → Nat × List UInt8
  | [] => (sig, [])
  | d :: ds =>
    let s := sig * 10 + digitValue d
    if s > wordLimit then (sig, d :: ds) else accumulate s ds

/-- Appends exponent digits while the exponent fits a signed 32-bit word. -/
def accumulateExponent (exp : Nat) : List UInt8 → Nat × List UInt8
  | [] => (exp, [])
  | d :: ds =>
    let s := exp * 10 + digitValue d
    if s > Nat.pow 2 31 - 1 then (exp, d :: ds) else accumulateExponent s ds

/-- A number read: an unsigned word, a negative integer, or a double. -/
inductive Number where
  | unsigned (n : Nat)
  | signed (i : Int)
  | float (f : Float)

/-- How a number is named in a diagnostic. -/
def Number.found : Number → Found
  | .unsigned n => .unsigned n
  | .signed i => .signed i
  | .float f => .float f

/-- The double of a power of ten. -/
def pow10 (k : Nat) : Float := ofDecimal false 1 k

/-- `sig · 10 ^ exp` as the double of `sig` multiplied or divided by doubles of powers of ten
up to `10 ^ 308`: a quotient below that range is taken in steps of `10 ^ 308`. A product that
overflows is out of range. -/
def scaleByPow10 (f : Float) (exp : Int) : (fuel : Nat) → Except Reason Float
  | 0 => .ok f
  | fuel + 1 =>
    if exp.natAbs ≤ 308 then
      if exp ≥ 0 then
        let g := f * pow10 exp.natAbs
        if g.isInf then .error .numberOutOfRange else .ok g
      else .ok (f / pow10 exp.natAbs)
    else if f == 0 then .ok f
    else if exp ≥ 0 then .error .numberOutOfRange
    else scaleByPow10 (f / pow10 308) (exp + 308) fuel

/-- The double of `± sig · 10 ^ exp`. -/
def fromParts (positive : Bool) (sig : Nat) (exp : Int) : ReadM Float := do
  match scaleByPow10 (ofInt sig) exp (exp.natAbs / 308 + 2) with
  | .ok f => return if positive then f else -f
  | .error r => fail r

/-- A signed 32-bit exponent sum, saturating. -/
def saturate (x : Int) : Int := max (-(Int.pow 2 31)) (min (Int.pow 2 31 - 1) x)

/-- Reads an exponent, after the significand and a starting exponent: the `e` or `E` is next. -/
def readExponent (positive : Bool) (sig : Nat) (start : Int) : ReadM Float := do
  eat
  let positiveExp ← match ← peek with
    | some 43 => do eat; pure true
    | some 45 => do eat; pure false
    | _ => pure true
  match ← next with
  | none => fail .eofValue
  | some b =>
    if !isDigit b then fail .invalidNumber
    else
      let ds ← takeDigits
      let (exp, left) := accumulateExponent (digitValue b) ds
      match left with
      | [] =>
        fromParts positive sig (saturate (if positiveExp then start + exp else start - exp))
      | _ :: more =>
        if sig ≠ 0 ∧ positiveExp then
          throw ⟨.numberOutOfRange, (← get).offset - more.length⟩
        else return if positive then 0.0 else -0.0

/-- Reads a fraction, after the significand and the exponent its dropped digits make: the point
is next. Digits that no longer fit the significand are read and ignored. -/
def readFraction (positive : Bool) (sig : Nat) (start : Int) : ReadM Float := do
  eat
  let ds ← takeDigits
  if ds.isEmpty then
    match ← peek with
    | some _ => failAhead .invalidNumber
    | none => failAhead .eofValue
  else
    let (sig', left) := accumulate sig ds
    let exp := start - (ds.length - left.length : Nat)
    match ← peek with
    | some 101 | some 69 => readExponent positive sig' exp
    | _ => fromParts positive sig' exp

/-- Reads what follows the integer part of a number whose digits all fit the significand. -/
def afterInteger (positive : Bool) (sig : Nat) : ReadM Number := do
  match ← peek with
  | some 46 => return .float (← readFraction positive sig 0)
  | some 101 | some 69 => return .float (← readExponent positive sig 0)
  | _ =>
    if positive then return .unsigned sig
    else if 0 < sig ∧ sig ≤ Nat.pow 2 63 then return .signed (-(sig : Int))
    else return .float (-(ofInt sig))

/-- Reads a number after its sign. -/
def readNumber (positive : Bool) : ReadM Number := do
  match ← next with
  | none => fail .eofValue
  | some b =>
    if b == 48 then
      if (← peek).any isDigit then failAhead .invalidNumber else afterInteger positive 0
    else if isDigit b then
      let ds ← takeDigits
      match accumulate (digitValue b) ds with
      | (sig, []) => afterInteger positive sig
      | (sig, left) =>
        match ← peek with
        | some 46 => return .float (← readFraction positive sig left.length)
        | some 101 | some 69 => return .float (← readExponent positive sig left.length)
        | _ => return .float (← fromParts positive sig left.length)
    else fail .invalidNumber

/-- The value of a hexadecimal digit. -/
def hexValue (b : UInt8) : Option Nat :=
  if 48 ≤ b ∧ b ≤ 57 then some (b.toNat - 48)
  else if 65 ≤ b ∧ b ≤ 70 then some (b.toNat - 55)
  else if 97 ≤ b ∧ b ≤ 102 then some (b.toNat - 87)
  else none

/-- Reads the four hexadecimal digits of a `\u` escape. -/
def readHex4 : ReadM Nat := do
  let c ← get
  match c.rest with
  | a :: b :: d :: e :: rest =>
    set (⟨rest, c.offset + 4⟩ : Cursor)
    match hexValue a, hexValue b, hexValue d, hexValue e with
    | some w, some x, some y, some z => return ((w * 16 + x) * 16 + y) * 16 + z
    | _, _, _, _ => fail .invalidEscape
  | rest =>
    set (⟨[], c.offset + rest.length⟩ : Cursor)
    fail .eofString

/-- The UTF-8 encoding of a code point. -/
def utf8Bytes (n : Nat) : List UInt8 :=
  if n < 0x80 then [n.toUInt8]
  else if n < 0x800 then [(0xC0 + n / 64).toUInt8, (0x80 + n % 64).toUInt8]
  else if n < 0x10000 then
    [(0xE0 + n / 4096).toUInt8, (0x80 + n / 64 % 64).toUInt8, (0x80 + n % 64).toUInt8]
  else
    [(0xF0 + n / 262144).toUInt8, (0x80 + n / 4096 % 64).toUInt8,
      (0x80 + n / 64 % 64).toUInt8, (0x80 + n % 64).toUInt8]

/-- Requires the next byte of a surrogate pair's second escape. -/
def expectPairByte (b : UInt8) : ReadM Unit := do
  match ← peek with
  | none => fail .eofString
  | some x =>
    eat
    if x == b then pure () else fail .unexpectedEndOfHexEscape

/-- Reads a `\u` escape, after the `u`: the bytes of its character. A leading surrogate must be
followed by an escaped trailing one. -/
def readUnicodeEscape : ReadM (List UInt8) := do
  let n ← readHex4
  if 0xDC00 ≤ n ∧ n ≤ 0xDFFF then fail .loneLeadingSurrogate
  else if n < 0xD800 ∨ n > 0xDBFF then return utf8Bytes n
  else
    expectPairByte 92
    expectPairByte 117
    let n2 ← readHex4
    if n2 < 0xDC00 ∨ n2 > 0xDFFF then fail .loneLeadingSurrogate
    else return utf8Bytes ((n - 0xD800) * 1024 + (n2 - 0xDC00) + 0x10000)

/-- Reads an escape, after the backslash: the bytes it stands for. -/
def readEscape : ReadM (List UInt8) := do
  match ← next with
  | none => fail .eofString
  | some b =>
    match b with
    | 34 => return [34]
    | 92 => return [92]
    | 47 => return [47]
    | 98 => return [8]
    | 102 => return [12]
    | 110 => return [10]
    | 114 => return [13]
    | 116 => return [9]
    | 117 => readUnicodeEscape
    | _ => fail .invalidEscape

/-- Reads the rest of a string, after its opening quote: its bytes, reversed, before `acc`. -/
def readStringBytes (acc : List UInt8) : (fuel : Nat) → ReadM (List UInt8)
  | 0 => fail .eofString
  | fuel + 1 => do
    match ← next with
    | none => fail .eofString
    | some 34 => return acc
    | some 92 => readStringBytes ((← readEscape).reverse ++ acc) fuel
    | some b =>
      if b < 0x20 then fail .controlCharacter
      else readStringBytes (b :: acc) fuel

/-- Reads the rest of a string, after its opening quote. -/
def readString : ReadM String := do
  let fuel := (← get).rest.length + 1
  let bytes ← readStringBytes [] fuel
  return Text.decodeUtf8Lossy bytes.reverse

/-- Skips an escape, after the backslash; a `\u` escape needs only four bytes. -/
def skipEscape : ReadM Unit := do
  match ← next with
  | none => fail .eofString
  | some b =>
    if [34, 92, 47, 98, 102, 110, 114, 116].contains b then pure ()
    else if b == 117 then do let _ ← readHex4
    else fail .invalidEscape

/-- Skips the rest of a string, after its opening quote. A control character is a fault placed
before it. -/
def skipStringBytes : (fuel : Nat) → ReadM Unit
  | 0 => fail .eofString
  | fuel + 1 => do
    match ← peek with
    | none => fail .eofString
    | some 34 => eat
    | some 92 => do eat; skipEscape; skipStringBytes fuel
    | some b =>
      if b < 0x20 then fail .controlCharacter
      else do eat; skipStringBytes fuel

/-- Skips the rest of a string, after its opening quote. -/
def skipString : ReadM Unit := do
  skipStringBytes ((← get).rest.length + 1)

/-- Skips a fraction's or exponent's digits, after the point or `e`. -/
def skipExponent : ReadM Unit := do
  eat
  if (← peek) == some 43 || (← peek) == some 45 then eat
  match ← peek with
  | some b => if isDigit b then do eat; let _ ← takeDigits else do eat; fail .invalidNumber
  | none => fail .invalidNumber

/-- Skips a number, after its sign. -/
def skipNumber : ReadM Unit := do
  match ← peek with
  | some 48 =>
    eat
    if (← peek).any isDigit then failAhead .invalidNumber
  | some b =>
    if isDigit b then do eat; let _ ← takeDigits
    else do eat; fail .invalidNumber
  | none => fail .invalidNumber
  if (← peek) == some 46 then
    eat
    let ds ← takeDigits
    if ds.isEmpty then failAhead .invalidNumber
  match ← peek with
  | some 101 | some 69 => skipExponent
  | _ => pure ()

mutual

/-- Skips one value of any kind. -/
def skipValue : (fuel : Nat) → ReadM Unit
  | 0 => failAhead .eofValue
  | fuel + 1 => do
    match ← skipBlank with
    | none => failAhead .eofValue
    | some b =>
      match b with
      | 110 => do eat; literal [117, 108, 108]
      | 116 => do eat; literal [114, 117, 101]
      | 102 => do eat; literal [97, 108, 115, 101]
      | 45 => do eat; skipNumber
      | 34 => do eat; skipString
      | 91 => do eat; skipListBody fuel
      | 123 => do eat; skipObjectBody fuel
      | _ => if isDigit b then skipNumber else failAhead .expectedValue

/-- Skips a list's elements and its closing bracket, after the opening one. -/
def skipListBody : (fuel : Nat) → ReadM Unit
  | 0 => failAhead .eofList
  | fuel + 1 => do
    match ← skipBlank with
    | none => failAhead .eofList
    | some 93 => eat
    | some _ => do skipValue fuel; skipListRest fuel

/-- Skips the elements after a list's first, and its closing bracket. -/
def skipListRest : (fuel : Nat) → ReadM Unit
  | 0 => failAhead .eofList
  | fuel + 1 => do
    match ← skipBlank with
    | none => failAhead .eofList
    | some 44 => do eat; skipValue fuel; skipListRest fuel
    | some 93 => eat
    | some _ => failAhead .expectedListCommaOrEnd

/-- Skips an object's entries and its closing brace, after the opening one. -/
def skipObjectBody : (fuel : Nat) → ReadM Unit
  | 0 => failAhead .eofObject
  | fuel + 1 => do
    match ← skipBlank with
    | none => failAhead .eofObject
    | some 125 => eat
    | some _ => do skipEntry fuel; skipObjectRest fuel

/-- Skips one entry of an object: a key, a colon and a value. -/
def skipEntry : (fuel : Nat) → ReadM Unit
  | 0 => failAhead .eofObject
  | fuel + 1 => do
    match ← skipBlank with
    | none => failAhead .eofObject
    | some 34 => eat
    | some _ => failAhead .keyMustBeString
    skipString
    match ← skipBlank with
    | none => failAhead .eofObject
    | some 58 => eat
    | some _ => failAhead .expectedColon
    skipValue fuel

/-- Skips the entries after an object's first, and its closing brace. -/
def skipObjectRest : (fuel : Nat) → ReadM Unit
  | 0 => failAhead .eofObject
  | fuel + 1 => do
    match ← skipBlank with
    | none => failAhead .eofObject
    | some 44 => do eat; skipEntry fuel; skipObjectRest fuel
    | some 125 => eat
    | some _ => failAhead .expectedObjectCommaOrEnd

end

/-- Fuel for skipping values in the rest of the document. -/
def skipFuel : ReadM Nat := do
  return 4 * (← get).rest.length + 8

/-- Fails on a value of the wrong kind where `expected` was wanted: the value is read first,
and the fault placed after it. A list or an object is named from its first byte. -/
def unexpected {α : Type} (expected : String) : ReadM α := do
  match ← peek with
  | some 110 => do eat; literal [117, 108, 108]; fail (.invalidType .null expected)
  | some 116 => do eat; literal [114, 117, 101]; fail (.invalidType (.bool true) expected)
  | some 102 => do eat; literal [97, 108, 115, 101]; fail (.invalidType (.bool false) expected)
  | some 45 => do
    eat
    let n ← readNumber false
    fail (.invalidType n.found expected)
  | some 34 => do
    eat
    let s ← readString
    fail (.invalidType (.str s) expected)
  | some 91 => fail (.invalidType .seq expected)
  | some 123 => fail (.invalidType .map expected)
  | some b =>
    if isDigit b then do
      let n ← readNumber true
      fail (.invalidType n.found expected)
    else failAhead .expectedValue
  | none => failAhead .expectedValue

/-- Reads a boolean. -/
def readBool : ReadM Bool := do
  match ← skipBlank with
  | none => failAhead .eofValue
  | some 116 => do eat; literal [114, 117, 101]; return true
  | some 102 => do eat; literal [97, 108, 115, 101]; return false
  | some _ => unexpected "a boolean"

/-- Reads an unsigned 64-bit integer. -/
def readWord : ReadM Nat := do
  let accept (n : Number) : ReadM Nat :=
    match n with
    | .unsigned k => pure k
    | .signed i =>
      if 0 ≤ i then pure i.toNat else fail (.invalidValue (.signed i) "u64")
    | .float f => fail (.invalidType (.float f) "u64")
  match ← skipBlank with
  | none => failAhead .eofValue
  | some 45 => do eat; accept (← readNumber false)
  | some b => if isDigit b then accept (← readNumber true) else unexpected "u64"

/-- Requires the end of the document, blanks aside. -/
def finish : ReadM Unit := do
  match ← skipBlank with
  | none => pure ()
  | some _ => failAhead .trailingCharacters

/-- Reads a whole document with a reader: its result, or the diagnostic of its fault. -/
def readDocument {α : Type} (doc : String) (r : ReadM α) : Except String α :=
  let bytes := doc.toUTF8.data.toList
  match (do let a ← r; finish; return a : ReadM α).run ⟨bytes, 0⟩ with
  | .ok (a, _) => .ok a
  | .error f => .error (f.message bytes)

end CounterCache.Json
