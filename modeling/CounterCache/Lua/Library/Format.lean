import CounterCache.Lua.Library.Args
import CounterCache.Lua.Lexer

/-!
# `string.format`

The format is copied byte by byte, `%%` gives `%`, and every other `%` starts a conversion that
takes the next argument. A conversion has flags among `-+ #0`, a width and a precision of at
most two digits each, and a letter:

* `d i` signed decimal, `u` unsigned decimal, `o x X` unsigned octal and hexadecimal of the
  64-bit integer, `c` the byte with the integer's low eight bits;
* `e E f F g G` a double in decimal, `a A` in hexadecimal, `p` the address of an object (a
  string's follows from its bytes, as equal short strings are one object), or `(null)` for a
  value that has none;
* `s` the value's text as `tostring` gives it, `q` a literal that Lua reads back as the value.

Each letter accepts only some flags, and a width may not start with `0`; anything else is an
`invalid conversion specification`, a specification of 22 or more bytes is `too long`, and an
unknown letter an `invalid conversion`. Padding counts bytes. A `%s` with modifiers needs a
string without zero bytes, and one of 100 bytes or more without a precision is kept whole.

The exact digits of doubles come from `Decimal`; NaN is written `nan` or `-nan` by its sign
bit, and the hexadecimal form writes a subnormal with a leading `0` and exponent `-1022`.
-/

namespace CounterCache.Lua

open CounterCache.Decimal

/-- A conversion specification: its flags, width, precision and letter. -/
structure FormatSpec where
  flags : List UInt8 := []
  width : Nat := 0
  precision : Option Nat := none
  letter : UInt8 := 0x73

namespace FormatSpec

/-- The spec has a flag. -/
def has (s : FormatSpec) (c : Char) : Bool := s.flags.contains c.toNat.toUInt8

/-- Bytes of text. -/
def ascii (t : String) : List UInt8 := t.toUTF8.data.toList

/-- Pads a field to the width: on the right with `-`, with zeros between `pre` and `body` when
`zeroOk` and the `0` flag ask for it, else with blanks on the left. -/
def pad (s : FormatSpec) (pre body : List UInt8) (zeroOk : Bool) : List UInt8 :=
  let len := pre.length + body.length
  let fill := s.width - len
  if s.has '-' then pre ++ body ++ List.replicate fill 0x20
  else if zeroOk && s.has '0' then pre ++ List.replicate fill 0x30 ++ body
  else List.replicate fill 0x20 ++ pre ++ body

/-- The sign of a number: `-` when negative, else `+` or a blank as the flags ask. -/
def sign (s : FormatSpec) (neg : Bool) : List UInt8 :=
  if neg then ascii "-" else if s.has '+' then ascii "+" else if s.has ' ' then ascii " " else []

/-- Digits padded with zeros to the precision; precision zero writes zero as nothing. -/
def withPrecision (s : FormatSpec) (digits : String) (isZero : Bool) : String :=
  match s.precision with
  | some p =>
    if p = 0 ∧ isZero then ""
    else String.ofList (List.replicate (p - digits.length) '0') ++ digits
  | none => digits

/-- `%d`: a signed decimal integer. -/
def int (s : FormatSpec) (n : Int) : List UInt8 :=
  let digits := s.withPrecision (toString n.natAbs) (n = 0)
  s.pad (s.sign (n < 0)) (ascii digits) s.precision.isNone

/-- `%u %o %x %X`: an integer's 64 bits unsigned, in base 10, 8 or 16. -/
def unsigned (s : FormatSpec) (n : Int) (base : Nat) (upper : Bool) : List UInt8 :=
  let u := toBits64 n
  let digits := String.ofList (Nat.toDigits base u)
  let digits := if upper then digits.map Char.toUpper else digits
  let digits := s.withPrecision digits (u = 0)
  let (pre, digits) :=
    if s.has '#' then
      if base = 8 then ("", if digits.startsWith "0" then digits else "0" ++ digits)
      else if base = 16 ∧ u ≠ 0 then ((if upper then "0X" else "0x"), digits)
      else ("", digits)
    else ("", digits)
  s.pad (ascii pre) (ascii digits) s.precision.isNone

/-- The upper-case form of ASCII letters. -/
def upperBytes (bs : List UInt8) : List UInt8 :=
  bs.map fun c => if 0x61 ≤ c ∧ c ≤ 0x7A then c - 0x20 else c

/-- A hexadecimal double: `0x1.hhhp±d`, with the fraction's trailing zeros dropped unless a
precision fixes the number of digits, a subnormal written `0x0.hhhp-1022`. -/
def hexFloat (s : FormatSpec) (lead frac : Nat) (exp : Int) : List UInt8 :=
  -- `frac` holds 52 bits, thirteen hexadecimal digits
  let (lead, digits) : Nat × String :=
    match s.precision with
    | none =>
      let ds := String.ofList (Nat.toDigits 16 frac)
      let ds := String.ofList (List.replicate (13 - ds.length) '0') ++ ds
      (lead, dropTrailingZeros ds)
    | some p =>
      if p ≥ 13 then
        let ds := String.ofList (Nat.toDigits 16 frac)
        let ds := String.ofList (List.replicate (13 - ds.length) '0') ++ ds
        (lead, ds ++ String.ofList (List.replicate (p - 13) '0'))
      else
        let whole := lead * Nat.pow 2 52 + frac
        let r := roundHalfEven whole (Nat.pow 2 (4 * (13 - p)))
        let lead' := r / Nat.pow 16 p
        let f := r % Nat.pow 16 p
        let ds := if p = 0 then "" else String.ofList (Nat.toDigits 16 f)
        (lead', String.ofList (List.replicate (p - ds.length) '0') ++ ds)
  let point := if digits.isEmpty && !s.has '#' then "" else "."
  let expText := (if exp < 0 then "p-" else "p+") ++ toString exp.natAbs
  ascii (toString lead ++ point ++ digits ++ expText)

/-- `%e %f %g %a` and their upper-case forms: a double. -/
def float (s : FormatSpec) (x : Double) : List UInt8 :=
  let letter := Char.ofNat s.letter.toNat
  let upper := letter.isUpper
  let up (bs : List UInt8) : List UInt8 := if upper then upperBytes bs else bs
  let prec := s.precision.getD 6
  let alt := s.has '#'
  match x.classify with
  | .nan neg => s.pad (s.sign neg) (up (ascii "nan")) false
  | .infinite neg => s.pad (s.sign neg) (up (ascii "inf")) false
  | .finite neg m e =>
    match letter.toLower with
    | 'a' =>
      let body :=
        if m = 0 then s.hexFloat 0 0 0
        else if m < Nat.pow 2 52 then s.hexFloat 0 m (-1022)
        else s.hexFloat 1 (m - Nat.pow 2 52) (e + 52)
      -- the prefix stays before any zero padding
      s.pad (s.sign neg ++ up (ascii "0x")) (up body) true
    | 'f' => s.pad (s.sign neg) (up (ascii (fixedText prec alt m e))) true
    | 'e' => s.pad (s.sign neg) (up (ascii (scientificText prec alt m e))) true
    | _ => s.pad (s.sign neg) (up (ascii (generalText prec alt m e))) true

/-- `%c`: one byte. -/
def char (s : FormatSpec) (b : UInt8) : List UInt8 := s.pad [] [b] false

/-- `%s`: bytes cut to the precision. -/
def string (s : FormatSpec) (bs : List UInt8) : List UInt8 :=
  let bs := match s.precision with
    | some p => bs.take p
    | none => bs
  s.pad [] bs false

end FormatSpec

/-- The flag and digit bytes a specification spans before its letter. -/
def isSpecByte (b : UInt8) : Bool := "-+ #0123456789.".toUTF8.data.contains b

/-- Reads at most two digits. -/
def twoDigits (bs : List UInt8) : Option Nat × List UInt8 :=
  let ds := (bs.takeWhile isDigit).take 2
  if ds.isEmpty then (none, bs)
  else (some (ds.foldl (fun a d => a * 10 + (d.toNat - 0x30)) 0), bs.drop ds.length)

/-- Checks a specification (the bytes after `%`, through the letter) against the flags its
letter accepts and whether it takes a precision, and reads it. -/
def checkSpec (form : List UInt8) (flags : String) (precision : Bool) : Option FormatSpec :=
  let fl := flags.toUTF8.data.toList
  let given := form.takeWhile fl.contains
  let rest := form.drop given.length
  let (width, rest) := if rest.head? == some 0x30 then (none, rest) else twoDigits rest
  let (prec, rest) := match rest with
    | 0x2E :: r => if precision then let (p, r) := twoDigits r; (some (p.getD 0), r) else (none, rest)
    | _ => (none, rest)
  match rest with
  | [c] => if isAlpha c && c != 0x5F then some { flags := given, width := width.getD 0, precision := prec, letter := c } else none
  | _ => none

/-- The `%q` literal of a string: between double quotes, with `"`, `\` and line breaks escaped
by a backslash and control bytes written as decimal escapes, three digits when a digit
follows. -/
def quotedLiteral (s : List UInt8) : List UInt8 :=
  let rec go : List UInt8 → List UInt8
    | [] => []
    | c :: rest =>
      let esc : List UInt8 :=
        if c == 0x22 || c == 0x5C || c == 0x0A then [0x5C, c]
        else if c < 0x20 || c == 0x7F then
          let d := toString c.toNat
          let d := if rest.head?.any isDigit then String.ofList (List.replicate (3 - d.length) '0') ++ d else d
          0x5C :: d.toUTF8.data.toList
        else [c]
      esc ++ go rest
  0x22 :: go s ++ [0x22]

namespace Library

variable {σ : Type}

open Machine

/-- The `%q` literal of a value. -/
def literal (c : LibCall) (i : Nat) : LuaM σ (List UInt8) := do
  match c.arg i with
  | .str s => return quotedLiteral s.data.toList
  | .int n =>
    return FormatSpec.ascii (if n = -(Int.pow 2 63) then "0x8000000000000000" else toString n)
  | .num f =>
    match f.classify with
    | .nan _ => return FormatSpec.ascii "(0/0)"
    | .infinite neg => return FormatSpec.ascii (if neg then "-1e9999" else "1e9999")
    | .finite .. => return ({ letter := 0x61 } : FormatSpec).float f
  | .nil | .bool _ => return (c.arg i).rawText.data.toList
  | _ => c.argError (i + 1) "value has no literal form"

/-- `string.format`. -/
def format (c : LibCall) : LuaM σ (List Value) := do
  let fmt ← c.checkString 0
  let rec go (fuel : Nat) (bs : List UInt8) (arg : Nat) (out : Array UInt8) : LuaM σ (Array UInt8) :=
    match fuel with
    | 0 => pure out
    | fuel + 1 =>
      match bs with
      | [] => pure out
      | 0x25 :: 0x25 :: rest => go fuel rest arg (out.push 0x25)
      | 0x25 :: rest => do
        let arg := arg + 1
        if !c.has arg then c.argError (arg + 1) "no value"
        let span := rest.takeWhile isSpecByte
        if span.length + 1 ≥ 22 then raiseHere "invalid format (too long)"
        let form := (rest.take (span.length + 1))
        let rest := rest.drop (span.length + 1)
        let formText := "%" ++ bytesText (form.takeWhile (· != 0))
        let bad {α : Type} : LuaM σ α :=
          raiseHere ("invalid conversion specification: '" ++ formText ++ "'")
        let check (flags : String) (precision : Bool) : LuaM σ FormatSpec :=
          match checkSpec form flags precision with
          | some s => pure s
          | none => bad
        let piece ← match form.getLast? with
          | some 0x63 => do
            let s ← check "-" false
            let n ← c.checkInteger arg
            pure (s.char (toBits64 n % 256).toUInt8)
          | some 0x64 | some 0x69 => do
            let n ← c.checkInteger arg
            let s ← check "-+ 0" true
            pure (s.int n)
          | some 0x75 => do
            let n ← c.checkInteger arg
            let s ← check "-0" true
            pure (s.unsigned n 10 false)
          | some 0x6F => do
            let n ← c.checkInteger arg
            let s ← check "-#0" true
            pure (s.unsigned n 8 false)
          | some 0x78 => do
            let n ← c.checkInteger arg
            let s ← check "-#0" true
            pure (s.unsigned n 16 false)
          | some 0x58 => do
            let n ← c.checkInteger arg
            let s ← check "-#0" true
            pure (s.unsigned n 16 true)
          | some 0x61 | some 0x41 => do
            let s ← check "-+ #0" true
            let x ← c.checkNumber arg
            pure (s.float x.toDouble)
          | some 0x65 | some 0x45 | some 0x66 | some 0x46 | some 0x67 | some 0x47 => do
            let x ← c.checkNumber arg
            let s ← check "-+ #0" true
            pure (s.float x.toDouble)
          | some 0x70 => do
            let s ← check "-" false
            let text := match c.arg arg with
              | .table id => heapAddress 0 id
              | .closure id => heapAddress 1 id
              | .builtin b => heapAddress 2 b.ordinal
              | .native id => heapAddress 3 id
              | .host id => heapAddress 4 id
              | .thread id => heapAddress 5 id
              | .str s => heapAddress 6 (stringHash s)
              | .file f => heapAddress 8 f.index
              | .failure _ => heapAddress 9 0
              | _ => "(null)"
            pure (s.string (FormatSpec.ascii text))
          | some 0x71 => do
            if form.length > 1 then raiseHere "specifier '%q' cannot have modifiers"
            literal c arg
          | some 0x73 => do
            let text ← toText (c.arg arg)
            if form.length == 1 then pure text.data.toList
            else
              if text.data.contains 0 then c.argError (arg + 1) "string contains zeros"
              let s ← check "-" true
              if !form.contains 0x2E && text.size ≥ 100 then pure text.data.toList
              else pure (s.string text.data.toList)
          | _ => raiseHere ("invalid conversion '" ++ formText ++ "' to 'format'")
        go fuel rest arg (out ++ piece.toArray)
      | b :: rest => go fuel rest arg (out.push b)
  let bs := fmt.data.toList
  let out ← go (bs.length + 1) bs 0 #[]
  return [.str ⟨out⟩]

end Library

end CounterCache.Lua
