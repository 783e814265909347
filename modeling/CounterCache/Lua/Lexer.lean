import CounterCache.Lua.Numeral
import CounterCache.Text.Utf8

/-!
# Lua tokens

The lexer turns source bytes into tokens. Blanks and comments separate tokens; a line break is
`\n`, `\r` or either pair of them, and counts one line. Every token records the line the lexer
stands on once it has read the token, which is the line syntax errors report, and the text that
errors show for it: a name, number or string as written between quotes (a string with its
escapes already read), a reserved word or symbol between quotes, or `<eof>`.

A lexical error ends the token list with an error token that holds the line it is reported on
and its message, so the parser raises it only when it reaches that point of the source, as a
lexer driven by the parser would.
-/

namespace CounterCache.Lua

open CounterCache.Text

/-- A lexical error: the line it is reported on and its message. -/
structure LexError where
  line : Nat
  msg : String
  deriving Inhabited

/-- A lexical error on a line. -/
def atLine (line : Nat) (msg : String) : LexError := ⟨line, msg⟩

/-- Kinds of tokens. -/
inductive Tok where
  | name (s : String)
  | str (s : ByteArray)
  | int (n : Int)
  | num (f : Double)
  /-- A reserved word. -/
  | word (s : String)
  /-- A symbol, or any other single byte. -/
  | sym (s : String)
  | eof
  /-- A lexical error. -/
  | error (e : LexError)
  deriving Inhabited

/-- A token, the line after it and its text in messages. -/
structure Token where
  tok : Tok
  line : Nat
  text : String
  deriving Inhabited

/-- The reserved words. -/
def reservedWords : List String :=
  ["and", "break", "do", "else", "elseif", "end", "false", "for", "function", "goto", "if", "in",
   "local", "nil", "not", "or", "repeat", "return", "then", "true", "until", "while"]

/-- Letters and the underscore. -/
def isAlpha (b : UInt8) : Bool :=
  (0x61 ≤ b && b ≤ 0x7A) || (0x41 ≤ b && b ≤ 0x5A) || b == 0x5F

/-- Letters, digits and the underscore. -/
def isAlnum (b : UInt8) : Bool := isAlpha b || isDigit b

/-- A line-break byte. -/
def isNewline (b : UInt8) : Bool := b == 0x0A || b == 0x0D

/-- Printable ASCII. -/
def isPrint (b : UInt8) : Bool := 0x20 ≤ b && b < 0x7F

/-- Bytes as message text. -/
def bytesText (bs : List UInt8) : String := decodeUtf8Lossy bs

/-- A token's bytes as messages quote them: up to the first zero byte, where the C library's
text formatting stops. -/
def quotedBytes (bs : List UInt8) : String := "'" ++ bytesText (bs.takeWhile (· != 0)) ++ "'"

/-- The text of a byte token in messages. -/
def byteText (b : UInt8) : String :=
  if isPrint b then "'" ++ String.singleton (Char.ofNat b.toNat) ++ "'"
  else "'<\\" ++ toString b.toNat ++ ">'"

/-- The lexer's place: the bytes left and the current line. -/
structure Cursor where
  rest : List UInt8
  line : Nat

/-- Skips one line break, a pair `\n\r` or `\r\n` counting as one. -/
def Cursor.newline (c : Cursor) : Cursor :=
  match c.rest with
  | a :: b :: rest =>
    if isNewline b && a != b then ⟨rest, c.line + 1⟩ else ⟨b :: rest, c.line + 1⟩
  | _ :: rest => ⟨rest, c.line + 1⟩
  | [] => c

/-- The body of a long bracket whose opening (with `level` equals signs) has been read: the
bytes inside, line breaks read as `\n`, and the place after the closing bracket; when the input
ends first, the line it ends on. -/
def longBody (level : Nat) (acc : List UInt8) :
    (fuel : Nat) → Cursor → Except Nat (List UInt8 × Cursor)
  | 0, c => .error c.line
  | fuel + 1, c =>
    match c.rest with
    | [] => .error c.line
    | 0x5D :: rest =>
      let eqs := rest.takeWhile (· == 0x3D)
      let after := rest.drop eqs.length
      if eqs.length = level ∧ after.head? = some 0x5D then
        .ok (acc.reverse, ⟨after.drop 1, c.line⟩)
      else longBody level (eqs.reverse ++ 0x5D :: acc) fuel ⟨after, c.line⟩
    | b :: rest =>
      if isNewline b then longBody level (0x0A :: acc) fuel c.newline
      else longBody level (b :: acc) fuel ⟨rest, c.line⟩

/-- Reads a long bracket after its opening; a line break right after the opening is dropped. -/
def longBracket (level : Nat) (c : Cursor) : Except Nat (List UInt8 × Cursor) :=
  let c := match c.rest with
    | b :: _ => if isNewline b then c.newline else c
    | [] => c
  longBody level [] (c.rest.length + 1) c

/-- Counts the equals signs of a long bracket opening after `[`: `some n` when the second `[`
follows them. -/
def bracketLevel (rest : List UInt8) : Option Nat × List UInt8 :=
  let eqs := rest.takeWhile (· == 0x3D)
  let after := rest.drop eqs.length
  if after.head? = some 0x5B then (some eqs.length, after.drop 1) else (none, after)

/-- Skips blanks and comments; an error message if a long comment is not closed. -/
def skipBlank : (fuel : Nat) → Cursor → Except LexError Cursor
  | 0, c => .ok c
  | fuel + 1, c =>
    match c.rest with
    | b :: rest =>
      if isNewline b then skipBlank fuel c.newline
      else if b == 0x20 || b == 0x09 || b == 0x0B || b == 0x0C then
        skipBlank fuel ⟨rest, c.line⟩
      else if b == 0x2D && rest.head? = some 0x2D then
        let body := rest.drop 1
        match body with
        | 0x5B :: afterOpen =>
          match bracketLevel afterOpen with
          | (some level, inner) =>
            match longBracket level ⟨inner, c.line⟩ with
            | .ok (_, c') => skipBlank fuel c'
            | .error endLine =>
              .error (atLine endLine ("unfinished long comment (starting at line " ++
                toString c.line ++ ") near <eof>"))
          | (none, _) => skipBlank fuel ⟨body.dropWhile (!isNewline ·), c.line⟩
        | _ => skipBlank fuel ⟨body.dropWhile (!isNewline ·), c.line⟩
      else .ok c
    | [] => .ok c

/-- Encodes a code point up to `2 ^ 31 - 1` in the extended UTF-8 form, up to six bytes. -/
def utf8Bytes (x : Nat) : List UInt8 :=
  if x < 0x80 then [x.toUInt8]
  else if x < 0x800 then [(0xC0 + x / 64).toUInt8, (0x80 + x % 64).toUInt8]
  else if x < 0x10000 then
    [(0xE0 + x / 4096).toUInt8, (0x80 + x / 64 % 64).toUInt8, (0x80 + x % 64).toUInt8]
  else if x < 0x200000 then
    [(0xF0 + x / 262144).toUInt8, (0x80 + x / 4096 % 64).toUInt8, (0x80 + x / 64 % 64).toUInt8,
      (0x80 + x % 64).toUInt8]
  else if x < 0x4000000 then
    [(0xF8 + x / 16777216).toUInt8, (0x80 + x / 262144 % 64).toUInt8,
      (0x80 + x / 4096 % 64).toUInt8, (0x80 + x / 64 % 64).toUInt8, (0x80 + x % 64).toUInt8]
  else
    [(0xFC + x / 1073741824).toUInt8, (0x80 + x / 16777216 % 64).toUInt8,
      (0x80 + x / 262144 % 64).toUInt8, (0x80 + x / 4096 % 64).toUInt8,
      (0x80 + x / 64 % 64).toUInt8, (0x80 + x % 64).toUInt8]

/-- A short string after its opening quote: its bytes and the place after the closing quote, or
an error message. `buf` holds what errors show: the quote and the string so far, reversed. -/
def shortString (quote : UInt8) (acc buf : List UInt8) :
    (fuel : Nat) → Cursor → Except LexError (List UInt8 × List UInt8 × Cursor)
  | 0, c => .error (atLine c.line "unfinished string near <eof>")
  | fuel + 1, c =>
    let err (msg : String) (shown : List UInt8) :=
      Except.error (atLine c.line (msg ++ " near " ++ quotedBytes shown.reverse))
    match c.rest with
    | [] => .error (atLine c.line "unfinished string near <eof>")
    | b :: rest =>
      if b == quote then .ok (acc.reverse, (b :: buf).reverse, ⟨rest, c.line⟩)
      else if isNewline b then err "unfinished string" buf
      else if b != 0x5C then shortString quote (b :: acc) (b :: buf) fuel ⟨rest, c.line⟩
      else
        let buf := 0x5C :: buf
        let simple (v : UInt8) (rest : List UInt8) :=
          shortString quote (v :: acc) (v :: buf.drop 1) fuel ⟨rest, c.line⟩
        match rest with
        | [] => shortString quote acc buf fuel ⟨[], c.line⟩
        | e :: rest =>
          if e == 0x61 then simple 7 rest
          else if e == 0x62 then simple 8 rest
          else if e == 0x66 then simple 12 rest
          else if e == 0x6E then simple 10 rest
          else if e == 0x72 then simple 13 rest
          else if e == 0x74 then simple 9 rest
          else if e == 0x76 then simple 11 rest
          else if e == 0x5C || e == 0x22 || e == 0x27 then simple e rest
          else if isNewline e then
            let c' := Cursor.newline ⟨e :: rest, c.line⟩
            shortString quote (0x0A :: acc) (0x0A :: buf.drop 1) fuel c'
          else if e == 0x78 then
            match rest with
            | h1 :: h2 :: rest' =>
              match hexValue? h1, hexValue? h2 with
              | some a, some b' => simple (a * 16 + b').toUInt8 rest'
              | some _, none => err "hexadecimal digit expected" (h2 :: h1 :: 0x78 :: buf)
              | none, _ => err "hexadecimal digit expected" (h1 :: 0x78 :: buf)
            | [h1] =>
              match hexValue? h1 with
              | some _ => err "hexadecimal digit expected" (h1 :: 0x78 :: buf)
              | none => err "hexadecimal digit expected" (h1 :: 0x78 :: buf)
            | [] => err "hexadecimal digit expected" (0x78 :: buf)
          else if e == 0x7A then
            let rec zap : Nat → Cursor → Cursor
              | 0, c => c
              | n + 1, c => match c.rest with
                | b :: r =>
                  if isNewline b then zap n c.newline
                  else if isSpace b then zap n ⟨r, c.line⟩ else c
                | [] => c
            shortString quote acc (buf.drop 1) fuel (zap (rest.length + 1) ⟨rest, c.line⟩)
          else if e == 0x75 then
            match rest with
            | 0x7B :: rest' =>
              let ds := rest'.takeWhile (hexValue? · |>.isSome)
              let after := rest'.drop ds.length
              let value : Nat := ds.foldl (fun a d => a * 16 + (hexValue? d).getD 0) 0
              -- the digit that makes the value too large, if any
              let tooLarge := (List.range ds.length).find? fun i =>
                (ds.take (i + 1)).foldl (fun a d => a * 16 + (hexValue? d).getD 0) 0 > 0x7FFFFFFF
              match ds, tooLarge with
              | [], _ =>
                err "hexadecimal digit expected" ((after.take 1).reverse ++ 0x7B :: 0x75 :: buf)
              | _, some i =>
                err "UTF-8 value too large" ((ds.take (i + 1)).reverse ++ 0x7B :: 0x75 :: buf)
              | _, none =>
                match after with
                | 0x7D :: rest'' =>
                  let bs := utf8Bytes value
                  shortString quote (bs.reverse ++ acc) (bs.reverse ++ buf.drop 1) fuel
                    ⟨rest'', c.line⟩
                | _ =>
                  err "missing '\x7d'" ((after.take 1).reverse ++ ds.reverse ++ 0x7B :: 0x75 :: buf)
            | _ => err "missing '\x7b'" ((rest.take 1).reverse ++ 0x75 :: buf)
          else if isDigit e then
            let ds := (e :: rest).takeWhile isDigit |>.take 3
            let value : Nat := ds.foldl (fun a d => a * 10 + (d.toNat - 0x30)) 0
            if value > 255 then
              err "decimal escape too large"
                ((((e :: rest).drop ds.length).take 1).reverse ++ ds.reverse ++ buf)
            else shortString quote (value.toUInt8 :: acc) (value.toUInt8 :: buf.drop 1) fuel
              ⟨(e :: rest).drop ds.length, c.line⟩
          else err "invalid escape sequence" (e :: buf)

/-- The bytes of a numeral: digits, hexadecimal digits, points and exponents with their signs,
and one letter after them, which makes the numeral malformed. -/
def numeralBytes (first : List UInt8) (rest : List UInt8) : List UInt8 × List UInt8 :=
  let hex := match first, rest with
    | [0x30], x :: _ => x == 0x78 || x == 0x58
    | _, _ => false
  let (first, rest) := if hex then (first ++ rest.take 1, rest.drop 1) else (first, rest)
  let marks : List UInt8 := if hex then [0x70, 0x50] else [0x65, 0x45]
  let rec go : Nat → List UInt8 → List UInt8 → List UInt8 × List UInt8
    | 0, acc, rest => (acc, rest)
    | n + 1, acc, rest =>
      match rest with
      | b :: r =>
        if marks.contains b then
          match r with
          | s :: r' => if s == 0x2B || s == 0x2D then go n (s :: b :: acc) r' else go n (b :: acc) r
          | [] => go n (b :: acc) r
        else if (hexValue? b).isSome || b == 0x2E then go n (b :: acc) r
        else (acc, rest)
      | [] => (acc, [])
  let (acc, rest) := go (rest.length + 1) first.reverse rest
  match rest with
  | b :: r => if isAlpha b then ((b :: acc).reverse, r) else (acc.reverse, rest)
  | [] => (acc.reverse, [])

/-- Reads one token after blanks. -/
def nextToken (c : Cursor) : Token × Cursor :=
  let tok (t : Tok) (text : String) (c : Cursor) : Token × Cursor := (⟨t, c.line, text⟩, c)
  let sym (s : String) (rest : List UInt8) : Token × Cursor :=
    tok (.sym s) ("'" ++ s ++ "'") ⟨rest, c.line⟩
  let fail (msg : LexError) : Token × Cursor := (⟨.error msg, c.line, ""⟩, ⟨[], c.line⟩)
  let numeral (bs : List UInt8) (rest : List UInt8) : Token × Cursor :=
    let text := quotedBytes bs
    match readNumeral? bs with
    | some (.int n) => tok (.int n) text ⟨rest, c.line⟩
    | some (.flt f) => tok (.num f) text ⟨rest, c.line⟩
    | none => fail (atLine c.line ("malformed number near " ++ text))
  match c.rest with
  | [] => tok .eof "<eof>" c
  | b :: rest =>
    let two (second : UInt8) (long short : String) : Token × Cursor :=
      match rest with
      | x :: r => if x == second then sym long r else sym short rest
      | [] => sym short rest
    if b == 0x5B then
      match bracketLevel rest with
      | (some level, inner) =>
        match longBracket level ⟨inner, c.line⟩ with
        | .ok (body, c') =>
          let eqs := List.replicate level (0x3D : UInt8)
          tok (.str (ByteArray.mk body.toArray))
            (quotedBytes (0x5B :: eqs ++ 0x5B :: body ++ 0x5D :: eqs ++ [0x5D])) c'
        | .error endLine =>
          fail (atLine endLine ("unfinished long string (starting at line " ++ toString c.line ++
            ") near <eof>"))
      | (none, _) =>
        let eqs := rest.takeWhile (· == 0x3D)
        if eqs.isEmpty then sym "[" rest
        else fail (atLine c.line ("invalid long string delimiter near '[" ++
          String.ofList (List.replicate eqs.length '=') ++ "'"))
    else if b == 0x3D then two 0x3D "==" "="
    else if b == 0x3C then
      match rest with
      | 0x3D :: r => sym "<=" r
      | 0x3C :: r => sym "<<" r
      | _ => sym "<" rest
    else if b == 0x3E then
      match rest with
      | 0x3D :: r => sym ">=" r
      | 0x3E :: r => sym ">>" r
      | _ => sym ">" rest
    else if b == 0x2F then two 0x2F "//" "/"
    else if b == 0x7E then two 0x3D "~=" "~"
    else if b == 0x3A then two 0x3A "::" ":"
    else if b == 0x22 || b == 0x27 then
      match shortString b [] [b] (rest.length + 1) ⟨rest, c.line⟩ with
      | .ok (s, shown, c') => tok (.str (ByteArray.mk s.toArray)) (quotedBytes shown) c'
      | .error msg => fail msg
    else if b == 0x2E then
      match rest with
      | 0x2E :: 0x2E :: r => sym "..." r
      | 0x2E :: r => sym ".." r
      | d :: _ =>
        if isDigit d then let (bs, r) := numeralBytes [b] rest; numeral bs r else sym "." rest
      | [] => sym "." rest
    else if isDigit b then
      let (bs, r) := numeralBytes [b] rest
      numeral bs r
    else if isAlpha b then
      let word := (b :: rest).takeWhile isAlnum
      let s := String.ofList (word.map fun x => Char.ofNat x.toNat)
      let c' : Cursor := ⟨(b :: rest).drop word.length, c.line⟩
      if reservedWords.contains s then tok (.word s) ("'" ++ s ++ "'") c'
      else tok (.name s) ("'" ++ s ++ "'") c'
    else if b == 0x2B || b == 0x2D || b == 0x2A || b == 0x25 || b == 0x5E || b == 0x23 ||
        b == 0x26 || b == 0x7C || b == 0x28 || b == 0x29 || b == 0x7B || b == 0x7D ||
        b == 0x5D || b == 0x3B || b == 0x2C then
      sym (String.singleton (Char.ofNat b.toNat)) rest
    else tok (.sym (String.singleton (Char.ofNat b.toNat))) (byteText b) ⟨rest, c.line⟩

/-- All tokens of a source, ending with `eof` or with a lexical error. -/
def tokenize (src : List UInt8) : Array Token :=
  go (src.length + 2) ⟨src, 1⟩ #[]
where
  go : Nat → Cursor → Array Token → Array Token
  | 0, c, acc => acc.push ⟨.eof, c.line, "<eof>"⟩
  | fuel + 1, c, acc =>
    match skipBlank (c.rest.length + 1) c with
    | .error msg => acc.push ⟨.error msg, c.line, ""⟩
    | .ok c =>
      let (t, c') := nextToken c
      match t.tok with
      | .eof | .error _ => acc.push t
      | _ => go fuel c' (acc.push t)

end CounterCache.Lua
