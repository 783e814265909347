import CounterCache.Lua.Library.Args

/-!
# Lua patterns

The matcher of `string.find`, `string.match`, `string.gmatch` and `string.gsub`. A pattern is a
sequence of items: a single-byte class (`.`, a `%` class such as `%a` or `%d` and their
complements in upper case, an escaped byte, or a set `[...]` with ranges and classes, `^`
complementing it), optionally followed by `*` (longest run), `+` (one or more, longest), `-`
(shortest run) or `?` (optional); `%b()` a balanced pair; `%f[set]` a frontier; `%1`–`%9` a
repeat of a capture; parentheses for captures, `()` capturing a position; a `^` at the start
anchors the match and a `$` at the end anchors it to the end of the subject.

Matching backtracks as Lua's does, trying the longest run first for `*`, `+` and `?`, and the
shortest first for `-`. Nested matching deeper than 200 levels fails with `pattern too
complex`, more than 32 captures with `too many captures`, and malformed patterns with Lua's
messages. The character classes are those of the C locale.
-/

namespace CounterCache.Lua

namespace Pattern

/-- A capture: where it starts, and its length; `-1` while it is open and `-2` for a position
capture. -/
structure Capture where
  init : Nat
  len : Int
  deriving Inhabited

/-- The open capture length. -/
def unfinished : Int := -1

/-- The length that marks a position capture. -/
def position : Int := -2

/-- The deepest nesting of the matcher. -/
def maxDepth : Nat := 200

/-- The most captures a pattern may have. -/
def maxCaptures : Nat := 32

/-- A subject and a pattern; a byte past the end of either reads as zero. -/
structure Matcher where
  src : ByteArray
  pat : ByteArray

/-- What a match attempt gives: nothing, or where the match ends and the captures. -/
abbrev Result := Except String (Option (Nat × Array Capture))

/-- The C-locale character classes. -/
def isLower (c : UInt8) : Bool := 0x61 ≤ c && c ≤ 0x7A
def isUpper (c : UInt8) : Bool := 0x41 ≤ c && c ≤ 0x5A
def isAlphaC (c : UInt8) : Bool := isLower c || isUpper c
def isDigitC (c : UInt8) : Bool := 0x30 ≤ c && c ≤ 0x39
def isSpaceC (c : UInt8) : Bool := c == 0x20 || (0x09 ≤ c && c ≤ 0x0D)
def isCntrl (c : UInt8) : Bool := c < 0x20 || c == 0x7F
def isGraph (c : UInt8) : Bool := 0x21 ≤ c && c ≤ 0x7E
def isPunct (c : UInt8) : Bool := isGraph c && !isAlphaC c && !isDigitC c
def isXDigit (c : UInt8) : Bool :=
  isDigitC c || (0x61 ≤ c && c ≤ 0x66) || (0x41 ≤ c && c ≤ 0x46)

/-- ASCII lower case. -/
def toLower (c : UInt8) : UInt8 := if isUpper c then c + 0x20 else c

/-- Whether byte `c` is in the class named by `cl` (the byte after `%`; `z` is the zero byte);
an upper-case class letter complements its class, and any other byte stands for itself. -/
def matchClass (c cl : UInt8) : Bool :=
  let res? : Option Bool :=
    match (toLower cl).toNat with
    | 0x61 => some (isAlphaC c)
    | 0x63 => some (isCntrl c)
    | 0x64 => some (isDigitC c)
    | 0x67 => some (isGraph c)
    | 0x6C => some (isLower c)
    | 0x70 => some (isPunct c)
    | 0x73 => some (isSpaceC c)
    | 0x75 => some (isUpper c)
    | 0x77 => some (isAlphaC c || isDigitC c)
    | 0x78 => some (isXDigit c)
    | 0x7A => some (c == 0)
    | _ => none
  match res? with
  | some r => if isUpper cl then !r else r
  | none => cl == c

namespace Matcher

/-- The subject byte at a position. -/
def s (m : Matcher) (i : Nat) : UInt8 := byteAt m.src i

/-- The pattern byte at a position. -/
def p (m : Matcher) (i : Nat) : UInt8 := byteAt m.pat i

/-- Where the single-byte class at `p` ends. -/
def classEnd (m : Matcher) (p : Nat) : Except String Nat :=
  if m.p p == 0x25 then
    if p + 1 ≥ m.pat.size then .error "malformed pattern (ends with '%')" else .ok (p + 2)
  else if m.p p == 0x5B then
    let q := if m.p (p + 1) == 0x5E then p + 2 else p + 1
    -- look for the closing `]`, which may not come first
    let rec scan (q : Nat) : (fuel : Nat) → Except String Nat
      | 0 => .error "malformed pattern (missing ']')"
      | fuel + 1 =>
        if q ≥ m.pat.size then .error "malformed pattern (missing ']')"
        else
          let q' := if m.p q == 0x25 && q + 1 < m.pat.size then q + 2 else q + 1
          if m.p q' == 0x5D then .ok (q' + 1) else scan q' fuel
    scan q (m.pat.size + 1)
  else .ok (p + 1)

/-- Whether byte `c` is in the set `[...]` from `p` (its `[`) to `ec` (its `]`). -/
def matchBracket (m : Matcher) (c : UInt8) (p ec : Nat) : Bool :=
  let (sig, p) := if m.p (p + 1) == 0x5E then (false, p + 1) else (true, p)
  let rec go (p : Nat) : (fuel : Nat) → Bool
    | 0 => !sig
    | fuel + 1 =>
      let p := p + 1
      if p ≥ ec then !sig
      else if m.p p == 0x25 then
        if matchClass c (m.p (p + 1)) then sig else go (p + 1) fuel
      else if m.p (p + 1) == 0x2D && p + 2 < ec then
        if m.p p ≤ c && c ≤ m.p (p + 2) then sig else go (p + 2) fuel
      else if m.p p == c then sig
      else go p fuel
  go p (ec + 1)

/-- Whether the subject byte at `s` matches the single-byte class from `p` to `ep`. -/
def single (m : Matcher) (s p ep : Nat) : Bool :=
  if s ≥ m.src.size then false
  else
    let c := m.s s
    match (m.p p).toNat with
    | 0x2E => true
    | 0x25 => matchClass c (m.p (p + 1))
    | 0x5B => m.matchBracket c p (ep - 1)
    | _ => m.p p == c

/-- How many bytes from `s` on match the class from `p` to `ep`. -/
def run (m : Matcher) (s p ep : Nat) : (fuel : Nat) → Nat
  | 0 => 0
  | fuel + 1 => if m.single s p ep then m.run (s + 1) p ep fuel + 1 else 0

/-- The end of a balanced pair from `s`, the pair's bytes at `p` and `p + 1`. -/
def balance (m : Matcher) (s p : Nat) : Except String (Option Nat) :=
  if p + 1 ≥ m.pat.size then .error "malformed pattern (missing arguments to '%b')"
  else if m.s s != m.p p || s ≥ m.src.size then .ok none
  else
    let b := m.p p
    let e := m.p (p + 1)
    let rec go (s : Nat) (cont : Nat) : (fuel : Nat) → Option Nat
      | 0 => none
      | fuel + 1 =>
        let s := s + 1
        if s ≥ m.src.size then none
        else if m.s s == e then
          if cont == 1 then some (s + 1) else go s (cont - 1) fuel
        else if m.s s == b then go s (cont + 1) fuel
        else go s cont fuel
    .ok (go s 1 m.src.size)

/-- The index of the innermost open capture. -/
def toClose (caps : Array Capture) : Except String Nat :=
  match (List.range caps.size).reverse.find? fun i => (caps.getD i default).len == unfinished with
  | some i => .ok i
  | none => .error "invalid pattern capture"

/-- Matches the pattern from `p` against the subject from `s`: where the match ends, with the
captures. `depth` bounds the nesting and `fuel` the steps along the pattern. -/
def go (m : Matcher) (depth fuel : Nat) (s p : Nat) (caps : Array Capture) : Result :=
  match depth, fuel with
  | 0, _ => .error "pattern too complex"
  | _, 0 => .ok (some (s, caps))
  | d + 1, fuel + 1 =>
    if p ≥ m.pat.size then .ok (some (s, caps))
    else
      let c := m.p p
      if c == 0x28 then
        -- a capture starts
        if caps.size ≥ maxCaptures then .error "too many captures"
        else if m.p (p + 1) == 0x29 then
          m.go d (m.pat.size + 1) s (p + 2) (caps.push ⟨s, position⟩)
        else m.go d (m.pat.size + 1) s (p + 1) (caps.push ⟨s, unfinished⟩)
      else if c == 0x29 then
        -- the innermost open capture ends
        match toClose caps with
        | .error e => .error e
        | .ok l =>
          let cap := caps.getD l default
          m.go d (m.pat.size + 1) s (p + 1) (caps.set! l ⟨cap.init, (s : Int) - cap.init⟩)
      else if c == 0x24 && p + 1 == m.pat.size then
        .ok (if s == m.src.size then some (s, caps) else none)
      else if c == 0x25 && m.p (p + 1) == 0x62 then
        match m.balance s (p + 2) with
        | .error e => .error e
        | .ok none => .ok none
        | .ok (some s') => m.go (d + 1) fuel s' (p + 4) caps
      else if c == 0x25 && m.p (p + 1) == 0x66 then
        let p := p + 2
        if m.p p != 0x5B then .error "missing '[' after '%f' in pattern"
        else
          match m.classEnd p with
          | .error e => .error e
          | .ok ep =>
            let prev : UInt8 := if s == 0 then 0 else m.s (s - 1)
            if !m.matchBracket prev p (ep - 1) && m.matchBracket (m.s s) p (ep - 1) then
              m.go (d + 1) fuel s ep caps
            else .ok none
      else if c == 0x25 && isDigitC (m.p (p + 1)) then
        -- a repeat of an earlier capture
        let l : Int := (m.p (p + 1)).toNat - 0x31
        if l < 0 ∨ l ≥ caps.size ∨ (caps.getD l.toNat default).len == unfinished then
          .error ("invalid capture index %" ++ toString (l + 1))
        else
          let cap := caps.getD l.toNat default
          if cap.len < 0 then .ok none
          else
            let len := cap.len.toNat
            if m.src.size - s ≥ len ∧ s + len ≤ m.src.size ∧
                (m.src.extract cap.init (cap.init + len)).data == (m.src.extract s (s + len)).data then
              m.go (d + 1) fuel (s + len) (p + 2) caps
            else .ok none
      else
        match m.classEnd p with
        | .error e => .error e
        | .ok ep =>
          let suffix := m.p ep
          if !m.single s p ep then
            if ep < m.pat.size && (suffix == 0x2A || suffix == 0x3F || suffix == 0x2D) then
              m.go (d + 1) fuel s (ep + 1) caps
            else .ok none
          else if ep < m.pat.size && suffix == 0x3F then
            match m.go d (m.pat.size + 1) (s + 1) (ep + 1) caps with
            | .error e => .error e
            | .ok (some r) => .ok (some r)
            | .ok none => m.go (d + 1) fuel s (ep + 1) caps
          else if ep < m.pat.size && (suffix == 0x2A || suffix == 0x2B) then
            -- the longest run first
            let start := if suffix == 0x2B then s + 1 else s
            let n := m.run start p ep (m.src.size + 1)
            (List.range (n + 1)).reverse.foldlM (fun acc i =>
              match acc with
              | some r => .ok (some r)
              | none => m.go d (m.pat.size + 1) (start + i) (ep + 1) caps) none
          else if ep < m.pat.size && suffix == 0x2D then
            -- the shortest run first
            let n := m.run s p ep (m.src.size + 1)
            (List.range (n + 1)).foldlM (fun acc i =>
              match acc with
              | some r => .ok (some r)
              | none => m.go d (m.pat.size + 1) (s + i) (ep + 1) caps) none
          else m.go (d + 1) fuel (s + 1) ep caps
termination_by (depth, fuel)

/-- Matches the pattern from `p` at subject position `s`. -/
def matchAt (m : Matcher) (s p : Nat) : Result := m.go maxDepth (m.pat.size + 1) s p #[]

end Matcher

/-- A pattern has none of the bytes `^$*+?.([%-`, so it matches only itself. -/
def isPlain (pat : ByteArray) : Bool := !pat.data.any fun b => "^$*+?.([%-".toUTF8.data.contains b

/-- The first position from `init` where `needle` occurs in `hay`. -/
def findPlain (hay needle : ByteArray) (init : Nat) : Option Nat :=
  if needle.size = 0 then some init
  else if needle.size > hay.size then none
  else
    (List.range (hay.size - needle.size + 1 - min init (hay.size - needle.size + 1))).findSome? fun k =>
      let i := init + k
      if (hay.extract i (i + needle.size)).data == needle.data then some i else none

end Pattern

namespace Library

variable {σ : Type}

open Machine Pattern

/-- The value of capture `i` of a match from `s` to `e`: the whole match when the pattern has
no captures and `i` is zero. -/
def captureValue (m : Matcher) (caps : Array Capture) (i s e : Nat) : LuaM σ Value := do
  if i ≥ caps.size then
    if i != 0 then raiseHere ("invalid capture index %" ++ toString (i + 1))
    return .str (m.src.extract s e)
  let cap := caps.getD i default
  if cap.len == unfinished then raiseHere "unfinished capture"
  if cap.len == position then return .int (cap.init + 1)
  return .str (m.src.extract cap.init (cap.init + cap.len.toNat))

/-- The values of all captures of a match, or the whole match when there are none. -/
def captureValues (m : Matcher) (caps : Array Capture) (s e : Nat) (whole : Bool) :
    LuaM σ (List Value) :=
  let n := if caps.size == 0 && whole then 1 else caps.size
  (List.range n).mapM fun i => captureValue m caps i s e

/-- Runs the matcher, raising its failures. -/
def runMatch (m : Matcher) (s p : Nat) : LuaM σ (Option (Nat × Array Capture)) :=
  match m.matchAt s p with
  | .ok r => pure r
  | .error e => raiseHere e

/-- `string.find` (`find`) and `string.match`. -/
def findOrMatch (c : LibCall) (find : Bool) : LuaM σ (List Value) := do
  let s ← c.checkString 0
  let pat ← c.checkString 1
  let init := startPos (← c.optInteger 2 1) s.size - 1
  if init > s.size then return [.nil]
  if find && ((c.arg 3).truthy || isPlain pat) then
    match findPlain s pat init with
    | some i => return [.int (i + 1), .int (i + pat.size)]
    | none => return [.nil]
  let anchor := pat.size > 0 && byteAt pat 0 == 0x5E
  let m : Matcher := { src := s, pat := pat }
  let p := if anchor then 1 else 0
  let rec loop (s1 : Nat) : (fuel : Nat) → LuaM σ (List Value)
    | 0 => pure [.nil]
    | fuel + 1 => do
      match ← runMatch m s1 p with
      | some (e, caps) =>
        if find then
          return [.int (s1 + 1), .int e] ++ (← captureValues m caps s1 e false)
        else captureValues m caps s1 e true
      | none =>
        if s1 < s.size && !anchor then loop (s1 + 1) fuel else pure [.nil]
  loop init (s.size + 2)

/-- One step of a `string.gmatch` iterator, whose upvalues are the subject, the pattern, the
position to search from and the end of the last match. -/
def gmatchStep (id : Nat) : LuaM σ (List Value) := do
  let f ← native id
  let (s, pat) := match f.upvals.getD 0 .nil, f.upvals.getD 1 .nil with
    | .str s, .str p => (s, p)
    | _, _ => (.empty, .empty)
  let src := match f.upvals.getD 2 .nil with
    | .int n => n.toNat
    | _ => 0
  let last : Option Nat := match f.upvals.getD 3 .nil with
    | .int n => some n.toNat
    | _ => none
  let m : Matcher := { src := s, pat := pat }
  let rec loop (i : Nat) : (fuel : Nat) → LuaM σ (List Value)
    | 0 => pure []
    | fuel + 1 => do
      if i > s.size then return []
      match ← runMatch m i 0 with
      | some (e, caps) =>
        if some e != last then
          setNativeUpval id 2 (.int e)
          setNativeUpval id 3 (.int e)
          captureValues m caps i e true
        else loop (i + 1) fuel
      | none => loop (i + 1) fuel
  loop src (s.size + 2)

/-- `string.gmatch`: an iterator over the matches. -/
def gmatch (c : LibCall) : LuaM σ (List Value) := do
  let s ← c.checkString 0
  let pat ← c.checkString 1
  let init := startPos (← c.optInteger 2 1) s.size - 1
  let init := if init > s.size then s.size + 1 else init
  return [← newNative { fn := .gmatchStep, upvals := #[.str s, .str pat, .int init, .nil] }]

/-- The replacement of a match by a string: `%0`–`%9` stand for captures, `%%` for `%`. -/
def replaceString (m : Matcher) (caps : Array Capture) (repl : ByteArray) (s e : Nat) :
    LuaM σ ByteArray := do
  let bs := repl.data.toList
  let rec go (bs : List UInt8) (acc : ByteArray) : (fuel : Nat) → LuaM σ ByteArray
    | 0 => pure acc
    | fuel + 1 =>
      match bs with
      | [] => pure acc
      | 0x25 :: rest =>
        match rest with
        | 0x25 :: rest => go rest (acc.push 0x25) fuel
        | d :: rest =>
          if d == 0x30 then go rest (acc ++ m.src.extract s e) fuel
          else if isDigitC d then do
            let v ← captureValue m caps (d.toNat - 0x31) s e
            match v with
            | .str t => go rest (acc ++ t) fuel
            | v => go rest (acc ++ (v.bytes?.getD .empty)) fuel
          else raiseHere "invalid use of '%' in replacement string"
        | [] => raiseHere "invalid use of '%' in replacement string"
      | b :: rest => go rest (acc.push b) fuel
  go bs .empty (bs.length + 1)

/-- `string.gsub`. -/
def gsub (c : LibCall) : LuaM σ (List Value) := do
  let src ← c.checkString 0
  let pat ← c.checkString 1
  let repl := c.arg 2
  let maxN ← c.optInteger 3 (src.size + 1)
  match repl with
  | .int _ | .num _ | .str _ | .table _ => pure ()
  | r => if r.isFunction then pure () else c.typeError 2 "string/function/table"
  let anchor := pat.size > 0 && byteAt pat 0 == 0x5E
  let p := if anchor then 1 else 0
  let m : Matcher := { src := src, pat := pat }
  let rec loop (s : Nat) (last : Option Nat) (n : Nat) (changed : Bool) (acc : ByteArray) :
      (fuel : Nat) → LuaM σ (ByteArray × Nat × Bool × Nat)
    | 0 => pure (acc, n, changed, s)
    | fuel + 1 => do
      if (n : Int) ≥ maxN then return (acc, n, changed, s)
      let r ← runMatch m s p
      let (acc, s, last, n, changed, stop) ← match r with
        | some (e, caps) =>
          if some e != last then do
            let (piece, ch) ← match repl with
              | .str t => do pure (← replaceString m caps t s e, true)
              | .int _ | .num _ => do
                pure (← replaceString m caps (repl.bytes?.getD .empty) s e, true)
              | .table _ => do
                let k ← captureValue m caps 0 s e
                valueOrKeep (← index repl k .none) s e
              | f => do
                let args ← captureValues m caps s e true
                valueOrKeep ((← callFromLibrary f args).headD .nil) s e
            pure (acc ++ piece, e, some e, n + 1, changed || ch, false)
          else if s < src.size then pure (acc.push (byteAt src s), s + 1, last, n, changed, false)
          else pure (acc, s, last, n, changed, true)
        | none =>
          if s < src.size then pure (acc.push (byteAt src s), s + 1, last, n, changed, false)
          else pure (acc, s, last, n, changed, true)
      if stop || anchor then return (acc, n, changed, s)
      loop s last n changed acc fuel
  let (acc, n, changed, s) ← loop 0 none 0 false .empty (2 * src.size + 2)
  if changed then return [.str (acc ++ src.extract s src.size), .int n]
  else return [.str src, .int n]
where
  /-- The text a function or table replacement gives: a string or number replaces the match,
  `nil` or `false` keeps it. -/
  valueOrKeep (v : Value) (s e : Nat) : LuaM σ (ByteArray × Bool) := do
    if !v.truthy then return ((c.arg 0).bytes?.getD .empty |>.extract s e, false)
    match v.bytes? with
    | some t => return (t, true)
    | none => raiseHere ("invalid replacement value (a " ++ v.typeName ++ ")")

end Library

end CounterCache.Lua
