import CounterCache.Lua.Library.Strings
import CounterCache.Lua.Library.Pattern
import CounterCache.Lua.Code.Compile
import CounterCache.Lua.Code.Binary

/-!
# The base library

The global functions. Errors follow Lua's rules for where they are placed: `error` prefixes a
string message with the place of the caller at the level it is given (1 by default, the
function that called `error`), and `assert` does the same for a string message. `pcall` and
`xpcall` turn an error into `false` and the error value; the message handler of `xpcall` is
called again on an error of its own, until the nesting limit makes that fail with `error in
error handling`.

`load` compiles text (given whole or piece by piece by a reader function) or a binary chunk
that `string.dump` wrote, checks the chunk against the allowed modes, and answers `nil` and the
message when it fails. The new function's first upvalue, `_ENV`, is the given environment or the
global table. There are no files: `loadfile` and `dofile` find none. `require` answers modules
already loaded, runs loaders of `package.preload`, and otherwise fails with the list of places
it looked.
-/

namespace CounterCache.Lua

namespace Library

variable {σ : Type}

open Machine

/-- Reads an integer in a base from 2 to 36 between optional blanks, with an optional sign; its
value wraps around to 64 bits. -/
def readInBase (s : List UInt8) (base : Nat) : Option Int :=
  let alnum (c : UInt8) : Bool := Pattern.isAlphaC c || Pattern.isDigitC c
  let s := s.dropWhile isSpace
  let (neg, s) := match s with
    | 0x2D :: r => (true, r)
    | 0x2B :: r => (false, r)
    | r => (false, r)
  let digit (c : UInt8) : Nat :=
    if Pattern.isDigitC c then c.toNat - 0x30 else (upperByte c).toNat - 0x41 + 10
  let ds := s.takeWhile alnum
  let rest := (s.dropWhile alnum).dropWhile isSpace
  if ds.isEmpty ∨ !rest.isEmpty ∨ ds.any (fun c => digit c ≥ base) then none
  else
    let n := ds.foldl (fun acc c => acc * base + digit c) 0
    some (wrap64 (if neg then -(n : Int) else n))

/-- `assert`: its arguments when the first is true, else an error with the message. -/
def assertFn (c : LibCall) : LuaM σ (List Value) := do
  if (c.arg 0).truthy then return c.args.toList
  let _ ← c.checkAny 0
  let msg := if c.has 1 then c.arg 1 else .ofString "assertion failed!"
  match msg with
  | .str s => throwValue (.str ((whereText (← callerPos)).toUTF8 ++ s))
  | v => throwValue v

/-- `error`: raises a value, a string prefixed with the place of the caller at a level. -/
def errorFn (c : LibCall) : LuaM σ (List Value) := do
  let level := Int.bmod (← c.optInteger 1 1) (Nat.pow 2 32)
  match c.arg 0 with
  | .str s =>
    if level > 0 then
      let pos := (← get).levelPos level.toNat
      throwValue (.str ((whereText pos).toUTF8 ++ s))
    else throwValue (.str s)
  | v => throwValue v

/-- `getmetatable`: the metatable, or its `__metatable` field when it has one. -/
def getMetatableFn (c : LibCall) : LuaM σ (List Value) := do
  let v ← c.checkAny 0
  match ← metatableOf v with
  | some mt =>
    let guard ← rawField mt "__metatable"
    return [if guard.isNil then .table mt else guard]
  | none => return [.nil]

/-- `setmetatable`: sets or removes a table's metatable, unless it is protected. The second
argument must be given, if only as `nil`. -/
def setMetatableFn (c : LibCall) : LuaM σ (List Value) := do
  let id ← c.checkTable 0
  let mt ← match c.has 1, c.arg 1 with
    | true, .nil => pure none
    | _, .table m => pure (some m)
    | _, _ => c.typeError 1 "nil or table"
  if let some old := (← Machine.table id).metatable then
    if !(← rawField old "__metatable").isNil then raiseHere "cannot change a protected metatable"
  modifyTable id fun t => { t with metatable := mt }
  return [c.arg 0]

/-- `next`: the key and value after a key in a table's traversal order. -/
def nextFn (c : LibCall) : LuaM σ (List Value) := do
  let id ← c.checkTable 0
  match (← Machine.table id).next? (c.arg 1).normKey with
  | some (some (k, v)) => return [k, v]
  | some none => return [.nil]
  | none => raise "invalid key to 'next'"

/-- `pairs`: `__pairs` of the value, else `next`, the value and `nil`. -/
def pairsFn (c : LibCall) : LuaM σ (List Value) := do
  let v ← c.checkAny 0
  let h ← metafield v "__pairs"
  if h.isNil then return [.builtin (.base .next), v, .nil]
  let r ← nested true (callValue h [v])
  return [r.getD 0 .nil, r.getD 1 .nil, r.getD 2 .nil]

/-- The iterator of `ipairs`: the next index and its value, until a `nil`. -/
def ipairsStep (c : LibCall) : LuaM σ (List Value) := do
  let i := wrap64 ((← c.checkInteger 1) + 1)
  let v ← index (c.arg 0) (.int i) .none
  return if v.isNil then [.nil] else [.int i, v]

/-- `ipairs`: the iterator over `t[1], t[2], …` up to the first `nil`. -/
def ipairsFn (c : LibCall) : LuaM σ (List Value) := do
  let v ← c.checkAny 0
  return [.builtin .ipairsStep, v, .int 0]

/-- `select`: the arguments after a position, or their count for `#`. -/
def selectFn (c : LibCall) : LuaM σ (List Value) := do
  let n : Int := c.args.size
  match c.arg 0 with
  | .str s =>
    if s.data[0]? == some 0x23 then return [.int (n - 1)]
  | _ => pure ()
  let i ← c.checkInteger 0
  let i := if i < 0 then n + i else if i > n then n else i
  if i < 1 then c.argError 1 "index out of range"
  return c.args.toList.drop i.toNat

/-- `tonumber`: a number, or the number a string reads as, in base 10 or another base. -/
def tonumberFn (c : LibCall) : LuaM σ (List Value) := do
  if c.isNoneOrNil 1 then
    match c.arg 0 with
    | .int n => return [.int n]
    | .num f => return [.num f]
    | .str s =>
      match readNumeral? s.data.toList with
      | some n => return [.ofNumeral n]
      | none => return [.nil]
    | _ => let _ ← c.checkAny 0; return [.nil]
  else
    let base ← c.checkInteger 1
    let s ← match c.arg 0 with
      | .str s => pure s
      | _ => c.typeError 0 "string"
    if base < 2 ∨ base > 36 then c.argError 2 "base out of range"
    match readInBase s.data.toList base.toNat with
    | some n => return [.int n]
    | none => return [.nil]

/-- `rawlen`: the length of a table without `__len`, or of a string. -/
def rawlenFn (c : LibCall) : LuaM σ (List Value) := do
  match c.arg 0 with
  | .table id =>
    modifyGet fun m =>
      let (n, t) := (m.heap.tables.getD id {}).length
      ([.int n], { m with heap := { m.heap with tables := m.heap.tables.set! id t } })
  | .str s => return [.int s.size]
  | _ => c.typeError 0 "table or string"

/-- `rawset`: stores without metamethods. -/
def rawsetFn (c : LibCall) : LuaM σ (List Value) := do
  let id ← c.checkTable 0
  let _ ← c.checkAny 1
  let _ ← c.checkAny 2
  rawSet id (c.arg 1) (c.arg 2)
  return [c.arg 0]

/-- A collector parameter as an `int` argument stores it: wrapped to 32 bits, divided by `d`
toward zero, and kept in a byte. -/
def collectorParam (n : Int) (d : Int) : UInt8 :=
  (Int.tdiv (Int.bmod n (Nat.pow 2 32)) d % 256).toNat.toUInt8

/-- The name of a collector mode. -/
def collectorMode (generational : Bool) : Value :=
  .ofString (if generational then "generational" else "incremental")

/-- `collectgarbage`: the collector's options. Stopping, restarting, the mode and the parameters
are kept; a parameter set answers its previous value, and a mode set the previous mode.
Collecting reports nothing freed. -/
def collectgarbageFn (c : LibCall) : LuaM σ (List Value) := do
  let opts := ["stop", "restart", "collect", "count", "step", "setpause", "setstepmul",
    "isrunning", "generational", "incremental"]
  let gc := (← get).collector
  let update (g : Collector) : LuaM σ Unit := modify fun m => { m with collector := g }
  match ← c.checkOption 0 (some "collect") opts with
  | 0 => update { gc with stopped := true }; return [.int 0]
  | 1 => update { gc with stopped := false }; return [.int 0]
  | 3 => return [.num 22.0]
  | 4 => let _ ← c.optInteger 1 0; return [.bool true]
  | 5 =>
    let p ← c.optInteger 1 0
    update { gc with pause := collectorParam p 4 }
    return [.int (gc.pause.toNat * 4)]
  | 6 =>
    let p ← c.optInteger 1 0
    update { gc with stepMul := collectorParam p 4 }
    return [.int (gc.stepMul.toNat * 4)]
  | 7 => return [.bool !gc.stopped]
  | 8 =>
    let minor := Int.bmod (← c.optInteger 1 0) (Nat.pow 2 32)
    let major := Int.bmod (← c.optInteger 2 0) (Nat.pow 2 32)
    update { gc with
      generational := true
      minorMul := if minor != 0 then collectorParam minor 1 else gc.minorMul
      majorMul := if major != 0 then collectorParam major 4 else gc.majorMul }
    return [collectorMode gc.generational]
  | 9 =>
    let pause := Int.bmod (← c.optInteger 1 0) (Nat.pow 2 32)
    let stepMul := Int.bmod (← c.optInteger 2 0) (Nat.pow 2 32)
    let stepSize := Int.bmod (← c.optInteger 3 0) (Nat.pow 2 32)
    update { gc with
      generational := false
      pause := if pause != 0 then collectorParam pause 4 else gc.pause
      stepMul := if stepMul != 0 then collectorParam stepMul 4 else gc.stepMul
      stepSize := if stepSize != 0 then collectorParam stepSize 1 else gc.stepSize }
    return [collectorMode gc.generational]
  | _ => return [.int 0]

/-- Places the function that the running library function calls `offset` slots above the
library function's own slot. -/
def callAt (offset : Nat) : LuaM σ Unit := modify fun m =>
  match m.calls with
  | .native g func _ :: rest => { m with calls := .native g func (func + offset) :: rest }
  | _ => m

/-- Calls a function in protected mode under a message handler, the function placed `offset`
slots above the caller's: its results, or its error after the to-be-closed variables it left
pending are closed. A variable's `__close` is called with the value and the error, and an error
it raises replaces the error for the variables left. -/
def protectedCall (handler : Handler) (offset : Nat) (f : Value) (args : List Value) :
    LuaM σ (Except Value (List Value)) := do
  callAt offset
  let m ← get
  let level := callTop m
  set { m with handler }
  let r ← attempt (nested true (callValue f args))
  let r ← match r with
    | .ok vs => pure (.ok vs)
    | .error e => do pure (.error (← closePendingAfter level e))
  modify fun m' => { m' with handler := m.handler }
  return r

/-- `pcall`: the function's results after `true`, or `false` and its error. The function is
called where its arguments are, after the slot that holds the `true`. -/
def pcallFn (c : LibCall) : LuaM σ (List Value) := do
  let f ← c.checkAny 0
  match ← protectedCall .none 2 f (c.args.toList.drop 1) with
  | .ok vs => return .bool true :: vs
  | .error e => return [.bool false, e]

/-- `xpcall`: as `pcall`, with every error raised in the call passed through a message
handler first. The function is called above its own copy, the handler and the `true`. -/
def xpcallFn (c : LibCall) : LuaM σ (List Value) := do
  let h ← c.checkFunction 1
  match ← protectedCall (.call h) 4 (c.arg 0) (c.args.toList.drop 2) with
  | .ok vs => return .bool true :: vs
  | .error e => return [.bool false, e]

/-- The name the failures of a binary chunk give, from the name it was loaded with (up to a
zero byte): without a leading `@` or `=`, `binary string` for a name that is itself a binary
chunk, else the name as given. -/
def binaryName (name : ByteArray) : String :=
  match name.data.toList.takeWhile (· != 0) with
  | 0x40 :: rest | 0x3D :: rest => bytesText rest
  | 0x1B :: _ => "binary string"
  | bs => bytesText bs

/-- Makes a function of a loaded prototype with `nupvals` upvalues: the first is the
environment, any others start as `nil`. -/
def closeChunk (p : Code.Proto) (nupvals : Nat) (env : Value) : LuaM σ Value := do
  let mut cells : Array Nat := #[]
  for i in List.range nupvals do
    cells := cells.push (← newCell (if i == 0 then env else .nil))
  newClosure { proto := p, upvals := cells }

/-- Loads a chunk: a function, or the message of why it failed. A binary chunk is read back as
`string.dump` wrote it; text is compiled. Nesting too deep for the compiler is an error raised
while loading, which the message handler sees. -/
def loadChunk (chunk : ByteArray) (name : ByteArray) (mode : ByteArray) (env : Value) :
    LuaM σ (Except Value Value) := do
  let binary := chunk.size > 0 && byteAt chunk 0 == 0x1B
  let kind := if binary then "binary" else "text"
  if !mode.data.contains (byteAt kind.toUTF8 0) then
    return .error (.ofString
      ("attempt to load a " ++ kind ++ " chunk (mode is '" ++ lossyText mode ++ "')"))
  if binary then
    match Code.Proto.undump chunk with
    | .ok (p, nupvals) => return .ok (← closeChunk p nupvals env)
    | .error why =>
      return .error (.ofString (binaryName name ++ ": bad binary format (" ++ why ++ ")"))
  match Code.compile chunk.data.toList name (← get).cLevel with
  | .ok p => return .ok (← closeChunk p p.upvals.size env)
  | .error (.malformed msg) => return .error (.ofString msg)
  | .error .overflow => return .error (← handle (.ofString (runMessage (← get) "C stack overflow")))

/-- The pieces a reader function gives, after `acc`, up to a `nil` or empty string; a number
is read as its text. -/
def readPieces (reader : Value) : (fuel : Nat) → ByteArray → LuaM σ ByteArray
  | 0, acc => pure acc
  | fuel + 1, acc => do
    let r := (← nested false (callValue reader [])).headD .nil
    match r, r.bytes? with
    | .nil, _ => pure acc
    | _, some s => if s.size == 0 then pure acc else readPieces reader fuel (acc ++ s)
    | _, none => raiseHere "reader function must return a string"

/-- `load`: compiles a chunk given as a string or by a reader function. -/
def loadFn (c : LibCall) : LuaM σ (List Value) := do
  let mode := cBytes (← c.optString 2 "bt".toUTF8)
  let env ← if c.has 3 then pure (c.arg 3) else pure (.table (← get).globals)
  let r ← match (c.arg 0).bytes? with
    | some s => do
      let name ← c.optString 1 s
      loadChunk s name mode env
    | none => do
      let name ← c.optString 1 "=(load)".toUTF8
      let reader ← c.checkFunction 0
      match ← attempt (readPieces reader (Nat.pow 2 40) .empty) with
      | .ok s => loadChunk s name mode env
      | .error e => pure (.error e)
  match r with
  | .ok f => return [f]
  | .error e => return [.nil, e]

/-- The message of a file that cannot be opened. -/
def cannotOpen (name : ByteArray) : String :=
  "cannot open " ++ cText name ++ ": No such file or directory"

/-- `loadfile`: no file can be read. -/
def loadfileFn (c : LibCall) : LuaM σ (List Value) := do
  let name ← c.optString 0 .empty
  return [.nil, .ofString (cannotOpen name)]

/-- `dofile`: no file can be read. -/
def dofileFn (c : LibCall) : LuaM σ (List Value) := do
  let name ← c.optString 0 .empty
  raise (cannotOpen name)

/-- The default search path of Lua modules. -/
def defaultPath : String :=
  "/usr/local/share/lua/5.4/?.lua;/usr/local/share/lua/5.4/?/init.lua;" ++
  "/usr/local/lib/lua/5.4/?.lua;/usr/local/lib/lua/5.4/?/init.lua;./?.lua;./?/init.lua"

/-- The default search path of C modules. -/
def defaultCPath : String :=
  "/usr/local/lib/lua/5.4/?.so;/usr/local/lib/lua/5.4/loadall.so;./?.so"

/-- Replaces every occurrence of `pat`, which is not empty, by `rep`, from the left. -/
def replaceAll (s pat rep : List UInt8) : List UInt8 :=
  go s s.length
where
  /-- Replaces from the start of `s`; `fuel` bounds the bytes left. -/
  go (s : List UInt8) : (fuel : Nat) → List UInt8
    | 0 => s
    | fuel + 1 =>
      match s with
      | [] => []
      | b :: rest =>
        if !pat.isEmpty && pat.isPrefixOf s then rep ++ go (s.drop pat.length) fuel
        else b :: go rest fuel

/-- The places the templates of a path name for a module, each `sep` in its name read as
`rep`. -/
def pathCandidates (path name : ByteArray) (sep : List UInt8 := [0x2E])
    (rep : List UInt8 := [0x2F]) : List ByteArray :=
  let modName := if sep.isEmpty then name.data.toList else replaceAll name.data.toList sep rep
  let templates := path.data.toList.splitOn 0x3B
  templates.map fun t => ⟨(t.flatMap fun b => if b == 0x3F then modName else [b]).toArray⟩

/-- The message of a module found in none of the places of a path. -/
def notFoundText (path name : ByteArray) (sep : List UInt8 := [0x2E])
    (rep : List UInt8 := [0x2F]) : String :=
  "\n\t".intercalate
    ((pathCandidates path name sep rep).map fun f => "no file '" ++ lossyText f ++ "'")

/-- The `package` table, as the table of loaded modules holds it. -/
def packageTable : LuaM σ Value := do rawGet (← get).loaded (.ofString "package")

/-- A searcher of `require`, called with a module name: a loader and the data it is called
with, or the reason the module was not found there. Nothing can be read from files, and C
modules cannot be loaded. -/
def searcherCall (s : Searcher) (c : LibCall) : LuaM σ (List Value) := do
  let name := cBytes (← c.checkString 0)
  match s with
  | .preload =>
    let pkg ← packageTable
    let preload ← match pkg with
      | .table _ => index pkg (.ofString "preload") .none
      | _ => pure .nil
    let loader ← match preload with
      | .table _ => index preload (.str name) .none
      | _ => pure .nil
    if loader.isNil then return [.ofString ("no field package.preload['" ++ lossyText name ++ "']")]
    return [loader, .ofString ":preload:"]
  | .lua =>
    let pkg ← packageTable
    let path ← match pkg with
      | .table _ => index pkg (.ofString "path") .none
      | _ => pure .nil
    match path.bytes? with
    | some p => return [.ofString (notFoundText (cBytes p) name)]
    | none => raiseHere "'package.path' must be a string"
  | .cModules => return [.ofString "\n\tcan't load C modules in safe mode"]

/-- The searchers `package.searchers` starts with. -/
def initialSearchers : List Searcher := [.preload, .lua, .cModules]

/-- Asks the searchers of `package.searchers` in turn for a loader of a module: the loader and
its data, or the failure that collects every searcher's reason. -/
def findLoader (name : ByteArray) : LuaM σ (Value × Value) := do
  let pkg ← packageTable
  let searchers ← match pkg with
    | .table _ => index pkg (.ofString "searchers") .none
    | _ => pure .nil
  let .table sid := searchers | raiseHere "'package.searchers' must be a table"
  let rec go (i : Nat) (msg : String) : (fuel : Nat) → LuaM σ (Value × Value)
    | 0 => raiseHere ("module '" ++ lossyText name ++ "' not found:" ++ msg)
    | fuel + 1 => do
      let s ← rawGet sid (.int i)
      if s.isNil then raiseHere ("module '" ++ lossyText name ++ "' not found:" ++ msg)
      let rs ← nested false (callValue s [.str name])
      let r := rs.headD .nil
      if r.isFunction then return (r, rs.getD 1 .nil)
      match r with
      | .str t => go (i + 1) (msg ++ "\n\t" ++ lossyText t) fuel
      | .int _ | .num _ => go (i + 1) (msg ++ "\n\t" ++ lossyText r.rawText) fuel
      | _ => go (i + 1) msg fuel
  go 1 "" (Nat.pow 2 32)

/-- `require`: a loaded module, or the result of the loader the searchers find, which is then
recorded as loaded. The module's name is read as a C string. -/
def requireFn (c : LibCall) : LuaM σ (List Value) := do
  let name := cBytes (← c.checkString 0)
  let loaded := (← get).loaded
  let have_ ← rawGet loaded (.str name)
  if have_.truthy then return [have_]
  let (loader, data) ← findLoader name
  let r := (← nested false (callValue loader [.str name, data])).headD .nil
  if !r.isNil then rawSet loaded (.str name) r
  if (← rawGet loaded (.str name)).isNil then rawSet loaded (.str name) (.bool true)
  return [← rawGet loaded (.str name), data]

/-- `warn`: checks its arguments; warnings are off. -/
def warnFn (c : LibCall) : LuaM σ (List Value) := do
  let _ ← c.checkString 0
  for i in List.range c.args.size do
    let _ ← c.checkString i
  return []

/-- `print`: converts its arguments to text; the output goes nowhere. -/
def printFn (c : LibCall) : LuaM σ (List Value) := do
  for v in c.args do
    let _ ← toText v
  return []

end Library

end CounterCache.Lua
