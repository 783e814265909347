import CounterCache.Lua.Library.Format
import CounterCache.Lua.Library.Utf8
import CounterCache.Lua.Library.Tables
import CounterCache.Lua.Library.Math
import CounterCache.Lua.Library.Coroutine
import CounterCache.Lua.Library.System

/-!
# The standard libraries: dispatch and the initial environment

`Library.call` runs a library function on its arguments, and `openLibraries` fills a fresh
machine's global table: the base functions, `_G` and `_VERSION`, and the tables `string`,
`table`, `math`, `utf8`, `coroutine`, `os`, `io` and `package`, each also registered in
`package.loaded`. Strings get a metatable whose `__index` is the `string` table, so that
`s:upper ()` works, and whose arithmetic metamethods convert numeric strings; arithmetic on a
string that is not numeric fails with `attempt to add a 'string' with a 'number'` and the like.
-/

namespace CounterCache.Lua

namespace Library

variable {σ : Type}

open Machine

/-- The arithmetic operator of an event of the string metatable. -/
def arithOp : ArithEvent → ArithOp
  | .add => .add | .sub => .sub | .mul => .mul | .mod => .mod | .pow => .pow | .div => .div
  | .idiv => .idiv | .unm => .sub

/-- An arithmetic metamethod of strings: numeric strings act as their numbers; otherwise the
second operand's metamethod, if it is not a string and has one, else a failure. -/
def stringArith (e : ArithEvent) (c : LibCall) : LuaM σ (List Value) := do
  let a := c.arg 0
  let b := c.arg 1
  match a.toNumeral?, b.toNumeral? with
  | some x, some y =>
    if e == .unm then return [.ofNumeral (negate x)]
    match arith (arithOp e) x y with
    | .ok r => return [.ofNumeral r]
    | .error err => runError err.message
  | _, _ =>
    let h ← match b with
      | .str _ => pure .nil
      | _ => metafield b ("__" ++ e.name)
    if h.isNil then
      raiseHere ("attempt to " ++ e.name ++ " a '" ++ a.typeName ++ "' with a '" ++
        b.typeName ++ "'")
    return [(← callFromLibrary h [a, b]).headD .nil]

/-- Runs a function of the base library. -/
def baseCall (f : BaseFn) (c : LibCall) : LuaM σ (List Value) := do
  match f with
  | .assert => assertFn c
  | .collectgarbage => collectgarbageFn c
  | .dofile => dofileFn c
  | .error => errorFn c
  | .getmetatable => getMetatableFn c
  | .ipairs => ipairsFn c
  | .load => loadFn c
  | .loadfile => loadfileFn c
  | .next => nextFn c
  | .pairs => pairsFn c
  | .pcall => pcallFn c
  | .print => printFn c
  | .rawequal =>
    let a ← c.checkAny 0
    let b ← c.checkAny 1
    return [.bool (a.rawEq b)]
  | .rawget =>
    let id ← c.checkTable 0
    let k ← c.checkAny 1
    return [← rawGet id k]
  | .rawlen => rawlenFn c
  | .rawset => rawsetFn c
  | .require => requireFn c
  | .select => selectFn c
  | .setmetatable => setMetatableFn c
  | .tonumber => tonumberFn c
  | .tostring => return [.str (← toText (← c.checkAny 0))]
  | .type => return [.ofString (← c.checkAny 0).typeName]
  | .warn => warnFn c
  | .xpcall => xpcallFn c

/-- Runs a function of the `string` library. -/
def stringCall (f : StringFn) (c : LibCall) : LuaM σ (List Value) := do
  match f with
  | .byte => strByte c
  | .char => strChar c
  | .dump => strDump c
  | .find => findOrMatch c true
  | .format => format c
  | .gmatch => gmatch c
  | .gsub => gsub c
  | .len => strLen c
  | .lower => strLower c
  | .match => findOrMatch c false
  | .pack => strPack c
  | .packsize => strPackSize c
  | .rep => strRep c
  | .reverse => strReverse c
  | .sub => strSub c
  | .unpack => strUnpack c
  | .upper => strUpper c

/-- Runs a function of the `table` library. -/
def tableCall (f : TableFn) (c : LibCall) : LuaM σ (List Value) := do
  match f with
  | .concat => tblConcat c
  | .insert => tblInsert c
  | .move => tblMove c
  | .pack => tblPack c
  | .remove => tblRemove c
  | .sort => tblSort c
  | .unpack => tblUnpack c

/-- Runs a function of the `math` library. -/
def mathCall (f : MathFn) (c : LibCall) : LuaM σ (List Value) := do
  match f with
  | .abs => mathAbs c
  | .acos => floatFn c Float.acos
  | .asin => floatFn c Float.asin
  | .atan => mathAtan c
  | .ceil => mathCeil c
  | .cos => floatFn c Float.cos
  | .cosh => floatFn c Float.cosh
  | .deg => floatFn c fun x => x * (180.0 / 3.141592653589793)
  | .exp => floatFn c Float.exp
  | .floor => mathFloor c
  | .fmod => mathFmod c
  | .frexp => mathFrexp c
  | .ldexp => mathLdexp c
  | .log => mathLog c
  | .log10 => floatFn c Float.log10
  | .max => mathPick c true
  | .min => mathPick c false
  | .modf => mathModf c
  | .pow =>
    let x := (← c.checkNumber 0).toDouble
    let y := (← c.checkNumber 1).toDouble
    return [.num (x.pow y)]
  | .rad => floatFn c fun x => x * (3.141592653589793 / 180.0)
  | .random => mathRandom c
  | .randomseed => mathRandomSeed c
  | .sin => floatFn c Float.sin
  | .sinh => floatFn c Float.sinh
  | .sqrt => floatFn c Float.sqrt
  | .tan => floatFn c Float.tan
  | .tanh => floatFn c Float.tanh
  | .tointeger => mathToInteger c
  | .type => mathType c
  | .ult => mathUlt c

/-- Runs a function of the `utf8` library. -/
def utf8Call (f : Utf8Fn) (c : LibCall) : LuaM σ (List Value) := do
  match f with
  | .char => utfChar c
  | .codepoint => utfCodepoint c
  | .codes => utfCodes c
  | .len => utfLen c
  | .offset => utfOffset c

/-- Runs a function of the `coroutine` library. -/
def coroutineCall (f : CoroutineFn) (c : LibCall) : LuaM σ (List Value) := do
  match f with
  | .close => coClose c
  | .create => coCreate c
  | .isyieldable => coIsYieldable c
  | .resume => coResume c
  | .running => coRunning c
  | .status => coStatus c
  | .wrap => coWrap c
  | .yield => coYield c

/-- Runs a library function on a call. -/
def call (c : LibCall) : LuaM σ (List Value) := do
  match c.fn with
  | .base f => baseCall f c
  | .string f => stringCall f c
  | .table f => tableCall f c
  | .math f => mathCall f c
  | .utf8 f => utf8Call f c
  | .coroutine f => coroutineCall f c
  | .os f => osCall f c
  | .io f => ioCall f c
  | .package f => packageCall f c
  | .ipairsStep => ipairsStep c
  | .codesStep lax => codesStep lax c
  | .gmatchStep => pure []
  | .wrapStep => pure []
  | .stringArith e => stringArith e c
  | .file f => fileCall f c
  | .searcher s => searcherCall s c

/-- Runs a library function with upvalues, by number. -/
def callNative (id : Nat) (args : List Value) : LuaM σ (List Value) := do
  let f ← native id
  let c : LibCall := { fn := f.fn, args := args.toArray }
  match f.fn with
  | .gmatchStep => gmatchStep id
  | .wrapStep => wrapStep id c
  | _ => call c

/-! ## The initial environment -/

/-- A table of named values. -/
def namedTable (fields : List (String × Value)) : Table :=
  fields.foldl (fun t (k, v) => t.set (.ofString k) v) {}

/-- Makes a library table, registers it in `package.loaded` and as a global. -/
def openLibrary (name : String) (fields : List (String × Value)) : LuaM σ Nat := do
  let id ← newTable (namedTable fields)
  let m ← get
  rawSet m.loaded (.ofString name) (.table id)
  rawSet m.globals (.ofString name) (.table id)
  return id

/-- Fills the global table with the standard libraries. -/
def openLibraries : LuaM σ Unit := do
  let g ← newTable
  let loaded ← newTable
  modify fun m => { m with globals := g, loaded }
  for f in BaseFn.all do
    rawSet g (.ofString f.name) (.builtin (.base f))
  rawSet g (.ofString "_G") (.table g)
  rawSet g (.ofString "_VERSION") (.ofString "Lua 5.4")
  rawSet loaded (.ofString "_G") (.table g)
  let pkg ← openLibrary "package"
    ((PackageFn.all.map fun f => (f.name, .builtin (.package f))) ++
      [("path", .ofString defaultPath), ("cpath", .ofString defaultCPath),
       ("config", .ofString "/\n;\n?\n!\n-\n")])
  rawSet pkg (.ofString "loaded") (.table loaded)
  rawSet pkg (.ofString "preload") (.table (← newTable))
  let searchers : Table := initialSearchers.zipIdx.foldl
    (fun t (s, i) => t.set (.int (i + 1)) (.builtin (.searcher s))) {}
  rawSet pkg (.ofString "searchers") (.table (← newTable searchers))
  let _ ← openLibrary "coroutine"
    (CoroutineFn.all.map fun f => (f.name, .builtin (.coroutine f)))
  let _ ← openLibrary "table" (TableFn.all.map fun f => (f.name, .builtin (.table f)))
  let methods ← newTable (namedTable (FileFn.methods.map fun f => (f.name, .builtin (.file f))))
  let fileMeta ← newTable (namedTable
    [("__index", .table methods), ("__gc", .builtin (.file .gc)),
     ("__close", .builtin (.file .gc)), ("__tostring", .builtin (.file .tostring)),
     ("__name", .ofString "FILE*")])
  modify fun m => { m with fileMeta }
  let _ ← openLibrary "io" ((IoFn.all.map fun f => (f.name, .builtin (.io f))) ++
    [("stdin", .file .stdin), ("stdout", .file .stdout), ("stderr", .file .stderr)])
  let _ ← openLibrary "os" (OsFn.all.map fun f => (f.name, .builtin (.os f)))
  let strings ← openLibrary "string" (StringFn.all.map fun f => (f.name, .builtin (.string f)))
  let strMeta ← newTable (namedTable
    (("__index", .table strings) ::
      ArithEvent.all.map fun e => ("__" ++ e.name, .builtin (.stringArith e))))
  modify fun m => { m with stringMeta := strMeta }
  let _ ← openLibrary "math"
    ((MathFn.all.map fun f => (f.name, .builtin (.math f))) ++
      [("pi", .num 3.141592653589793), ("huge", .num (1.0 / 0.0)),
       ("maxinteger", .int (Int.pow 2 63 - 1)), ("mininteger", .int (-(Int.pow 2 63)))])
  let _ ← openLibrary "utf8"
    ((Utf8Fn.all.map fun f => (f.name, .builtin (.utf8 f))) ++ [("charpattern", .str charPattern)])

end Library

end CounterCache.Lua
