import CounterCache.Lua.Library.Base
import CounterCache.Lua.Library.Date

/-!
# The `os`, `io` and `package` libraries

Scripts run without files, processes or a clock of their own. `os.time` and `os.date` work on
dates (`Library.Date`); `os.difftime` subtracts; `os.clock` reads a clock that stands at the
epoch. Files cannot be opened, removed or renamed, and the failures say so as the C library
would. Output is accepted and discarded.
-/

namespace CounterCache.Lua

namespace Library

variable {σ : Type}

open Machine

/-- `os.difftime`. -/
def osDifftime (c : LibCall) : LuaM σ (List Value) := do
  let a ← c.checkInteger 0
  let b ← c.checkInteger 1
  return [.num (intToDouble (a - b))]

/-- The message of a failed file operation, as `luaL_fileresult` gives it. -/
def noSuchFile (name : ByteArray) : List Value :=
  [.nil, .ofString (cText name ++ ": No such file or directory"), .int 2]

/-- The name a locale is known by once set, if it exists: the C locale is `C`, also when asked
for as `POSIX` or, with no locale set in the environment, as the empty name; the only other
locale is `C` with the UTF-8 codeset, however the codeset is spelled (its letters and digits, in
lower case, are `utf8`), and it keeps the name it was asked for by. -/
def localeName? (name : String) : Option String :=
  if name == "" ∨ name == "C" ∨ name == "POSIX" then some "C"
  else
    match name.toList with
    | 'C' :: '.' :: cs =>
      if (cs.filter Char.isAlphanum).map Char.toLower == "utf8".toList then some name else none
    | _ => none

/-- The name of the locale as a whole: the one name all categories share, else each category's
name after it, as `LC_CTYPE=C;LC_NUMERIC=C.utf8;…`. -/
def compositeLocale (names : Array String) : String :=
  match names.toList with
  | n :: rest =>
    if rest.all (· == n) then n
    else ";".intercalate ((localeCategories.zip names.toList).map fun (c, v) => c ++ "=" ++ v)
  | [] => "C"

/-- The locale names by category that a name for the locale as a whole sets: a composite name
names each category, all of them; any other name sets them all. -/
def wholeLocale? (name : String) : Option (Array String) :=
  if name.contains ';' ∨ name.contains '=' then
    let clauses := name.splitOn ";"
    let set (acc : Option (Array (Option String))) (clause : String) :
        Option (Array (Option String)) := do
      let acc ← acc
      match clause.splitOn "=" with
      | cat :: rest =>
        let i ← localeCategories.findIdx? (· == cat)
        let v ← localeName? ("=".intercalate rest)
        pure (acc.set! i (some v))
      | [] => none
    match clauses.foldl set (some (Array.replicate 12 none)) with
    | some names => names.mapM id
    | none => none
  else (localeName? name).map (Array.replicate 12 ·)

/-- `os.setlocale`: the name of the locale of a category (or of them all), after setting it to
the locale named, if one is; `nil` when the named locale does not exist. Names are read as C
strings. -/
def osSetlocale (c : LibCall) : LuaM σ (List Value) := do
  let l ← if c.isNoneOrNil 0 then pure none else pure (some (cText (← c.checkString 0)))
  let op ← c.checkOption 1 (some "all") ["all", "collate", "ctype", "monetary", "numeric", "time"]
  let names := (← get).locale
  -- the position of each category among `localeCategories`
  let slot := [3, 0, 4, 1, 2].getD (op - 1) 0
  match l, op with
  | none, 0 => return [.ofString (compositeLocale names)]
  | none, _ => return [.ofString (names.getD slot "C")]
  | some name, 0 =>
    match wholeLocale? name with
    | some names =>
      modify fun m => { m with locale := names }
      return [.ofString (compositeLocale names)]
    | none => return [.nil]
  | some name, _ =>
    match localeName? name with
    | some v =>
      modify fun m => { m with locale := names.set! slot v }
      return [.ofString v]
    | none => return [.nil]

/-- The `os` functions. -/
def osCall (f : OsFn) (c : LibCall) : LuaM σ (List Value) := do
  match f with
  | .time => osTime c
  | .difftime => osDifftime c
  | .clock => return [.num 0.0]
  | .date => osDate c
  | .getenv => let _ ← c.checkString 0; return [.nil]
  | .remove => return noSuchFile (← c.checkString 0)
  | .rename =>
    let a ← c.checkString 0
    let _ ← c.checkString 1
    return noSuchFile a
  | .tmpname => return [.ofString "/tmp/lua_000000"]
  | .setlocale => osSetlocale c
  | .execute =>
    if c.isNoneOrNil 0 then return [.bool true]
    let _ ← c.checkString 0
    return [.nil, .ofString "exit", .int 127]
  | .exit => return []

/-- Requires a file argument. -/
def checkFile (c : LibCall) (i : Nat) : LuaM σ Stream := do
  match c.arg i with
  | .file f => pure f
  | _ => c.typeError i "FILE*"

/-- Checks the values a write is given, from position `first`: numbers and strings. Nothing is
written anywhere. -/
def checkWritten (c : LibCall) (first : Nat) : LuaM σ Unit := do
  for i in (List.range c.args.size).drop first do
    match c.arg i with
    | .int _ | .num _ => pure ()
    | _ => let _ ← c.checkString i

/-- Checks the formats a read is given, from position `first`: the results of reading at the
end of the input, where every read fails except reading all, which gives an empty string, and
reading stops at the first failure. -/
def readResults (c : LibCall) (first : Nat) : LuaM σ (List Value) := do
  if c.args.size ≤ first then return [.nil]
  let rec go (i : Nat) : (fuel : Nat) → LuaM σ (List Value)
    | 0 => pure []
    | fuel + 1 => do
      if i ≥ c.args.size then return []
      match c.arg i with
      | .int _ | .num _ =>
        let n ← c.checkInteger i
        if n == 0 then return .ofString "" :: (← go (i + 1) fuel) else return [.nil]
      | _ =>
        let fmt ← c.checkString i
        let fmt := if byteAt fmt 0 == 0x2A then fmt.extract 1 fmt.size else fmt
        match byteAt fmt 0 with
        | 0x6E | 0x6C | 0x4C => return [.nil]
        | 0x61 => return .ofString "" :: (← go (i + 1) fuel)
        | _ => c.argError (i + 1) "invalid format"
  go first c.args.size

/-- A mode `io.open` accepts: `r`, `w` or `a`, an optional `+`, then only `b`s. -/
def validOpenMode (mode : List UInt8) : Bool :=
  match mode with
  | m :: rest =>
    (m == 0x72 || m == 0x77 || m == 0x61) &&
      (match rest with
        | 0x2B :: more => more.all (· == 0x62)
        | more => more.all (· == 0x62))
  | [] => false

/-- The failure of a file that cannot be opened as a default file. -/
def cannotOpenFile (name : ByteArray) : String :=
  "cannot open file '" ++ cText name ++ "' (No such file or directory)"

/-- Sets or reads a default file: a file argument becomes the default, a name cannot be opened;
the default file after. -/
def defaultFile (c : LibCall) (output : Bool) : LuaM σ (List Value) := do
  if !c.isNoneOrNil 0 then
    match c.arg 0 with
    | .file f =>
      modify fun m => if output then { m with output := f } else { m with input := f }
    | v =>
      match v.bytes? with
      | some name => raiseHere (cannotOpenFile name)
      | none => let _ ← checkFile c 0
  let m ← get
  return [.file (if output then m.output else m.input)]

/-- The answer to closing a standard file, which stays open. -/
def cannotClose : List Value := [.nil, .ofString "cannot close standard file"]

/-- The `io` functions. The only files are the standard streams: writes are checked and
discarded, reads find the end of the input, and no file can be opened. -/
def ioCall (f : IoFn) (c : LibCall) : LuaM σ (List Value) := do
  match f with
  | .write =>
    checkWritten c 0
    return [.file (← get).output]
  | .read => readResults c 0
  | .open =>
    let name ← c.checkString 0
    let mode := cBytes (← c.optString 1 "r".toUTF8)
    if !validOpenMode mode.data.toList then c.argError 2 "invalid mode"
    return noSuchFile name
  | .lines =>
    if c.isNoneOrNil 0 then return [.builtin (.file .nextLine)]
    raiseHere (cText (← c.checkString 0) ++ ": No such file or directory")
  | .type =>
    let _ ← c.checkAny 0
    match c.arg 0 with
    | .file _ => return [.ofString "file"]
    | _ => return [.nil]
  | .output => defaultFile c true
  | .input => defaultFile c false
  | .close =>
    if c.has 0 then let _ ← checkFile c 0
    return cannotClose
  | .flush => return [.bool true]
  | _ => return [.nil]

/-- The methods of files, and the metamethods of their metatable. -/
def fileCall (f : FileFn) (c : LibCall) : LuaM σ (List Value) := do
  match f with
  | .nextLine => return []
  | .lines => let _ ← checkFile c 0; return [.builtin (.file .nextLine)]
  | .gc => let _ ← checkFile c 0; return []
  | .tostring => return [.str (c.arg 0).rawText]
  | _ =>
    let file ← checkFile c 0
    match f with
    | .write => checkWritten c 1; return [.file file]
    | .read => readResults c 1
    | .close => return cannotClose
    | .flush => return [.bool true]
    | .seek =>
      let _ ← c.checkOption 1 (some "cur") ["set", "cur", "end"]
      let _ ← c.optInteger 2 0
      return [.nil, .ofString "Illegal seek", .int 29]
    | .setvbuf =>
      let _ ← c.checkOption 1 none ["no", "full", "line"]
      let _ ← c.optInteger 2 1024
      return [.bool true]
    | _ => return []

/-- `package.searchpath`: the places a module name was looked for, with `sep` in the name
replaced by `rep`; none can be read. Its arguments are read as C strings. -/
def searchpath (c : LibCall) : LuaM σ (List Value) := do
  let name := cBytes (← c.checkString 0)
  let path := cBytes (← c.checkString 1)
  let sep := cBytes (← c.optString 2 ".".toUTF8)
  let rep := cBytes (← c.optString 3 "/".toUTF8)
  return [.nil, .ofString (notFoundText path name sep.data.toList rep.data.toList)]

/-- The `package` functions. -/
def packageCall (f : PackageFn) (c : LibCall) : LuaM σ (List Value) := do
  match f with
  | .searchpath => searchpath c
  | .loadlib => throw (.failure "safety error: package.loadlib is disabled in safe mode")

end Library

end CounterCache.Lua
