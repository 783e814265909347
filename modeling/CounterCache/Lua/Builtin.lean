/-!
# The library functions built into the interpreter

Each standard library of the Lua state is an enumeration of its functions, and `Builtin` is the
sum of them together with the functions that no library table holds: the iterators that
`ipairs`, `utf8.codes` and `string.gmatch` return, the function `coroutine.wrap` returns, and the
arithmetic metamethods of strings.

`Builtin.qualifiedName` is the name an error message gives a function when no call site names
it: the global name for the base library and `library.name` for the others, as Lua finds it in
the table of loaded modules; the functions that no table holds have none and show as `?`.
-/

namespace CounterCache.Lua

/-- The functions of the base library, held by the global table. -/
inductive BaseFn where
  | assert | collectgarbage | dofile | error | getmetatable | ipairs | load | loadfile | next
  | pairs | pcall | print | rawequal | rawget | rawlen | rawset | require | select
  | setmetatable | tonumber | tostring | type | warn | xpcall
  deriving DecidableEq, Repr, Inhabited

/-- The functions of the `string` library. -/
inductive StringFn where
  | byte | char | dump | find | format | gmatch | gsub | len | lower | match | pack | packsize
  | rep | reverse | sub | unpack | upper
  deriving DecidableEq, Repr, Inhabited

/-- The functions of the `table` library. -/
inductive TableFn where
  | concat | insert | move | pack | remove | sort | unpack
  deriving DecidableEq, Repr, Inhabited

/-- The functions of the `math` library, with those kept for compatibility with Lua 5.3. -/
inductive MathFn where
  | abs | acos | asin | atan | ceil | cos | cosh | deg | exp | floor | fmod | frexp | ldexp
  | log | log10 | max | min | modf | pow | rad | random | randomseed | sin | sinh | sqrt | tan
  | tanh | tointeger | type | ult
  deriving DecidableEq, Repr, Inhabited

/-- The functions of the `utf8` library. -/
inductive Utf8Fn where
  | char | codepoint | codes | len | offset
  deriving DecidableEq, Repr, Inhabited

/-- The functions of the `coroutine` library. -/
inductive CoroutineFn where
  | close | create | isyieldable | resume | running | status | wrap | yield
  deriving DecidableEq, Repr, Inhabited

/-- The functions of the `os` library. -/
inductive OsFn where
  | clock | date | difftime | execute | exit | getenv | remove | rename | setlocale | time
  | tmpname
  deriving DecidableEq, Repr, Inhabited

/-- The functions of the `io` library. -/
inductive IoFn where
  | close | flush | input | lines | open | output | popen | read | tmpfile | type | write
  deriving DecidableEq, Repr, Inhabited

/-- The functions of the `package` library. -/
inductive PackageFn where
  | loadlib | searchpath
  deriving DecidableEq, Repr, Inhabited

/-- The methods and metamethods of files. -/
inductive FileFn where
  | close | flush | lines | read | seek | setvbuf | write | gc | tostring
  /-- The iterator `lines` returns. -/
  | nextLine
  deriving DecidableEq, Repr, Inhabited

/-- The searchers `require` tries in turn: the table of preloaded modules, the path of Lua
modules, and the place of C modules, which cannot be loaded. -/
inductive Searcher where
  | preload | lua | cModules
  deriving DecidableEq, Repr, Inhabited

/-- The events of the arithmetic metamethods that strings have. -/
inductive ArithEvent where
  | add | sub | mul | mod | pow | div | idiv | unm
  deriving DecidableEq, Repr, Inhabited

/-- The library functions built into the interpreter. -/
inductive Builtin where
  | base (f : BaseFn)
  | string (f : StringFn)
  | table (f : TableFn)
  | math (f : MathFn)
  | utf8 (f : Utf8Fn)
  | coroutine (f : CoroutineFn)
  | os (f : OsFn)
  | io (f : IoFn)
  | package (f : PackageFn)
  /-- The iterator `ipairs` returns. -/
  | ipairsStep
  /-- The iterator `utf8.codes` returns, strict or lax about surrogates. -/
  | codesStep (lax : Bool)
  /-- The iterator `string.gmatch` returns; its state is the function's upvalues. -/
  | gmatchStep
  /-- The function `coroutine.wrap` returns; its upvalue is the coroutine. -/
  | wrapStep
  /-- An arithmetic metamethod of strings. -/
  | stringArith (e : ArithEvent)
  /-- A method or metamethod of files. -/
  | file (f : FileFn)
  /-- A searcher of `package.searchers`. -/
  | searcher (s : Searcher)
  deriving DecidableEq, Repr, Inhabited

namespace BaseFn

/-- The base functions in the order the library registers them. -/
def all : List BaseFn :=
  [.assert, .collectgarbage, .dofile, .error, .getmetatable, .ipairs, .loadfile, .load, .next,
   .pairs, .pcall, .print, .warn, .rawequal, .rawlen, .rawget, .rawset, .select, .setmetatable,
   .tonumber, .tostring, .type, .xpcall, .require]

/-- The global name. -/
def name : BaseFn → String
  | .assert => "assert" | .collectgarbage => "collectgarbage" | .dofile => "dofile"
  | .error => "error" | .getmetatable => "getmetatable" | .ipairs => "ipairs" | .load => "load"
  | .loadfile => "loadfile" | .next => "next" | .pairs => "pairs" | .pcall => "pcall"
  | .print => "print" | .rawequal => "rawequal" | .rawget => "rawget" | .rawlen => "rawlen"
  | .rawset => "rawset" | .require => "require" | .select => "select"
  | .setmetatable => "setmetatable" | .tonumber => "tonumber" | .tostring => "tostring"
  | .type => "type" | .warn => "warn" | .xpcall => "xpcall"

end BaseFn

namespace StringFn

/-- The `string` functions in registration order. -/
def all : List StringFn :=
  [.byte, .char, .dump, .find, .format, .gmatch, .gsub, .len, .lower, .match, .rep, .reverse,
   .sub, .upper, .pack, .packsize, .unpack]

/-- The name in the library table. -/
def name : StringFn → String
  | .byte => "byte" | .char => "char" | .dump => "dump" | .find => "find" | .format => "format"
  | .gmatch => "gmatch" | .gsub => "gsub" | .len => "len" | .lower => "lower"
  | .match => "match" | .pack => "pack" | .packsize => "packsize" | .rep => "rep"
  | .reverse => "reverse" | .sub => "sub" | .unpack => "unpack" | .upper => "upper"

end StringFn

namespace TableFn

/-- The `table` functions in registration order. -/
def all : List TableFn := [.concat, .insert, .pack, .unpack, .remove, .move, .sort]

/-- The name in the library table. -/
def name : TableFn → String
  | .concat => "concat" | .insert => "insert" | .move => "move" | .pack => "pack"
  | .remove => "remove" | .sort => "sort" | .unpack => "unpack"

end TableFn

namespace MathFn

/-- The `math` functions in registration order. -/
def all : List MathFn :=
  [.abs, .ceil, .cos, .deg, .exp, .tointeger, .floor, .fmod, .ult, .log, .max, .min, .modf,
   .rad, .sin, .sqrt, .tan, .type, .random, .randomseed, .acos, .asin, .atan, .cosh, .sinh,
   .tanh, .pow, .frexp, .ldexp, .log10]

/-- The name in the library table. -/
def name : MathFn → String
  | .abs => "abs" | .acos => "acos" | .asin => "asin" | .atan => "atan" | .ceil => "ceil"
  | .cos => "cos" | .cosh => "cosh" | .deg => "deg" | .exp => "exp" | .floor => "floor"
  | .fmod => "fmod" | .frexp => "frexp" | .ldexp => "ldexp" | .log => "log"
  | .log10 => "log10" | .max => "max" | .min => "min" | .modf => "modf" | .pow => "pow"
  | .rad => "rad" | .random => "random" | .randomseed => "randomseed" | .sin => "sin"
  | .sinh => "sinh" | .sqrt => "sqrt" | .tan => "tan" | .tanh => "tanh"
  | .tointeger => "tointeger" | .type => "type" | .ult => "ult"

end MathFn

namespace Utf8Fn

/-- The `utf8` functions in registration order. -/
def all : List Utf8Fn := [.offset, .codepoint, .char, .len, .codes]

/-- The name in the library table. -/
def name : Utf8Fn → String
  | .char => "char" | .codepoint => "codepoint" | .codes => "codes" | .len => "len"
  | .offset => "offset"

end Utf8Fn

namespace CoroutineFn

/-- The `coroutine` functions in registration order. -/
def all : List CoroutineFn :=
  [.create, .resume, .running, .status, .wrap, .yield, .isyieldable, .close]

/-- The name in the library table. -/
def name : CoroutineFn → String
  | .close => "close" | .create => "create" | .isyieldable => "isyieldable"
  | .resume => "resume" | .running => "running" | .status => "status" | .wrap => "wrap"
  | .yield => "yield"

end CoroutineFn

namespace OsFn

/-- The `os` functions in registration order. -/
def all : List OsFn :=
  [.clock, .date, .difftime, .execute, .exit, .getenv, .remove, .rename, .setlocale, .time,
   .tmpname]

/-- The name in the library table. -/
def name : OsFn → String
  | .clock => "clock" | .date => "date" | .difftime => "difftime" | .execute => "execute"
  | .exit => "exit" | .getenv => "getenv" | .remove => "remove" | .rename => "rename"
  | .setlocale => "setlocale" | .time => "time" | .tmpname => "tmpname"

end OsFn

namespace IoFn

/-- The `io` functions in registration order. -/
def all : List IoFn :=
  [.close, .flush, .input, .lines, .open, .output, .popen, .read, .tmpfile, .type, .write]

/-- The name in the library table. -/
def name : IoFn → String
  | .close => "close" | .flush => "flush" | .input => "input" | .lines => "lines"
  | .open => "open" | .output => "output" | .popen => "popen" | .read => "read"
  | .tmpfile => "tmpfile" | .type => "type" | .write => "write"

end IoFn

namespace PackageFn

/-- The `package` functions in registration order. -/
def all : List PackageFn := [.loadlib, .searchpath]

/-- The name in the library table. -/
def name : PackageFn → String
  | .loadlib => "loadlib" | .searchpath => "searchpath"

end PackageFn

namespace FileFn

/-- The methods in the order the file metatable's method table registers them. -/
def methods : List FileFn := [.read, .write, .lines, .flush, .seek, .close, .setvbuf]

/-- The name of a method, or of a metamethod without its leading underscores. -/
def name : FileFn → String
  | .close => "close" | .flush => "flush" | .lines => "lines" | .read => "read"
  | .seek => "seek" | .setvbuf => "setvbuf" | .write => "write" | .gc => "gc"
  | .tostring => "tostring" | .nextLine => "?"

/-- A number for each, distinct among them. -/
def index : FileFn → Nat
  | .close => 0 | .flush => 1 | .lines => 2 | .read => 3 | .seek => 4 | .setvbuf => 5
  | .write => 6 | .gc => 7 | .tostring => 8 | .nextLine => 9

end FileFn

namespace ArithEvent

/-- The events in the order the string metatable registers them. -/
def all : List ArithEvent := [.add, .sub, .mul, .mod, .pow, .div, .idiv, .unm]

/-- The event's name without its leading underscores, as messages show it. -/
def name : ArithEvent → String
  | .add => "add" | .sub => "sub" | .mul => "mul" | .mod => "mod" | .pow => "pow"
  | .div => "div" | .idiv => "idiv" | .unm => "unm"

end ArithEvent

namespace Builtin

/-- The name an error message gives the function when no call site names it. -/
def qualifiedName : Builtin → String
  | .base f => f.name
  | .string f => "string." ++ f.name
  | .table f => "table." ++ f.name
  | .math f => "math." ++ f.name
  | .utf8 f => "utf8." ++ f.name
  | .coroutine f => "coroutine." ++ f.name
  | .os f => "os." ++ f.name
  | .io f => "io." ++ f.name
  | .package f => "package." ++ f.name
  | _ => "?"

/-- A number for each builtin, distinct among them, from which its address is made up. -/
def ordinal : Builtin → Nat
  | .base f => BaseFn.all.idxOf f
  | .string f => 32 + StringFn.all.idxOf f
  | .table f => 64 + TableFn.all.idxOf f
  | .math f => 96 + MathFn.all.idxOf f
  | .utf8 f => 128 + Utf8Fn.all.idxOf f
  | .coroutine f => 160 + CoroutineFn.all.idxOf f
  | .os f => 192 + OsFn.all.idxOf f
  | .io f => 224 + IoFn.all.idxOf f
  | .package f => 256 + PackageFn.all.idxOf f
  | .ipairsStep => 288
  | .codesStep lax => if lax then 290 else 289
  | .gmatchStep => 291
  | .wrapStep => 292
  | .stringArith e => 300 + ArithEvent.all.idxOf e
  | .file f => 320 + f.index
  | .searcher .preload => 340
  | .searcher .lua => 341
  | .searcher .cModules => 342

theorem qualifiedName_base (f : BaseFn) : (Builtin.base f).qualifiedName = f.name := rfl

end Builtin

end CounterCache.Lua
