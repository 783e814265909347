import CounterCache.Lua.Code.Instr
import CounterCache.Lua.Value
import CounterCache.Text.Utf8

/-!
# Function prototypes

A compiled Lua function: its code, its constants, where its upvalues come from, the functions
defined inside it, and the debugging information that messages draw on: the chunk name, the
lines it spans, the line of each instruction, and the names and live ranges of its locals.

Lines are kept as Lua keeps them: one signed byte per instruction, the difference from the line
of the instruction before, and every so often (or when the difference does not fit in a byte)
an absolute line with the position it holds for. `Proto.lineAt` reads them back.
-/

namespace CounterCache.Lua.Code

/-- Where a function's upvalue comes from when a closure of it is made: a register of the
enclosing function (`inStack`) or one of the enclosing function's upvalues; the kind of the
variable it stands for (as a byte: regular, `<const>`, `<close>`); and its name, when kept. -/
structure UpvalDesc where
  name : Option String := none
  inStack : Bool
  index : Nat
  kind : Nat := 0
  deriving Inhabited

/-- A local variable for debugging: its name and the instructions where it is live. -/
structure LocVar where
  name : Option String
  startPc : Nat
  endPc : Nat
  deriving Inhabited

/-- The marker in the relative line information of an instruction whose line is kept
absolutely. -/
def absLineMark : Int := -128

/-- A compiled function. -/
structure Proto where
  /-- The chunk name, when kept. -/
  source : Option ByteArray := none
  lineDefined : Nat := 0
  lastLineDefined : Nat := 0
  numParams : Nat := 0
  isVararg : Bool := false
  /-- The number of registers the function uses. -/
  maxStack : Nat := 2
  code : Array Instr := #[]
  consts : Array Value := #[]
  upvals : Array UpvalDesc := #[]
  protos : Array Proto := #[]
  /-- The line of each instruction, relative to the one before, or `absLineMark`. -/
  lineInfo : Array Int := #[]
  /-- Absolute lines: positions and their lines. -/
  absLineInfo : Array (Nat × Nat) := #[]
  locVars : Array LocVar := #[]
  /-- The code, decoded. -/
  ops : Array Op := #[]
  deriving Inhabited

namespace Proto

/-- Fills in the decoded code. -/
def withOps (p : Proto) : Proto := { p with ops := p.code.map Instr.decode }

/-- The last absolute line at or before instruction `pc`, and its position (none: the start of
the function, at the line it is defined on). -/
def baseLine (p : Proto) (pc : Nat) : Option Nat × Int :=
  match p.absLineInfo[0]? with
  | none => (none, p.lineDefined)
  | some (pc0, line0) =>
    if pc < pc0 then (none, p.lineDefined)
    else
      let rec go (i : Nat) (fuel : Nat) : Nat × Nat :=
        match fuel with
        | 0 => p.absLineInfo.getD i (pc0, line0)
        | fuel + 1 =>
          match p.absLineInfo[i + 1]? with
          | some (q, _) => if pc ≥ q then go (i + 1) fuel else p.absLineInfo.getD i (pc0, line0)
          | none => p.absLineInfo.getD i (pc0, line0)
      let (q, l) := go 0 p.absLineInfo.size
      (some q, l)

/-- The line of instruction `pc`, when the function keeps lines. -/
def lineAt (p : Proto) (pc : Nat) : Option Int :=
  if p.lineInfo.isEmpty then none
  else
    let (start, base) := p.baseLine pc
    let first := match start with
      | some q => q + 1
      | none => 0
    some ((List.range (pc + 1 - first)).foldl (fun l i => l + p.lineInfo.getD (first + i) 0) base)

/-- The name of the `n`-th local variable (from one) live at instruction `pc`. -/
def localName (p : Proto) (n : Nat) (pc : Nat) : Option String :=
  go 0 n p.locVars.size
where
  go (i : Nat) (n : Nat) : (fuel : Nat) → Option String
    | 0 => none
    | fuel + 1 =>
      match p.locVars[i]? with
      | none => none
      | some v =>
        if v.startPc > pc then none
        else if pc < v.endPc then
          if n == 1 then some (v.name.getD "") else go (i + 1) (n - 1) fuel
        else go (i + 1) n fuel

/-- The name of upvalue `i`, `?` when not kept. -/
def upvalName (p : Proto) (i : Nat) : String :=
  match p.upvals[i]? with
  | some u => u.name.getD "?"
  | none => "?"

theorem lineAt_empty (p : Proto) (pc : Nat) (h : p.lineInfo = #[]) : p.lineAt pc = none := by
  simp [lineAt, h]

end Proto

/-- Bytes up to the first zero byte, as a C string reads them. -/
def cString (bs : List UInt8) : List UInt8 := bs.takeWhile (· != 0)

/-- The name of a chunk in messages, from its source name, as Lua shortens it to at most 59
bytes: a name starting with `=` is shown as it is, one starting with `@` is a file name,
shortened from the front, and any other is source text, shown as `[string "…"]` up to its
first line break and at most 45 bytes. -/
def chunkId (source : ByteArray) : String :=
  let idSize := 60
  let src := source.data.toList
  let out : List UInt8 := match src with
    | 0x3D :: rest => if src.length ≤ idSize then rest else rest.take (idSize - 1)
    | 0x40 :: rest =>
      if src.length ≤ idSize then rest
      else "...".toUTF8.data.toList ++ rest.drop (rest.length - (idSize - 4))
    | _ =>
      let room := idSize - 15
      let firstLine := (cString src).takeWhile (· != 0x0A)
      let hasBreak := firstLine.length < (cString src).length
      let body :=
        if src.length < room ∧ !hasBreak then src
        else
          let len := if hasBreak then firstLine.length else src.length
          src.take (min len room) ++ "...".toUTF8.data.toList
      "[string \"".toUTF8.data.toList ++ body ++ "\"]".toUTF8.data.toList
  Text.decodeUtf8Lossy (cString out)

theorem chunkId_literal : chunkId "=stdin".toUTF8 = "stdin" := by decide

end CounterCache.Lua.Code
