import CounterCache.Lua.Code.Gen

/-!
# Compiling a chunk

A chunk is read token by token and compiled as it is read, one function at a time: a function
nested in another is compiled to the end before the code around it goes on, and then becomes a
closure of the enclosing function.

Names resolve from the innermost function outwards: a local of the function itself, one of its
upvalues, a local or upvalue of an enclosing function (which becomes a new upvalue of every
function in between), or else a field of `_ENV`. A `<const>` local whose value is a constant
takes no register: its uses are the constant.

Blocks keep the labels declared in them and the `goto`s still looking for a label. A `goto` is
settled when its label appears (a backward jump at once, a forward one when the label is
declared); a block that closes hands its pending `goto`s to the enclosing block, noting whether
the jump leaves the scope of a captured variable, and a function that closes with one still
pending is an error. `break` is a `goto` to a label every loop places at its end.

The compiler counts its nesting like the interpreter counts calls, so source nested too deeply
fails like a call chain too deep: with the message of a C stack overflow.
-/

namespace CounterCache.Lua.Code

open C Gen

/-- How tightly a binary operator binds its left operand. -/
def BinOpr.left : BinOpr → Nat
  | .arith .add | .arith .sub => 10
  | .arith .mul | .arith .mod | .arith .div | .arith .idiv => 11
  | .arith .pow => 14
  | .arith .band => 6
  | .arith .bor => 4
  | .arith .bxor => 5
  | .arith .shl | .arith .shr => 7
  | .concat => 9
  | .eq | .lt | .le | .ne | .gt | .ge => 3
  | .and => 2
  | .or => 1

/-- How tightly a binary operator binds its right operand: lower than the left for the
right-associative `^` and `..`. -/
def BinOpr.right : BinOpr → Nat
  | .arith .pow => 13
  | .concat => 8
  | op => op.left

namespace Compile

/-- The most local variables a function may have in scope. -/
def maxVars : Nat := 200

/-- The most upvalues a function may have. -/
def maxUpvals : Nat := 255

/-- How many values of a table constructor's list are stored at a time. -/
def fieldsPerFlush : Nat := 50

/-- Out of fuel: the source is nested beyond what the compiler follows. -/
def tooDeep {α : Type} : C α := throw .overflow

/-- A limit of the function defined at `lineDefined` is exceeded. -/
def errorLimit {α : Type} (lineDefined limit : Nat) (what : String) : C α :=
  let place := if lineDefined == 0 then "main function"
    else "function at line " ++ toString lineDefined
  syntaxError ("too many " ++ what ++ " (limit is " ++ toString limit ++ ") in " ++ place)

/-- The current token ends a block: `else`, `elseif`, `end`, the end of the chunk, and `until`
when `withUntil`. -/
def blockFollow (withUntil : Bool) : C Bool := do
  match (← current).tok with
  | .word "else" | .word "elseif" | .word "end" | .eof => return true
  | .word "until" => return withUntil
  | _ => return false

/-! ## Functions by depth -/

/-- The function `d` levels out from the one being compiled. -/
def fsAt (d : Nat) : C FuncState := do
  let s ← get
  match d with
  | 0 => return s.fs
  | d + 1 => return s.outer.getD d default

/-- Changes the function `d` levels out from the one being compiled. -/
def modifyFsAt (d : Nat) (g : FuncState → FuncState) : C Unit :=
  modify fun s => match d with
    | 0 => { s with fs := g s.fs }
    | d + 1 => { s with outer := s.outer.set d (g (s.outer.getD d default)) }

/-! ## Local variables -/

/-- Declares a local, not yet in scope: its index in the function. -/
def newLocalVar (name : String) : C Nat := do
  let s ← get
  if s.nlocals + 1 - s.fs.firstLocal > maxVars then
    errorLimit s.fs.f.lineDefined maxVars "local variables"
  let d : LocalDesc := { name }
  let actvar := if s.nlocals < s.actvar.size then s.actvar.set! s.nlocals d else s.actvar.push d
  set { s with actvar, nlocals := s.nlocals + 1 }
  return s.nlocals - s.fs.firstLocal

/-- Files a local in the function's debugging information: its index there. -/
def registerLocalVar (name : String) : C Nat := do
  let p ← pc
  let n := (← fs).f.locVars.size
  modifyProto fun f => { f with locVars := f.locVars.push { name := some name, startPc := p, endPc := 0 } }
  return n

/-- Where a local is in the debugging information; a compile-time constant is not there. -/
def localDebugIndex (vidx : Nat) : C (Option Nat) := do
  let d ← localDesc vidx
  if d.kind == .compileTime then return none else return some d.debugIndex

/-- Brings the last `nvars` declared locals into scope, in consecutive registers. -/
def adjustLocalVars (nvars : Nat) : C Unit := do
  let mut reglevel ← nvarstack
  for _ in [0:nvars] do
    let vidx := (← fs).nactvar
    modifyFs fun fs => { fs with nactvar := fs.nactvar + 1 }
    let d ← localDesc vidx
    let pidx ← registerLocalVar d.name
    modifyLocal vidx fun d => { d with reg := reglevel, debugIndex := pidx }
    reglevel := reglevel + 1

/-- Takes the locals from `tolevel` on out of scope; their live ranges end here. -/
def removeVars (tolevel : Nat) : C Unit := do
  let n := (← fs).nactvar
  let p ← pc
  for i in List.range (n - tolevel) do
    match ← localDebugIndex (tolevel + i) with
    | some idx =>
      modifyProto fun f => { f with locVars := f.locVars.modify idx fun v => { v with endPc := p } }
    | none => pure ()
  modify fun s =>
    { s with nlocals := s.nlocals - (n - tolevel), fs := { s.fs with nactvar := tolevel } }

/-- The local `vidx` of the function `d` levels out. -/
def localDescAt (d vidx : Nat) : C LocalDesc := do
  return (← get).actvar.getD ((← fsAt d).firstLocal + vidx) default

/-- A local in scope of the function `d` levels out, by name, the innermost first. -/
def searchVar (d : Nat) (name : String) : C (Option ExpDesc) := do
  let fsd ← fsAt d
  let actvar := (← get).actvar
  let rec go : Nat → Option ExpDesc
    | 0 => none
    | i + 1 =>
      let vd := actvar.getD (fsd.firstLocal + i) default
      if vd.name == name then
        if vd.kind == .compileTime then some { kind := .constLocal (fsd.firstLocal + i) }
        else some { kind := .localVar i vd.reg }
      else go i
  return go fsd.nactvar

/-- An upvalue of the function `d` levels out, by name. -/
def searchUpvalue (d : Nat) (name : String) : C (Option Nat) := do
  return (← fsAt d).f.upvals.findIdx? (·.name == some name)

/-- Marks the block of the function `d` levels out where local `level` lives as having a
captured variable. -/
def markUpval (d level : Nat) : C Unit :=
  modifyFsAt d fun fs =>
    let rec go : List BlockCnt → List BlockCnt
      | [] => []
      | b :: rest => if b.nactvar > level then b :: go rest else { b with upval := true } :: rest
    { fs with blocks := go fs.blocks, needClose := true }

/-- Adds to the function `d` levels out an upvalue for `v`, a variable of the function around
it: its index. -/
def newUpvalue (d : Nat) (name : String) (v : ExpDesc) : C Nat := do
  let fsd ← fsAt d
  if fsd.f.upvals.size + 1 > maxUpvals then
    errorLimit fsd.f.lineDefined maxUpvals "upvalues"
  let prev ← fsAt (d + 1)
  let desc : UpvalDesc ← match v.kind with
    | .localVar vidx ridx => do
      let ld ← localDescAt (d + 1) vidx
      pure { name := some name, inStack := true, index := ridx, kind := ld.kind.byte }
    | .upval i =>
      let u := prev.f.upvals.getD i default
      pure { name := some name, inStack := false, index := i, kind := u.kind }
    | _ => pure { name := some name, inStack := false, index := 0 }
  modifyFsAt d fun fs => { fs with f := { fs.f with upvals := fs.f.upvals.push desc } }
  return fsd.f.upvals.size

/-- Resolves a name in the function `d` levels out: a local, an upvalue, or (`void`) a global
or nothing. `base` says the name is used in that function itself, not in one nested in it. -/
def singleVarAux (name : String) : (d : Nat) → (base : Bool) → (fuel : Nat) → C ExpDesc
  | _, _, 0 => return { kind := .void }
  | d, base, fuel + 1 => do
    if d > (← get).outer.length then return { kind := .void }
    match ← searchVar d name with
    | some v =>
      match v.kind with
      | .localVar vidx _ => if !base then markUpval d vidx
      | _ => pure ()
      return v
    | none =>
      match ← searchUpvalue d name with
      | some idx => return { kind := .upval idx }
      | none =>
        let v ← singleVarAux name (d + 1) false fuel
        match v.kind with
        | .localVar .. | .upval _ => return { kind := .upval (← newUpvalue d name v) }
        | _ => return v

/-- A name as a string constant expression. -/
def codeName : C ExpDesc := do
  return { kind := .kstr (← checkName).toUTF8 }

/-- A variable by name: a global is a field of `_ENV`. -/
def singleVar : C ExpDesc := do
  let name ← checkName
  let fuel := (← get).outer.length + 2
  let v ← singleVarAux name 0 true fuel
  match v.kind with
  | .void =>
    let env ← singleVarAux "_ENV" 0 true fuel
    let env ← exp2anyregup env
    indexed env { kind := .kstr name.toUTF8 }
  | _ => return v

/-- Fails when the variable is read-only. -/
def checkReadonly (e : ExpDesc) : C Unit := do
  let s ← get
  let name? : Option String ← match e.kind with
    | .constLocal i => pure (some (s.actvar.getD i default).name)
    | .localVar vidx _ => do
      let d ← localDesc vidx
      pure (if d.kind != .regular then some d.name else none)
    | .upval idx =>
      let u := s.fs.f.upvals.getD idx default
      pure (if u.kind != 0 then u.name else none)
    | _ => pure none
  match name? with
  | some n => semError ("attempt to assign to const variable '" ++ n ++ "'")
  | none => pure ()

/-- Fits the values of an expression list to `nvars` variables: a last call or `...` gives
what is missing, other missing values are `nil`, extra ones are dropped. -/
def adjustAssign (nvars nexps : Nat) (e : ExpDesc) : C Unit := do
  let needed : Int := (nvars : Int) - nexps
  match e.kind with
  | .call _ | .vararg _ => setReturns e (max (needed + 1) 0)
  | _ =>
    match e.kind with
    | .void => pure ()
    | _ => let _ ← exp2nextreg e
    if needed > 0 then loadNil (← fs).freeReg needed.toNat
  if needed > 0 then reserveRegs needed.toNat
  else modifyFs fun fs => { fs with freeReg := ((fs.freeReg : Int) + needed).toNat }

/-- The innermost block now has a to-be-closed variable. -/
def markToBeClosed : C Unit := modifyFs fun fs =>
  { fs with
    blocks := match fs.blocks with
      | b :: rest => { b with upval := true, insideTbc := true } :: rest
      | [] => []
    needClose := true }

/-- Emits the marking of the to-be-closed local `level`, if there is one. -/
def checkToClose : Option Nat → C Unit
  | none => pure ()
  | some level => do
    markToBeClosed
    let _ ← codeABC .tbc (← regLevel level) 0 0

/-! ## Blocks, labels and `goto` -/

/-- Opens a block. -/
def enterBlock (isLoop : Bool) : C Unit := do
  let s ← get
  let insideTbc := match s.fs.blocks with
    | b :: _ => b.insideTbc
    | [] => false
  let bl : BlockCnt :=
    { isLoop, nactvar := s.fs.nactvar, firstLabel := s.labels.size, firstGoto := s.gotos.size,
      insideTbc }
  modifyFs fun fs => { fs with blocks := bl :: fs.blocks }

/-- The innermost block. -/
def curBlock : C BlockCnt := do return ((← fs).blocks.headD default)

/-- A visible label of the function, by name. -/
def findLabel (name : String) : C (Option LabelDesc) := do
  let s ← get
  return (s.labels.extract s.fs.firstLabel s.labels.size).find? (·.name == name)

/-- Records a pending `goto`. -/
def newGoto (name : String) (line : Nat) (pc : Int) : C Unit := do
  let nactvar := (← fs).nactvar
  modify fun s => { s with gotos := s.gotos.push { name, pc, line, nactvar } }

/-- A `goto` that would enter the scope of a local. -/
def jumpScopeError {α : Type} (gt : LabelDesc) : C α := do
  let varName := (← localDesc gt.nactvar).name
  semError ("<goto " ++ gt.name ++ "> at line " ++ toString gt.line ++
    " jumps into the scope of local '" ++ varName ++ "'")

/-- Settles the pending `goto` at index `g` with label `lb`. -/
def solveGoto (g : Nat) (gt lb : LabelDesc) : C Unit := do
  if gt.nactvar < lb.nactvar then jumpScopeError gt
  patchList gt.pc lb.pc.toNat
  modify fun s => { s with gotos := s.gotos.eraseIdxIfInBounds g }

/-- Settles the pending `goto`s of the block that go to label `lb`: whether one of them must
close upvalues. -/
def solveGotos (lb : LabelDesc) : C Bool := do
  let first := (← curBlock).firstGoto
  go lb first false ((← get).gotos.size + 1)
where
  go (lb : LabelDesc) (i : Nat) (needsClose : Bool) : Nat → C Bool
    | 0 => pure needsClose
    | fuel + 1 => do
      match (← get).gotos[i]? with
      | none => return needsClose
      | some gt =>
        if gt.name == lb.name then
          solveGoto i gt lb
          go lb i (needsClose || gt.close) fuel
        else go lb (i + 1) needsClose fuel

/-- Places a label here; `last` says it ends its block, where the block's locals are already
out of scope. Whether a close was emitted for the `goto`s it settles. -/
def createLabel (name : String) (line : Nat) (last : Bool) : C Bool := do
  let p ← getLabel
  let fs ← fs
  let nactvar := if last then (fs.blocks.headD default).nactvar else fs.nactvar
  let lb : LabelDesc := { name, pc := p, line, nactvar }
  modify fun s => { s with labels := s.labels.push lb }
  if ← solveGotos lb then
    let _ ← codeABC .close (← nvarstack) 0 0
    return true
  return false

/-- Hands the pending `goto`s of a closed block to the enclosing one. -/
def moveGotosOut (bl : BlockCnt) : C Unit := do
  let blLevel ← regLevel bl.nactvar
  let s ← get
  let mut gotos := s.gotos
  for i in [bl.firstGoto:s.gotos.size] do
    let gt := gotos.getD i default
    let close := if (← regLevel gt.nactvar) > blLevel then gt.close || bl.upval else gt.close
    gotos := gotos.modify i fun _ => { gt with close, nactvar := bl.nactvar }
  modify fun s => { s with gotos }

/-- A `goto` left without its label. -/
def undefGoto {α : Type} (gt : LabelDesc) : C α :=
  if gt.name == "break" then semError ("break outside loop at line " ++ toString gt.line)
  else semError ("no visible label '" ++ gt.name ++ "' for <goto> at line " ++ toString gt.line)

/-- Closes the innermost block: its locals go out of scope, a loop places its `break` label,
captured variables are closed, and its pending `goto`s move out. The block as it was. -/
def leaveBlock : C BlockCnt := do
  let bl ← curBlock
  let stklevel ← regLevel bl.nactvar
  removeVars bl.nactvar
  let hasClose ← if bl.isLoop then createLabel "break" 0 false else pure false
  let hasPrevious := (← fs).blocks.length > 1
  if !hasClose && hasPrevious && bl.upval then
    let _ ← codeABC .close stklevel 0 0
  modifyFs fun fs => { fs with freeReg := stklevel, blocks := fs.blocks.tail }
  modify fun s => { s with labels := s.labels.extract 0 bl.firstLabel }
  if hasPrevious then moveGotosOut bl
  else
    let s ← get
    if h : bl.firstGoto < s.gotos.size then undefGoto s.gotos[bl.firstGoto]
  return bl

/-- Fails when label `name` is already visible. -/
def checkRepeated (name : String) : C Unit := do
  if let some lb ← findLabel name then
    semError ("label '" ++ name ++ "' already defined on line " ++ toString lb.line)

/-- `break`. -/
def breakStat : C Unit := do
  let line ← lexLine
  advance
  let j ← jump
  newGoto "break" line j

/-- `goto name`, after `goto`: a backward jump is settled at once. -/
def gotoStat : C Unit := do
  let line ← lexLine
  let name ← checkName
  match ← findLabel name with
  | none => newGoto name line (← jump)
  | some lb =>
    let lblevel ← regLevel lb.nactvar
    if (← nvarstack) > lblevel then
      let _ ← codeABC .close lblevel 0 0
    patchList (← jump) lb.pc.toNat

/-! ## Functions -/

/-- The function takes any number of arguments beyond its `nparams` parameters. -/
def setVararg (nparams : Nat) : C Unit := do
  modifyProto fun f => { f with isVararg := true }
  let _ ← codeABC .varargPrep nparams 0 0

/-- Starts compiling a function nested in the current one. -/
def openFunc (lineDefined : Nat) : C Unit := do
  let s ← get
  let fs : FuncState :=
    { f := { source := some s.source, lineDefined }, previousLine := lineDefined,
      firstLocal := s.nlocals, firstLabel := s.labels.size }
  set { s with fs, outer := s.fs :: s.outer }
  enterBlock false

/-- Ends the function being compiled: its final return, its outermost block and its last
pass. Its prototype. -/
def finishFunc : C Proto := do
  ret (← nvarstack) 0
  let _ ← leaveBlock
  finish
  return (← fs).f.withOps

/-- Makes a closure of the function just read in the function around it, in its next
register. -/
def codeClosure : C ExpDesc := do
  let s ← get
  match s.outer with
  | parent :: rest =>
    set { s with fs := parent, outer := rest }
    let p ← codeABx .closure 0 parent.f.protos.size
    let e ← exp2nextreg { kind := .reloc p }
    modify fun s' => { s' with fs := s.fs, outer := s'.fs :: s'.outer }
    return e
  | [] => return { kind := .void }

/-- Ends a nested function and adds its prototype to the function around it. -/
def closeFunc : C Unit := do
  let p ← finishFunc
  modify fun s => match s.outer with
    | parent :: rest =>
      { s with fs := { parent with f := { parent.f with protos := parent.f.protos.push p } },
               outer := rest }
    | [] => s

/-- Parameter names, up to `...` or the last name: how many and whether `...` ended them. -/
def parNames : Nat → Nat → C (Nat × Bool)
  | 0, n => pure (n, false)
  | fuel + 1, n => do
    match (← current).tok with
    | .name nm =>
      advance
      let _ ← newLocalVar nm
      if ← testSym "," then parNames fuel (n + 1) else return (n + 1, false)
    | .sym "..." =>
      advance
      return (n, true)
    | _ => syntaxError "<name> or '...' expected"

/-- A parameter list, between the parentheses. -/
def parList : C Unit := do
  let (nparams, isVararg) ←
    if ← isSym ")" then pure (0, false) else parNames ((← get).toks.size + 1) 0
  adjustLocalVars nparams
  let na := (← fs).nactvar
  modifyProto fun f => { f with numParams := na }
  if isVararg then setVararg na
  reserveRegs na

/-- `.name` or `:name` after an expression. -/
def fieldSel (v : ExpDesc) : C ExpDesc := do
  let v ← exp2anyregup v
  advance
  let key ← codeName
  indexed v key

/-- The rest of a function name after its first part: fields, then perhaps a method. -/
def funcNameRest : Nat → ExpDesc → C (ExpDesc × Bool)
  | 0, v => pure (v, false)
  | fuel + 1, v => do
    if ← isSym "." then funcNameRest fuel (← fieldSel v)
    else if ← isSym ":" then return (← fieldSel v, true)
    else return (v, false)

/-- A function statement's name: the variable it assigns and whether it is a method. -/
def funcName : C (ExpDesc × Bool) := do
  let v ← singleVar
  funcNameRest ((← get).toks.size + 1) v

/-- The attribute of a local: `<const>`, `<close>` or none. -/
def localAttribute : C VarKind := do
  if ← testSym "<" then
    let attr ← checkName
    checkSym ">"
    if attr == "const" then return .readOnly
    else if attr == "close" then return .toClose
    else semError ("unknown attribute '" ++ attr ++ "'")
  return .regular

/-- The names of a local statement: the index of the last, how many, and the position of the
to-be-closed one among the active locals. -/
def localNames : Nat → Nat → Option Nat → C (Nat × Nat × Option Nat)
  | 0, n, toclose => pure (0, n, toclose)
  | fuel + 1, n, toclose => do
    let vidx ← newLocalVar (← checkName)
    let kind ← localAttribute
    modifyLocal vidx fun d => { d with kind }
    let mut toclose := toclose
    if kind == .toClose then
      if toclose.isSome then semError "multiple to-be-closed variables in local list"
      toclose := some ((← fs).nactvar + n)
    if ← testSym "," then localNames fuel (n + 1) toclose
    else return (vidx, n + 1, toclose)

/-- More loop variables of a generic `for`, after the first: how many in all. -/
def forNames : Nat → Nat → C Nat
  | 0, n => pure n
  | fuel + 1, n => do
    if ← testSym "," then
      let _ ← newLocalVar (← checkName)
      forNames fuel (n + 1)
    else return n

/-- Points a numeric or generic loop's jump to `dest`, backwards when `back`. -/
def fixForJump (pc dest : Nat) (back : Bool) : C Unit := do
  let offset : Int := if back then (pc + 1 : Int) - dest else (dest : Int) - (pc + 1)
  if offset > maxArgBx then syntaxError "control structure too long"
  setInstr pc ((← instrAt pc).setBx offset.toNat)

/-- Skips semicolons. -/
def skipSemicolons : Nat → C Unit
  | 0 => pure ()
  | fuel + 1 => do if ← testSym ";" then skipSemicolons fuel

/-! ## Assignments and table constructors -/

/-- The expression is a variable that can be assigned (or a constant, which fails later). -/
def isVar (e : ExpDesc) : Bool :=
  match e.kind with
  | .localVar .. | .upval _ | .constLocal _ | .indexed .. | .indexUp .. | .indexInt ..
  | .indexStr .. => true
  | _ => false

/-- The expression is a table field. -/
def isIndexed (e : ExpDesc) : Bool :=
  match e.kind with
  | .indexed .. | .indexUp .. | .indexInt .. | .indexStr .. => true
  | _ => false

/-- The expression gives any number of values. -/
def isMulti (e : ExpDesc) : Bool :=
  match e.kind with
  | .call _ | .vararg _ => true
  | _ => false

/-- In a multiple assignment, a table or key of an earlier target that is the variable `v`
assigned now is read from a copy made before the assignments. -/
def checkConflict (lhs : List ExpDesc) (v : ExpDesc) : C (List ExpDesc) := do
  let extra := (← fs).freeReg
  let mut conflict := false
  let mut out : Array ExpDesc := #[]
  for lh in lhs do
    let mut lh := lh
    match lh.kind, v.kind with
    | .indexUp t key, .upval u =>
      if t == u then
        conflict := true
        lh := { lh with kind := .indexStr extra key }
    | .indexed t idx, .localVar _ r =>
      let mut t := t
      let mut idx := idx
      if t == r then
        conflict := true
        t := extra
      if idx == r then
        conflict := true
        idx := extra
      lh := { lh with kind := .indexed t idx }
    | .indexInt t key, .localVar _ r =>
      if t == r then
        conflict := true
        lh := { lh with kind := .indexInt extra key }
    | .indexStr t key, .localVar _ r =>
      if t == r then
        conflict := true
        lh := { lh with kind := .indexStr extra key }
    | _, _ => pure ()
    out := out.push lh
  if conflict then
    match v.kind with
    | .localVar _ r => let _ ← codeABC .move extra r 0
    | .upval u => let _ ← codeABC .getUpval extra u 0
    | _ => pure ()
    reserveRegs 1
  return out.toList

/-- A table constructor being read: the last list item not yet stored, the table's register,
the counts of keyed and stored list items, and the list items waiting to be stored. -/
structure Cons where
  v : ExpDesc := { kind := .void }
  treg : Nat
  nh : Nat := 0
  na : Nat := 0
  tostore : Nat := 0

/-- Puts the last list item in its register, storing a full batch. -/
def closeListField (cc : Cons) : C Cons := do
  match cc.v.kind with
  | .void => return cc
  | _ =>
    let _ ← exp2nextreg cc.v
    let cc := { cc with v := { kind := .void } }
    if cc.tostore == fieldsPerFlush then
      setList cc.treg cc.na cc.tostore
      return { cc with na := cc.na + cc.tostore, tostore := 0 }
    return cc

/-- Stores the list items still waiting; a last call or `...` gives all its values. -/
def lastListField (cc : Cons) : C Cons := do
  if cc.tostore == 0 then return cc
  if isMulti cc.v then
    setReturns cc.v (-1)
    setList cc.treg cc.na (-1)
    return { cc with na := cc.na + cc.tostore - 1 }
  match cc.v.kind with
  | .void => pure ()
  | _ => let _ ← exp2nextreg cc.v
  setList cc.treg cc.na cc.tostore
  return { cc with na := cc.na + cc.tostore }

/-! ## Operators -/

/-- The unary operator a token is. -/
def unOpr? : Tok → Option UnOpr
  | .word "not" => some .not
  | .sym "-" => some .minus
  | .sym "~" => some .bnot
  | .sym "#" => some .len
  | _ => none

/-- The binary operator a token is. -/
def binOpr? : Tok → Option BinOpr
  | .sym "+" => some (.arith .add)
  | .sym "-" => some (.arith .sub)
  | .sym "*" => some (.arith .mul)
  | .sym "%" => some (.arith .mod)
  | .sym "^" => some (.arith .pow)
  | .sym "/" => some (.arith .div)
  | .sym "//" => some (.arith .idiv)
  | .sym "&" => some (.arith .band)
  | .sym "|" => some (.arith .bor)
  | .sym "~" => some (.arith .bxor)
  | .sym "<<" => some (.arith .shl)
  | .sym ">>" => some (.arith .shr)
  | .sym ".." => some .concat
  | .sym "~=" => some .ne
  | .sym "==" => some .eq
  | .sym "<" => some .lt
  | .sym "<=" => some .le
  | .sym ">" => some .gt
  | .sym ">=" => some .ge
  | .word "and" => some .and
  | .word "or" => some .or
  | _ => none

/-- How tightly unary operators bind. -/
def unaryPriority : Nat := 12

/-! ## The grammar -/

mutual

/-- Statements up to the end of a block; `return` ends them. -/
def statList : Nat → C Unit
  | 0 => tooDeep
  | fuel + 1 => do
    if ← blockFollow true then return
    if ← isWord "return" then
      statement fuel
      return
    statement fuel
    statList fuel

/-- A block of statements in a scope of its own. -/
def block : Nat → C Unit
  | 0 => tooDeep
  | fuel + 1 => do
    enterBlock false
    statList fuel
    let _ ← leaveBlock

/-- One statement. -/
def statement : Nat → C Unit
  | 0 => tooDeep
  | fuel + 1 => do
    let line ← lexLine
    enterLevel
    match (← current).tok with
    | .sym ";" => advance
    | .word "if" => ifStat fuel line
    | .word "while" => whileStat fuel line
    | .word "do" =>
      advance
      block fuel
      checkMatch (testWord "end") "'end'" "'do'" line
    | .word "for" => forStat fuel line
    | .word "repeat" => repeatStat fuel line
    | .word "function" => funcStat fuel line
    | .word "local" =>
      advance
      if ← testWord "function" then localFunc fuel else localStat fuel
    | .sym "::" =>
      advance
      let name ← checkName
      labelStat fuel name line
    | .word "return" =>
      advance
      retStat fuel
    | .word "break" => breakStat
    | .word "goto" =>
      advance
      gotoStat
    | _ => exprStat fuel
    let nv ← nvarstack
    modifyFs fun fs => { fs with freeReg := nv }
    leaveLevel

/-- Empty statements and labels after a label. -/
def skipNoOps : Nat → C Unit
  | 0 => tooDeep
  | fuel + 1 => do
    if (← isSym ";") || (← isSym "::") then
      statement fuel
      skipNoOps fuel

/-- A label, after its name. -/
def labelStat : Nat → String → Nat → C Unit
  | 0, _, _ => tooDeep
  | fuel + 1, name, line => do
    checkSym "::"
    skipNoOps fuel
    checkRepeated name
    let last ← blockFollow false
    let _ ← createLabel name line last

/-- `if` with its `elseif` and `else` parts. -/
def ifStat : Nat → Nat → C Unit
  | 0, _ => tooDeep
  | fuel + 1, line => do
    let esc ← testThenBlock fuel noJump
    let esc ← elseIfs fuel esc
    if ← testWord "else" then block fuel
    checkMatch (testWord "end") "'end'" "'if'" line
    patchToHere esc

/-- The `elseif` parts. -/
def elseIfs : Nat → Int → C Int
  | 0, _ => tooDeep
  | fuel + 1, esc => do
    if ← isWord "elseif" then elseIfs fuel (← testThenBlock fuel esc)
    else return esc

/-- `if` or `elseif`, its condition and its block; the jumps out of the whole statement. -/
def testThenBlock : Nat → Int → C Int
  | 0, _ => tooDeep
  | fuel + 1, esc => do
    advance
    let v ← expr fuel
    checkWord "then"
    let mut jf : Int := noJump
    if ← isWord "break" then
      let line ← lexLine
      let v ← goIfFalse v
      advance
      enterBlock false
      newGoto "break" line v.t
      skipSemicolons ((← get).toks.size + 1)
      if ← blockFollow false then
        let _ ← leaveBlock
        return esc
      jf := ((← jump) : Int)
    else
      let v ← goIfTrue v
      enterBlock false
      jf := v.f
    statList fuel
    let _ ← leaveBlock
    let mut esc := esc
    if (← isWord "else") || (← isWord "elseif") then
      let j ← jump
      esc ← concatJumps esc j
    patchToHere jf
    return esc

/-- A loop condition: the jumps taken when it is false. -/
def cond : Nat → C Int
  | 0 => tooDeep
  | fuel + 1 => do
    let v ← expr fuel
    let v := match v.kind with
      | .nil => { v with kind := .falseConst }
      | _ => v
    let v ← goIfTrue v
    return v.f

/-- `while`. -/
def whileStat : Nat → Nat → C Unit
  | 0, _ => tooDeep
  | fuel + 1, line => do
    advance
    let whileInit ← getLabel
    let condExit ← cond fuel
    enterBlock true
    checkWord "do"
    block fuel
    jumpTo whileInit
    checkMatch (testWord "end") "'end'" "'while'" line
    let _ ← leaveBlock
    patchToHere condExit

/-- `repeat`: the condition sees the body's locals; when one is captured, looping closes it. -/
def repeatStat : Nat → Nat → C Unit
  | 0, _ => tooDeep
  | fuel + 1, line => do
    let repeatInit ← getLabel
    enterBlock true
    enterBlock false
    advance
    statList fuel
    checkMatch (testWord "until") "'until'" "'repeat'" line
    let mut condExit ← cond fuel
    let bl2 ← leaveBlock
    if bl2.upval then
      let exit ← jump
      patchToHere condExit
      let _ ← codeABC .close (← regLevel bl2.nactvar) 0 0
      condExit := ((← jump) : Int)
      patchToHere exit
    patchList condExit repeatInit
    let _ ← leaveBlock

/-- `for`, numeric or generic. -/
def forStat : Nat → Nat → C Unit
  | 0, _ => tooDeep
  | fuel + 1, line => do
    enterBlock true
    advance
    let varName ← checkName
    match (← current).tok with
    | .sym "=" => forNum fuel varName line
    | .sym "," | .word "in" => forList fuel varName
    | _ => syntaxError "'=' or 'in' expected"
    checkMatch (testWord "end") "'end'" "'for'" line
    let _ ← leaveBlock

/-- An expression into the next register. -/
def exp1 : Nat → C Unit
  | 0 => tooDeep
  | fuel + 1 => do
    let e ← expr fuel
    let _ ← exp2nextreg e

/-- A numeric `for`: start, limit and step in three hidden locals, then the variable. -/
def forNum : Nat → String → Nat → C Unit
  | 0, _, _ => tooDeep
  | fuel + 1, varName, line => do
    let base := (← fs).freeReg
    let _ ← newLocalVar "(for state)"
    let _ ← newLocalVar "(for state)"
    let _ ← newLocalVar "(for state)"
    let _ ← newLocalVar varName
    checkSym "="
    exp1 fuel
    checkSym ","
    exp1 fuel
    if ← testSym "," then exp1 fuel
    else
      loadInt (← fs).freeReg 1
      reserveRegs 1
    adjustLocalVars 3
    forBody fuel base line 1 false

/-- A generic `for`: the iterator, state, control and closing values in four hidden locals,
then the variables. -/
def forList : Nat → String → C Unit
  | 0, _ => tooDeep
  | fuel + 1, indexName => do
    let base := (← fs).freeReg
    for _ in [0:4] do
      let _ ← newLocalVar "(for state)"
    let _ ← newLocalVar indexName
    let nvars ← forNames ((← get).toks.size + 1) 5
    checkWord "in"
    let line ← lexLine
    let (n, e) ← expList fuel
    adjustAssign 4 n e
    adjustLocalVars 4
    markToBeClosed
    checkStack 3
    forBody fuel base line (nvars - 4) true

/-- The body of a `for` and its looping instructions. -/
def forBody : Nat → Nat → Nat → Nat → Bool → C Unit
  | 0, _, _, _, _ => tooDeep
  | fuel + 1, base, line, nvars, isGen => do
    checkWord "do"
    let prep ← codeABx (if isGen then .tforPrep else .forPrep) base 0
    enterBlock false
    adjustLocalVars nvars
    reserveRegs nvars
    block fuel
    let _ ← leaveBlock
    fixForJump prep (← getLabel) false
    if isGen then
      let _ ← codeABC .tforCall base 0 nvars
      fixLine line
    let endFor ← codeABx (if isGen then .tforLoop else .forLoop) base 0
    fixForJump endFor (prep + 1) true
    fixLine line

/-- `function name body`: the assignment is filed under the statement's first line. -/
def funcStat : Nat → Nat → C Unit
  | 0, _ => tooDeep
  | fuel + 1, line => do
    advance
    let (v, isMethod) ← funcName
    let b ← body fuel isMethod line
    checkReadonly v
    storeVar v b
    fixLine line

/-- `local function name body`: the name is in scope in the body. -/
def localFunc : Nat → C Unit
  | 0 => tooDeep
  | fuel + 1 => do
    let fvar := (← fs).nactvar
    let _ ← newLocalVar (← checkName)
    adjustLocalVars 1
    let _ ← body fuel false (← lexLine)
    match ← localDebugIndex fvar with
    | some idx =>
      let p ← pc
      modifyProto fun f => { f with locVars := f.locVars.modify idx fun v => { v with startPc := p } }
    | none => pure ()

/-- `local` names with attributes and values; a `<const>` last name with a constant value is a
compile-time constant. -/
def localStat : Nat → C Unit
  | 0 => tooDeep
  | fuel + 1 => do
    let (vidx, nvars, toclose) ← localNames ((← get).toks.size + 1) 0 none
    let (nexps, e) ← if ← testSym "=" then expList fuel else pure (0, { kind := .void })
    let var ← localDesc vidx
    let mut folded := false
    if nvars == nexps && var.kind == .readOnly then
      if let some v ← exp2const e then
        modifyLocal vidx fun d => { d with kind := .compileTime, value := v }
        adjustLocalVars (nvars - 1)
        modifyFs fun fs => { fs with nactvar := fs.nactvar + 1 }
        folded := true
    if !folded then
      adjustAssign nvars nexps e
      adjustLocalVars nvars
    checkToClose toclose

/-- A call statement or an assignment. -/
def exprStat : Nat → C Unit
  | 0 => tooDeep
  | fuel + 1 => do
    let v ← suffixedExp fuel
    if (← isSym "=") || (← isSym ",") then
      let _ ← restAssign fuel [v] 1
    else
      match v.kind with
      | .call p => setInstr p ((← instrAt p).setC 1)
      | _ => syntaxError "syntax error"

/-- The targets of an assignment after the first, innermost first in `lhs`, and the values.
The targets as later targets changed them. -/
def restAssign : Nat → List ExpDesc → Nat → C (List ExpDesc)
  | 0, _, _ => tooDeep
  | fuel + 1, lhs, nvars => do
    let cur := lhs.headD { kind := .void }
    unless isVar cur do syntaxError "syntax error"
    checkReadonly cur
    if ← testSym "," then
      let nv ← suffixedExp fuel
      let lhs ← if isIndexed nv then pure lhs else checkConflict lhs nv
      enterLevel
      let r ← restAssign fuel (nv :: lhs) (nvars + 1)
      leaveLevel
      let lhs := r.tail
      storeVar (lhs.headD { kind := .void }) { kind := .nonReloc ((← fs).freeReg - 1) }
      return lhs
    else
      checkSym "="
      let (nexps, e) ← expList fuel
      if nexps != nvars then
        adjustAssign nvars nexps e
        storeVar cur { kind := .nonReloc ((← fs).freeReg - 1) }
      else
        let e ← setOneRet e
        storeVar cur e
      return lhs

/-- `return`, after the word: one call outside the scope of a to-be-closed variable is a
tail call. -/
def retStat : Nat → C Unit
  | 0 => tooDeep
  | fuel + 1 => do
    let mut first ← nvarstack
    let mut nret : Int := 0
    if !((← blockFollow true) || (← isSym ";")) then
      let (n, e) ← expList fuel
      if isMulti e then
        setReturns e (-1)
        match e.kind with
        | .call p =>
          if n == 1 && !(← curBlock).insideTbc then
            setInstr p ((← instrAt p).setOp .tailCall)
        | _ => pure ()
        nret := -1
      else
        if n == 1 then
          let (r, _) ← exp2anyreg e
          first := r
        else
          let _ ← exp2nextreg e
          first ← nvarstack
        nret := n
    ret first nret
    let _ ← testSym ";"

/-- A function body after `function` (and its name): parameters and block, compiled as a
function of its own, then made a closure. -/
def body : Nat → Bool → Nat → C ExpDesc
  | 0, _, _ => tooDeep
  | fuel + 1, isMethod, line => do
    openFunc line
    if isMethod then
      let _ ← newLocalVar "self"
      adjustLocalVars 1
    checkSym "("
    parList
    checkSym ")"
    statList fuel
    let last ← lexLine
    modifyProto fun f => { f with lastLineDefined := last }
    checkMatch (testWord "end") "'end'" "'function'" line
    let e ← codeClosure
    closeFunc
    return e

/-- An expression list: how many, and the last expression (the others are in consecutive
registers). -/
def expList : Nat → C (Nat × ExpDesc)
  | 0 => tooDeep
  | fuel + 1 => do
    let v ← expr fuel
    expListRest fuel 1 v

/-- The rest of an expression list after `n` expressions, the last of them `v`. -/
def expListRest : Nat → Nat → ExpDesc → C (Nat × ExpDesc)
  | 0, _, _ => tooDeep
  | fuel + 1, n, v => do
    if ← testSym "," then
      let _ ← exp2nextreg v
      let v ← expr fuel
      expListRest fuel (n + 1) v
    else return (n, v)

/-- An expression. -/
def expr : Nat → C ExpDesc
  | 0 => tooDeep
  | fuel + 1 => do return (← subexpr fuel 0).1

/-- An expression whose binary operators bind tighter than `limit`, and the first operator
left over. -/
def subexpr : Nat → Nat → C (ExpDesc × Option BinOpr)
  | 0, _ => tooDeep
  | fuel + 1, limit => do
    enterLevel
    let v ← match unOpr? (← current).tok with
      | some uop => do
        let line ← lexLine
        advance
        let (v, _) ← subexpr fuel unaryPriority
        prefixOp uop v line
      | none => simpleExp fuel
    let r ← binLoop fuel v (binOpr? (← current).tok) limit
    leaveLevel
    return r

/-- Applies binary operators to `v` while they bind tighter than `limit`. -/
def binLoop : Nat → ExpDesc → Option BinOpr → Nat → C (ExpDesc × Option BinOpr)
  | 0, _, _, _ => tooDeep
  | fuel + 1, v, op?, limit => do
    match op? with
    | some op =>
      if op.left > limit then
        let line ← lexLine
        advance
        let v ← infixOp op v
        let (v2, nextOp) ← subexpr fuel op.right
        let v ← posfixOp op v v2 line
        binLoop fuel v nextOp limit
      else return (v, op?)
    | none => return (v, none)

/-- A constant, `...`, a constructor, a function, or a suffixed expression. -/
def simpleExp : Nat → C ExpDesc
  | 0 => tooDeep
  | fuel + 1 => do
    match (← current).tok with
    | .num f =>
      advance
      return { kind := .kflt f }
    | .int n =>
      advance
      return { kind := .kint n }
    | .str s =>
      advance
      return { kind := .kstr s }
    | .word "nil" =>
      advance
      return { kind := .nil }
    | .word "true" =>
      advance
      return { kind := .trueConst }
    | .word "false" =>
      advance
      return { kind := .falseConst }
    | .sym "..." =>
      unless (← fs).f.isVararg do syntaxError "cannot use '...' outside a vararg function"
      let p ← codeABC .vararg 0 0 1
      advance
      return { kind := .vararg p }
    | .sym "\x7b" => constructor fuel
    | .word "function" =>
      advance
      body fuel false (← lexLine)
    | _ => suffixedExp fuel

/-- A name or a parenthesized expression. -/
def primaryExp : Nat → C ExpDesc
  | 0 => tooDeep
  | fuel + 1 => do
    match (← current).tok with
    | .sym "(" =>
      let line ← lexLine
      advance
      let v ← expr fuel
      checkMatch (testSym ")") "')'" "'('" line
      dischargeVars v
    | .name _ => singleVar
    | _ => syntaxError "unexpected symbol"

/-- A primary expression with its fields, indexes, calls and method calls. -/
def suffixedExp : Nat → C ExpDesc
  | 0 => tooDeep
  | fuel + 1 => do
    let v ← primaryExp fuel
    suffixes fuel v

/-- The suffixes of an expression. -/
def suffixes : Nat → ExpDesc → C ExpDesc
  | 0, _ => tooDeep
  | fuel + 1, v => do
    match (← current).tok with
    | .sym "." => suffixes fuel (← fieldSel v)
    | .sym "[" =>
      let v ← exp2anyregup v
      let key ← yindex fuel
      suffixes fuel (← indexed v key)
    | .sym ":" =>
      advance
      let key ← codeName
      let v ← selfOp v key
      suffixes fuel (← funcArgs fuel v)
    | .sym "(" | .str _ | .sym "\x7b" =>
      let v ← exp2nextreg v
      suffixes fuel (← funcArgs fuel v)
    | _ => return v

/-- `[exp]`, a key. -/
def yindex : Nat → C ExpDesc
  | 0 => tooDeep
  | fuel + 1 => do
    advance
    let v ← expr fuel
    let v ← exp2val v
    checkSym "]"
    return v

/-- The arguments of a call of the function in register `f`: the call, filed under the line
the arguments start on. -/
def funcArgs : Nat → ExpDesc → C ExpDesc
  | 0, _ => tooDeep
  | fuel + 1, f => do
    let line ← lexLine
    let mut args : ExpDesc := { kind := .void }
    match (← current).tok with
    | .sym "(" =>
      advance
      if !(← isSym ")") then
        let (_, e) ← expList fuel
        args := e
        if isMulti e then setReturns e (-1)
      checkMatch (testSym ")") "')'" "'('" line
    | .sym "\x7b" => args ← constructor fuel
    | .str s =>
      args := { kind := .kstr s }
      advance
    | _ => syntaxError "function arguments expected"
    let base : Nat := match f.kind with
      | .nonReloc r => r
      | _ => 0
    let mut nparams : Int := -1
    if !isMulti args then
      match args.kind with
      | .void => pure ()
      | _ => let _ ← exp2nextreg args
      nparams := ((← fs).freeReg : Int) - ((base + 1 : Nat) : Int)
    let p ← codeABC .call base (nparams + 1).toNat 2
    fixLine line
    modifyFs fun fs => { fs with freeReg := base + 1 }
    return { kind := .call p }

/-- A table constructor. -/
def constructor : Nat → C ExpDesc
  | 0 => tooDeep
  | fuel + 1 => do
    let line ← lexLine
    let pc ← codeABC .newTable 0 0 0
    let _ ← code ⟨0⟩
    let treg := (← fs).freeReg
    reserveRegs 1
    checkSym "\x7b"
    let cc ← fields fuel { treg }
    checkMatch (testSym "\x7d") "'\x7d'" "'\x7b'" line
    let cc ← lastListField cc
    setTableSize pc treg cc.na cc.nh
    return { kind := .nonReloc treg }

/-- The fields of a constructor, separated by `,` or `;`. -/
def fields : Nat → Cons → C Cons
  | 0, _ => tooDeep
  | fuel + 1, cc => do
    if ← isSym "\x7d" then return cc
    let cc ← closeListField cc
    let cc ← field fuel cc
    if ← testSym "," then fields fuel cc
    else if ← testSym ";" then fields fuel cc
    else return cc

/-- One field: `name = exp`, `[exp] = exp`, or a list item. -/
def field : Nat → Cons → C Cons
  | 0, _ => tooDeep
  | fuel + 1, cc => do
    match (← current).tok with
    | .name _ =>
      if (← lookahead) matches .sym "=" then recField fuel cc else listField fuel cc
    | .sym "[" => recField fuel cc
    | _ => listField fuel cc

/-- A list item. -/
def listField : Nat → Cons → C Cons
  | 0, _ => tooDeep
  | fuel + 1, cc => do
    let v ← expr fuel
    return { cc with v, tostore := cc.tostore + 1 }

/-- A keyed field, stored at once. -/
def recField : Nat → Cons → C Cons
  | 0, _ => tooDeep
  | fuel + 1, cc => do
    let reg := (← fs).freeReg
    let key ← if (← current).tok matches .name _ then codeName else yindex fuel
    checkSym "="
    let tab ← indexed { kind := .nonReloc cc.treg } key
    let v ← expr fuel
    storeVar tab v
    modifyFs fun fs => { fs with freeReg := reg }
    return { cc with nh := cc.nh + 1 }

end

/-- The main function of a chunk: it takes any arguments and has `_ENV` as its one
upvalue. -/
def mainFunc (fuel : Nat) : C Proto := do
  enterBlock false
  setVararg 0
  modifyProto fun f =>
    { f with upvals := #[{ name := some "_ENV", inStack := true, index := 0 }] }
  match (← current).tok with
  | .error e => lexFail e
  | _ => pure ()
  statList fuel
  unless (← current).tok matches .eof do syntaxError "<eof> expected"
  finishFunc

end Compile

/-- Compiles a chunk named `source`, a name that ends at its first zero byte as Lua keeps it;
`level` is the depth of the interpreter's recursion the compiler starts from. -/
def compile (src : List UInt8) (name : ByteArray) (level : Nat := 0) :
    Except CompileError Proto :=
  let source : ByteArray := ⟨(cString name.data.toList).toArray⟩
  let toks := tokenize src
  let fuel := 64 * (toks.size + 8)
  let init : CompileState :=
    { toks, level, source, sourceId := chunkId source,
      fs := { f := { source := some source }, previousLine := 0, firstLocal := 0,
              firstLabel := 0 } }
  (Compile.mainFunc fuel).run' init

end CounterCache.Lua.Code
