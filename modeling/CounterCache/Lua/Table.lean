import CounterCache.Lua.Value

/-!
# Lua tables

A table has an array part, holding the values at the integer keys `1 … n`, and a hash part: a
vector of nodes whose size is a power of two, where a key lives in its main position or, when
that is taken, in a free node chained from it. The length operator and traversal order depend on
this layout, so it follows Lua 5.4 exactly:

* A new key that finds its main position taken goes to a free node, searched downwards from the
  last one handed out; the key already there moves out if it is not in its own main position.
  With no free node left, the table is rehashed: the array part gets the largest power of two
  `n` such that more than half of the integer keys `1 … n` are present, and the hash part room
  for every other key, rounded up to a power of two.
* Removing a value keeps its key in the node, so a traversal can clear fields as it goes and a
  later assignment reuses the node.
* The length `#t` is a border, found from a hint (`limit`) that the length operator and integer
  reads move, by the same binary searches as Lua's; the hint decides which border is found when
  there are several.
* Traversal visits the array part in order and then the nodes in vector order.

Integers hash by their remainder modulo the largest odd number below the vector size, strings by
Lua's shift-and-add hash, doubles by their binary exponent and mantissa, and other objects by a
made-up address.
-/

namespace CounterCache.Lua

/-- A node of a table's hash part. A node whose key is `nil` was never used; a node whose value
is `nil` holds a removed entry. -/
structure Node where
  key : Value := .nil
  val : Value := .nil
  next : Option Nat := none
  deriving Inhabited

/-- A table: its array part, the length hint and whether it is the array's size, the hash part
and the position below which free nodes are searched, and its metatable. -/
structure Table where
  array : Array Value := #[]
  limit : Nat := 0
  limitIsSize : Bool := true
  nodes : Array Node := #[]
  lastFree : Nat := 0
  metatable : Option Nat := none
  deriving Inhabited

/-- Where a key's value lives in a table. -/
inductive Place where
  /-- A position of the array part, from zero. -/
  | array (i : Nat)
  /-- A node of the hash part. -/
  | node (i : Nat)
  | absent
  deriving Inhabited

/-- The number of bits of the largest array part. -/
def maxArrayBits : Nat := 31

/-- The least `k` with `2 ^ k ≥ x`. -/
def ceilLog2 (x : Nat) : Nat :=
  if x ≤ 1 then 0 else Nat.log2 (x - 1) + 1

/-- `x` is zero or a power of two. -/
def isPow2 (x : Nat) : Bool := x &&& (x - 1) == 0

/-- The seed of string hashes. -/
def hashSeed : Nat := 0x2545F491

/-- Lua's hash of a string: from the seed xored with the length, each byte from the last is
mixed in by `h ^ ((h << 5) + (h >> 2) + byte)`, on 32 bits. -/
def stringHash (s : ByteArray) : Nat :=
  (go s.size (hashSeed.toUInt32 ^^^ s.size.toUInt32)).toNat
where
  /-- Mixes in the bytes before position `i`, from the last. -/
  go (i : Nat) (h : UInt32) : UInt32 :=
    match i with
    | 0 => h
    | j + 1 => go j (h ^^^ ((h <<< 5) + (h >>> 2) + (s.get! j).toUInt32))

/-- The hash of a double: its binary exponent plus the first 31 bits of its mantissa, folded to
a non-negative 32-bit integer. -/
def floatHash (f : Double) : Nat :=
  match f.classify with
  | .finite neg m e =>
    if m = 0 then 0
    else
      let b := Nat.log2 m + 1
      let frac := if b ≤ 31 then m * Nat.pow 2 (31 - b) else m / Nat.pow 2 (b - 31)
      let ni : Int := if neg then -(frac : Int) else frac
      let i : Int := e + b
      let u : UInt32 := i.toInt32.toUInt32 + ni.toInt32.toUInt32
      (if u < 2147483648 then u else ~~~u).toNat
  | _ => 0

/-- A made-up address of an object for hashing. -/
def objectHash (kind id : Nat) : Nat :=
  (0x2f000 + kind.toUInt32 * 0x1000000 + id.toUInt32 * 0x40 : UInt32).toNat

namespace Table

/-- The main position of a key in a hash part of `size` nodes (`size > 0`). -/
def mainPosition (size : Nat) (k : Value) : Nat :=
  let modOdd (n : Nat) : Nat := n % ((size - 1) ||| 1)
  match k with
  | .int i => modOdd (toBits64 i)
  | .num f => modOdd (floatHash f)
  | .str s => stringHash s % size
  | .bool b => (if b then 1 else 0) % size
  | .table id => modOdd (objectHash 0 id)
  | .closure id => modOdd (objectHash 1 id)
  | .builtin b => modOdd (objectHash 2 b.ordinal)
  | .native id => modOdd (objectHash 3 id)
  | .host id => modOdd (objectHash 4 id)
  | .thread id => modOdd (objectHash 5 id)
  | .failure _ => modOdd (objectHash 6 0)
  | .file f => modOdd (objectHash 7 f.index)
  | .nil => 0

/-- The node holding a key, following the chain from its main position. -/
def findNode (t : Table) (k : Value) : Option Nat :=
  let size := t.nodes.size
  let rec walk (i : Nat) : (fuel : Nat) → Option Nat
    | 0 => none
    | fuel + 1 =>
      let n := t.nodes.getD i {}
      if !n.key.isNil && n.key.rawEq k then some i
      else match n.next with
        | some j => walk j fuel
        | none => none
  if size = 0 then none else walk (mainPosition size k) size

/-- Where an integer key lives, and the new length hint when reading it moves the hint: a key
past the hint but inside the array part becomes the hint. -/
def placeInt (t : Table) (k : Int) : Place × Option Nat :=
  if 1 ≤ k ∧ k ≤ t.limit then (.array (k - 1).toNat, none)
  else if !t.limitIsSize ∧ 1 ≤ k ∧ k ≤ t.array.size then (.array (k - 1).toNat, some k.toNat)
  else
    match t.findNode (.int k) with
    | some i => (.node i, none)
    | none => (.absent, none)

/-- Where a normalized key lives, and the new length hint if reading it moves the hint. -/
def place (t : Table) (k : Value) : Place × Option Nat :=
  match k with
  | .int i => t.placeInt i
  | .nil => (.absent, none)
  | _ =>
    match t.findNode k with
    | some i => (.node i, none)
    | none => (.absent, none)

/-- The value at a place. -/
def valueAt (t : Table) : Place → Value
  | .array i => t.array.getD i .nil
  | .node i => (t.nodes.getD i {}).val
  | .absent => .nil

/-- Moves the length hint. -/
def withLimit (t : Table) : Option Nat → Table
  | some l => { t with limit := l }
  | none => t

/-- The value at a normalized key, and the table with its length hint moved by the read. -/
def lookup (t : Table) (k : Value) : Value × Table :=
  let (p, l) := t.place k
  (t.valueAt p, t.withLimit l)

/-- The value at a normalized key, leaving the length hint alone. -/
def get (t : Table) (k : Value) : Value := t.valueAt (t.place k).1

/-- The value at an integer key, leaving the length hint alone. -/
def getInt (t : Table) (i : Int) : Value := t.get (.int i)

/-- The length hint becomes the array size. -/
def settleLimit (t : Table) : Table := { t with limit := t.array.size, limitIsSize := true }

/-- Counts a positive integer key into the slice `(2 ^ (k - 1), 2 ^ k]` it falls in: whether it
could be an array index. -/
def countKey (nums : Array Nat) (k : Int) : Array Nat × Nat :=
  if 1 ≤ k ∧ k ≤ Int.pow 2 maxArrayBits then
    (nums.modify (ceilLog2 k.toNat) (· + 1), 1)
  else (nums, 0)

/-- Counts the values of the array part by slice: the counts and their total. -/
def countArray (t : Table) (nums : Array Nat) : Array Nat × Nat :=
  t.array.zipIdx.foldl (fun (nums, total) (v, i) =>
    if v.isNil then (nums, total) else (nums.modify (ceilLog2 (i + 1)) (· + 1), total + 1))
    (nums, 0)

/-- Counts the entries of the hash part: the slice counts with the integer keys added, how many
integer keys could be array indices, and how many entries there are. -/
def countHash (t : Table) (nums : Array Nat) : Array Nat × Nat × Nat :=
  t.nodes.foldl (fun (nums, ints, total) n =>
    if n.val.isNil then (nums, ints, total)
    else
      match n.key with
      | .int k => let (nums, c) := countKey nums k; (nums, ints + c, total + 1)
      | _ => (nums, ints, total + 1))
    (nums, 0, 0)

/-- The array size for a key count by slices: the largest power of two `2 ^ i` such that more
than half of `1 … 2 ^ i` would be used, with how many keys go to the array part. -/
def arraySize (nums : Array Nat) (count : Nat) : Nat × Nat :=
  let rec go (i a na optimal : Nat) : (fuel : Nat) → Nat × Nat
    | 0 => (optimal, na)
    | fuel + 1 =>
      let twoI := Nat.pow 2 i
      if i > maxArrayBits ∨ count ≤ twoI / 2 then (optimal, na)
      else
        let a := a + nums.getD i 0
        if a > twoI / 2 then go (i + 1) a a twoI fuel else go (i + 1) a na optimal fuel
  go 0 0 0 0 (maxArrayBits + 2)

/-- A vector of fresh nodes for `size` entries: none for zero, else the next power of two. -/
def freshNodes (size : Nat) : Array Node :=
  if size = 0 then #[] else Array.replicate (Nat.pow 2 (ceilLog2 size)) {}

/-- A free node, searched downwards from the last one handed out. -/
def freeNode (t : Table) : Option Nat × Table :=
  let rec go (i : Nat) : Option Nat × Nat :=
    match i with
    | 0 => (none, 0)
    | j + 1 => if (t.nodes.getD j {}).key.isNil then (some j, j) else go j
  let (f, last) := go t.lastFree
  (f, { t with lastFree := last })

/-- The node whose `next` is `target`, walking the chain from `i`. -/
def chainBefore (t : Table) (target : Nat) (i : Nat) : (fuel : Nat) → Nat
  | 0 => i
  | fuel + 1 =>
    match (t.nodes.getD i {}).next with
    | some j => if j == target then i else chainBefore t target j fuel
    | none => i

/-- Sets a node's `next`. -/
def setNext (t : Table) (i : Nat) (n : Option Nat) : Table :=
  { t with nodes := t.nodes.modify i fun x => { x with next := n } }

mutual

/-- Stores a value at a normalized key that is neither `nil` nor NaN, without metamethods. -/
def rawSet (fuel : Nat) (t : Table) (k v : Value) : Table :=
  let (p, l) := t.place k
  let t := t.withLimit l
  match p with
  | .array i => { t with array := t.array.set! i v }
  | .node i => { t with nodes := t.nodes.modify i fun n => { n with val := v } }
  | .absent => newKey fuel t k v
termination_by 4 * fuel + 3

/-- Inserts a key that is not in the table; a `nil` value inserts nothing. -/
def newKey (n : Nat) (t : Table) (k v : Value) : Table :=
  match n with
  | 0 => t
  | fuel + 1 =>
    if v.isNil then t
    else if t.nodes.size = 0 then rawSet fuel (rehash fuel t k) k v
    else
      let mp := mainPosition t.nodes.size k
      let here := t.nodes.getD mp {}
      if here.val.isNil then
        { t with nodes := t.nodes.set! mp { here with key := k, val := v } }
      else
        match t.freeNode with
        | (none, t) => rawSet fuel (rehash fuel t k) k v
        | (some f, t) =>
          let other := mainPosition t.nodes.size here.key
          if other != mp then
            -- the colliding node is out of its main position: move it to the free node
            let prev := chainBefore t mp other t.nodes.size
            let t := setNext t prev (some f)
            let nodes := (t.nodes.set! f here).set! mp { key := k, val := v, next := none }
            { t with nodes }
          else
            -- the colliding node is in its main position: the new key takes the free node
            let nodes := (t.nodes.set! f { key := k, val := v, next := here.next }).set! mp
              { here with next := some f }
            { t with nodes }
termination_by 4 * n + 2

/-- Resizes the table for a key about to be inserted: the array part to the best power of two
for the integer keys, the hash part to the rest. -/
def rehash (fuel : Nat) (t : Table) (k : Value) : Table :=
  let t := t.settleLimit
  let nums := Array.replicate (maxArrayBits + 1) 0
  let (nums, na) := t.countArray nums
  let (nums, ints, used) := t.countHash nums
  let (nums, extra) := match k with
    | .int i => countKey nums i
    | _ => (nums, 0)
  let total := na + used + 1
  let (size, inArray) := arraySize nums (na + ints + extra)
  resize fuel t size (total - inArray)
termination_by 4 * fuel + 5

/-- Gives the table an array part of `size` and a hash part for `hashSize` entries, moving the
entries that change part. -/
def resize (n : Nat) (t : Table) (size hashSize : Nat) : Table :=
  match n with
  | 0 => t
  | fuel + 1 =>
    let t := t.settleLimit
    let oldSize := t.array.size
    let oldNodes := t.nodes
    let fresh := freshNodes hashSize
    let t := { t with nodes := fresh, lastFree := fresh.size }
    -- the values of a vanishing slice of the array go into the new hash part first
    let t :=
      if size < oldSize then
        let shrunk := (List.range (oldSize - size)).foldl (fun (u : Table) j =>
          let v := t.array.getD (size + j) .nil
          if v.isNil then u else rawSet fuel u (.int (size + j + 1)) v)
          { t with limit := size }
        { shrunk with limit := oldSize }
      else t
    let array :=
      if size < oldSize then t.array.extract 0 size
      else t.array ++ Array.replicate (size - oldSize) Value.nil
    let t := { t with array, limit := size, limitIsSize := true }
    oldNodes.foldl (fun u x => if x.val.isNil then u else rawSet fuel u x.key x.val) t
termination_by 4 * n + 4

end

/-- Fuel for the storing functions: a rehash nests at most a few levels. -/
def storeFuel : Nat := 16

/-- Stores a value at a normalized key that is neither `nil` nor NaN. -/
def set (t : Table) (k v : Value) : Table := rawSet storeFuel t k v

/-- Stores a value at an integer key. -/
def setInt (t : Table) (i : Int) (v : Value) : Table := t.set (.int i) v

/-- A new table holding `vs` at the keys `1, 2, …`, stored one after another. -/
def ofSeq (vs : List Value) : Table :=
  vs.zipIdx.foldl (fun t (v, i) => t.set (.int (i + 1)) v) {}

/-- A new table with room for `arr` array values and `rec` other entries. -/
def create (arr rec : Nat) : Table :=
  if arr = 0 ∧ rec = 0 then {} else resize storeFuel {} arr rec

/-- Grows or shrinks the array part, keeping the hash part's size. -/
def resizeArray (t : Table) (size : Nat) : Table :=
  resize storeFuel t size t.nodes.size

/-- Binary search for a border of the array part between `i` (zero or present) and `j`
(absent), counting from one. -/
def arrayBorder (a : Array Value) (i j : Nat) : (fuel : Nat) → Nat
  | 0 => i
  | fuel + 1 =>
    if j - i ≤ 1 then i
    else
      let m := (i + j) / 2
      if (a.getD (m - 1) .nil).isNil then arrayBorder a i m fuel else arrayBorder a m j fuel

/-- A border among the integer keys of the hash part, above `j` (zero or present) where `j + 1`
is present: doubling until an absent key, then a binary search. -/
def hashBorder (t : Table) (j : Nat) : Nat :=
  let present (n : Nat) : Bool :=
    match t.findNode (.int n) with
    | some i => !(t.nodes.getD i {}).val.isNil
    | none => false
  let maxInt : Nat := Nat.pow 2 63 - 1
  let rec bisect (i j : Nat) : (fuel : Nat) → Nat
    | 0 => i
    | fuel + 1 =>
      if j - i ≤ 1 then i
      else
        let m := (i + j) / 2
        if present m then bisect m j fuel else bisect i m fuel
  let rec double (i : Nat) : (fuel : Nat) → Nat
    | 0 => i
    | fuel + 1 =>
      if i ≤ maxInt / 2 then
        let j := 2 * i
        if present j then double j fuel else bisect i j 70
      else if present maxInt then maxInt
      else bisect i maxInt 70
  double (if j = 0 then 1 else j) 70

/-- The length `#t`, with the table whose length hint the search moved. -/
def length (t : Table) : Nat × Table :=
  let a := t.array
  let empty (i : Nat) : Bool := (a.getD i .nil).isNil
  let limit := t.limit
  -- the real size is a power of two, so the hint may differ from it
  let pow2Size := !t.limitIsSize || isPow2 limit
  let hashPart (t : Table) (limit : Nat) : Nat × Table :=
    if t.nodes.size = 0 || (t.valueAt (t.placeInt (limit + 1)).1).isNil then (limit, t)
    else (hashBorder t limit, t)
  if limit > 0 ∧ empty (limit - 1) then
    if limit ≥ 2 ∧ !empty (limit - 2) then
      if pow2Size ∧ !isPow2 (limit - 1) then
        (limit - 1, { t with limit := limit - 1, limitIsSize := false })
      else (limit - 1, t)
    else
      let b := arrayBorder a 0 limit 64
      if pow2Size ∧ b > a.size / 2 then (b, { t with limit := b, limitIsSize := false })
      else (b, t)
  else if !(t.limitIsSize || isPow2 limit) then
    if empty limit then (limit, t)
    else if empty (a.size - 1) then
      let b := arrayBorder a limit a.size 64
      (b, { t with limit := b })
    else hashPart { t with limit := a.size } a.size
  else hashPart t limit

/-- The first array position from `i` on that holds a value. -/
def nextInArray (t : Table) (i : Nat) : Option (Value × Value) :=
  go i (t.array.size - i)
where
  go (j : Nat) : (fuel : Nat) → Option (Value × Value)
    | 0 => none
    | fuel + 1 =>
      let v := t.array.getD j .nil
      if v.isNil then go (j + 1) fuel else some (.int (j + 1), v)

/-- The first node from `i` on that holds a value. -/
def nextInNodes (t : Table) (i : Nat) : Option (Value × Value) :=
  go i (t.nodes.size - i)
where
  go (j : Nat) : (fuel : Nat) → Option (Value × Value)
    | 0 => none
    | fuel + 1 =>
      let n := t.nodes.getD j {}
      if n.val.isNil then go (j + 1) fuel else some (n.key, n.val)

/-- The traversal step after a normalized key (`nil` to start): the next key and value, nothing
at the end, and an error when the key is not in the table. -/
def next? (t : Table) (k : Value) : Option (Option (Value × Value)) :=
  let after (i : Nat) : Option (Value × Value) :=
    if i < t.array.size then
      match t.nextInArray i with
      | some kv => some kv
      | none => t.nextInNodes 0
    else t.nextInNodes (i - t.array.size)
  match k with
  | .nil => some (after 0)
  | .int n =>
    if 1 ≤ n ∧ n ≤ t.array.size then some (after n.toNat)
    else (t.findNode k).map fun i => after (t.array.size + i + 1)
  | _ => (t.findNode k).map fun i => after (t.array.size + i + 1)

theorem ceilLog2_one : ceilLog2 1 = 0 := rfl

end Table

end CounterCache.Lua
