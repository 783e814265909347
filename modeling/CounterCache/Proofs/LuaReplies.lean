import Mathlib
import CounterCache.Proofs.SequenceTables
import CounterCache.Proofs.Utf8
import CounterCache.Script.Eval

/-!
# Replies through Lua and back

A command's reply reaches a script as a Lua value (`Script.replyValue`): `nil` as `false`, so
that a list keeps its length, integers and strings as themselves, a status as a table with an
`ok` field, and a list as a table of its items at `1, 2, …`. A script's result is read back as a
reply (`Script.resultReply`). Reading back what was made gives the reply itself, the machine
unchanged, whatever the machine was before: a script that returns what a command answered
answers the command's reply.

`Represents` says how a value stands for a reply in a heap of tables, and how deep its tables
go; `Builds` says that a computation adds tables to the heap and gives a value that stands for a
reply. The main statement is `resultReply_replyValue`, for replies whose lists fit the array
part of a Lua table.
-/

namespace CounterCache

/-! ## Replies that fit Lua's array part -/

namespace Reply

mutual

/-- Every list in the reply, at any depth, has at most `2 ^ 31` items: it fits the largest
array part of a Lua table. -/
def fits : Reply → Bool
  | .array items => decide (items.length ≤ 2 ^ Lua.maxArrayBits) && fitsAll items
  | _ => true

/-- Every reply of the list fits. -/
def fitsAll : List Reply → Bool
  | [] => true
  | r :: rs => r.fits && fitsAll rs

end

theorem fitsAll_iff (items : List Reply) : fitsAll items = true ↔ ∀ r ∈ items, r.fits = true := by
  induction items with
  | nil => simp [fitsAll]
  | cons r rs ih => simp [fitsAll, ih]

end Reply

namespace Lua.LuaM

/-- A step that answers hands its answer and its machine to the rest of the run. -/
theorem bind_run_ok {σ α β : Type} {x : LuaM σ α} {f : α → LuaM σ β} {m m' : Machine σ} {a : α}
    (h : x m = .ok a m') : (x >>= f) m = f a m' := by
  show LuaM.bind x f m = _
  unfold LuaM.bind
  rw [h]

end Lua.LuaM

namespace Lua.Machine

variable {σ : Type}

/-- A read of a plain table answers what the table reads and leaves the machine as it is. -/
theorem rawLookup_of_reads {m : Machine σ} {id : Nat} {t : Table}
    (ht : m.heap.tables.getD id {} = t) {k x : Value} (hr : t.Reads k x) :
    rawLookup id k m = .ok (x, t.metatable) m := by
  obtain ⟨hx, hl⟩ := hr
  unfold rawLookup
  simp only [ht, hl, ← hx]
  rfl

theorem index_of_reads {m : Machine σ} {id : Nat} {t : Table} (ht : m.heap.tables.getD id {} = t)
    (hmt : t.metatable = none) {k x : Value} (hr : t.Reads k.normKey x) (o : Operand) :
    index (.table id) k o m = .ok x m := by
  unfold index
  rw [show maxTagLoop = 1999 + 1 from rfl, index.go]
  rw [LuaM.bind_run_ok (rawLookup_of_reads ht hr)]
  simp only [hmt]
  -- without a metatable, a `nil` field is `nil`
  cases x <;> rfl

end Lua.Machine

namespace Script

open Lua

theorem utf8Text_toUTF8 (s : String) : utf8Text s.toUTF8 = .ok s := by
  rw [utf8Text, ← ByteArray.toList_eq_data_toList, Text.decodeUtf8_toUTF8]

theorem ownedText_toUTF8 (s : String) : ownedText s.toUTF8 = .ok s := by
  rw [ownedText, ← ByteArray.toList_eq_data_toList, Text.decodeUtf8_toUTF8]

/-! ## Values standing for replies -/

/-- How a value stands for a reply in a heap of tables, its tables nested at most `d` deep:
`false` for nil, integers and strings as themselves, a status as a table whose `ok` field holds
its text, a list as a table holding its items at `1, 2, …` and then `nil`. The tables have no
metatable and no `err` field, and reading them moves no length hint. -/
inductive Represents (H : Array Table) : Nat → Lua.Value → Reply → Prop
  | nil (d : Nat) : Represents H d (.bool false) .nil
  | int (d : Nat) (n : Int) : Represents H d (.int n) (.int n)
  | bulk (d : Nat) (s : String) : Represents H d (.ofString s) (.bulk s)
  | status (d id : Nat) (t : Table) (s : String) : H[id]? = some t → t.metatable = none →
      t.Reads (.ofString "err") .nil → t.Reads (.ofString "ok") (.ofString s) →
      Represents H d (.table id) (.status s)
  | array (d id : Nat) (t : Table) (items : List Reply) (vals : Nat → Lua.Value) :
      H[id]? = some t → t.metatable = none →
      t.Reads (.ofString "err") .nil → t.Reads (.ofString "ok") .nil →
      (∀ i, i < items.length → t.Reads (.int (i + 1)) (vals i)) →
      (∀ i (hi : i < items.length), Represents H d (vals i) items[i]) →
      t.Reads (.int (items.length + 1)) .nil → items.length ≤ t.array.size + t.nodes.size →
      Represents H (d + 1) (.table id) (.array items)

namespace Represents

variable {H H' : Array Table} {d d' : Nat} {v : Lua.Value} {r : Reply}

theorem isNil_eq (h : Represents H d v r) : v.isNil = false := by
  cases h <;> rfl

/-- A value keeps standing for its reply as tables are added and as the depth allowed grows. -/
theorem mono (h : Represents H d v r)
    (hH : ∀ (id : Nat) (t : Table), H[id]? = some t → H'[id]? = some t)
    (hd : d ≤ d') : Represents H' d' v r := by
  induction h generalizing d' with
  | nil => exact .nil d'
  | int _ n => exact .int d' n
  | bulk _ s => exact .bulk d' s
  | status _ id t s ht hmt herr hok => exact .status d' id t s (hH id t ht) hmt herr hok
  | array d id t items vals ht hmt herr hok hreads _ hend hslots ih =>
    obtain ⟨d', rfl⟩ : ∃ e, d' = e + 1 := ⟨d' - 1, by omega⟩
    exact .array d' id t items vals (hH id t ht) hmt herr hok hreads
      (fun i hi => ih i hi (by omega)) hend hslots

end Represents

/-! ## Reading a result back -/

variable {t₀ : Transaction}

theorem getD_of_getElem? {H : Array Table} {id : Nat} {t : Table} (h : H[id]? = some t) :
    H.getD id {} = t := by
  rw [Array.getD_eq_getD_getElem?, h, Option.getD_some]

/-- Reading a field of a plain table by a key that needs no normalizing (an integer or a string)
answers what the table reads there and leaves the machine as it is. -/
theorem readField_of_reads {m : Machine (Session t₀)} {id : Nat} {t : Table}
    (ht : m.heap.tables.getD id {} = t) (hmt : t.metatable = none) {k x : Lua.Value}
    (hk : k.normKey = k) (hr : t.Reads k x) : readField (.table id) k m = (.ok x, m) := by
  unfold readField runValues
  rw [LuaM.bind_run_ok (Machine.index_of_reads ht hmt (k := k) (by rwa [hk]) _)]
  rw [show schedulerFuel = (Nat.pow 2 50 - 1) + 1 from rfl, LuaM.pure_run, drive]
  rfl

section Sequence

variable {m : Machine (Session t₀)} {id fuel : Nat} {t : Table} {items : List Reply}
  {vals : Nat → Lua.Value}

/-- The items of a list table read back one by one, each to its reply, up to the `nil` after the
last: `k` items are left to read. -/
theorem sequenceReplies_of_reads (ht : m.heap.tables.getD id {} = t) (hmt : t.metatable = none)
    (hreads : ∀ i, i < items.length → t.Reads (.int (i + 1)) (vals i))
    (hnil : ∀ i, i < items.length → (vals i).isNil = false)
    (hrec : ∀ i (hi : i < items.length), resultReply fuel (vals i) m = (.ok items[i], m))
    (hend : t.Reads (.int (items.length + 1)) .nil) (k : Nat) (hk : k ≤ items.length)
    (steps : Nat) (hsteps : k < steps) :
    sequenceReplies fuel (.table id) (items.length - k + 1) (items.take (items.length - k)).toArray
      m steps = (.ok items.toArray, m) := by
  induction k generalizing steps with
  | zero =>
    obtain ⟨steps, rfl⟩ : ∃ s, steps = s + 1 := ⟨steps - 1, by omega⟩
    rw [sequenceReplies, Nat.sub_zero, Nat.cast_add_one, readField_of_reads ht hmt rfl hend,
      List.take_length]
  | succ k ih =>
    obtain ⟨steps, rfl⟩ : ∃ s, steps = s + 1 := ⟨steps - 1, by omega⟩
    -- the item read now is the one at `j`, then `k` are left
    obtain ⟨j, hj⟩ : ∃ j, items.length - (k + 1) = j := ⟨_, rfl⟩
    have hjlt : j < items.length := by omega
    have hnext : items.length - k = j + 1 := by omega
    rw [sequenceReplies, hj, Nat.cast_add_one, readField_of_reads ht hmt rfl (hreads j hjlt)]
    have hv := hnil j hjlt
    split
    · rename_i h
      cases h
    · rename_i h
      -- the item read is not `nil`
      obtain ⟨hnilv, -⟩ := Prod.mk.inj h
      rw [Except.ok.inj hnilv] at hv
      cases hv
    · rename_i item m' _ h
      obtain ⟨hitem, hm⟩ := Prod.mk.inj h
      rw [← Except.ok.inj hitem, ← hm, hrec j hjlt]
      have htake : (items.take j).toArray.push items[j] = (items.take (j + 1)).toArray := by
        rw [List.push_toArray, List.take_succ_eq_append_getElem hjlt]
      dsimp only
      rw [htake, ← hnext]
      exact ih (by omega) steps (by omega)

end Sequence

/-- Reading back a value that stands for a reply, with fuel past the depth of its tables, gives
the reply and leaves the machine as it is. -/
theorem resultReply_of_represents {m : Machine (Session t₀)} (fuel : Nat) :
    ∀ {d : Nat} {v : Lua.Value} {r : Reply}, Represents m.heap.tables d v r → d < fuel →
      resultReply fuel v m = (.ok r, m) := by
  induction fuel with
  | zero => intro d v r _ hd; omega
  | succ fuel ih =>
    intro d v r h hd
    cases h with
    | nil => rw [resultReply]
    | int => rw [resultReply]
    | bulk _ s =>
      rw [Lua.Value.ofString, resultReply, utf8Text_toUTF8]
      rfl
    | status _ id t s ht hmt herr hok =>
      have hget := getD_of_getElem? ht
      rw [resultReply, readField_of_reads hget hmt rfl herr]
      dsimp only [textField]
      rw [readField_of_reads hget hmt rfl hok]
      dsimp only [textField, Lua.Value.ofString]
      rw [ownedText_toUTF8]
      rfl
    | array d id t items vals ht hmt herr hok hreads hitems hend hslots =>
      have hget := getD_of_getElem? ht
      rw [resultReply, readField_of_reads hget hmt rfl herr]
      dsimp only [textField]
      rw [readField_of_reads hget hmt rfl hok]
      dsimp only [textField]
      have hseq := sequenceReplies_of_reads hget hmt hreads (fun i hi => (hitems i hi).isNil_eq)
        (fun i hi => ih (hitems i hi) (by omega)) hend items.length le_rfl
        (sequenceSteps (.table id) m) (by simp only [sequenceSteps, hget]; omega)
      rw [Nat.sub_self, List.take_zero] at hseq
      rw [show (List.toArray [] : Array Reply) = #[] from rfl] at hseq
      rw [hseq]

/-! ## Making a value for a reply -/

section Builds

variable {σ : Type}

/-- Running `x` on any machine only adds tables to the heap and gives a value that stands for
`r`, its tables no deeper than the number of tables added. -/
def Builds (r : Reply) (x : LuaM σ Lua.Value) : Prop :=
  ∀ m : Machine σ, ∃ v m' ts, x m = .ok v m' ∧ m'.heap.tables = m.heap.tables ++ ts ∧
    Represents m'.heap.tables ts.size v r

theorem getElem?_append_of_getElem? {H : Array Table} {id : Nat} {t : Table} (ts : Array Table)
    (h : H[id]? = some t) : (H ++ ts)[id]? = some t := by
  rw [Array.getElem?_append_left (Array.getElem?_eq_some_iff.1 h).1, h]

theorem newTable_run (t : Table) (m : Machine σ) :
    Machine.newTable t m = .ok m.heap.tables.size
      { m with heap := { m.heap with tables := m.heap.tables ++ #[t] } } := by
  rw [← Array.push_eq_append]
  rfl

/-- Running `f` over a list in turn builds, for each element, a value that stands for its reply
in the heap at the end. -/
theorem mapM_loop_builds {α : Type} (f : α → LuaM σ Lua.Value) (g : α → Reply) :
    ∀ (xs : List α), (∀ x ∈ xs, Builds (g x) (f x)) → ∀ (acc : List Lua.Value) (m : Machine σ),
      ∃ vs m' ts, List.mapM.loop f xs acc m = .ok (acc.reverse ++ vs) m' ∧
        m'.heap.tables = m.heap.tables ++ ts ∧
        List.Forall₂ (fun v x => Represents m'.heap.tables ts.size v (g x)) vs xs
  | [], _, acc, m => ⟨[], m, #[], by simp [List.mapM.loop, LuaM.pure_run], by simp, .nil⟩
  | x :: xs, hxs, acc, m => by
    obtain ⟨v, m₁, ts₁, hrun₁, htables₁, hrep₁⟩ := hxs x (by simp) m
    obtain ⟨vs, m₂, ts₂, hrun₂, htables₂, hrep₂⟩ :=
      mapM_loop_builds f g xs (fun y hy => hxs y (by simp [hy])) (v :: acc) m₁
    have hmono : ∀ (id : Nat) (t : Table), m₁.heap.tables[id]? = some t →
        m₂.heap.tables[id]? = some t := fun id t h => htables₂ ▸ getElem?_append_of_getElem? ts₂ h
    refine ⟨v :: vs, m₂, ts₁ ++ ts₂, ?_, by rw [htables₂, htables₁, Array.append_assoc], ?_⟩
    · rw [List.mapM.loop, LuaM.bind_run_ok hrun₁, hrun₂]
      simp
    · refine .cons (hrep₁.mono hmono (by simp)) (hrep₂.imp fun w y h => h.mono (fun _ _ h => h) ?_)
      simp

/-- The table of a status reply holds its text in its `ok` field and no `err` field. -/
theorem builds_fieldTable_ok (s : String) : Builds (σ := σ) (.status s) (fieldTable "ok" s) := by
  intro m
  have hv : (Lua.Value.ofString s).isNil = false := rfl
  let T : Table := ({} : Table).set (.ofString "ok") (.ofString s)
  refine ⟨.table m.heap.tables.size, { m with heap := { m.heap with tables := m.heap.tables ++ #[T] } },
    #[T], ?_, rfl, ?_⟩
  · unfold fieldTable
    rw [LuaM.bind_run_ok (newTable_run _ m)]
    rfl
  · simp only [T]
    rw [Lua.Value.ofString, Table.set_str_empty _ hv]
    have herr := Table.reads_single ("ok".toUTF8) ("err".toUTF8) (.ofString s)
    have hok := Table.reads_single ("ok".toUTF8) ("ok".toUTF8) (.ofString s)
    rw [show (Lua.Value.str "ok".toUTF8).rawEq (.str "err".toUTF8) = false by decide, if_neg (by simp)] at herr
    rw [show (Lua.Value.str "ok".toUTF8).rawEq (.str "ok".toUTF8) = true by decide, if_pos rfl] at hok
    exact .status _ _ _ s (by simp) rfl herr hok

/-- The table of a list reply holds the values built for its items at `1, 2, …`, while the list
fits the array part. -/
theorem builds_array (items : List Reply) (hmax : items.length ≤ 2 ^ Lua.maxArrayBits)
    (hitems : ∀ r ∈ items, Builds (σ := σ) r (replyValue r)) :
    Builds (σ := σ) (.array items) (replyValue (.array items)) := by
  intro m
  obtain ⟨vs, m₁, ts₁, hrun₁, htables₁, hrep₁⟩ :=
    mapM_loop_builds (fun x : {r // r ∈ items} => replyValue x.1) Subtype.val items.attach
      (fun x _ => hitems x.1 x.2) [] m
  obtain ⟨hlen, hget⟩ := List.forall₂_iff_get.1 hrep₁
  rw [List.length_attach] at hlen
  have hnil : ∀ v ∈ vs, v.isNil = false := by
    intro v hv
    obtain ⟨i, hi, rfl⟩ := List.getElem_of_mem hv
    exact (hget i hi (by rw [List.length_attach]; omega)).isNil_eq
  have hdense := Table.dense_ofSeq vs hnil (by omega)
  let T := Table.ofSeq vs
  refine ⟨.table m₁.heap.tables.size,
    { m₁ with heap := { m₁.heap with tables := m₁.heap.tables ++ #[T] } }, ts₁ ++ #[T], ?_,
    by rw [htables₁, Array.append_assoc], ?_⟩
  · rw [replyValue]
    -- the items are made by `replyValue` of each element of the list
    show (List.mapM (fun x : {r // r ∈ items} => replyValue x.1) items.attach >>= fun vs => do
      let id ← Machine.newTable (Table.ofSeq vs)
      pure (Lua.Value.table id)) m = _
    rw [List.mapM, LuaM.bind_run_ok hrun₁, List.reverse_nil, List.nil_append,
      LuaM.bind_run_ok (newTable_run _ m₁)]
    rfl
  · have hsize : (ts₁ ++ #[T]).size = ts₁.size + 1 := by simp
    rw [hsize]
    show Represents (m₁.heap.tables ++ #[T]) (ts₁.size + 1) _ _
    have hmono : ∀ (id : Nat) (t : Table), m₁.heap.tables[id]? = some t →
        (m₁.heap.tables ++ #[T])[id]? = some t := fun id t h => getElem?_append_of_getElem? _ h
    refine .array ts₁.size _ T items (fun i => vs.getD i .nil) ?_ hdense.metatable_eq
      (hdense.reads_str _) (hdense.reads_str _) (fun i hi => ?_) (fun i hi => ?_) ?_ ?_
    · rw [Array.getElem?_append_right le_rfl, Nat.sub_self]
      rfl
    · rw [List.getD_eq_getElem _ _ (by omega)]
      exact hdense.reads_int _
    · rw [List.getD_eq_getElem _ _ (by omega)]
      have h := hget i (by omega) (by rw [List.length_attach]; exact hi)
      simp only [List.get_eq_getElem, List.getElem_attach] at h
      exact h.mono hmono le_rfl
    · rw [← hlen]
      exact hdense.reads_end
    · rw [← hlen]
      exact hdense.length_le_slots

/-- Every reply whose lists fit the array part builds a value that stands for it. -/
theorem builds_replyValue : ∀ (r : Reply), r.fits = true → Builds (σ := σ) r (replyValue r)
  | .nil, _ => fun m => ⟨.bool false, m, #[], by rw [replyValue]; rfl, by simp, .nil 0⟩
  | .int n, _ => fun m => ⟨.int n, m, #[], by rw [replyValue]; rfl, by simp, .int 0 n⟩
  | .bulk s, _ => fun m => ⟨.ofString s, m, #[], by rw [replyValue]; rfl, by simp, .bulk 0 s⟩
  | .status s, _ => by
    rw [replyValue]
    exact builds_fieldTable_ok s
  | .array items, h => by
    simp only [Reply.fits, Bool.and_eq_true, decide_eq_true_eq] at h
    exact builds_array items h.1
      fun r hr => builds_replyValue r ((Reply.fitsAll_iff items).1 h.2 r hr)
termination_by r => r
decreasing_by
  have := List.sizeOf_lt_of_mem hr
  simp only [Reply.array.sizeOf_spec]
  omega

end Builds

/-- A reply whose lists fit the array part of a Lua table, made into a Lua value on any machine
and read back as a script's result, is the same reply, and reading it back leaves the machine
as it is. -/
theorem resultReply_replyValue (r : Reply) (hr : r.fits = true) (m : Machine (Session t₀)) :
    ∃ v m', replyValue r m = .ok v m' ∧ resultReply (replyFuel m') v m' = (.ok r, m') := by
  obtain ⟨v, m', ts, hrun, htables, hrep⟩ := builds_replyValue r hr m
  refine ⟨v, m', hrun, resultReply_of_represents _ hrep ?_⟩
  -- the value's tables are among those of the heap, so the fuel is past their depth
  have hsize : ts.size ≤ m'.heap.tables.size := by
    rw [htables, Array.size_append]
    omega
  rw [replyFuel]
  omega

/-- A list holding every kind of reply, a status and an empty list among them. -/
theorem resultReply_replyValue_mixed :
    let r := Reply.array [.int 1, .bulk "two", .status "OK", .nil, .array [.array []]]
    r.fits = true ∧ ∃ v m', replyValue r (Machine.init (⟨Transaction.begin .empty 0, .start⟩ :
      Session (Transaction.begin .empty 0)) none) = .ok v m' ∧
        resultReply (replyFuel m') v m' = (.ok r, m') := by
  intro r
  have hr : r.fits = true := by decide
  exact ⟨hr, resultReply_replyValue r hr _⟩

end Script

end CounterCache
