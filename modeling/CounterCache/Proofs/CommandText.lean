import Mathlib
import CounterCache.Proofs.PrintedIntegers
import CounterCache.Proofs.Utf8
import CounterCache.Script.Eval

/-!
# Printed commands read back

A command is written as its name and its operands, each operand a text or an integer. An integer
is written in decimal, and the flags of `ZADD` and `ZREVRANGE` as the words `NX` and
`WITHSCORES`. A script hands the same operands to `redis.call` as Lua strings and integers.

The reader checks operand counts, pairs up `HSET` and `ZADD` operands and reads integers after
trimming blanks. A printed integer holds no blank and reads back as itself in the signed 64-bit
range (`parseInt_toString`), and a printed score never reads as the `NX` flag, which shares its
slot.

Main statement: `parse_inverts_print`. A command whose key, field and member lists are non-empty
and whose integers are 64-bit reads back from its printed form, its name in any ASCII letter
case. Handed to `redis.call` as Lua values, the same operands run that very command.
-/

namespace CounterCache

namespace Command

/-- An operand as a script hands it over: a text or an integer. -/
inductive Arg where
  | text (s : String)
  | int (n : Int)

namespace Arg

/-- The operand's text: an integer in decimal. -/
def render : Arg → String
  | .text s => s
  | .int n => toString n

/-- The operand as a Lua value. -/
def toLua : Arg → Lua.Value
  | .text s => .ofString s
  | .int n => .int n

end Arg

/-- The operands of a command, in the order they are written after its name. -/
def args : Command → List Arg
  | .get k | .ttl k | .hgetall k | .zcard k | .scard k => [.text k]
  | .set k v => [.text k, .text v]
  | .del ks | .exist ks => ks.map .text
  | .expire k s => [.text k, .int s]
  | .hget k f | .hexists k f => [.text k, .text f]
  | .hset k ps => .text k :: ps.flatMap fun p => [.text p.1, .text p.2]
  | .hsetnx k f v => [.text k, .text f, .text v]
  | .hincrby k f d => [.text k, .text f, .int d]
  | .hdel k fs => .text k :: fs.map .text
  | .zadd k nx ms =>
    .text k :: ((if nx then [.text "NX"] else []) ++ ms.flatMap fun p => [.int p.1, .text p.2])
  | .zincrby k d m => [.text k, .int d, .text m]
  | .zrem k ms | .sadd k ms | .srem k ms => .text k :: ms.map .text
  | .zscore k m | .sismember k m => [.text k, .text m]
  | .zrevrange k a b ws => [.text k, .int a, .int b] ++ if ws then [.text "WITHSCORES"] else []

/-- The command has a printed form: its lists of keys, fields and members are not empty, and its
integers are signed 64-bit ones. -/
def Printable : Command → Prop
  | .del ks | .exist ks => ks ≠ []
  | .expire _ s => Text.InI64 s
  | .hset _ ps => ps ≠ []
  | .hincrby _ _ d | .zincrby _ d _ => Text.InI64 d
  | .hdel _ ms | .zrem _ ms | .sadd _ ms | .srem _ ms => ms ≠ []
  | .zadd _ _ ms => ms ≠ [] ∧ ∀ p ∈ ms, Text.InI64 p.1
  | .zrevrange _ a b _ => Text.InI64 a ∧ Text.InI64 b
  | _ => True

/-! ## Pairs of operands -/

theorem pairsOf_flatMap (ps : List (String × String)) :
    pairsOf (ps.flatMap fun p => [p.1, p.2]) = ps := by
  induction ps with
  | nil => rfl
  | cons p ps ih => simp [pairsOf, ih]

theorem scoredPairs_flatMap {ms : List (Int × String)} (h : ∀ p ∈ ms, Text.InI64 p.1) :
    scoredPairs (ms.flatMap fun p => [toString p.1, p.2]) = .ok ms := by
  induction ms with
  | nil => rfl
  | cons p ms ih =>
    have hp : parseInt (toString p.1) = .ok p.1 := by
      rw [parseInt_toString, if_pos (h p List.mem_cons_self)]
    have hrest := ih fun q hq => h q (List.mem_cons_of_mem p hq)
    rw [List.flatMap_cons, List.cons_append, List.cons_append, List.nil_append, scoredPairs, hp,
      hrest]
    rfl

/-! ## The `NX` slot -/

theorem toUpper_of_isDigit {c : Char} (h : c.isDigit = true) : c.toUpper = c := by
  simp only [Char.isDigit, Bool.and_eq_true, decide_eq_true_eq] at h
  simp only [Char.toUpper]
  split
  · next h' =>
    -- a digit lies below `a`, so it is no lower-case letter
    have h9 : c.val.toNat ≤ 57 := UInt32.le_iff_toNat_le.1 h.2
    have ha : 97 ≤ c.val.toNat := UInt32.le_iff_toNat_le.1 h'.1
    omega
  · rfl

theorem head_toString (n : Int) :
    ∃ c rest, (toString n).toList = c :: rest ∧ c.toUpper = c ∧ c ≠ 'N' := by
  cases n with
  | ofNat m =>
    rw [Int.ofNat_eq_natCast, Text.toList_toString_ofNat]
    obtain ⟨c, rest, hcs⟩ := List.exists_cons_of_ne_nil (Nat.toDigits_ne_nil (n := m) (b := 10))
    have hc : c.isDigit :=
      Nat.isDigit_of_mem_toDigits (by decide) (by decide) (hcs ▸ List.mem_cons_self)
    refine ⟨c, rest, hcs, toUpper_of_isDigit hc, ?_⟩
    rintro rfl
    exact absurd hc (by decide)
  | negSucc m =>
    rw [Text.toList_toString_negSucc]
    exact ⟨'-', _, rfl, by decide, by decide⟩

theorem sameWord_toString_nx (n : Int) : sameWord (toString n) "NX" = false := by
  obtain ⟨c, rest, hl, hup, hN⟩ := head_toString n
  simp only [sameWord, beq_eq_false_iff_ne, ne_eq]
  intro h
  have hhead := congrArg (fun s => s.toList.head?) h
  simp only [String.toList_map, hl, List.map_cons, List.head?_cons, hup] at hhead
  exact hN (Option.some.inj hhead)

/-! ## Reading back -/

theorem sameWord_self (w : String) : sameWord w w = true := by
  simp [sameWord]

theorem parseInt_toString_of_inI64 {n : Int} (h : Text.InI64 n) :
    parseInt (toString n) = .ok n := by
  rw [parseInt_toString, if_pos h]

theorem render_map_text (ks : List String) : (ks.map Arg.text).map Arg.render = ks := by
  simp [Function.comp_def, Arg.render]

theorem length_flatMap_pair {β : Type} (f g : β → String) (ps : List β) :
    (ps.flatMap fun p => [f p, g p]).length = 2 * ps.length := by
  induction ps with
  | nil => rfl
  | cons p ps ih => simp [ih]; omega

theorem parse_printed (c : Command) (hc : c.Printable) (word : String)
    (hword : word.map Char.toUpper = c.name) :
    parse (word :: c.args.map Arg.render) = .ok c := by
  rw [parse, hword]
  cases c with
  | del ks | exist ks =>
    obtain ⟨k, ks, rfl⟩ := List.exists_cons_of_ne_nil hc
    simp only [Command.name, args, render_map_text, parseNamed]
    rfl
  | hdel k ms | zrem k ms | sadd k ms | srem k ms =>
    obtain ⟨m, ms, rfl⟩ := List.exists_cons_of_ne_nil hc
    simp only [Command.name, args, List.map_cons, Arg.render, render_map_text, parseNamed]
    rfl
  | expire k s | hincrby k _ s | zincrby k s _ =>
    simp only [Command.name, args, List.map_cons, List.map_nil, Arg.render, parseNamed,
      parseInt_toString_of_inI64 hc]
    rfl
  | zrevrange k a b ws =>
    cases ws <;>
    simp only [Command.name, args, List.map_cons, List.map_nil, Arg.render, if_true,
      Bool.false_eq_true, if_false, List.cons_append, List.nil_append, parseNamed,
      parseInt_toString_of_inI64 hc.1, parseInt_toString_of_inI64 hc.2]
    · rfl
    · rw [sameWord_self, if_pos rfl]
      rfl
  | hset k ps =>
    have hlen := length_flatMap_pair Prod.fst Prod.snd ps
    have hpos : 0 < ps.length := List.length_pos_iff.2 hc
    simp only [Command.name, args, List.map_cons, List.map_flatMap, Arg.render, List.map_nil,
      parseNamed, hlen, pairsOf_flatMap]
    rw [if_pos (by simp; omega)]
    rfl
  | zadd k nx ms =>
    obtain ⟨p, ms', rfl⟩ := List.exists_cons_of_ne_nil hc.1
    have hpairs := scoredPairs_flatMap hc.2
    have hlen := length_flatMap_pair (fun p : Int × String => toString p.1) Prod.snd ms'
    cases nx with
    | true =>
      have heven : (2 * ms'.length + 1 + 1) % 2 = 0 := by omega
      simp only [Command.name, args, List.map_cons, List.map_flatMap, Arg.render, List.map_nil,
        if_true, List.singleton_append, parseNamed, sameWord_self, hpairs]
      simp only [List.flatMap_cons, List.cons_append, List.nil_append, List.isEmpty_cons,
        List.length_cons, hlen, heven]
      rfl
    | false =>
      have heven : (2 * ms'.length + 1 + 1) % 2 = 0 := by omega
      simp only [Command.name, args, List.map_cons, List.map_flatMap, Arg.render, List.map_nil,
        Bool.false_eq_true, if_false, List.nil_append, List.flatMap_cons, List.cons_append,
        parseNamed, sameWord_toString_nx]
      simp only [List.flatMap_cons, List.cons_append, List.nil_append] at hpairs
      simp only [List.isEmpty_cons, List.length_cons, hlen, heven, hpairs]
      rfl
  | _ =>
    simp only [Command.name, args, List.map_cons, List.map_nil, Arg.render, parseNamed]
    rfl

/-! ## Operands handed over by a script -/

theorem argText_toLua (a : Arg) : Script.argText a.toLua = .ok a.render := by
  cases a with
  | text s =>
    have hs : Script.utf8Text s.toUTF8 = .ok s := by
      rw [Script.utf8Text, ← ByteArray.toList_eq_data_toList, Text.decodeUtf8_toUTF8]
    simp only [Arg.toLua, Lua.Value.ofString, Script.argText, hs]
    rfl
  | int n => rfl

theorem mapM_argText (as : List Arg) :
    (as.map Arg.toLua).mapM Script.argText = .ok (as.map Arg.render) := by
  induction as with
  | nil => rfl
  | cons a as ih =>
    rw [List.map_cons, List.mapM_cons, argText_toLua, ih]
    rfl

/-- A command sent through `redis.call`, its integers as Lua integers, is the command itself. -/
theorem dispatch_printed (c : Command) (hc : c.Printable) (word : String)
    (hword : word.map Char.toUpper = c.name) :
    Script.dispatch (.ofString word :: c.args.map Arg.toLua) = Transaction.execute c := by
  have hargv : (Lua.Value.ofString word :: c.args.map Arg.toLua).mapM Script.argText =
      .ok (word :: c.args.map Arg.render) :=
    mapM_argText (.text word :: c.args)
  unfold Script.dispatch
  rw [hargv]
  show (do let cmd ← liftM (parse (word :: c.args.map Arg.render)); Transaction.execute cmd) = _
  rw [parse_printed c hc word hword]
  rfl

/-- Reading a printed command gives it back, and `redis.call` on the same operands, integers
handed over as Lua integers, runs that very command. -/
theorem parse_inverts_print (c : Command) (hc : c.Printable) (word : String)
    (hword : word.map Char.toUpper = c.name) :
    parse (word :: c.args.map Arg.render) = .ok c ∧
      Script.dispatch (.ofString word :: c.args.map Arg.toLua) = Transaction.execute c :=
  ⟨parse_printed c hc word hword, dispatch_printed c hc word hword⟩

/-- The least score, a second pair and a name in mixed case. -/
theorem parse_inverts_print_zadd :
    let c := Command.zadd "board" false [(Text.i64Min, "a"), (7, "b")]
    c.Printable ∧ "zAdd".map Char.toUpper = c.name ∧
      (parse ("zAdd" :: c.args.map Arg.render) = .ok c ∧
        Script.dispatch (.ofString "zAdd" :: c.args.map Arg.toLua) = Transaction.execute c) := by
  intro c
  have hc : c.Printable := by
    simp only [c, Printable]
    decide
  have hword : "zAdd".map Char.toUpper = c.name := by
    rw [← String.toList_inj, String.toList_map]
    decide
  exact ⟨hc, hword, parse_inverts_print c hc "zAdd" hword⟩

end Command

end CounterCache
