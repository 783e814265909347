import CounterCache.Error
import CounterCache.Text.Blank
import CounterCache.Text.Decimal

/-!
# Commands

The command language of the store, read from an argument vector. The first argument names the
command, in any ASCII letter case; the others are its operands. Integer operands are read after
trimming blanks (`parseInt`); a failure names the untrimmed operand.

Main statement: `parse` checks the operand count before reading any integer operand, and for
`ZREVRANGE` checks the optional flag before reading the range.
-/

namespace CounterCache

/-- Reads an integer operand: blanks are trimmed from both ends, then a signed 64-bit decimal
is read. The error names the operand as given. -/
def parseInt (s : String) : Except Error Int :=
  match Text.parseI64? (Text.trimBlank s) with
  | some n => .ok n
  | none => .error (.notInteger s)

/-- A parsed command. -/
inductive Command where
  | get (key : String)
  | set (key value : String)
  | del (keys : List String)
  | exist (keys : List String)
  | expire (key : String) (seconds : Int)
  | ttl (key : String)
  | hget (key field : String)
  | hset (key : String) (pairs : List (String × String))
  | hsetnx (key field value : String)
  | hincrby (key field : String) (delta : Int)
  | hdel (key : String) (fields : List String)
  | hgetall (key : String)
  | hexists (key field : String)
  | zadd (key : String) (nx : Bool) (members : List (Int × String))
  | zincrby (key : String) (delta : Int) (member : String)
  | zrem (key : String) (members : List String)
  | zscore (key member : String)
  | zcard (key : String)
  | zrevrange (key : String) (start stop : Int) (withScores : Bool)
  | sadd (key : String) (members : List String)
  | srem (key : String) (members : List String)
  | sismember (key member : String)
  | scard (key : String)
  deriving DecidableEq, Repr, Inhabited

namespace Command

/-- The command's name in upper case. -/
def name : Command → String
  | .get .. => "GET" | .set .. => "SET" | .del .. => "DEL" | .exist .. => "EXISTS"
  | .expire .. => "EXPIRE" | .ttl .. => "TTL" | .hget .. => "HGET" | .hset .. => "HSET"
  | .hsetnx .. => "HSETNX" | .hincrby .. => "HINCRBY" | .hdel .. => "HDEL"
  | .hgetall .. => "HGETALL" | .hexists .. => "HEXISTS" | .zadd .. => "ZADD"
  | .zincrby .. => "ZINCRBY" | .zrem .. => "ZREM" | .zscore .. => "ZSCORE"
  | .zcard .. => "ZCARD" | .zrevrange .. => "ZREVRANGE" | .sadd .. => "SADD"
  | .srem .. => "SREM" | .sismember .. => "SISMEMBER" | .scard .. => "SCARD"

/-- The command only reads. -/
def isReadOnly : Command → Bool
  | .get .. | .exist .. | .ttl .. | .hget .. | .hgetall .. | .hexists .. | .zscore ..
  | .zcard .. | .zrevrange .. | .sismember .. | .scard .. => true
  | _ => false

/-- Consecutive pairs of a list; an odd last element is dropped. -/
def pairsOf : List String → List (String × String)
  | a :: b :: rest => (a, b) :: pairsOf rest
  | _ => []

/-- Reads (score, member) pairs. -/
def scoredPairs : List String → Except Error (List (Int × String))
  | s :: m :: rest => do
    let n ← parseInt s
    let tail ← scoredPairs rest
    pure ((n, m) :: tail)
  | _ => pure []

/-- The text equals a word, ignoring ASCII letter case. -/
def sameWord (a b : String) : Bool := a.map Char.toUpper == b.map Char.toUpper

/-- The error of a wrong operand count, naming the command in lower case. -/
def arityError (name : String) : Error :=
  .invalidArgument ("wrong number of arguments for '" ++ name.map Char.toLower ++ "' command")

/-- Reads a command whose name is already in upper case. -/
def parseNamed (name : String) (args : List String) : Except Error Command :=
  let bad : Except Error Command := .error (arityError name)
  match name, args with
  | "GET", [k] => pure (.get k)
  | "SET", [k, v] => pure (.set k v)
  | "DEL", k :: ks => pure (.del (k :: ks))
  | "EXISTS", k :: ks => pure (.exist (k :: ks))
  | "EXPIRE", [k, s] => return .expire k (← parseInt s)
  | "TTL", [k] => pure (.ttl k)
  | "HGET", [k, f] => pure (.hget k f)
  | "HSET", k :: rest =>
    if rest.length ≥ 2 && rest.length % 2 == 0 then pure (.hset k (pairsOf rest)) else bad
  | "HSETNX", [k, f, v] => pure (.hsetnx k f v)
  | "HINCRBY", [k, f, d] => return .hincrby k f (← parseInt d)
  | "HDEL", k :: f :: fs => pure (.hdel k (f :: fs))
  | "HGETALL", [k] => pure (.hgetall k)
  | "HEXISTS", [k, f] => pure (.hexists k f)
  | "ZADD", k :: flag :: rest =>
    if rest.isEmpty then bad
    else
      let nx := sameWord flag "NX"
      let pairs := if nx then rest else flag :: rest
      if !pairs.isEmpty && pairs.length % 2 == 0 then return .zadd k nx (← scoredPairs pairs)
      else bad
  | "ZINCRBY", [k, d, m] => return .zincrby k (← parseInt d) m
  | "ZREM", k :: m :: ms => pure (.zrem k (m :: ms))
  | "ZSCORE", [k, m] => pure (.zscore k m)
  | "ZCARD", [k] => pure (.zcard k)
  | "ZREVRANGE", [k, a, b] => return .zrevrange k (← parseInt a) (← parseInt b) false
  | "ZREVRANGE", [k, a, b, flag] =>
    if sameWord flag "WITHSCORES" then return .zrevrange k (← parseInt a) (← parseInt b) true
    else .error (.invalidArgument "syntax error")
  | "SADD", k :: m :: ms => pure (.sadd k (m :: ms))
  | "SREM", k :: m :: ms => pure (.srem k (m :: ms))
  | "SISMEMBER", [k, m] => pure (.sismember k m)
  | "SCARD", [k] => pure (.scard k)
  | "GET", _ | "SET", _ | "DEL", _ | "EXISTS", _ | "EXPIRE", _ | "TTL", _ | "HGET", _
  | "HSET", _ | "HSETNX", _ | "HINCRBY", _ | "HDEL", _ | "HGETALL", _ | "HEXISTS", _
  | "ZADD", _ | "ZINCRBY", _ | "ZREM", _ | "ZSCORE", _ | "ZCARD", _ | "ZREVRANGE", _
  | "SADD", _ | "SREM", _ | "SISMEMBER", _ | "SCARD", _ => bad
  | other, _ => .error (.invalidArgument ("unknown command '" ++ other ++ "'"))

/-- Reads a command from its argument vector: the name in any ASCII letter case, then the
operands. -/
def parse : List String → Except Error Command
  | [] => .error (.invalidArgument "empty command")
  | head :: args => parseNamed (head.map Char.toUpper) args

theorem parse_nil : parse [] = .error (.invalidArgument "empty command") := rfl

end Command

end CounterCache
