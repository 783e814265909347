import CounterCache.Script.Template

/-!
# Rendering a template as a Lua script

`Template.render` writes a template as Lua source for the store's `EVAL`: a comment header
naming the template, its key and argument slots, the two locals `last` and `status`, one line
per step (two spaces of indent per level of nesting) and a final `return status`. Keys are
`KEYS[i]`, arguments `ARGV[i]`, counted from 1; integer operands pass through `tonumber`.
-/

namespace CounterCache

namespace Template

/-- The Lua expression of a key slot. -/
def luaKey : KeySlot → String
  | .slot i => "KEYS[" ++ toString (i + 1) ++ "]"
  | .current => "key"

/-- The Lua expression of an operand's text. -/
def luaValue : Operand → String
  | .arg i => "ARGV[" ++ toString (i + 1) ++ "]"
  | .lit s => "'" ++ s ++ "'"
  | .int n => toString n
  | .argSuffix i suffix => "ARGV[" ++ toString (i + 1) ++ "] .. '" ++ suffix ++ "'"

/-- The Lua expression of an operand's number. -/
def luaNum : Operand → String
  | .int n => toString n
  | other => "tonumber(" ++ luaValue other ++ ")"

/-- The Lua test of a condition. -/
def luaCond : Cond → String
  | .argEq i lit => "ARGV[" ++ toString (i + 1) ++ "] == '" ++ lit ++ "'"
  | .changed => "last == 1"
  | .unchanged => "last == 0"
  | .present k => "redis.call('EXISTS', " ++ luaKey k ++ ") == 1"
  | .absent k => "redis.call('EXISTS', " ++ luaKey k ++ ") == 0"

/-- The single Lua line of a step without a body. -/
def luaLine : Step → String
  | .hsetnx k f v =>
    "last = redis.call('HSETNX', " ++ luaKey k ++ ", " ++ luaValue f ++ ", " ++ luaValue v ++ ")"
  | .hset k f v =>
    "redis.call('HSET', " ++ luaKey k ++ ", " ++ luaValue f ++ ", " ++ luaValue v ++ ") last = 1"
  | .hincrIfExists k f d =>
    "if redis.call('EXISTS', " ++ luaKey k ++ ") == 1 then redis.call('HINCRBY', " ++ luaKey k ++
      ", " ++ luaValue f ++ ", " ++ luaNum d ++ ") last = 1 else last = 0 end"
  | .hdecrFloor k f d =>
    "if redis.call('EXISTS', " ++ luaKey k ++ ") == 1 and tonumber(redis.call('HGET', " ++
      luaKey k ++ ", " ++ luaValue f ++ ") or '0') >= " ++ luaNum d ++
      " then redis.call('HINCRBY', " ++ luaKey k ++ ", " ++ luaValue f ++ ", -" ++ luaNum d ++
      ") last = 1 else last = 0 end"
  | .expire k s => "last = redis.call('EXPIRE', " ++ luaKey k ++ ", " ++ luaValue s ++ ")"
  | .zadd k m s nx =>
    "last = redis.call('ZADD', " ++ luaKey k ++ ", " ++ (if nx then "'NX', " else "") ++
      luaValue s ++ ", " ++ luaValue m ++ ")"
  | .zincrIfMember k m d =>
    "if redis.call('ZSCORE', " ++ luaKey k ++ ", " ++ luaValue m ++
      ") then redis.call('ZINCRBY', " ++ luaKey k ++ ", " ++ luaNum d ++ ", " ++ luaValue m ++
      ") last = 1 else last = 0 end"
  | .zdecrFloor k m d =>
    "do local s = redis.call('ZSCORE', " ++ luaKey k ++ ", " ++ luaValue m ++
      ") if s and tonumber(s) >= " ++ luaNum d ++ " then redis.call('ZINCRBY', " ++ luaKey k ++
      ", -" ++ luaNum d ++ ", " ++ luaValue m ++ ") last = 1 else last = 0 end end"
  | .zrem k m => "last = redis.call('ZREM', " ++ luaKey k ++ ", " ++ luaValue m ++ ")"
  | .sadd k m => "last = redis.call('SADD', " ++ luaKey k ++ ", " ++ luaValue m ++ ")"
  | .srem k m => "last = redis.call('SREM', " ++ luaKey k ++ ", " ++ luaValue m ++ ")"
  | .del k => "last = redis.call('DEL', " ++ luaKey k ++ ")"
  | .ret c => "do return " ++ toString c ++ " end"
  | .setStatus c => "status = " ++ toString c
  | .when _ _ | .forEachKey _ _ => ""

/-- The indent of a nesting depth. -/
def pad (depth : Nat) : String := String.join (List.replicate depth "  ")

mutual
/-- The lines of steps at a nesting depth, each ending in a newline. -/
def renderSteps (depth : Nat) : List Step → String
  | [] => ""
  | s :: rest => renderStep depth s ++ renderSteps depth rest

/-- The lines of one step at a nesting depth. -/
def renderStep (depth : Nat) : Step → String
  | .when c body =>
    pad depth ++ "if " ++ luaCond c ++ " then\n" ++ renderSteps (depth + 1) body ++
      pad depth ++ "end\n"
  | .forEachKey first body =>
    pad depth ++ "for i = " ++ toString (first + 1) ++ ", #KEYS do\n" ++
      pad depth ++ "  local key = KEYS[i]\n" ++ renderSteps (depth + 1) body ++
      pad depth ++ "end\n"
  | s => pad depth ++ luaLine s ++ "\n"
end

/-- The whole Lua script of a template. -/
def render (t : Template) : String :=
  "-- " ++ t.name ++ "\n" ++
    "-- KEYS: " ++ ", ".intercalate t.keys ++ (if t.variadicKeys then ", ..." else "") ++ "\n" ++
    "-- ARGV: " ++ ", ".intercalate t.args ++ "\n" ++
    "local last = 0\nlocal status = 0\n" ++ renderSteps 0 t.steps ++ "return status\n"

end Template

end CounterCache
