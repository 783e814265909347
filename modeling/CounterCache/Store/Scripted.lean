import CounterCache.Store.Journaled
import CounterCache.Script.Eval
import CounterCache.Script.Template.Render

/-!
# Scripts run against a store

`Store.eval` runs a Lua script as one unit of work, as `EVAL` does. `Store.runTemplateScript`
runs a catalog template through its Lua rendering: the template's arity is checked first, the
script then runs as one unit, and its reply must be an integer, or a bulk string that reads as
one. A reply of another kind is an error reported after the unit has committed, so the script's
writes stay.
-/

namespace CounterCache

namespace Store

/-- The time limit, in milliseconds, of a template run as a script. -/
def templateTimeLimit : Nat := 5000

/-- Runs a Lua script as one unit of work. -/
def eval (s : Store) (now : Nat) (src : String) (keys args : List String)
    (limitMs : Option Nat) : Except Error (Reply × WriteBatch) × Store :=
  s.atomically now (Script.eval src keys args limitMs)

/-- Runs a template's Lua rendering: its status code and the batch the unit recorded. -/
def runTemplateScript (s : Store) (now : Nat) (t : Template) (keys args : List String) :
    Except Error (Int × WriteBatch) × Store :=
  match t.checkArity keys args with
  | .error e => (.error e, s)
  | .ok () =>
    match s.eval now t.render keys args (some templateTimeLimit) with
    | (.error e, s') => (.error e, s')
    | (.ok (reply, b), s') =>
      match reply.asInt? with
      | some n => (.ok (n, b), s')
      | none => (.error (.script (t.name ++ " returned " ++ reply.display)), s')

theorem runTemplateScript_arity (s : Store) (now : Nat) (t : Template) (keys args : List String)
    (e : Error) (h : t.checkArity keys args = .error e) :
    s.runTemplateScript now t keys args = (.error e, s) := by
  simp [runTemplateScript, h]

end Store

end CounterCache
