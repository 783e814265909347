import CounterCache.Text.Decimal

/-!
# Journal file names

Journal files are numbered: file `n` is `n` in decimal, padded with zeros to six digits, then
`.journal`. Reading a name back strips the suffix and reads an unsigned 64-bit decimal, which
may carry a leading `+` and more or fewer than six digits.
-/

namespace CounterCache

namespace Journal

/-- The name of journal file `n`. -/
def fileName (n : Nat) : String :=
  let digits := toString n
  String.ofList (List.replicate (6 - digits.length) '0') ++ digits ++ ".journal"

/-- The number of a journal file name, if it is one. -/
def fileNumber? (name : String) : Option Nat :=
  if name.endsWith ".journal" then
    Text.parseU64? (String.ofList (name.toList.take (name.length - ".journal".length)))
  else none

theorem fileName_one : fileName 1 = "000001.journal" := by decide

end Journal

end CounterCache
