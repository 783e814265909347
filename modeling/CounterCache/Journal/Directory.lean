import CounterCache.Data.KeyMap
import CounterCache.Journal.FileName
import CounterCache.Journal.Record
import CounterCache.Store.Batch.Codec

/-!
# The journal directory

A journal lives in a directory of numbered files. Writes are appended to the newest file; a
checkpoint writes a whole keyspace image as the only record of the next file and then removes
the older files, so replay starts from the image.

Opening a directory reads every file whose name reads as a journal number, in number order, and
keeps the records of each up to its first damage. The damaged tail of the newest file is cut off
on disk, since only that file can hold a torn append; a damaged older file is left as it is.
Appending then continues in the newest file, or in file `1` of an empty directory.

A name is read back as a number and the number written again as a name, so a name such as
`1.journal` stands for the file `000001.journal`: the same number read from two names is read
twice, and a number whose canonical file is missing cannot be opened.
-/

namespace CounterCache.Journal

/-- Files by name with their contents. -/
structure Directory where
  files : KeyMap (List UInt8) := {}
  deriving DecidableEq, Repr, Inhabited

namespace Directory

/-- The contents of a file. -/
def read? (d : Directory) (name : String) : Option (List UInt8) := d.files.find? name

/-- Replaces a file's contents, creating the file if needed. -/
def write (d : Directory) (name : String) (bytes : List UInt8) : Directory :=
  ⟨d.files.insert name bytes⟩

/-- Appends to a file, creating it if needed. -/
def append (d : Directory) (name : String) (bytes : List UInt8) : Directory :=
  d.write name ((d.read? name).getD [] ++ bytes)

/-- Removes a file. -/
def remove (d : Directory) (name : String) : Directory := ⟨d.files.erase name⟩

/-- The size of a file, zero if it is missing. -/
def size (d : Directory) (name : String) : Nat := ((d.read? name).getD []).length

/-- The journal numbers that the file names read as, ascending, with repeats. -/
def journalNumbers (d : Directory) : List Nat :=
  (d.files.keys.filterMap fileNumber?).mergeSort (· ≤ ·)

end Directory

/-- The error of opening a file that is not there. -/
def missingFile : Error := .io "No such file or directory (os error 2)"

/-- An open journal: its directory, the number of the file it appends to and that file's size. -/
structure Journal where
  dir : Directory
  number : Nat
  size : Nat
  deriving DecidableEq, Repr, Inhabited

/-- Reads the journal files numbered `nums` in turn, collecting their records; the damaged tail
of the last one is cut off. -/
def recoverFiles (d : Directory) : List Nat → Except Error (Directory × List Record)
  | [] => .ok (d, [])
  | n :: rest =>
    match d.read? (fileName n) with
    | none => .error missingFile
    | some bytes =>
      let (rs, pos) := recover bytes
      let d := if rest.isEmpty ∧ pos < bytes.length then d.write (fileName n) (bytes.take pos)
        else d
      match recoverFiles d rest with
      | .error e => .error e
      | .ok (d, more) => .ok (d, rs ++ more)

namespace Journal

/-- Opens the journal of a directory: its recovered records, and the journal that appends to the
newest file. -/
def «open» (d : Directory) : Except Error (Journal × List Record) := do
  let nums := d.journalNumbers
  let (d, records) ← recoverFiles d nums
  let number := nums.getLast?.getD 1
  let d := d.append (fileName number) []
  return (⟨d, number, d.size (fileName number)⟩, records)

/-- Appends one record to the current file. -/
def appendRecord (j : Journal) (r : Record) : Journal :=
  let bytes := r.encode
  { j with dir := j.dir.append (fileName j.number) bytes, size := j.size + bytes.length }

/-- Appends a batch. -/
def append (j : Journal) (b : WriteBatch) : Journal :=
  j.appendRecord ⟨.batch, b.encode⟩

/-- Writes a keyspace image as a checkpoint into the next file, then removes every older file. -/
def checkpoint (j : Journal) (image : WriteBatch) : Journal :=
  let next := j.number + 1
  let d := j.dir.append (fileName next) (Record.encode ⟨.checkpoint, image.encode⟩)
  let d := d.journalNumbers.foldl (fun d n => if n < next then d.remove (fileName n) else d) d
  ⟨d, next, d.size (fileName next)⟩

end Journal

end CounterCache.Journal
