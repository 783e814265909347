import Mathlib
import CounterCache.Proofs.JournalRecovery

/-!
# Checkpoints of a journal, whole or interrupted

A journal that starts in an empty directory and only ever appends and checkpoints keeps exactly
one file, the current one (`Directory.single`): appends grow it, and a checkpoint writes the
image into the next file and then removes the older ones. This module follows the journal
through both, and through every state a crash can leave in the middle of a checkpoint
(`CheckpointCrash`): the new file cut anywhere in its record, or the record whole with some of
the older files, in ascending order, already removed.

Opening any of those states reads either the records from before the checkpoint, or the image
record after them, or the image record alone (`open_checkpointCrash`), and records appended
afterwards are read after those.

All of it rests on one fact about names: the name of file `n` reads back as `n`
(`fileNumber?_fileName`), for every number an unsigned 64-bit integer holds.
-/

namespace CounterCache

namespace Text

theorem digitsValue?_foldl {cs : List Char} (h : ∀ c ∈ cs, c.isDigit) (init : Nat) :
    cs.foldl (fun acc c => acc.bind fun n =>
      if c.isDigit then some (10 * n + (c.toNat - '0'.toNat)) else none) (some init) =
      some (Nat.ofDigitChars 10 cs init) := by
  induction cs generalizing init with
  | nil => simp
  | cons c cs ih =>
    have hc : c.isDigit = true := h c List.mem_cons_self
    simp only [List.foldl_cons, Option.bind_some, hc, if_true, Nat.ofDigitChars_cons]
    exact ih (fun x hx => h x (List.mem_cons_of_mem c hx)) _

/-- Digits, with nothing before them, read as their value when it is in range. -/
theorem parseU64?_ofList {cs : List Char} (hne : cs ≠ []) (h : ∀ c ∈ cs, c.isDigit)
    (hle : Nat.ofDigitChars 10 cs 0 ≤ u64Max) :
    parseU64? (String.ofList cs) = some (Nat.ofDigitChars 10 cs 0) := by
  obtain ⟨c, cs', rfl⟩ := List.exists_cons_of_ne_nil hne
  have hplus : c ≠ '+' := by
    rintro rfl
    exact absurd (h '+' List.mem_cons_self) (by decide)
  have hval : digitsValue? (c :: cs') = some (Nat.ofDigitChars 10 (c :: cs') 0) :=
    digitsValue?_foldl h 0
  unfold parseU64?
  split
  · rename_i ds hds
    simp at hds
    exact absurd hds.1 hplus
  · simp [hval, hle]

end Text

namespace Journal

/-! ## File names read back as their numbers -/

theorem toList_fileName (n : Nat) :
    (fileName n).toList =
      List.replicate (6 - (toString n).length) '0' ++ Nat.toDigits 10 n ++ ".journal".toList := by
  simp [fileName, Nat.toString_eq_repr]

/-- The name of file `n` reads back as `n`: zero padding does not change a decimal's value. -/
theorem fileNumber?_fileName {n : Nat} (h : n ≤ Text.u64Max) :
    fileNumber? (fileName n) = some n := by
  have hl := toList_fileName n
  have hends : (fileName n).endsWith ".journal" = true := by
    rw [← String.endsWith_toSlice, String.Slice.endsWith_string_iff]
    simp only [String.copy_toSlice, hl]
    exact List.suffix_append _ _
  -- the name without its suffix is the zero padding, then the digits
  have hdigits : (fileName n).toList.take ((fileName n).length - ".journal".length) =
      List.replicate (6 - (toString n).length) '0' ++ Nat.toDigits 10 n := by
    have hlen : (fileName n).length - ".journal".length =
        (List.replicate (6 - (toString n).length) '0' ++ Nat.toDigits 10 n).length := by
      have h8 : ".journal".length = 8 := rfl
      rw [← String.length_toList, hl, List.length_append]
      simp [h8]
    rw [hlen, hl, List.take_left' rfl]
  have hval : Nat.ofDigitChars 10 (List.replicate (6 - (toString n).length) '0' ++
      Nat.toDigits 10 n) 0 = n := by
    rw [Nat.ofDigitChars_append, Nat.ofDigitChars_replicate_zero, Nat.mul_zero,
      Nat.ofDigitChars_eq_ofDigitChars_zero]
    simp
  rw [fileNumber?, if_pos hends, hdigits, Text.parseU64?_ofList, hval]
  · simp
  · intro c hc
    rcases List.mem_append.1 hc with hc | hc
    · rw [List.eq_of_mem_replicate hc]; decide
    · exact Nat.isDigit_of_mem_toDigits (by decide) (by decide) hc
  · rwa [hval]

/-- The only number a journal file name reads as is its own. -/
theorem eq_of_fileNumber?_fileName {m n : Nat} (h : n ≤ Text.u64Max)
    (hm : fileNumber? (fileName n) = some m) : m = n := by
  rw [fileNumber?_fileName h, Option.some.injEq] at hm
  exact hm.symm

theorem fileName_ne {m n : Nat} (hm : m ≤ Text.u64Max) (hn : n ≤ Text.u64Max) (h : m ≠ n) :
    fileName m ≠ fileName n := by
  intro heq
  have hnum := fileNumber?_fileName hm
  rw [heq] at hnum
  exact h (eq_of_fileNumber?_fileName hn hnum)

/-! ## Directories of one and two journal files -/

namespace Directory

theorem read?_remove_self (d : Directory) (name : String) : (d.remove name).read? name = none :=
  KeyMap.find?_erase_self _ _

theorem read?_remove_ne (d : Directory) {name name' : String} (h : name ≠ name') :
    (d.remove name).read? name' = d.read? name' :=
  KeyMap.find?_erase_ne _ _ _ h

theorem ext_read? {d d' : Directory} (h : ∀ name, d.read? name = d'.read? name) : d = d' := by
  obtain ⟨files⟩ := d
  obtain ⟨files'⟩ := d'
  have hfiles : files = files' := KeyMap.ext_find? h
  rw [hfiles]

theorem mem_keys {d : Directory} {name : String} :
    name ∈ d.files.keys ↔ (d.read? name).isSome :=
  KeyMap.mem_keys_iff

theorem append_of_read?_none {d : Directory} {name : String} (h : d.read? name = none)
    (bytes : List UInt8) : d.append name bytes = d.write name bytes := by
  simp [append, h]

theorem mem_journalNumbers {d : Directory} {m : Nat} :
    m ∈ d.journalNumbers ↔ ∃ name ∈ d.files.keys, fileNumber? name = some m := by
  rw [journalNumbers, List.mem_mergeSort, List.mem_filterMap]

/-- In a directory of canonical names the journal numbers are the listing, in ascending order,
of the numbers of its files. -/
theorem Canonical.journalNumbers_eq {d : Directory} (hc : d.Canonical) {l : List Nat}
    (hl : l.Pairwise (· < ·)) (hmem : ∀ m, m ∈ d.journalNumbers ↔ m ∈ l) :
    d.journalNumbers = l := by
  have hsorted : d.journalNumbers.Pairwise (· ≤ ·) := by
    have h : ((d.files.keys.filterMap fileNumber?).mergeSort fun a b => decide (a ≤ b)).Pairwise
        fun a b => decide (a ≤ b) = true :=
      List.pairwise_mergeSort (fun a b c hab hbc => by simp at hab hbc ⊢; omega)
        (fun a b => by simp; omega) _
    simpa [journalNumbers] using h
  have hlt : d.journalNumbers.Pairwise (· < ·) :=
    (hsorted.and hc.nodup).imp fun h => Nat.lt_of_le_of_ne h.1 h.2
  exact eq_of_pairwise_of_mem_iff (fun hab => Nat.lt_asymm hab) hlt hl hmem

/-- A directory holding only journal file `n`. -/
def single (n : Nat) (bytes : List UInt8) : Directory := (⟨KeyMap.empty⟩ : Directory).write (fileName n) bytes

theorem keys_single (n : Nat) (bytes : List UInt8) : (single n bytes).files.keys = [fileName n] :=
  rfl

theorem read?_single (n : Nat) (bytes : List UInt8) (name : String) :
    (single n bytes).read? name = if fileName n = name then some bytes else none := by
  simp [single, write, read?, KeyMap.find?]
  rfl

@[simp] theorem write_single (n : Nat) (a b : List UInt8) :
    (single n a).write (fileName n) b = single n b :=
  write_write _ _ _ _

section Numbered

variable {n : Nat} (hn : n ≤ Text.u64Max)
include hn

theorem canonical_single (bytes : List UInt8) : (single n bytes).Canonical := by
  intro name hname m hm
  rw [keys_single, List.mem_singleton] at hname
  subst hname
  rw [eq_of_fileNumber?_fileName hn hm]

theorem journalNumbers_single (bytes : List UInt8) : (single n bytes).journalNumbers = [n] := by
  simp [journalNumbers, keys_single, fileNumber?_fileName hn]

end Numbered

section Pair

/- The directory of a checkpoint half done: the current file `n` and the next one. -/
variable {n : Nat} (hn : n + 1 ≤ Text.u64Max) (a b : List UInt8)
include hn

theorem read?_next_single : (single n a).read? (fileName (n + 1)) = none := by
  rw [read?_single, if_neg (fileName_ne (by omega) hn (by omega))]

omit hn in
theorem mem_keys_pair {name : String} :
    name ∈ ((single n a).write (fileName (n + 1)) b).files.keys ↔
      name = fileName n ∨ name = fileName (n + 1) := by
  rw [mem_keys]
  by_cases h1 : fileName (n + 1) = name
  · subst h1
    simp
  · rw [read?_write_ne _ _ h1, read?_single]
    by_cases h0 : fileName n = name
    · simp [h0]
    · simp [h0, Ne.symm h0, Ne.symm h1]

theorem canonical_pair : ((single n a).write (fileName (n + 1)) b).Canonical := by
  intro name hname m hm
  rcases (mem_keys_pair a b).1 hname with rfl | rfl
  · rw [eq_of_fileNumber?_fileName (by omega) hm]
  · rw [eq_of_fileNumber?_fileName hn hm]

theorem journalNumbers_pair :
    ((single n a).write (fileName (n + 1)) b).journalNumbers = [n, n + 1] := by
  refine (canonical_pair hn a b).journalNumbers_eq (by simp) fun m => ?_
  simp only [mem_journalNumbers, mem_keys_pair, List.mem_cons, List.not_mem_nil, or_false]
  constructor
  · rintro ⟨name, rfl | rfl, hm⟩
    · exact .inl (eq_of_fileNumber?_fileName (by omega) hm)
    · exact .inr (eq_of_fileNumber?_fileName hn hm)
  · rintro (rfl | rfl)
    · exact ⟨_, .inl rfl, fileNumber?_fileName (by omega)⟩
    · exact ⟨_, .inr rfl, fileNumber?_fileName hn⟩

end Pair

/-- Removes, in the order of `ns`, the files numbered `ns` that come before `next`: the last step
of a checkpoint. -/
def removeOlder (next : Nat) (d : Directory) (ns : List Nat) : Directory :=
  ns.foldl (fun d n => if n < next then d.remove (fileName n) else d) d

theorem read?_removeOlder (next : Nat) (d : Directory) (ns : List Nat) (name : String) :
    (removeOlder next d ns).read? name =
      if ∃ m ∈ ns, m < next ∧ fileName m = name then none else d.read? name := by
  induction ns generalizing d with
  | nil => simp [removeOlder]
  | cons m ns ih =>
    simp only [removeOlder, List.foldl_cons] at ih ⊢
    rw [ih]
    by_cases hm : m < next ∧ fileName m = name
    · obtain ⟨hlt, rfl⟩ := hm
      simp [hlt, read?_remove_self]
    · by_cases hlt : m < next
      · have hne : fileName m ≠ name := fun h => hm ⟨hlt, h⟩
        simp [hlt, hne, read?_remove_ne _ hne]
      · simp [hlt]

/-- Once the next file is written, removing some of the older ones leaves that file alone, or
with file `n` still beside it. -/
theorem removeOlder_pair {n : Nat} (hn : n + 1 ≤ Text.u64Max) (a b : List UInt8) (m : Nat) :
    removeOlder (n + 1) ((single n a).write (fileName (n + 1)) b) ([n, n + 1].take m) =
      if m = 0 then (single n a).write (fileName (n + 1)) b else single (n + 1) b := by
  have hne := fileName_ne (by omega) hn (Nat.ne_of_lt (Nat.lt_succ_self n))
  split_ifs with hm
  · subst hm
    rfl
  · apply ext_read?
    intro name
    have hfirst : n ∈ [n, n + 1].take m := by
      obtain ⟨m, rfl⟩ := Nat.exists_eq_succ_of_ne_zero hm
      simp
    rw [read?_removeOlder, read?_single]
    by_cases h0 : fileName n = name
    · subst h0
      rw [if_pos ⟨n, hfirst, Nat.lt_succ_self n, rfl⟩, if_neg hne.symm]
    · have hgone : ¬ ∃ k ∈ [n, n + 1].take m, k < n + 1 ∧ fileName k = name := by
        rintro ⟨k, hk, hlt, rfl⟩
        have hk' := List.mem_of_mem_take hk
        simp only [List.mem_cons, List.not_mem_nil, or_false] at hk'
        rcases hk' with rfl | rfl
        · exact h0 rfl
        · omega
      rw [if_neg hgone]
      by_cases h1 : fileName (n + 1) = name
      · subst h1
        simp
      · rw [read?_write_ne _ _ h1, read?_single, if_neg h0, if_neg h1]

end Directory

/-! ## Checkpoints -/

/-- The record of a batch. -/
def batchRecord (b : WriteBatch) : Record := ⟨.batch, b.encode⟩

/-- The record of a checkpoint image. -/
def imageRecord (image : WriteBatch) : Record := ⟨.checkpoint, image.encode⟩

theorem append_eq_appendRecord (j : Journal) (b : WriteBatch) :
    j.append b = j.appendRecord (batchRecord b) := rfl

/-- The directory once a checkpoint has written its image into the next file. -/
def withImage (j : Journal) (image : WriteBatch) : Directory :=
  j.dir.append (fileName (j.number + 1)) (imageRecord image).encode

theorem checkpoint_dir (j : Journal) (image : WriteBatch) :
    (j.checkpoint image).dir =
      Directory.removeOlder (j.number + 1) (withImage j image) (withImage j image).journalNumbers :=
  rfl

/-- The directories a crash can leave while `j` checkpoints `image`: the next file cut short
anywhere in its record, or the record whole and the first `m` steps of the removal of the older
files done. -/
inductive CheckpointCrash (j : Journal) (image : WriteBatch) : Directory → Prop
  | torn (i : Nat) (hi : i < (imageRecord image).encode.length) :
    CheckpointCrash j image
      (j.dir.append (fileName (j.number + 1)) ((imageRecord image).encode.take i))
  | removing (m : Nat) :
    CheckpointCrash j image (Directory.removeOlder (j.number + 1) (withImage j image)
      ((withImage j image).journalNumbers.take m))

/-- A checkpoint that runs to its end is one of those states. -/
theorem checkpointCrash_checkpoint (j : Journal) (image : WriteBatch) :
    CheckpointCrash j image (j.checkpoint image).dir := by
  have h := @CheckpointCrash.removing j image (withImage j image).journalNumbers.length
  rwa [List.take_length] at h

/-! ## What opening reads -/

/-- Opening `d` reads `pre`, and records that the opened journal appends are read right after
`pre` by the next opening. -/
def OpensTo (d : Directory) (pre : List Record) : Prop :=
  ∃ j, Journal.open d = .ok (j, pre) ∧
    ∀ more : List Record, (∀ r ∈ more, r.data.length ≤ maxRecordSize) →
      ∃ j', Journal.open (more.foldl Journal.appendRecord j).dir = .ok (j', pre ++ more)

theorem opensTo_torn {d : Directory} (hc : d.Canonical) {ms : List Nat} {n : Nat}
    (hnums : d.journalNumbers = ms ++ [n]) {rs : List Record}
    (hrs : ∀ r ∈ rs, r.data.length ≤ maxRecordSize) {t : List UInt8} (ht : Torn t)
    (hn : d.read? (fileName n) = some (rs.flatMap Record.encode ++ t)) :
    OpensTo d (d.recovered ms ++ rs) :=
  ⟨_, open_torn hc hnums hrs ht hn, fun more hmore =>
    ⟨_, by rw [open_appended hc hnums hrs hn more hmore, List.append_assoc]⟩⟩

section Single

variable {n : Nat} {recs : List Record} (hrecs : ∀ r ∈ recs, r.data.length ≤ maxRecordSize)
include hrecs

/-- The one file of a journal holds whole records, and a torn tail that opening cuts off. -/
theorem open_single (hn : n ≤ Text.u64Max) {t : List UInt8} (ht : Torn t) :
    Journal.open (Directory.single n (recs.flatMap Record.encode ++ t)) =
      .ok (⟨Directory.single n (recs.flatMap Record.encode), n,
        (recs.flatMap Record.encode).length⟩, recs) := by
  have hnums : (Directory.single n (recs.flatMap Record.encode ++ t)).journalNumbers = [] ++ [n] :=
    Directory.journalNumbers_single hn _
  have h := open_torn (Directory.canonical_single hn _) hnums hrecs ht
    (by simp [Directory.read?_single])
  simpa [Directory.recovered] using h

theorem opensTo_single (hn : n ≤ Text.u64Max) :
    OpensTo (Directory.single n (recs.flatMap Record.encode)) recs := by
  have hnums : (Directory.single n (recs.flatMap Record.encode)).journalNumbers = [] ++ [n] :=
    Directory.journalNumbers_single hn _
  have h := opensTo_torn (Directory.canonical_single hn _) hnums hrecs (t := []) (Or.inl rfl)
    (by simp [Directory.read?_single])
  simpa [Directory.recovered] using h

omit hrecs in
/-- An append grows the journal's one file. -/
theorem appendRecord_single (n size : Nat) (bytes : List UInt8) (r : Record) :
    (⟨Directory.single n bytes, n, size⟩ : Journal).appendRecord r =
      ⟨Directory.single n (bytes ++ r.encode), n, size + r.encode.length⟩ := by
  simp [Journal.appendRecord, Directory.append_of_read? (by simp [Directory.read?_single] :
    (Directory.single n bytes).read? (fileName n) = some bytes)]

omit hrecs in
/-- A checkpoint that runs to its end leaves the image alone, in the next file. -/
theorem checkpoint_single (hn : n + 1 ≤ Text.u64Max) (size : Nat) (bytes : List UInt8)
    (image : WriteBatch) :
    (⟨Directory.single n bytes, n, size⟩ : Journal).checkpoint image =
      ⟨Directory.single (n + 1) (imageRecord image).encode, n + 1,
        (imageRecord image).encode.length⟩ := by
  have hwith : withImage ⟨Directory.single n bytes, n, size⟩ image =
      (Directory.single n bytes).write (fileName (n + 1)) (imageRecord image).encode :=
    Directory.append_of_read?_none (Directory.read?_next_single hn bytes) _
  have hdir : (Journal.checkpoint ⟨Directory.single n bytes, n, size⟩ image).dir =
      Directory.single (n + 1) (imageRecord image).encode := by
    rw [checkpoint_dir, hwith, Directory.journalNumbers_pair hn]
    simpa using Directory.removeOlder_pair hn bytes (imageRecord image).encode 2
  -- the journal's size is the size of its new file
  show (⟨(Journal.checkpoint ⟨Directory.single n bytes, n, size⟩ image).dir, n + 1,
    (Journal.checkpoint ⟨Directory.single n bytes, n, size⟩ image).dir.size (fileName (n + 1))⟩ :
      Journal) = _
  rw [hdir]
  simp [Directory.size, Directory.read?_single]

/-- Opening a directory a crash left in the middle of a checkpoint reads the records from
before it, or those and the image, or the image alone. -/
theorem opensTo_checkpointCrash (hn : n + 1 ≤ Text.u64Max) {image : WriteBatch}
    (himage : (imageRecord image).data.length ≤ maxRecordSize) {size : Nat} {d : Directory}
    (hcrash : CheckpointCrash ⟨Directory.single n (recs.flatMap Record.encode), n, size⟩ image d) :
    OpensTo d recs ∨ OpensTo d (recs ++ [imageRecord image]) ∨ OpensTo d [imageRecord image] := by
  set E := recs.flatMap Record.encode
  set C := (imageRecord image).encode
  have hwith : withImage ⟨Directory.single n E, n, size⟩ image =
      (Directory.single n E).write (fileName (n + 1)) C :=
    Directory.append_of_read?_none (Directory.read?_next_single hn E) C
  have hnums : ∀ b, ((Directory.single n E).write (fileName (n + 1)) b).journalNumbers =
      [n] ++ [n + 1] := Directory.journalNumbers_pair hn E
  -- in the two-file states the older file still holds exactly `recs`
  have hold : ∀ b, ((Directory.single n E).write (fileName (n + 1)) b).recovered [n] = recs := by
    intro b
    have hne := fileName_ne (by omega) hn (Nat.ne_of_lt (Nat.lt_succ_self n))
    have hrec : recover E = (recs, E.length) := by
      have h := recover_append_torn recs hrecs (t := []) (Or.inl rfl)
      rwa [List.append_nil] at h
    simp [Directory.recovered, Directory.read?_write_ne _ _ hne.symm, Directory.read?_single, hrec]
  cases hcrash with
  | torn i hi =>
    -- the next file holds a proper prefix of the image record: no record, cut off on opening
    left
    have ht : Torn (C.take i) :=
      Or.inr ⟨imageRecord image, himage, List.take_prefix _ _, by simp [C]; omega⟩
    have h := opensTo_torn (Directory.canonical_pair hn E (C.take i)) (hnums (C.take i))
      (by simp : ∀ r ∈ ([] : List Record), r.data.length ≤ maxRecordSize) ht
      (Directory.read?_write_self _ _ _)
    rw [hold, List.append_nil] at h
    change OpensTo ((Directory.single n E).append (fileName (n + 1)) (C.take i)) recs
    rwa [Directory.append_of_read?_none (Directory.read?_next_single hn E)]
  | removing m =>
    rw [hwith, Directory.journalNumbers_pair hn, Directory.removeOlder_pair hn]
    split_ifs with hm
    · -- nothing removed yet: the older file, then the image
      right; left
      have h := opensTo_torn (Directory.canonical_pair hn E C) (hnums C)
        (by simpa using himage : ∀ r ∈ [imageRecord image], r.data.length ≤ maxRecordSize)
        (t := []) (Or.inl rfl)
        (by simp [C])
      rwa [hold] at h
    · -- the older file is gone: the image alone
      right; right
      have h := opensTo_single
        (by simpa using himage : ∀ r ∈ [imageRecord image], r.data.length ≤ maxRecordSize) hn
      simpa [C] using h

end Single

end Journal

end CounterCache
