import Mathlib
import CounterCache.Proofs.BatchCodec
import CounterCache.Journal.Directory

/-!
# Recovering a journal after a torn append

An append writes a record's bytes at the end of the newest journal file; a crash can stop it
after any byte. This module proves that the reader and `Journal.open` make such a crash
invisible: whole records followed by a torn tail are read back as exactly those records
(`recover_append_torn`), opening the directory cuts the newest file back to them, and records
appended afterwards are read after them with nothing in between (`open_recovers_torn_append`).

The reader half rests on the framing: a record's bytes are its nine header bytes, then its
payload (`Record.encode_eq_header`), so a whole record is read back whatever follows it
(`readNext_encode`), and a proper prefix of one is damage, cut in the header or in the payload
(`readNext_of_prefix`). The directory half needs the file names to be the journal's own
(`Directory.Canonical`): every name that reads as a number is the name of that number, so the
numbers of the files have no repeats and each has its file.
-/

namespace CounterCache

namespace KeyMap

variable {α : Type}

theorem mem_keys_iff {m : KeyMap α} {k : String} : k ∈ m.keys ↔ (m.find? k).isSome := by
  unfold keys find?
  simp only [List.mem_map, Option.isSome_iff_exists]
  constructor
  · rintro ⟨e, he, rfl⟩
    exact ⟨e.2, (mem_iff_lookup m.ascending e).1 he⟩
  · rintro ⟨v, hv⟩
    exact ⟨(k, v), (mem_iff_lookup m.ascending (k, v)).2 hv, rfl⟩

/-- Replacing the value of a present key keeps the keys. -/
theorem keys_insert_of_isSome {m : KeyMap α} {k : String} (v : α) (h : (m.find? k).isSome) :
    (m.insert k v).keys = m.keys := by
  obtain ⟨es, hes⟩ := m
  simp only [keys, insert, find?] at h ⊢
  induction es with
  | nil => simp [lookup] at h
  | cons e rest ih =>
    obtain ⟨k', v'⟩ := e
    obtain ⟨hhead, hrest⟩ := List.pairwise_cons.1 hes
    simp only [insertSorted]
    by_cases hk : k = k'
    · simp [hk]
    · have hin : (lookup k rest).isSome := by simpa [lookup, Ne.symm hk] using h
      by_cases hlt : k < k'
      · -- the key sits in the tail, whose keys all lie above `k'`
        obtain ⟨w, hw⟩ := Option.isSome_iff_exists.1 hin
        have hgt := hhead (k, w) ((mem_iff_lookup hrest (k, w)).2 hw)
        exact absurd (String.lt_trans hlt hgt) (String.lt_irrefl k)
      · simp [hk, hlt, ih hrest hin]

theorem nodup_keys (m : KeyMap α) : m.keys.Nodup := by
  have h : m.keys.Pairwise (· < ·) := List.pairwise_map.2 m.ascending
  exact h.imp fun {a b} (hab : a < b) (heq : a = b) => by subst heq; exact String.lt_irrefl a hab

end KeyMap

namespace Journal

open CounterCache.Binary

theorem headerSize_eq : headerSize = 9 := rfl

/-! ## Reading whole records and torn tails -/

namespace Record

/-- The nine header bytes of a record: checksum, payload length, kind. -/
def header (r : Record) : List UInt8 :=
  le 4 (checksum r.kind r.data).toNat ++ (le 4 r.data.length ++ [r.kind.code])

theorem length_header (r : Record) : r.header.length = headerSize := by
  unfold header
  simp [le_length, headerSize_eq]

theorem encode_eq_header (r : Record) : r.encode = r.header ++ r.data := by
  unfold encode header
  simp [u32]

theorem length_encode (r : Record) : r.encode.length = headerSize + r.data.length := by
  rw [encode_eq_header, List.length_append, length_header]

/-- The length field of a header reads back the payload length. -/
theorem ofLe_header_length (r : Record) (h : r.data.length < 2 ^ 32) :
    ofLe ((r.header.drop 4).take 4) = r.data.length := by
  unfold header
  rw [List.drop_left' (le_length 4 _), List.take_left' (le_length 4 _)]
  exact ofLe_le 4 _ (by rw [Nat.pow_eq]; simpa using h)

theorem length_lt_of_le_max {r : Record} (h : r.data.length ≤ maxRecordSize) :
    r.data.length < 2 ^ 32 := by
  norm_num [maxRecordSize] at h ⊢
  omega

/-- A record is decoded from the front of its bytes, whatever follows. -/
theorem decode_encode_append (r : Record) (h : r.data.length < 2 ^ 32) (rest : List UInt8) :
    decode (r.encode ++ rest) = .ok r := by
  have hck : ofLe (le 4 (checksum r.kind r.data).toNat) = (checksum r.kind r.data).toNat :=
    ofLe_le 4 _ (by have := (checksum r.kind r.data).toNat_lt; rw [Nat.pow_eq]; simpa using this)
  have hsize := length_header r
  have hbytes : r.encode ++ rest = r.header ++ (r.data ++ rest) := by
    rw [encode_eq_header, List.append_assoc]
  have hfield : ((r.encode ++ rest).drop 4).take 4 = le 4 r.data.length := by
    rw [hbytes]
    unfold header
    rw [List.append_assoc, List.drop_left' (le_length 4 _),
      List.append_assoc, List.take_left' (le_length 4 _)]
  have hkind : (r.encode ++ rest).getD 8 0 = r.kind.code := by
    rw [hbytes, List.getD_eq_getElem?_getD, List.getElem?_append_left (by simp [hsize, headerSize_eq])]
    unfold header
    simp [le_length]
  have hchk : (r.encode ++ rest).take 4 = le 4 (checksum r.kind r.data).toNat := by
    rw [hbytes]
    unfold header
    rw [List.append_assoc, List.take_left' (le_length 4 _)]
  have hrest : (r.encode ++ rest).drop headerSize = r.data ++ rest := by
    rw [hbytes, List.drop_left' hsize]
  simp only [decode, hfield, hkind, hchk, hrest, hck, ofLe_le 4 _ (by rw [Nat.pow_eq]; simpa using h),
    RecordKind.ofCode?_code, List.take_left' rfl]
  have hlong : headerSize ≤ r.encode.length + rest.length := by
    rw [length_encode]; omega
  simp [hlong]

end Record

/-- A whole record at the front is read, and reading goes on right after it. -/
theorem readNext_encode (r : Record) (h : r.data.length ≤ maxRecordSize) (rest : List UInt8) :
    ∃ hlt, readNext (r.encode ++ rest) = .ok (some (r, ⟨rest, hlt⟩)) := by
  have h32 := Record.length_lt_of_le_max h
  have hsize := r.length_header
  have hdecode : Record.decode (r.header ++ r.data) = .ok r := by
    simpa [← Record.encode_eq_header] using Record.decode_encode_append r h32 []
  have hdrop : (r.header ++ (r.data ++ rest)).drop (headerSize + r.data.length) = rest := by
    rw [← List.append_assoc, List.drop_left' (by simp [hsize])]
  rw [Record.encode_eq_header, List.append_assoc]
  refine ⟨by simp [hsize, headerSize_eq]; omega, ?_⟩
  simp only [readNext, List.take_left' hsize, List.drop_left' hsize, List.take_left' rfl,
    r.ofLe_header_length h32, hsize, hdecode, hdrop]
  simp [headerSize_eq, h]

/-- Reading stops cleanly at the end of the bytes. -/
theorem readAll_nil : readAll [] = ([], none, 0) := by
  rw [readAll]
  rfl

/-- Reading goes through a whole record at the front and counts its bytes. -/
theorem readAll_encode (r : Record) (h : r.data.length ≤ maxRecordSize) (rest : List UInt8) :
    readAll (r.encode ++ rest) =
      (r :: (readAll rest).1, (readAll rest).2.1, (readAll rest).2.2 + r.encode.length) := by
  obtain ⟨hlt, hnext⟩ := readNext_encode r h rest
  rw [readAll, hnext]
  simp

/-- A tail that a crash can leave after whole records: nothing, or a proper prefix of the bytes
of one more record. -/
def Torn (t : List UInt8) : Prop :=
  t = [] ∨ ∃ r : Record, r.data.length ≤ maxRecordSize ∧ t <+: r.encode ∧ t.length < r.encode.length

/-- A proper prefix of a record is damage: a header cut short, or a payload cut short. -/
theorem readNext_of_prefix {t : List UInt8} {r : Record} (h : r.data.length ≤ maxRecordSize)
    (hpre : t <+: r.encode) (hshort : t.length < r.encode.length) (hne : t ≠ []) :
    ∃ d, readNext t = .error d := by
  obtain ⟨u, hu⟩ := hpre
  have hsize := r.length_header
  have htlen : t.length < headerSize + r.data.length := r.length_encode ▸ hshort
  have hpos : t.length ≠ 0 := by simpa using hne
  by_cases hcut : t.length < headerSize
  · -- the crash cut the header
    refine ⟨.truncatedHeader t.length, ?_⟩
    have htake : (t.take headerSize).length = t.length := by simp; omega
    simp only [readNext, htake, dif_neg hpos, if_pos hcut]
  · -- the header is whole and announces the payload the crash cut
    have htake : t.take headerSize = r.header := by
      rw [Record.encode_eq_header] at hu
      have := congrArg (List.take headerSize) hu
      rwa [List.take_append_of_le_length (by omega), List.take_left' hsize] at this
    have hbody : ((t.drop headerSize).take r.data.length).length < r.data.length := by
      simp; omega
    refine ⟨.truncatedRecord r.data.length ((t.drop headerSize).take r.data.length).length, ?_⟩
    simp only [readNext, htake, hsize, r.ofLe_header_length (Record.length_lt_of_le_max h)]
    rw [dif_neg (by simp [headerSize_eq]), if_neg (by simp [headerSize_eq]), if_neg (by omega),
      if_pos hbody]

/-- A torn tail is read as no record: a clean end if it is empty, damage otherwise. -/
theorem readAll_torn {t : List UInt8} (ht : Torn t) :
    ∃ d, readAll t = ([], d, 0) ∧ (d = none ↔ t = []) := by
  rcases ht with rfl | ⟨r, h, hpre, hshort⟩
  · exact ⟨none, readAll_nil, by simp⟩
  · by_cases hne : t = []
    · subst hne
      exact ⟨none, readAll_nil, by simp⟩
    · obtain ⟨d, hd⟩ := readNext_of_prefix h hpre hshort hne
      refine ⟨some d, ?_, by simp [hne]⟩
      rw [readAll, hd]

/-- Whole records followed by a torn tail are read as exactly those records, spanning exactly
their bytes; the reading ends cleanly exactly when nothing was torn. -/
theorem readAll_append_torn (rs : List Record) (hrs : ∀ r ∈ rs, r.data.length ≤ maxRecordSize)
    {t : List UInt8} (ht : Torn t) :
    ∃ d, readAll (rs.flatMap Record.encode ++ t) = (rs, d, (rs.flatMap Record.encode).length) ∧
      (d = none ↔ t = []) := by
  induction rs with
  | nil => simpa using readAll_torn ht
  | cons r rs ih =>
    obtain ⟨d, hd, hnone⟩ := ih fun x hx => hrs x (List.mem_cons_of_mem r hx)
    refine ⟨d, ?_, hnone⟩
    rw [List.flatMap_cons, List.append_assoc, readAll_encode r (hrs r List.mem_cons_self), hd]
    simp [Nat.add_comm]

theorem recover_append_torn (rs : List Record) (hrs : ∀ r ∈ rs, r.data.length ≤ maxRecordSize)
    {t : List UInt8} (ht : Torn t) :
    recover (rs.flatMap Record.encode ++ t) = (rs, (rs.flatMap Record.encode).length) := by
  obtain ⟨d, hd, -⟩ := readAll_append_torn rs hrs ht
  simp [recover, hd]

/-! ## The directory -/

namespace Directory

@[simp] theorem read?_write_self (d : Directory) (name : String) (bytes : List UInt8) :
    (d.write name bytes).read? name = some bytes :=
  KeyMap.find?_insert_self _ _ _

theorem read?_write_ne (d : Directory) {name name' : String} (bytes : List UInt8)
    (h : name ≠ name') : (d.write name bytes).read? name' = d.read? name' :=
  KeyMap.find?_insert_ne _ _ _ _ h

@[simp] theorem write_write (d : Directory) (name : String) (a b : List UInt8) :
    (d.write name a).write name b = d.write name b := by
  unfold write
  simp

theorem write_of_read? {d : Directory} {name : String} {bytes : List UInt8}
    (h : d.read? name = some bytes) : d.write name bytes = d := by
  obtain ⟨files⟩ := d
  unfold write
  rw [KeyMap.insert_of_find? h]

theorem append_of_read? {d : Directory} {name : String} {bytes : List UInt8}
    (h : d.read? name = some bytes) (more : List UInt8) :
    d.append name more = d.write name (bytes ++ more) := by
  simp [append, h]

/-- Rewriting a file that exists keeps the file names, so the journal numbers. -/
theorem journalNumbers_write {d : Directory} {name : String} (bytes : List UInt8)
    (h : (d.read? name).isSome) : (d.write name bytes).journalNumbers = d.journalNumbers := by
  unfold journalNumbers write
  rw [KeyMap.keys_insert_of_isSome bytes h]

/-- Every file name that reads as a journal number is the name of that number: the directory
holds no other spelling of a journal file's name. -/
def Canonical (d : Directory) : Prop :=
  ∀ name ∈ d.files.keys, ∀ n ∈ fileNumber? name, name = fileName n

instance : DecidablePred Canonical := fun d =>
  inferInstanceAs (Decidable (∀ name ∈ d.files.keys, ∀ n ∈ fileNumber? name, name = fileName n))

section Canonical

variable {d : Directory} (hc : d.Canonical)
include hc

theorem Canonical.write {name : String} (bytes : List UInt8) (h : (d.read? name).isSome) :
    (d.write name bytes).Canonical := by
  intro name' hname'
  unfold Directory.write at hname'
  rw [KeyMap.keys_insert_of_isSome bytes h] at hname'
  exact hc name' hname'

/-- The file of each journal number exists under its own name, which reads back as it. -/
theorem Canonical.fileName_mem {n : Nat} (hn : n ∈ d.journalNumbers) :
    fileName n ∈ d.files.keys ∧ fileNumber? (fileName n) = some n := by
  unfold journalNumbers at hn
  rw [List.mem_mergeSort, List.mem_filterMap] at hn
  obtain ⟨name, hname, hnum⟩ := hn
  rw [← hc name hname n hnum]
  exact ⟨hname, hnum⟩

theorem Canonical.isSome_read? {n : Nat} (hn : n ∈ d.journalNumbers) :
    (d.read? (fileName n)).isSome :=
  KeyMap.mem_keys_iff.1 (hc.fileName_mem hn).1

theorem Canonical.fileName_ne {m n : Nat} (hm : m ∈ d.journalNumbers)
    (hn : n ∈ d.journalNumbers) (hne : m ≠ n) : fileName m ≠ fileName n := by
  intro heq
  have h := (hc.fileName_mem hm).2
  rw [heq, (hc.fileName_mem hn).2] at h
  exact hne (Option.some.inj h).symm

/-- No journal number is read from two files. -/
theorem Canonical.nodup : d.journalNumbers.Nodup := by
  unfold journalNumbers
  rw [List.nodup_mergeSort]
  refine (List.Pairwise.and_mem.1 d.files.nodup_keys).filterMap _ ?_
  rintro a a' ⟨ha, ha', hne⟩ n hn n' hn' rfl
  exact hne ((hc a ha n hn).trans (hc a' ha' n hn').symm)

end Canonical

/-- The records of the files numbered `ms`, each read up to its first damage. -/
def recovered (d : Directory) (ms : List Nat) : List Record :=
  ms.flatMap fun m => (recover ((d.read? (fileName m)).getD [])).1

theorem recovered_write {d : Directory} {ms : List Nat} {name : String} (bytes : List UInt8)
    (h : ∀ m ∈ ms, fileName m ≠ name) : (d.write name bytes).recovered ms = d.recovered ms :=
  List.flatMap_congr fun m hm => by rw [read?_write_ne d bytes (h m hm).symm]

end Directory

/-- Reading files in number order cuts only the last of them back to its whole records. -/
theorem recoverFiles_snoc {d : Directory} {ms : List Nat} {n : Nat} {bytes : List UInt8}
    (hms : ∀ m ∈ ms, (d.read? (fileName m)).isSome) (hn : d.read? (fileName n) = some bytes) :
    recoverFiles d (ms ++ [n]) =
      .ok (d.write (fileName n) (bytes.take (recover bytes).2),
        d.recovered ms ++ (recover bytes).1) := by
  induction ms with
  | nil =>
    -- the newest file keeps its bytes up to its whole records
    have hcut : (if (recover bytes).2 < bytes.length then
        d.write (fileName n) (bytes.take (recover bytes).2) else d) =
        d.write (fileName n) (bytes.take (recover bytes).2) := by
      split_ifs with h
      · rfl
      · rw [List.take_of_length_le (by omega), Directory.write_of_read? hn]
    simp [recoverFiles, hn, hcut, Directory.recovered]
  | cons m ms ih =>
    obtain ⟨b, hb⟩ := Option.isSome_iff_exists.1 (hms m List.mem_cons_self)
    simp [recoverFiles, hb, ih fun x hx => hms x (List.mem_cons_of_mem m hx),
      Directory.recovered]

/-- Opening a directory whose newest file is `n` reads the older files whole and cuts file `n`
back to its whole records, which is where appending continues. -/
theorem open_eq {d : Directory} (hc : d.Canonical) {ms : List Nat} {n : Nat}
    (hnums : d.journalNumbers = ms ++ [n]) {bytes : List UInt8}
    (hn : d.read? (fileName n) = some bytes) :
    Journal.open d = .ok (⟨d.write (fileName n) (bytes.take (recover bytes).2), n,
      (bytes.take (recover bytes).2).length⟩, d.recovered ms ++ (recover bytes).1) := by
  have hms : ∀ m ∈ ms, (d.read? (fileName m)).isSome := fun m hm =>
    hc.isSome_read? (hnums ▸ List.mem_append_left [n] hm)
  simp [Journal.open, hnums, recoverFiles_snoc hms hn,
    Directory.append_of_read? (Directory.read?_write_self _ _ _), Directory.size]

/-- Appending records one by one appends their bytes to the current file. -/
theorem foldl_appendRecord (j : Journal) {bytes : List UInt8}
    (h : j.dir.read? (fileName j.number) = some bytes) (more : List Record) :
    more.foldl Journal.appendRecord j =
      ⟨j.dir.write (fileName j.number) (bytes ++ more.flatMap Record.encode), j.number,
        j.size + (more.flatMap Record.encode).length⟩ := by
  induction more generalizing j bytes with
  | nil =>
    obtain ⟨dir, number, size⟩ := j
    simp [Directory.write_of_read? h]
  | cons r more ih =>
    have hstep : (j.appendRecord r).dir.read? (fileName (j.appendRecord r).number) =
        some (bytes ++ r.encode) := by
      simp [Journal.appendRecord, Directory.append_of_read? h]
    rw [List.foldl_cons, ih _ hstep]
    simp [Journal.appendRecord, Directory.append_of_read? h, Nat.add_assoc]

section Torn

variable {d : Directory} (hc : d.Canonical) {ms : List Nat} {n : Nat}
  (hnums : d.journalNumbers = ms ++ [n]) {rs : List Record}
  (hrs : ∀ r ∈ rs, r.data.length ≤ maxRecordSize) {t : List UInt8} (ht : Torn t)
  (hn : d.read? (fileName n) = some (rs.flatMap Record.encode ++ t))
include hc hnums hrs ht hn

/-- Opening a directory whose newest file holds whole records, then a torn tail, reads the older
files and those records, and continues in the newest file cut back to them. -/
theorem open_torn :
    Journal.open d = .ok (⟨d.write (fileName n) (rs.flatMap Record.encode), n,
      (rs.flatMap Record.encode).length⟩, d.recovered ms ++ rs) := by
  have hcut : (rs.flatMap Record.encode ++ t).take (rs.flatMap Record.encode).length =
      rs.flatMap Record.encode := List.take_left' rfl
  rw [open_eq hc hnums hn, recover_append_torn rs hrs ht, hcut]

omit ht in
/-- Records appended after that opening are read, on the next one, right after the records it
read. -/
theorem open_appended (more : List Record) (hmore : ∀ r ∈ more, r.data.length ≤ maxRecordSize) :
    Journal.open (more.foldl Journal.appendRecord ⟨d.write (fileName n) (rs.flatMap Record.encode),
      n, (rs.flatMap Record.encode).length⟩).dir =
      .ok (⟨d.write (fileName n) ((rs ++ more).flatMap Record.encode), n,
        ((rs ++ more).flatMap Record.encode).length⟩, d.recovered ms ++ (rs ++ more)) := by
  -- after the appends the newest file holds the bytes of `rs ++ more`, and nothing else changed
  have hsome : (d.read? (fileName n)).isSome := by simp [hn]
  have hfile : rs.flatMap Record.encode ++ more.flatMap Record.encode =
      (rs ++ more).flatMap Record.encode ++ [] := by simp
  have hall : ∀ r ∈ rs ++ more, r.data.length ≤ maxRecordSize := by
    simpa [or_imp, forall_and] using And.intro hrs hmore
  have hold : ∀ m ∈ ms, fileName m ≠ fileName n := by
    have hnodup := hnums ▸ hc.nodup
    intro m hm
    refine hc.fileName_ne (hnums ▸ List.mem_append_left [n] hm) (by simp [hnums]) ?_
    rintro rfl
    exact (List.nodup_append.1 hnodup).2.2 m hm m (List.mem_singleton_self m) rfl
  rw [foldl_appendRecord _ (Directory.read?_write_self _ _ _), Directory.write_write, hfile,
    open_torn (hc.write _ hsome) ((Directory.journalNumbers_write _ hsome).trans hnums) hall
      (Or.inl rfl) (Directory.read?_write_self _ _ _), Directory.recovered_write _ hold]
  simp

end Torn

/-- Crash recovery of an append. Whole records followed by a torn tail read back as exactly the
records, spanning exactly their bytes. Opening a directory whose newest file holds them cuts
that file back to the records and touches nothing else, and records appended after the reopening
are read right after them, with nothing in between. -/
theorem open_recovers_torn_append (rs : List Record) (t : List UInt8)
    (hrs : ∀ r ∈ rs, r.data.length ≤ maxRecordSize) (ht : Torn t) :
    recover (rs.flatMap Record.encode ++ t) = (rs, (rs.flatMap Record.encode).length) ∧
    ∀ (d : Directory) (n : Nat), d.Canonical → d.journalNumbers.getLast? = some n →
      d.read? (fileName n) = some (rs.flatMap Record.encode ++ t) →
      ∃ pre j, Journal.open d = .ok (j, pre ++ rs) ∧
        j = ⟨d.write (fileName n) (rs.flatMap Record.encode), n,
          (rs.flatMap Record.encode).length⟩ ∧
        ∀ more : List Record, (∀ r ∈ more, r.data.length ≤ maxRecordSize) →
          ∃ j', Journal.open (more.foldl Journal.appendRecord j).dir = .ok (j', pre ++ (rs ++ more)) := by
  refine ⟨recover_append_torn rs hrs ht, fun d n hc hlast hbytes => ?_⟩
  obtain ⟨ms, hnums⟩ := List.getLast?_eq_some_iff.1 hlast
  exact ⟨d.recovered ms, _, open_torn hc hnums hrs ht hbytes, rfl,
    fun more hmore => ⟨_, open_appended hc hnums hrs hbytes more hmore⟩⟩

/-- A batch record in file `1`, followed by the first ten bytes of a second record: the tail is
torn inside the second record's payload. -/
theorem open_recovers_torn_append_example :
    let r : Record := ⟨.batch, [1, 2, 3]⟩
    let t := (Record.encode ⟨.batch, [7, 8]⟩).take 10
    let d : Directory := ({} : Directory).write (fileName 1) ([r].flatMap Record.encode ++ t)
    Torn t ∧ d.Canonical ∧ d.journalNumbers.getLast? = some 1 ∧
      ∃ pre j, Journal.open d = .ok (j, pre ++ [r]) ∧
        j = ⟨d.write (fileName 1) ([r].flatMap Record.encode), 1,
          ([r].flatMap Record.encode).length⟩ ∧
        ∀ more : List Record, (∀ r ∈ more, r.data.length ≤ maxRecordSize) →
          ∃ j', Journal.open (more.foldl Journal.appendRecord j).dir = .ok (j', pre ++ ([r] ++ more)) := by
  intro r t d
  have ht : Torn t := Or.inr ⟨⟨.batch, [7, 8]⟩, by decide, List.take_prefix _ _, by decide⟩
  have hc : d.Canonical := by decide +kernel
  have hlast : d.journalNumbers.getLast? = some 1 := by decide +kernel
  exact ⟨ht, hc, hlast,
    (open_recovers_torn_append [r] t (by decide) ht).2 d 1 hc hlast (by decide +kernel)⟩

end Journal

end CounterCache
