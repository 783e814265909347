import Mathlib
import CounterCache.Proofs.JournalCheckpoint
import CounterCache.Store.Command

/-!
# Reading printed integers

An integer is printed as its decimal digits, after a minus sign when it is negative. Read back,
the text gives the integer exactly when it lies in the signed 64-bit range
(`parseI64?_toString`).

A text that reads as a signed integer is a sign and digits, so it holds no blank; trimming blanks
leaves it alone, and a command operand reads as the same integer (`parseInt_of_parseI64?`). The
same holds of every printed integer (`parseInt_toString`).
-/

namespace CounterCache

namespace Text

/-! ## A text that reads as an integer holds no blank -/

/-- Once the digit fold has failed it stays failed. -/
theorem foldl_digits_none (cs : List Char) :
    cs.foldl (fun acc c => acc.bind fun n =>
      if c.isDigit then some (10 * n + (c.toNat - '0'.toNat)) else none) none = none := by
  induction cs with
  | nil => rfl
  | cons c cs ih => simpa using ih

/-- The digit fold succeeds only over digits. -/
theorem isDigit_of_foldl_digits {cs : List Char} {init n : Nat}
    (h : cs.foldl (fun acc c => acc.bind fun n =>
      if c.isDigit then some (10 * n + (c.toNat - '0'.toNat)) else none) (some init) = some n) :
    ∀ c ∈ cs, c.isDigit := by
  induction cs generalizing init with
  | nil => simp
  | cons c cs ih =>
    by_cases hc : c.isDigit = true
    · simp only [List.foldl_cons, Option.bind_some, hc, if_true] at h
      intro x hx
      rcases List.mem_cons.1 hx with rfl | hx
      · exact hc
      · exact ih h x hx
    · simp only [List.foldl_cons, Option.bind_some, hc, if_false, Bool.false_eq_true,
        foldl_digits_none] at h
      cases h

theorem isDigit_of_digitsValue? {cs : List Char} {n : Nat} (h : digitsValue? cs = some n) :
    ∀ c ∈ cs, c.isDigit := by
  unfold digitsValue? at h
  split at h
  · cases h
  · exact isDigit_of_foldl_digits h

theorem isBlank_of_isDigit {c : Char} (h : c.isDigit = true) : isBlank c = false := by
  have hrange : 48 ≤ c.toNat ∧ c.toNat ≤ 57 := by
    simp only [Char.isDigit, Bool.and_eq_true, decide_eq_true_eq] at h
    exact ⟨h.1, h.2⟩
  simp only [isBlank]
  grind

/-- A text that reads as a signed integer is a sign and digits. -/
theorem not_isBlank_of_parseI64? {s : String} {n : Int} (h : parseI64? s = some n) :
    ∀ c ∈ s.toList, isBlank c = false := by
  unfold parseI64? at h
  split at h
  next ds hs =>
    obtain ⟨m, hm, -⟩ := Option.bind_eq_some_iff.1 h
    rw [hs]
    intro c hc
    rcases List.mem_cons.1 hc with rfl | hc
    · decide
    · exact isBlank_of_isDigit (isDigit_of_digitsValue? hm c hc)
  next ds hs =>
    obtain ⟨m, hm, -⟩ := Option.bind_eq_some_iff.1 h
    rw [hs]
    intro c hc
    rcases List.mem_cons.1 hc with rfl | hc
    · decide
    · exact isBlank_of_isDigit (isDigit_of_digitsValue? hm c hc)
  next ds _ _ =>
    obtain ⟨m, hm, -⟩ := Option.bind_eq_some_iff.1 h
    exact fun c hc => isBlank_of_isDigit (isDigit_of_digitsValue? hm c hc)

theorem trimBlank_of_not_isBlank {s : String} (h : ∀ c ∈ s.toList, isBlank c = false) :
    trimBlank s = s := by
  -- neither end starts with a blank, so neither `dropWhile` drops anything
  have hdrop : ∀ l : List Char, (∀ c ∈ l, isBlank c = false) → l.dropWhile isBlank = l := by
    intro l hl
    rw [List.dropWhile_eq_self_iff]
    intro hpos
    simpa using hl _ (List.getElem_mem hpos)
  unfold trimBlank
  rw [hdrop _ h, hdrop _ (by simpa using h), List.reverse_reverse, String.ofList_toList]

/-! ## Printed integers -/

theorem digitsValue?_toDigits (m : Nat) : digitsValue? (Nat.toDigits 10 m) = some m := by
  have hdigit : ∀ c ∈ Nat.toDigits 10 m, c.isDigit :=
    fun _ hc => Nat.isDigit_of_mem_toDigits (by decide) (by decide) hc
  obtain ⟨c, cs, hcs⟩ := List.exists_cons_of_ne_nil (Nat.toDigits_ne_nil (n := m) (b := 10))
  have hfold := digitsValue?_foldl hdigit 0
  rw [Nat.ofDigitChars_ten_toDigits, hcs] at hfold
  rw [hcs]
  exact hfold

theorem toList_toString_ofNat (m : Nat) : (toString (m : Int)).toList = Nat.toDigits 10 m := by
  simp [Int.repr]

theorem toList_toString_negSucc (m : Nat) :
    (toString (Int.negSucc m)).toList = '-' :: Nat.toDigits 10 (m + 1) := by
  simp [Int.repr]

/-- A printed integer reads back as itself exactly when it is in the signed 64-bit range. -/
theorem parseI64?_toString (n : Int) :
    parseI64? (toString n) = if InI64 n then some n else none := by
  cases n with
  | ofNat m =>
    rw [Int.ofNat_eq_natCast]
    have hl := toList_toString_ofNat m
    have hsign : ∀ c ∈ Nat.toDigits 10 m, c ≠ '-' ∧ c ≠ '+' := by
      intro c hc
      have hdigit := Nat.isDigit_of_mem_toDigits (by decide) (by decide) hc
      constructor <;> rintro rfl <;> exact absurd hdigit (by decide)
    -- a sign is no digit, so the text is read by the unsigned branch
    unfold parseI64?
    split
    next ds hs => exact absurd rfl (hsign '-' (hl ▸ hs ▸ List.mem_cons_self)).1
    next ds hs => exact absurd rfl (hsign '+' (hl ▸ hs ▸ List.mem_cons_self)).2
    next =>
      rw [hl, digitsValue?_toDigits]
      have hmin : i64Min ≤ (m : Int) := by simp only [i64Min]; omega
      simp only [Option.bind_some, InI64, hmin, true_and]
  | negSucc m =>
    unfold parseI64?
    split
    next ds hs =>
      rw [toList_toString_negSucc, List.cons.injEq] at hs
      rw [← hs.2, digitsValue?_toDigits, Option.bind_some]
      have hle : ((m + 1 : Nat) : Int) ≤ -i64Min ↔ InI64 (Int.negSucc m) := by
        simp only [InI64, i64Min, i64Max, Int.negSucc_eq]
        omega
      by_cases h : InI64 (Int.negSucc m)
      · rw [if_pos (hle.2 h), if_pos h, Int.negSucc_eq]
        simp
      · rw [if_neg (mt hle.1 h), if_neg h]
    next ds hs =>
      rw [toList_toString_negSucc, List.cons.injEq] at hs
      exact absurd hs.1 (by decide)
    next hneg _ =>
      exact absurd (toList_toString_negSucc m) (hneg _)

theorem not_isBlank_toString (n : Int) : ∀ c ∈ (toString n).toList, isBlank c = false := by
  have hdigits : ∀ m, ∀ c ∈ Nat.toDigits 10 m, isBlank c = false :=
    fun m c hc => isBlank_of_isDigit (Nat.isDigit_of_mem_toDigits (by decide) (by decide) hc)
  cases n with
  | ofNat m =>
    rw [Int.ofNat_eq_natCast, toList_toString_ofNat]
    exact hdigits m
  | negSucc m =>
    rw [toList_toString_negSucc]
    intro c hc
    rcases List.mem_cons.1 hc with rfl | hc
    · decide
    · exact hdigits _ c hc

end Text

/-! ## Command operands -/

theorem parseInt_of_parseI64? {s : String} {n : Int} (h : Text.parseI64? s = some n) :
    parseInt s = .ok n := by
  rw [parseInt, Text.trimBlank_of_not_isBlank (Text.not_isBlank_of_parseI64? h), h]

theorem parseInt_toString (n : Int) :
    parseInt (toString n) =
      if Text.InI64 n then .ok n else .error (.notInteger (toString n)) := by
  rw [parseInt, Text.trimBlank_of_not_isBlank (Text.not_isBlank_toString n),
    Text.parseI64?_toString]
  split_ifs <;> rfl

end CounterCache
