import Mathlib
import CounterCache.Engine.Dispatch

/-!
# Telling keys apart

Keys are texts joined together, so keys of different roles could coincide. Where it matters they
do not: a counter key names its kind and id (`counter_injective`), and no other key of the layout
is a counter key (`user_ne_counter`, `chronological_ne_counter`, `ranking_ne_counter`).

Content shows in views: its kind's rankings and chronological index, and its owner's two indexes
(`contentViews`). Each view names its kind, which `kindOf?` reads back: from the front of a
kind's own keys, and from the back of a user's indexes (`kindOf?_of_mem_contentViews`). A
member of a view is an id, so a view and a member name one content entity.
-/

namespace CounterCache

namespace Keys

/-! ## The kind a view names -/

/-- The kind at the end of a key, read backwards: `...:{kind}` reversed. -/
def kindBeforeColon : List Char → Option Kind
  | 'e' :: 'l' :: 'c' :: 'i' :: 't' :: 'r' :: 'a' :: ':' :: _ => some .article
  | 'n' :: 'm' :: 'u' :: 'l' :: 'o' :: 'c' :: ':' :: _ => some .column
  | 'k' :: 'l' :: 'a' :: 't' :: ':' :: _ => some .talk
  | 't' :: 'n' :: 'e' :: 'm' :: 'm' :: 'o' :: 'c' :: ':' :: _ => some .comment
  | _ => none

/-- The kind at the front of a kind's own key: its name alone, or followed by a colon. -/
def kindPrefix : List Char → Option Kind
  | ['a', 'r', 't', 'i', 'c', 'l', 'e'] | 'a' :: 'r' :: 't' :: 'i' :: 'c' :: 'l' :: 'e' :: ':' :: _ =>
    some .article
  | ['c', 'o', 'l', 'u', 'm', 'n'] | 'c' :: 'o' :: 'l' :: 'u' :: 'm' :: 'n' :: ':' :: _ =>
    some .column
  | ['t', 'a', 'l', 'k'] | 't' :: 'a' :: 'l' :: 'k' :: ':' :: _ => some .talk
  | ['c', 'o', 'm', 'm', 'e', 'n', 't'] | 'c' :: 'o' :: 'm' :: 'm' :: 'e' :: 'n' :: 't' :: ':' :: _ =>
    some .comment
  | _ => none

/-- The kind whose view a key is. A user's index ends in its kind, or in its kind and `:visit`;
a kind's own keys start with it. -/
def kindOf? (key : String) : Option Kind :=
  match key.toList with
  | 'u' :: 's' :: 'e' :: 'r' :: ':' :: _ =>
    match key.toList.reverse with
    | 't' :: 'i' :: 's' :: 'i' :: 'v' :: ':' :: rest => kindBeforeColon rest
    | rest => kindBeforeColon rest
  | cs => kindPrefix cs

-- Each key below is split into the texts it is joined from, and its reversal into theirs, so
-- that both ends of the key are literal characters that `kindOf?` reads off by computation.

@[simp] theorem kindOf?_ownerIndex (u : String) (k : Kind) : kindOf? (ownerIndex u k) = some k := by
  unfold kindOf? ownerIndex
  rw [String.toList_append, String.toList_append, String.toList_append, List.reverse_append,
    List.reverse_append]
  cases k <;> rfl

@[simp] theorem kindOf?_visitIndex (u : String) (k : Kind) : kindOf? (visitIndex u k) = some k := by
  unfold kindOf? visitIndex
  rw [String.toList_append, String.toList_append, String.toList_append, String.toList_append,
    List.reverse_append, List.reverse_append, List.reverse_append]
  cases k <;> rfl

@[simp] theorem kindOf?_collections (u : String) (k : Kind) :
    kindOf? (collections u k) = some k := by
  unfold kindOf? collections
  rw [String.toList_append, String.toList_append, String.toList_append, List.reverse_append,
    List.reverse_append]
  cases k <;> rfl

@[simp] theorem kindOf?_chronological (k : Kind) : kindOf? (chronological k) = some k := by
  cases k <;> rfl

@[simp] theorem kindOf?_ranking (k : Kind) (v : String) : kindOf? (ranking k v) = some k := by
  unfold kindOf? ranking
  rw [String.toList_append, String.toList_append]
  cases k <;> rfl

/-! ## Counter keys -/

/-- A counter key names its kind and id. -/
theorem counter_injective {k k' : Kind} {i i' : Nat} (h : counter k i = counter k' i') :
    k = k' ∧ i = i' := by
  have hl := congrArg String.toList h
  have hk : k = k' := by
    unfold counter Kind.name at hl
    cases k <;> cases k' <;> simp at hl ⊢
  subst hk
  refine ⟨rfl, Nat.repr_inj.mp ?_⟩
  simpa [counter] using h

theorem user_ne_counter (s : String) (k : Kind) (i : Nat) : "user:" ++ s ≠ counter k i := by
  intro h
  have hl := congrArg String.toList h
  unfold counter Kind.name at hl
  cases k <;> simp at hl

theorem chronological_ne_counter (k k' : Kind) (i : Nat) : chronological k ≠ counter k' i := by
  intro h
  have hl := congrArg String.toList h
  unfold chronological counter Kind.name at hl
  cases k <;> cases k' <;> simp at hl

/-- A ranking view is named by a word, which no id prints as. -/
theorem ranking_ne_counter {v : String} (hv : v ∈ rankings.map (·.suffix)) (k k' : Kind)
    (i : Nat) : ranking k v ≠ counter k' i := by
  intro h
  have hl := congrArg String.toList h
  -- the view's first letter would be a digit of the id
  have hdigit : ∀ c ∈ Nat.toDigits 10 i, c.isDigit = true :=
    fun c hc => Nat.isDigit_of_mem_toDigits (by decide) (by decide) hc
  simp only [rankings, List.map_cons, List.map_nil, List.mem_cons, List.not_mem_nil,
    or_false] at hv
  unfold ranking counter Kind.name at hl
  rcases hv with rfl | rfl <;> cases k <;> cases k' <;>
    simp at hl <;>
    rw [← hl] at hdigit <;> exact absurd (hdigit _ List.mem_cons_self) (by decide)

/-! ## Views of content -/

/-- The views content of a kind shows in: the kind's rankings and chronological index, and the
owner's index and visit index. Only ranked kinds have views. -/
def contentViews (kind : Kind) (owner : String) : List String :=
  allRankingKeys kind ++
    if (KindSpec.of kind).ranked then
      [chronological kind, ownerIndex owner kind, visitIndex owner kind]
    else []

/-- The views visitors read, where hidden content does not show. -/
def visitorViews (kind : Kind) (owner : String) : List String :=
  if (KindSpec.of kind).ranked then [chronological kind, visitIndex owner kind] else []

theorem mem_contentViews {kind : Kind} {owner key : String} :
    key ∈ contentViews kind owner ↔ (KindSpec.of kind).ranked ∧
      (key ∈ rankings.map (ranking kind ·.suffix) ∨ key = chronological kind ∨
        key = ownerIndex owner kind ∨ key = visitIndex owner kind) := by
  unfold contentViews allRankingKeys
  split <;> simp_all

theorem kindOf?_of_mem_contentViews {kind : Kind} {owner key : String}
    (h : key ∈ contentViews kind owner) : kindOf? key = some kind := by
  obtain ⟨-, hk⟩ := mem_contentViews.1 h
  rcases hk with hk | rfl | rfl | rfl
  · obtain ⟨spec, -, rfl⟩ := List.mem_map.1 hk
    exact kindOf?_ranking kind _
  all_goals simp

theorem contentViews_ne_counter {kind : Kind} {owner key : String}
    (h : key ∈ contentViews kind owner) (k : Kind) (i : Nat) : key ≠ counter k i := by
  obtain ⟨-, hk⟩ := mem_contentViews.1 h
  rcases hk with hk | rfl | rfl | rfl
  · obtain ⟨spec, hspec, rfl⟩ := List.mem_map.1 hk
    exact ranking_ne_counter (List.mem_map_of_mem hspec) kind k i
  · exact chronological_ne_counter kind k i
  · simpa only [ownerIndex, String.append_assoc] using user_ne_counter _ k i
  · simpa only [visitIndex, String.append_assoc] using user_ne_counter _ k i

theorem visitorViews_subset (kind : Kind) (owner : String) :
    visitorViews kind owner ⊆ contentViews kind owner := by
  intro key h
  unfold visitorViews at h
  split at h
  · simp only [List.mem_cons, List.not_mem_nil, or_false] at h
    rw [mem_contentViews]
    refine ⟨‹_›, ?_⟩
    rcases h with rfl | rfl <;> simp
  · cases h

theorem ranking_not_mem_visitorViews (k kind : Kind) (v owner : String) :
    ranking k v ∉ visitorViews kind owner := by
  unfold visitorViews
  split
  · intro h
    simp only [List.mem_cons, List.not_mem_nil, or_false] at h
    rcases h with h | h <;> have hl := congrArg String.toList h
    · unfold ranking chronological Kind.name at hl
      cases k <;> cases kind <;> simp at hl
    · unfold ranking visitIndex Kind.name at hl
      cases k <;> cases kind <;> simp at hl
  · simp

/-- A user's collections end in the kind, not in `:visit`, and start with `user:`. -/
theorem collections_not_mem_visitorViews (u : String) (k kind : Kind) (owner : String) :
    collections u k ∉ visitorViews kind owner := by
  unfold visitorViews
  split
  · intro h
    simp only [List.mem_cons, List.not_mem_nil, or_false] at h
    rcases h with h | h <;> have hl := congrArg (·.toList.reverse) h
    · unfold collections chronological Kind.name at hl
      cases k <;> cases kind <;> simp at hl
    · unfold collections visitIndex Kind.name at hl
      cases k <;> cases kind <;> simp at hl
  · simp

end Keys

end CounterCache
