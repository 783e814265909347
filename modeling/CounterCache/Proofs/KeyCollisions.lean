import Mathlib
import CounterCache.Proofs.KeyLayout

/-!
# Where keys of the layout coincide

Every key of the layout is text joined with colons, and a user's uuid is any text, colons
included. So keys of different roles can coincide: the owner index of the user `u:agree` is
`user:u:agree:article`, which is also the agree marker of the user `u`
(`ownerIndex_eq_agreeMarker`). This module finds every such coincidence.

Each key is read at its colons. A kind's own key starts with the kind's name, which holds no
colon; a user's key starts with `user:` and ends in a word after its last colon (a kind's
name, `visit`, `achievement`, `count` or `following`). Equal texts give equal readings
(`Shape.chars_injective`), and from the reading each key is recovered except one: an owner
index whose uuid ends in `:agree`, `:collect` or `:collections` reads as the agree marker,
collect marker or collections view of the shorter uuid.

Main statement: `text_eq_iff`, that two keys of the layout are the same text exactly when they
are the same key or one of those three coincidences. The keys of cached records (counter,
achievement and content-counts hashes) take part in none of them.
-/

namespace CounterCache

namespace Keys

/-! ## Splitting text at a colon -/

/-- Two texts that end in a colon and a colon-free word split there alike. -/
theorem append_colon_cancel_right {x y s t : List Char} (hs : ':' ∉ s) (ht : ':' ∉ t)
    (h : x ++ ':' :: s = y ++ ':' :: t) : x = y ∧ s = t := by
  rcases List.append_eq_append_iff.1 h with ⟨a, rfl, ha⟩ | ⟨c, rfl, hc⟩
  · cases a with
    | nil => simpa using ha
    | cons c a =>
      simp only [List.cons_append, List.cons.injEq] at ha
      exact absurd (ha.2 ▸ List.mem_append_right _ List.mem_cons_self) hs
  · cases c with
    | nil => simpa using hc.symm
    | cons c' c =>
      simp only [List.cons_append, List.cons.injEq] at hc
      exact absurd (hc.2 ▸ List.mem_append_right _ List.mem_cons_self) ht

/-- Two texts that start with a colon-free word and a colon split there alike. -/
theorem append_colon_cancel_left {s t x y : List Char} (hs : ':' ∉ s) (ht : ':' ∉ t)
    (h : s ++ ':' :: x = t ++ ':' :: y) : s = t ∧ x = y := by
  rcases List.append_eq_append_iff.1 h with ⟨a, rfl, ha⟩ | ⟨c, rfl, hc⟩
  · cases a with
    | nil => simpa using ha
    | cons c a =>
      simp only [List.cons_append, List.cons.injEq] at ha
      exact absurd (ha.1 ▸ List.mem_append_right _ List.mem_cons_self) ht
  · cases c with
    | nil => simpa using hc.symm
    | cons c' c =>
      simp only [List.cons_append, List.cons.injEq] at hc
      exact absurd (hc.1 ▸ List.mem_append_right _ List.mem_cons_self) hs

theorem colon_not_mem_name (k : Kind) : ':' ∉ k.name.toList := by
  cases k <;> decide

theorem name_injective : Function.Injective Kind.name := by
  intro k k' h
  have hk := Kind.parse_name k
  rw [h, Kind.parse_name] at hk
  exact (Except.ok.inj hk).symm

/-! ## The last word of a user's key -/

/-- The word after the last colon of a user's key. -/
inductive UserWord where
  | kind (k : Kind)
  | visit
  | achievement
  | count
  | following
  deriving DecidableEq, Repr

namespace UserWord

def text : UserWord → String
  | .kind k => k.name
  | .visit => "visit"
  | .achievement => "achievement"
  | .count => "count"
  | .following => "following"

/-- Reads the word back: a kind's name first, then the fixed words. -/
def read (s : String) : Option UserWord :=
  match Kind.parse s with
  | .ok k => some (.kind k)
  | .error _ => [visit, achievement, count, following].find? (·.text == s)

theorem read_text (w : UserWord) : read w.text = some w := by
  cases w with
  | kind k => simp [read, text, Kind.parse_name]
  | visit | achievement | count | following => decide

theorem text_injective : Function.Injective text := by
  intro w w' h
  have hw := read_text w
  rw [h, read_text] at hw
  exact (Option.some.inj hw).symm

theorem colon_not_mem (w : UserWord) : ':' ∉ w.text.toList := by
  cases w with
  | kind k => exact colon_not_mem_name k
  | visit | achievement | count | following => decide

end UserWord

/-! ## Reading a key at its colons -/

/-- How a key's text is built: a kind's own key, `{kind}` or `{kind}:{rest}`, or a user's key,
`user:{front}:{word}`. -/
inductive Shape where
  | ofKind (k : Kind) (rest : Option String)
  | ofUser (front : String) (word : UserWord)
  deriving DecidableEq, Repr

/-- The characters of a shape's text. -/
def Shape.chars : Shape → List Char
  | .ofKind k none => k.name.toList
  | .ofKind k (some r) => k.name.toList ++ ':' :: r.toList
  | .ofUser x w => "user".toList ++ ':' :: (x.toList ++ ':' :: w.text.toList)

/-- A text has at most one reading. -/
theorem Shape.chars_injective : Function.Injective Shape.chars := by
  have huser : ':' ∉ "user".toList := by decide
  intro s s' h
  rcases s with ⟨k, _ | r⟩ | ⟨x, w⟩ <;> rcases s' with ⟨k', _ | r'⟩ | ⟨x', w'⟩ <;>
    simp only [Shape.chars] at h
  case ofKind.none.ofKind.none => rw [name_injective (String.toList_inj.1 h)]
  case ofKind.none.ofKind.some =>
    exact absurd (h ▸ List.mem_append_right _ List.mem_cons_self) (colon_not_mem_name k)
  case ofKind.none.ofUser =>
    exact absurd (h ▸ List.mem_append_right _ List.mem_cons_self) (colon_not_mem_name k)
  case ofKind.some.ofKind.none =>
    exact absurd (h.symm ▸ List.mem_append_right _ List.mem_cons_self) (colon_not_mem_name k')
  case ofKind.some.ofKind.some =>
    obtain ⟨hk, hr⟩ := append_colon_cancel_left (colon_not_mem_name k) (colon_not_mem_name k') h
    rw [name_injective (String.toList_inj.1 hk), String.toList_inj.1 hr]
  case ofKind.some.ofUser =>
    -- a kind's name would be `user`
    have hk := (append_colon_cancel_left (colon_not_mem_name k) huser h).1
    cases k <;> exact absurd hk (by decide)
  case ofUser.ofKind.none =>
    exact absurd (h.symm ▸ List.mem_append_right _ List.mem_cons_self) (colon_not_mem_name k')
  case ofUser.ofKind.some =>
    have hk := (append_colon_cancel_left huser (colon_not_mem_name k') h).1
    cases k' <;> exact absurd hk (by decide)
  case ofUser.ofUser =>
    have hrest := (append_colon_cancel_left huser huser h).2
    obtain ⟨hx, hw⟩ := append_colon_cancel_right w.colon_not_mem w'.colon_not_mem hrest
    rw [String.toList_inj.1 hx, UserWord.text_injective (String.toList_inj.1 hw)]

/-- A uuid followed by a colon and a colon-free word is split there alike. -/
theorem front_cancel {u u' s s' : String} (hs : ':' ∉ s.toList) (hs' : ':' ∉ s'.toList)
    (h : u ++ ":" ++ s = u' ++ ":" ++ s') : u = u' ∧ s = s' := by
  have hl := congrArg String.toList h
  simp only [String.toList_append, List.append_assoc] at hl
  obtain ⟨hu, hw⟩ := append_colon_cancel_right hs hs' hl
  exact ⟨String.toList_inj.1 hu, String.toList_inj.1 hw⟩

/-! ## Keys -/

/-- The word of a user's per-kind key, `user:{uuid}:{word}:{kind}`: the agree and collect
markers and the collections view. -/
inductive PerKind where
  | agree
  | collect
  | collections
  deriving DecidableEq, Repr

def PerKind.word : PerKind → String
  | .agree => "agree"
  | .collect => "collect"
  | .collections => "collections"

theorem PerKind.colon_not_mem (w : PerKind) : ':' ∉ w.word.toList := by
  cases w <;> decide

theorem PerKind.word_injective : Function.Injective PerKind.word := by
  intro w w'
  cases w <;> cases w' <;> decide

/-- A key of the layout, by the role it plays and the names it is built from. -/
inductive Key where
  | counter (k : Kind) (id : Nat)
  | chronological (k : Kind)
  | ranking (k : Kind) (view : String)
  | ownerIndex (uuid : String) (k : Kind)
  | visitIndex (uuid : String) (k : Kind)
  | achievement (uuid : String)
  | contentCounts (uuid : String)
  | perKind (w : PerKind) (uuid : String) (k : Kind)
  | following (uuid : String)
  deriving DecidableEq, Repr

namespace Key

/-- The key's text. -/
def text : Key → String
  | .counter k id => Keys.counter k id
  | .chronological k => Keys.chronological k
  | .ranking k v => Keys.ranking k v
  | .ownerIndex u k => Keys.ownerIndex u k
  | .visitIndex u k => Keys.visitIndex u k
  | .achievement u => Keys.achievement u
  | .contentCounts u => Keys.contentCounts u
  | .perKind .agree u k => Keys.agreeMarker u k
  | .perKind .collect u k => Keys.collectMarker u k
  | .perKind .collections u k => Keys.collections u k
  | .following u => Keys.following u

/-- Only the views of `rankings` are ranking keys. -/
def Valid : Key → Prop
  | .ranking _ v => v ∈ rankings.map (·.suffix)
  | _ => True

/-- The key read at its colons. -/
def shape : Key → Shape
  | .counter k id => .ofKind k (some (toString id))
  | .chronological k => .ofKind k none
  | .ranking k v => .ofKind k (some v)
  | .ownerIndex u k => .ofUser u (.kind k)
  | .visitIndex u k => .ofUser (u ++ ":" ++ k.name) .visit
  | .achievement u => .ofUser u .achievement
  | .contentCounts u => .ofUser u .count
  | .perKind w u k => .ofUser (u ++ ":" ++ w.word) (.kind k)
  | .following u => .ofUser u .following

theorem text_toList (a : Key) : a.text.toList = a.shape.chars := by
  rcases a with _ | _ | _ | _ | _ | _ | _ | ⟨_ | _ | _, _, _⟩ | _ <;>
    simp [text, shape, Shape.chars, UserWord.text, PerKind.word, Keys.counter,
      Keys.chronological, Keys.ranking, Keys.ownerIndex, Keys.visitIndex, Keys.achievement,
      Keys.contentCounts, Keys.agreeMarker, Keys.collectMarker, Keys.collections, Keys.following]

/-- An owner index whose uuid ends in a per-kind word has the text of that per-kind key. -/
inductive Collide : Key → Key → Prop
  | owner (w : PerKind) (u : String) (k : Kind) :
      Collide (.ownerIndex (u ++ ":" ++ w.word) k) (.perKind w u k)

theorem shape_eq_of_text_eq {a b : Key} (h : a.text = b.text) : a.shape = b.shape :=
  Shape.chars_injective (by rw [← text_toList, ← text_toList, h])

theorem text_eq_of_shape_eq {a b : Key} (h : a.shape = b.shape) : a.text = b.text :=
  String.toList_inj.1 (by rw [text_toList, text_toList, h])

theorem shape_eq_of_collide {a b : Key} (h : Collide a b) : a.shape = b.shape := by
  cases h
  rfl

/-- Two keys with one reading are one key, or an owner index and the per-kind key its uuid's
last word names. -/
theorem eq_or_collide_of_shape {a b : Key} (ha : a.Valid) (hb : b.Valid)
    (h : a.shape = b.shape) : a = b ∨ Collide a b ∨ Collide b a := by
  cases a <;> cases b <;> simp only [shape, Shape.ofKind.injEq, Shape.ofUser.injEq,
    UserWord.kind.injEq, reduceCtorEq, Option.some.injEq, and_false, Option.some_ne_none,
    and_true] at h
  case counter.counter k i k' i' =>
    obtain ⟨rfl, hi⟩ := h
    rw [Nat.repr_inj.1 hi]
    exact .inl rfl
  case counter.ranking k i k' v =>
    -- a ranking view is a word, which no id prints as
    obtain ⟨rfl, rfl⟩ := h
    exact absurd rfl (ranking_ne_counter hb k k i)
  case ranking.counter k v k' i =>
    obtain ⟨rfl, rfl⟩ := h
    exact absurd rfl (ranking_ne_counter ha k k i)
  case chronological.chronological k k' =>
    rw [h]
    exact .inl rfl
  case ranking.ranking k v k' v' =>
    obtain ⟨rfl, rfl⟩ := h
    exact .inl rfl
  case ownerIndex.ownerIndex u k u' k' =>
    obtain ⟨rfl, rfl⟩ := h
    exact .inl rfl
  case ownerIndex.perKind u k w u' k' =>
    obtain ⟨rfl, rfl⟩ := h
    exact .inr (.inl (.owner w u' k))
  case perKind.ownerIndex w u k u' k' =>
    obtain ⟨rfl, rfl⟩ := h
    exact .inr (.inr (.owner w u k))
  case visitIndex.visitIndex u k u' k' =>
    obtain ⟨rfl, hk⟩ := front_cancel (colon_not_mem_name k) (colon_not_mem_name k') h
    rw [name_injective hk]
    exact .inl rfl
  case perKind.perKind w u k w' u' k' =>
    obtain ⟨hfront, rfl⟩ := h
    obtain ⟨rfl, hw⟩ := front_cancel w.colon_not_mem w'.colon_not_mem hfront
    rw [PerKind.word_injective hw]
    exact .inl rfl
  case achievement.achievement u u' | contentCounts.contentCounts u u' |
      following.following u u' =>
    rw [h]
    exact .inl rfl

/-- The key of a record's cached copy. -/
def ofEntity : EntityRef → Key
  | .content k id => .counter k id
  | .achievement u => .achievement u
  | .contentCounts u => .contentCounts u

theorem text_ofEntity (e : EntityRef) : (ofEntity e).text = e.cacheKey := by
  cases e <;> rfl

theorem valid_ofEntity (e : EntityRef) : (ofEntity e).Valid := by
  cases e <;> trivial

/-- A cached record's key is no owner index and no per-kind key. -/
theorem not_collide_ofEntity (e : EntityRef) (b : Key) :
    ¬ Collide (ofEntity e) b ∧ ¬ Collide b (ofEntity e) := by
  cases e <;> exact ⟨nofun, nofun⟩

end Key

/-- The owner index of the user `u:agree` is the agree marker of the user `u`. -/
theorem ownerIndex_eq_agreeMarker : ownerIndex "u:agree" .article = agreeMarker "u" .article := by
  decide

/-- Two keys of the layout are the same text exactly when they are the same key, or one is the
owner index of a uuid that ends in `:agree`, `:collect` or `:collections` and the other the
agree marker, collect marker or collections view of the uuid before it, of the same kind. So
every key function is injective, and the cached copy of a record shares its key with no other
key at all. -/
theorem Key.text_eq_iff :
    (∀ a b : Key, a.Valid → b.Valid → (a.text = b.text ↔ a = b ∨ a.Collide b ∨ b.Collide a)) ∧
    (∀ (e : EntityRef) (b : Key), b.Valid → (e.cacheKey = b.text ↔ b = Key.ofEntity e)) := by
  have hiff : ∀ a b : Key, a.Valid → b.Valid →
      (a.text = b.text ↔ a = b ∨ a.Collide b ∨ b.Collide a) := by
    intro a b ha hb
    constructor
    · exact fun h => Key.eq_or_collide_of_shape ha hb (Key.shape_eq_of_text_eq h)
    · rintro (rfl | h | h)
      · rfl
      · exact Key.text_eq_of_shape_eq (Key.shape_eq_of_collide h)
      · exact (Key.text_eq_of_shape_eq (Key.shape_eq_of_collide h)).symm
  refine ⟨hiff, fun e b hb => ?_⟩
  rw [← Key.text_ofEntity, hiff _ _ (Key.valid_ofEntity e) hb]
  obtain ⟨h₁, h₂⟩ := Key.not_collide_ofEntity e b
  constructor
  · rintro (h | h | h)
    · exact h.symm
    · exact absurd h h₁
    · exact absurd h h₂
  · exact fun h => .inl h.symm

/-- The owner index of `u:agree` and the agree marker of `u` are two keys with one text. -/
theorem text_eq_iff_owner_agree :
    (Key.ownerIndex "u:agree" .article).Valid ∧ (Key.perKind .agree "u" .article).Valid ∧
      ((Key.ownerIndex "u:agree" .article).text = (Key.perKind .agree "u" .article).text ↔
        Key.ownerIndex "u:agree" .article = Key.perKind .agree "u" .article ∨
        (Key.ownerIndex "u:agree" .article).Collide (Key.perKind .agree "u" .article) ∨
        (Key.perKind .agree "u" .article).Collide (Key.ownerIndex "u:agree" .article)) :=
  ⟨trivial, trivial, Key.text_eq_iff.1 _ _ trivial trivial⟩

end Keys

end CounterCache
