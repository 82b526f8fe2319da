import Mathlib.Data.List.AList

/-!
# Association lists as hash maps

Two operations of a hash map that Mathlib's `AList` does not have: `retain`,
which keeps the entries a predicate allows, and `first`, the entry an iterator
meets first.  An iterator over a hash map promises no order, so `first` is only
characterised by being some entry of a map that has one.

A list of pairs is read by the first pair with a key; `Pairs.value_of_perm` says when
the order of the pairs is of no account.
-/

namespace AList

universe u v

variable {α : Type u} {β : α → Type v}

/-- Keep the entries that `keep` allows. -/
def retain (keep : (a : α) → β a → Bool) (m : AList β) : AList β where
  entries := m.entries.filter fun e => keep e.1 e.2
  nodupKeys := List.NodupKeys.sublist List.filter_sublist m.nodupKeys

/-- The entry an iterator meets first. -/
def first (m : AList β) : Option (Sigma β) := m.entries.head?

theorem mem_iff_exists_entry {m : AList β} {a : α} :
    a ∈ m ↔ ∃ b, (⟨a, b⟩ : Sigma β) ∈ m.entries :=
  List.mem_keys

section Lookup

variable [DecidableEq α]

theorem lookup_eq_some_iff {m : AList β} {a : α} {b : β a} :
    m.lookup a = some b ↔ (⟨a, b⟩ : Sigma β) ∈ m.entries :=
  mem_lookup_iff

theorem mem_of_lookup {m : AList β} {a : α} {b : β a} (h : m.lookup a = some b) :
    a ∈ m :=
  lookup_isSome.mp (by rw [h]; rfl)

theorem exists_lookup {m : AList β} {a : α} (h : a ∈ m) :
    ∃ b, m.lookup a = some b :=
  Option.isSome_iff_exists.mp (lookup_isSome.mpr h)

theorem lookup_retain_eq_some {keep : (a : α) → β a → Bool} {m : AList β} {a : α}
    {b : β a} :
    (m.retain keep).lookup a = some b ↔ m.lookup a = some b ∧ keep a b = true := by
  simp only [lookup_eq_some_iff, retain, List.mem_filter]

theorem first_lookup {m : AList β} {e : Sigma β} (h : m.first = some e) :
    m.lookup e.1 = some e.2 :=
  lookup_eq_some_iff.mpr (List.mem_of_mem_head? (by rw [first] at h; simp [h]))

theorem first_eq_none {m : AList β} : m.first = none ↔ ∀ a, a ∉ m := by
  constructor
  · intro h a mem
    obtain ⟨b, hb⟩ := mem_iff_exists_entry.mp mem
    rw [first, List.head?_eq_none_iff] at h
    simp [h] at hb
  · intro h
    cases hfirst : m.first with
    | none => rfl
    | some e => exact absurd (mem_of_lookup (first_lookup hfirst)) (h e.1)

end Lookup

/-- A map whose keys all agree has at most one entry. -/
theorem length_le_one {m : AList β} (h : ∀ a ∈ m, ∀ b ∈ m, a = b) :
    m.entries.length ≤ 1 := by
  have hkeys : ∀ a ∈ m.keys, ∀ b ∈ m.keys, a = b := fun a ha b hb =>
    h a (mem_keys.mpr ha) b (mem_keys.mpr hb)
  have hlen : m.keys.length = m.entries.length := by
    simp [keys, List.keys]
  rw [← hlen]
  rcases hm : m.keys with _ | ⟨a, _ | ⟨b, rest⟩⟩
  · simp
  · simp
  · have nodup := m.keys_nodup
    rw [hm] at hkeys nodup
    have hab : a = b := hkeys a (by simp) b (by simp)
    simp [hab] at nodup

end AList

/-! ## Pairs in any order -/

namespace Pairs

universe u v

variable {α : Type u} {β : Type v} [DecidableEq α]

/-- The value of the first pair with a key. -/
def value (key : α) (pairs : List (α × β)) : Option β :=
  (pairs.find? fun p => p.1 = key).map Prod.snd

theorem value_of_mem {key : α} {b : β} {pairs : List (α × β)} (mem : (key, b) ∈ pairs)
    (only : ∀ p ∈ pairs, p.1 = key → p.2 = b) : value key pairs = some b := by
  have found : (pairs.find? fun p => p.1 = key).isSome :=
    List.find?_isSome.mpr ⟨(key, b), mem, decide_eq_true rfl⟩
  obtain ⟨p, hp⟩ := Option.isSome_iff_exists.mp found
  have keyed : p.1 = key := by simpa using List.find?_some hp
  rw [value, hp, Option.map_some, only p (List.mem_of_find?_eq_some hp) keyed]

/-- **Order and foreign keys do not matter** to pairs with different keys. -/
theorem value_of_perm {key : α} {b : β} {own foreign pairs : List (α × β)}
    (perm : pairs.Perm (own ++ foreign)) (nodup : (own.map Prod.fst).Nodup)
    (others : ∀ p ∈ foreign, p.1 ∉ own.map Prod.fst) (mem : (key, b) ∈ own) :
    value key pairs = some b := by
  refine value_of_mem (perm.mem_iff.mpr (List.mem_append_left foreign mem)) ?_
  intro p hp same
  rcases List.mem_append.mp (perm.mem_iff.mp hp) with mine | other
  · exact congrArg Prod.snd (List.inj_on_of_nodup_map nodup mine mem same)
  · exact absurd (same ▸ List.mem_map_of_mem mem) (others p other)

end Pairs
