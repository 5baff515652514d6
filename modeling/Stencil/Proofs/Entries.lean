import Mathlib.Data.List.Forall2
import Mathlib.Data.List.Nodup

/-!
# Lists of Entries

What is found under a key.

Values, texts and copies are kept as lists of entries, and a lookup gives the
first one under a key. Where no key occurs twice, that is any one under the
key, so the order of the entries does not matter.

## Theorems

* `mem_of_lookup`: What is found is an entry.
* `lookup_eq_none_iff_keys`: Nothing is found under what is no key.
* `eraseDups_of_nodup`: Keys of which none occurs twice.
* `lookup_eq_of_perm`: The order does not matter if the keys are distinct.
* `lookup_filter_keys`: Entries under other keys do not matter.
* `lookup_forall₂`, `keys_forall₂`: Related entries are found under the same keys, and
  come in the same order.
-/

namespace Stencil

variable {κ α : Type} [BEq κ] [LawfulBEq κ] {entries entries' : List (κ × α)} {k : κ} {a : α}

/-- What is found is an entry. -/
theorem mem_of_lookup (found : entries.lookup k = some a) : (k, a) ∈ entries := by
  rcases List.lookup_eq_some_iff.mp found with ⟨front, back, split, -⟩
  rw [split]
  exact List.mem_append_right front List.mem_cons_self

/-- Nothing is found under a key if and only if it is not among the keys. -/
theorem lookup_eq_none_iff_keys : entries.lookup k = none ↔ k ∉ entries.map Prod.fst := by
  rw [List.lookup_eq_none_iff]
  constructor
  · rintro none mem
    rcases List.mem_map.mp mem with ⟨e, there, rfl⟩
    exact absurd (none e there) (by simp only [bne_self_eq_false, Bool.false_eq_true,
      not_false_eq_true])
  · intro absent e there
    exact bne_iff_ne.mpr fun same => absent (List.mem_map.mpr ⟨e, there, same.symm⟩)

omit [BEq κ] [LawfulBEq κ] in
/-- Where no key occurs twice, the key of an entry is not among those before it. -/
theorem key_not_mem_of_nodup {before after : List (κ × α)} {e : κ × α}
    (distinct : ((before ++ e :: after).map Prod.fst).Nodup) : e.1 ∉ before.map Prod.fst := by
  rw [List.map_append, List.map_cons] at distinct
  exact fun mem => (List.nodup_append.mp distinct).2.2 e.1 mem e.1 List.mem_cons_self rfl

/-- Keys of which none occurs twice have no repetitions to be left out. -/
theorem eraseDups_of_nodup {keys : List κ} (distinct : keys.Nodup) : keys.eraseDups = keys := by
  induction keys with
  | nil => rfl
  | cons a keys ih =>
      rcases List.nodup_cons.mp distinct with ⟨absent, distinct⟩
      have none : keys.filter (fun b => !b == a) = keys := by
        refine List.filter_eq_self.mpr fun b hb => ?_
        have other : b ≠ a := fun same => absent (same ▸ hb)
        rw [beq_eq_false_iff_ne.mpr other, Bool.not_false]
      rw [List.eraseDups_cons, none, ih distinct]

/-- Where no key occurs twice, every entry is found. -/
theorem lookup_of_mem (distinct : (entries.map Prod.fst).Nodup) (mem : (k, a) ∈ entries) :
    entries.lookup k = some a := by
  cases found : entries.lookup k with
  | none => exact absurd (List.mem_map_of_mem mem) (lookup_eq_none_iff_keys.mp found)
  | some b =>
      have same := List.inj_on_of_nodup_map distinct (mem_of_lookup found) mem rfl
      exact congrArg (fun e => some e.2) same

/-- Where no key occurs twice, the order of the entries does not matter. -/
theorem lookup_eq_of_perm (distinct : (entries.map Prod.fst).Nodup)
    (perm : entries.Perm entries') (k : κ) : entries.lookup k = entries'.lookup k := by
  have distinct' : (entries'.map Prod.fst).Nodup := (perm.map Prod.fst).nodup_iff.mp distinct
  cases found : entries.lookup k with
  | none =>
      have absent := lookup_eq_none_iff_keys.mp found
      rw [(perm.map Prod.fst).mem_iff] at absent
      exact (lookup_eq_none_iff_keys.mpr absent).symm
  | some a => exact (lookup_of_mem distinct' (perm.mem_iff.mp (mem_of_lookup found))).symm

/-- Entries under other keys do not matter. -/
theorem lookup_filter_keys {p : κ → Bool} (kept : p k = true) :
    (entries.filter fun e => p e.1).lookup k = entries.lookup k := by
  induction entries with
  | nil => rfl
  | cons e entries ih =>
      rcases e with ⟨known, b⟩
      rw [List.filter_cons]
      by_cases here : k = known
      · rw [if_pos (here ▸ kept), List.lookup_cons, List.lookup_cons, here, beq_self_eq_true]
      · have other : (k == known) = false := beq_eq_false_iff_ne.mpr here
        split
        · rw [List.lookup_cons, List.lookup_cons, other, ih]
        · rw [List.lookup_cons, other, ih]

/-- Where entries are related in pairs, under the same keys, those that are found
    under a key are related, or nothing is found. -/
theorem lookup_forall₂ {β : Type} {R : κ × α → κ × β → Prop} {related : List (κ × β)}
    (key : ∀ e d, R e d → e.1 = d.1) (pairs : List.Forall₂ R entries related) (k : κ) :
    entries.lookup k = none ∧ related.lookup k = none
      ∨ ∃ a b, entries.lookup k = some a ∧ related.lookup k = some b ∧ R (k, a) (k, b) := by
  induction pairs with
  | nil => exact .inl ⟨rfl, rfl⟩
  | @cons e d _ _ first _ ih =>
      rcases e with ⟨known, a⟩
      rcases d with ⟨known', b⟩
      have same : known = known' := key _ _ first
      subst same
      rw [List.lookup_cons, List.lookup_cons]
      by_cases here : k = known
      · subst here
        rw [beq_self_eq_true]
        exact .inr ⟨a, b, rfl, rfl, first⟩
      · rw [beq_eq_false_iff_ne.mpr here]
        exact ih

omit [BEq κ] [LawfulBEq κ] in
theorem keys_forall₂ {β : Type} {R : κ × α → κ × β → Prop} {related : List (κ × β)}
    (key : ∀ e d, R e d → e.1 = d.1) (pairs : List.Forall₂ R entries related) :
    entries.map Prod.fst = related.map Prod.fst := by
  induction pairs with
  | nil => rfl
  | cons first _ ih => rw [List.map_cons, List.map_cons, ih, key _ _ first]

end Stencil
