import Mathlib.Data.List.Sort
import Stencil.Proofs.Digits
import Stencil.Proofs.Entries

/-!
# The Order of Properties

Where keys that are set one after the other end up.

A new key is put in front of the first known one that it precedes. So the keys
that are indices are always sorted, in front of all others, and the others stay in
the order in which they came. `ownKeyOrder` says that without saying how keys are
put in: a text is the canonical form of one index at most, so different names are
different indices, and there is only one way to sort them.

## Main definitions

* `RankLe`: Names in the order of their indices.
* `ownKeyOrder`: Pairs in the order of properties.

## Theorems

* `Keyed.ofList_eq`: Keys that are set in turn are in that order.
* `Keyed.ownKeyOrder_perm`: Nothing is lost or added by that.
-/

namespace Stencil

variable {α : Type}

/-- The index that a name is, if it is one. -/
def indexRank (e : String × α) : Nat :=
  (indexOf? e.1).getD 0

/-- Names in the order of their indices. -/
def RankLe (d e : String × α) : Prop :=
  indexRank d ≤ indexRank e

instance : DecidableRel (RankLe (α := α)) :=
  fun d e => inferInstanceAs (Decidable (indexRank d ≤ indexRank e))

instance : Std.Total (RankLe (α := α)) :=
  ⟨fun d e => Nat.le_total (indexRank d) (indexRank e)⟩

instance : IsTrans (String × α) RankLe :=
  ⟨fun _ _ _ => Nat.le_trans⟩

/-- Pairs in the order of properties: first the names that are array indices,
    ascending, and then all others as they come. -/
def ownKeyOrder (pairs : List (String × α)) : List (String × α) :=
  (pairs.filter fun e => (indexOf? e.1).isSome).insertionSort RankLe
    ++ pairs.filter fun e => (indexOf? e.1).isNone

namespace Keyed

/-- A pair whose name is a key. -/
def entry (e : String × α) : Key × α :=
  (.text e.1, e.2)

variable {pairs ranked others : List (String × α)} {e : String × α}

theorem texts_entries (pairs : List (String × α)) : Keyed.texts (pairs.map entry) = pairs := by
  induction pairs with
  | nil => rfl
  | cons e pairs ih =>
      rw [List.map_cons]
      exact congrArg (e :: ·) ih

/-- Among texts, only an index precedes another key: a greater index, or what is
    none. -/
theorem precedes_text (s t : String) : (Key.text s).precedes (.text t)
    = match indexOf? s, indexOf? t with
      | some i, some j => decide (i < j)
      | some _, none => true
      | none, _ => false := by
  simp only [Key.precedes, Key.index?]
  cases indexOf? s <;> cases indexOf? t <;> rfl

/-- A name that is no index goes behind all others. -/
theorem insert_other (other : indexOf? e.1 = none) (known : List (String × α)) :
    Keyed.insert (.text e.1) e.2 (known.map entry) = (known ++ [e]).map entry := by
  induction known with
  | nil => rfl
  | cons d known ih =>
      have behind : (Key.text e.1).precedes (.text d.1) = false := by
        rw [precedes_text, other]
      rw [List.map_cons, entry, Keyed.insert, behind]
      simp only [Bool.false_eq_true, if_false, ih, List.cons_append, List.map_cons, entry]

/-- A name that is an index goes among the indices, which remain sorted. -/
theorem insert_ranked {i : Nat} (index : indexOf? e.1 = some i)
    (indices : ∀ d ∈ ranked, (indexOf? d.1).isSome = true) (new : ∀ d ∈ ranked, indexRank d ≠ i)
    (sorted : ranked.Pairwise fun c d => indexRank c < indexRank d)
    (rest : ∀ d ∈ others, indexOf? d.1 = none) :
    ∃ ranked', Keyed.insert (.text e.1) e.2 ((ranked ++ others).map entry)
        = (ranked' ++ others).map entry
      ∧ ranked'.Perm (e :: ranked)
      ∧ ranked'.Pairwise fun c d => indexRank c < indexRank d := by
  have rank : indexRank e = i := by rw [indexRank, index, Option.getD_some]
  -- By induction on the indices: the new one comes before the first of them, or behind it.
  induction ranked with
  | nil =>
      refine ⟨[e], ?_, .refl _, List.pairwise_singleton _ _⟩
      cases others with
      | nil => rfl
      | cons d others =>
          have before : (Key.text e.1).precedes (.text d.1) = true := by
            rw [precedes_text, index, rest d List.mem_cons_self]
          rw [List.nil_append, List.map_cons, entry, Keyed.insert, before, if_pos rfl]
          rfl
  | cons d ranked ih =>
      rcases Option.isSome_iff_exists.mp (indices d List.mem_cons_self) with ⟨j, other⟩
      have rank' : indexRank d = j := by rw [indexRank, other, Option.getD_some]
      have order : (Key.text e.1).precedes (.text d.1) = decide (i < j) := by
        rw [precedes_text, index, other]
      rcases List.pairwise_cons.mp sorted with ⟨first, sorted⟩
      rw [List.cons_append, List.map_cons, entry, Keyed.insert, order]
      by_cases less : i < j
      · refine ⟨e :: d :: ranked, ?_, .refl _, ?_⟩
        · rw [decide_eq_true less, if_pos rfl]
          rfl
        · refine List.pairwise_cons.mpr ⟨fun c hc => ?_, List.pairwise_cons.mpr ⟨first, sorted⟩⟩
          rw [rank]
          rcases List.mem_cons.mp hc with rfl | hc
          · rw [rank']
            exact less
          · exact Nat.lt_trans (rank' ▸ less) (first c hc)
      · have apart : j ≠ i := rank' ▸ new d List.mem_cons_self
        rcases ih (fun c hc => indices c (List.mem_cons_of_mem d hc))
          (fun c hc => new c (List.mem_cons_of_mem d hc)) sorted with
          ⟨ranked', gives, perm, sorted'⟩
        refine ⟨d :: ranked', ?_, (perm.cons d).trans (.swap e d ranked), ?_⟩
        · rw [decide_eq_false less, if_neg (by decide), gives]
          rfl
        · refine List.pairwise_cons.mpr ⟨fun c hc => ?_, sorted'⟩
          rcases List.mem_cons.mp (perm.subset hc) with rfl | hc
          · rw [rank, rank']
            omega
          · exact first c hc

/-- Names of one rank are the same. -/
theorem eq_of_rank {d : String × α} (index : (indexOf? d.1).isSome = true)
    (index' : (indexOf? e.1).isSome = true) (same : indexRank d = indexRank e) : d.1 = e.1 := by
  rcases Option.isSome_iff_exists.mp index with ⟨i, hi⟩
  rcases Option.isSome_iff_exists.mp index' with ⟨j, hj⟩
  rw [indexRank, indexRank, hi, hj, Option.getD_some, Option.getD_some] at same
  rw [eq_indexName_of_indexOf? hi, eq_indexName_of_indexOf? hj, same]

/-- Setting keys that are not known yet, one after the other. -/
theorem foldl_set (distinct : ((ranked ++ others ++ pairs).map Prod.fst).Nodup)
    (indices : ∀ d ∈ ranked, (indexOf? d.1).isSome = true)
    (sorted : ranked.Pairwise fun c d => indexRank c < indexRank d)
    (rest : ∀ d ∈ others, indexOf? d.1 = none) :
    ∃ ranked', (pairs.map entry).foldl (fun entries e => Keyed.set e.1 e.2 entries)
          ((ranked ++ others).map entry)
        = (ranked' ++ (others ++ pairs.filter fun e => (indexOf? e.1).isNone)).map entry
      ∧ ranked'.Perm (ranked ++ pairs.filter fun e => (indexOf? e.1).isSome)
      ∧ ranked'.Pairwise fun c d => indexRank c < indexRank d := by
  induction pairs generalizing ranked others with
  | nil => exact ⟨ranked, by simp, by simp, sorted⟩
  | cons e pairs ih =>
      -- The key is not among the known ones, so it is put in.
      have unknown : e.1 ∉ (ranked ++ others).map Prod.fst := key_not_mem_of_nodup distinct
      have new : Keyed.get? ((ranked ++ others).map entry) (.text e.1) = none := by
        rw [Keyed.get?]
        refine lookup_eq_none_iff_keys.mpr fun mem => unknown ?_
        rw [List.map_map] at mem
        rcases List.mem_map.mp mem with ⟨d, hd, same⟩
        exact List.mem_map.mpr ⟨d, hd, Key.text.inj same⟩
      rw [List.map_cons, List.foldl_cons]
      change ∃ ranked', List.foldl _ (Keyed.set (.text e.1) e.2 ((ranked ++ others).map entry)) _
        = _ ∧ _
      rw [Keyed.set, new]
      cases index : indexOf? e.1 with
      | none =>
          -- What is no index comes last of all.
          have regrouped : ranked ++ others ++ e :: pairs = ranked ++ (others ++ [e]) ++ pairs := by
            simp only [List.append_assoc, List.singleton_append]
          rw [regrouped] at distinct
          rcases ih distinct indices sorted (by
            intro d hd
            rcases List.mem_append.mp hd with hd | hd
            · exact rest d hd
            · rw [List.mem_singleton.mp hd, index]) with ⟨ranked', gives, perm, sorted'⟩
          refine ⟨ranked', ?_, ?_, sorted'⟩
          · simp only [insert_other index]
            rw [List.append_assoc, gives, List.filter_cons, index]
            simp only [Option.isNone_none, if_true, List.append_assoc, List.singleton_append]
          · rwa [List.filter_cons, index, Option.isSome_none, if_neg (by decide)]
      | some i =>
          -- An index finds its place among the others, none of which has its rank.
          have apart : ∀ d ∈ ranked, indexRank d ≠ i := by
            intro d hd same
            have rank : indexRank e = i := by rw [indexRank, index, Option.getD_some]
            have names := eq_of_rank (indices d hd) (by rw [index]; rfl) (same.trans rank.symm)
            exact unknown (names ▸ List.mem_map_of_mem (List.mem_append_left _ hd))
          rcases insert_ranked index indices apart sorted rest with
            ⟨ranked₁, gives₁, perm₁, sorted₁⟩
          have distinct₁ : ((ranked₁ ++ others ++ pairs).map Prod.fst).Nodup := by
            refine (List.Perm.nodup_iff (List.Perm.map _ ?_)).mpr distinct
            exact ((perm₁.append_right others).append_right pairs).trans List.perm_middle.symm
          rcases ih distinct₁ (by
            intro d hd
            rcases List.mem_cons.mp (perm₁.subset hd) with rfl | hd
            · rw [index]; rfl
            · exact indices d hd) sorted₁ rest with ⟨ranked', gives, perm, sorted'⟩
          refine ⟨ranked', ?_, ?_, sorted'⟩
          · simp only [gives₁]
            rw [gives, List.filter_cons, index]
            simp only [Option.isNone_some, Bool.false_eq_true, if_false]
          · rw [List.filter_cons, index]
            simp only [Option.isSome_some, if_true]
            exact perm.trans ((perm₁.append_right _).trans List.perm_middle.symm)

/-- Keys that are set in turn, none of them twice, are in the order of
    properties. -/
theorem ofList_eq (distinct : (pairs.map Prod.fst).Nodup) :
    Keyed.ofList (pairs.map entry) = (ownKeyOrder pairs).map entry := by
  have start : ∃ ranked' : List (String × α), Keyed.ofList (pairs.map entry)
        = (ranked' ++ ([] ++ pairs.filter fun e : String × α => (indexOf? e.1).isNone)).map entry
      ∧ ranked'.Perm ([] ++ pairs.filter fun e : String × α => (indexOf? e.1).isSome)
      ∧ ranked'.Pairwise fun c d => indexRank c < indexRank d :=
    foldl_set distinct (fun _ mem => absurd mem List.not_mem_nil) .nil
      (fun _ mem => absurd mem List.not_mem_nil)
  rcases start with ⟨ranked', gives, perm, sorted⟩
  rw [List.nil_append] at gives perm
  -- There is only one way to sort the indices, as different names have different ranks.
  have same : ranked' = (pairs.filter fun e => (indexOf? e.1).isSome).insertionSort RankLe := by
    generalize listed : pairs.filter (fun e => (indexOf? e.1).isSome) = indices at perm
    have other := List.perm_insertionSort RankLe indices
    refine List.Perm.eq_of_pairwise ?_ (sorted.imp Nat.le_of_lt)
      (List.pairwise_insertionSort RankLe _) (perm.trans other.symm)
    intro c d hc hd le ge
    have there : c ∈ pairs ∧ (indexOf? c.1).isSome = true :=
      List.mem_filter.mp (listed ▸ perm.subset hc)
    have there' : d ∈ pairs ∧ (indexOf? d.1).isSome = true :=
      List.mem_filter.mp (listed ▸ other.subset hd)
    exact List.inj_on_of_nodup_map distinct there.1 there'.1
      (eq_of_rank there.2 there'.2 (Nat.le_antisymm le ge))
  rw [gives, same, ownKeyOrder]

/-- Nothing is lost or added. -/
theorem ownKeyOrder_perm (pairs : List (String × α)) : (ownKeyOrder pairs).Perm pairs := by
  have halves := List.filter_append_perm (fun e : String × α => (indexOf? e.1).isSome) pairs
  have others : (fun e : String × α => (indexOf? e.1).isNone)
      = fun e => !(indexOf? e.1).isSome := by
    funext e
    cases indexOf? e.1 <;> rfl
  rw [ownKeyOrder, others]
  exact ((List.perm_insertionSort RankLe _).append_right _).trans halves

/-- The order does not depend on what the names stand for. -/
theorem ownKeyOrder_map {β : Type} (f : α → β) (pairs : List (String × α)) :
    ownKeyOrder (pairs.map fun e => (e.1, f e.2))
      = (ownKeyOrder pairs).map fun e => (e.1, f e.2) := by
  have sorted : ∀ indices : List (String × α),
      (indices.insertionSort RankLe).map (fun e => (e.1, f e.2))
        = (indices.map fun e => (e.1, f e.2)).insertionSort RankLe :=
    fun indices => List.map_insertionSort _ _ _ indices fun _ _ _ _ => Iff.rfl
  rw [ownKeyOrder, ownKeyOrder, List.map_append, sorted, List.filter_map, List.filter_map]
  rfl

/-- Numbers come first and ascend, and everything else stays in order. -/
example : ownKeyOrder [("b", 0), ("10", 1), ("__proto__", 2), ("9", 3), ("01", 4)]
    = [("9", 3), ("10", 1), ("b", 0), ("__proto__", 2), ("01", 4)] := by decide

end Keyed

end Stencil
