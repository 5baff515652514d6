import Stencil.Proofs.CarriedDefaults
import Stencil.Proofs.KeyOrder

/-!
# Entries on Top of Entries

What is there after entries were set one after the other, some of them again.

Defaults that are given in turn and entries of a map that are written under names
have this in common: an entry under a known key changes what is there and keeps its
place, and any other goes to the end. So the keys come in the order in which each of
them came first, and under each of them is what came last.

Properties are not kept like that, as those that are indices go in front and are
sorted. But they are set in the same way, so that what comes out are the same entries
in the order of properties.

## Main definitions

* `overlay`: Entries after more entries were set.

## Theorems

* `lookup_overlay`, `keys_overlay`: What is there, and in which order.
* `overlay_of_nodup`: Nothing is lost where keys are different.
* `Keyed.ofList_overlay`: Names that are set as keys of properties.
-/

namespace Stencil

/-- Entries after more entries were set one after the other; a known key keeps its
    place. -/
def overlay (known entries : List (String × Value)) : List (String × Value) :=
  entries.foldl (fun known e => setDefaultValue e.1 e.2 known) known

variable {known entries pairs : List (String × Value)} {e : String × Value}

theorem overlay_append (known entries more : List (String × Value)) :
    overlay known (entries ++ more) = overlay (overlay known entries) more :=
  List.foldl_append

/-- What is found is what came last. -/
theorem lookup_overlay (known entries : List (String × Value)) (name : String) :
    (overlay known entries).lookup name = (entries.reverse.lookup name).or (known.lookup name) := by
  induction entries using List.reverseRecOn with
  | nil => rfl
  | append_singleton entries e ih =>
      rw [overlay_append, List.reverse_append, List.reverse_singleton, List.singleton_append]
      change (setDefaultValue e.1 e.2 (overlay known entries)).lookup name = _
      rw [Template.lookup_setDefaultValue, List.lookup_cons, ih]
      by_cases here : name = e.1
      · rw [if_pos here, here, beq_self_eq_true]
        rfl
      · rw [if_neg here, beq_eq_false_iff_ne.mpr here]

theorem nodup_overlay (distinct : (known.map Prod.fst).Nodup) (entries : List (String × Value)) :
    ((overlay known entries).map Prod.fst).Nodup := by
  induction entries generalizing known with
  | nil => exact distinct
  | cons e entries ih => exact ih (Template.nodup_setDefaultValue e.1 e.2 distinct)

/-- The keys come in the order in which each of them came first. -/
theorem keys_overlay (distinct : (known.map Prod.fst).Nodup) (entries : List (String × Value)) :
    (overlay known entries).map Prod.fst
      = (known.map Prod.fst ++ entries.map Prod.fst).eraseDups := by
  induction entries generalizing known with
  | nil =>
      rw [List.map_nil, List.append_nil]
      exact (eraseDups_of_nodup distinct).symm
  | cons e entries ih =>
      change (overlay (setDefaultValue e.1 e.2 known) entries).map Prod.fst = _
      rw [ih (Template.nodup_setDefaultValue e.1 e.2 distinct), List.map_cons]
      -- A known key is dropped from the keys that come, and a new one is the last that is there.
      by_cases there : e.1 ∈ known.map Prod.fst
      · rw [Store.keys_setDefaultValue_known there, List.eraseDups_append, List.eraseDups_append,
          List.removeAll, List.removeAll, List.filter_cons_of_neg]
        rw [List.elem_iff.mpr there]
        decide
      · rw [Store.setDefaultValue_new there, List.map_append, List.append_assoc]
        rfl

theorem nodup_overlay_nil (entries : List (String × Value)) :
    ((overlay [] entries).map Prod.fst).Nodup :=
  nodup_overlay (by exact List.nodup_nil) entries

theorem keys_overlay_nil (entries : List (String × Value)) :
    (overlay [] entries).map Prod.fst = (entries.map Prod.fst).eraseDups :=
  keys_overlay (by exact List.nodup_nil) entries

theorem overlay_of_nodup (distinct : ((known ++ entries).map Prod.fst).Nodup) :
    overlay known entries = known ++ entries := by
  induction entries generalizing known with
  | nil => rw [List.append_nil]; rfl
  | cons e entries ih =>
      have new : e.1 ∉ known.map Prod.fst := key_not_mem_of_nodup distinct
      change overlay (setDefaultValue e.1 e.2 known) entries = _
      have regrouped : known ++ e :: entries = known ++ [e] ++ entries := by
        rw [List.append_assoc, List.singleton_append]
      rw [Store.setDefaultValue_new new, regrouped]
      exact ih (regrouped ▸ distinct)

namespace Keyed

/-- Changing values and keeping names can change places with sorting. -/
theorem ownKeyOrder_mapValues {g : String × Value → String × Value} (keeps : ∀ e, (g e).1 = e.1)
    (pairs : List (String × Value)) :
    ownKeyOrder (pairs.map g) = (ownKeyOrder pairs).map g := by
  have sorted : ∀ indices : List (String × Value),
      (indices.insertionSort RankLe).map g = (indices.map g).insertionSort RankLe := by
    intro indices
    refine List.map_insertionSort _ _ _ indices fun c _ d _ => ?_
    rw [RankLe, RankLe, indexRank, indexRank, indexRank, indexRank, keeps, keeps]
  rw [ownKeyOrder, ownKeyOrder, List.map_append, sorted, List.filter_map, List.filter_map]
  simp only [Function.comp_def, keeps]

/-- A known key has its value changed. -/
theorem setDefaultValue_known {key : String} {v : Value} (there : key ∈ known.map Prod.fst)
    (distinct : (known.map Prod.fst).Nodup) :
    setDefaultValue key v known = known.map fun e => if e.1 = key then (e.1, v) else e := by
  induction known with
  | nil => cases there
  | cons d known ih =>
      rcases List.nodup_cons.mp distinct with ⟨absent, distinct⟩
      rw [setDefaultValue, List.map_cons]
      by_cases here : d.1 = key
      · have rest : known.map (fun e => if e.1 = key then (e.1, v) else e) = known := by
          refine (List.map_congr_left fun c hc => if_neg fun same => absent ?_).trans
            (List.map_id known)
          rw [here, ← same]
          exact List.mem_map_of_mem hc
        rw [if_pos here, if_pos here, rest]
      · have rest := (List.mem_cons.mp there).resolve_left (Ne.symm here)
        rw [if_neg here, if_neg here, ih rest distinct]

/-- Names that are set as keys are the entries that are there in the end, in the order of
    properties. -/
theorem ofList_overlay (pairs : List (String × Value)) :
    Keyed.ofList (pairs.map entry) = (ownKeyOrder (overlay [] pairs)).map entry := by
  induction pairs using List.reverseRecOn with
  | nil => rfl
  | append_singleton pairs e ih =>
      have distinct := nodup_overlay_nil pairs
      have last : Keyed.ofList ((pairs ++ [e]).map entry)
          = Keyed.set (.text e.1) e.2 (Keyed.ofList (pairs.map entry)) := by
        rw [Keyed.ofList, List.map_append, List.foldl_append]
        rfl
      rw [last, ih, overlay_append]
      change _ = (ownKeyOrder (setDefaultValue e.1 e.2 (overlay [] pairs))).map entry
      -- Of the entries that are there it only matters that their names are different.
      generalize overlay [] pairs = there at distinct
      by_cases known : e.1 ∈ there.map Prod.fst
      · rcases List.mem_map.mp known with ⟨d, hd, same⟩
        have found : Keyed.get? ((ownKeyOrder there).map entry) (.text e.1) ≠ none := by
          rw [Keyed.get?, Ne, lookup_eq_none_iff_keys, not_not, List.map_map]
          refine List.mem_map.mpr ⟨d, (ownKeyOrder_perm there).mem_iff.mpr hd, ?_⟩
          exact congrArg Key.text same
        rcases Option.ne_none_iff_exists'.mp found with ⟨old, found⟩
        rw [Keyed.set, found, setDefaultValue_known known distinct, ownKeyOrder_mapValues]
        · change Keyed.replace _ _ _ = _
          rw [Keyed.replace, List.map_map, List.map_map]
          refine List.map_congr_left fun c _ => ?_
          by_cases here : c.1 = e.1
          · simp only [Function.comp_apply, entry, here, if_true]
          · have other : Key.text c.1 ≠ .text e.1 := fun same => here (Key.text.inj same)
            simp only [Function.comp_apply, entry, here, other, if_false]
        · intro c
          split <;> rfl
      · have both : ((there ++ [e]).map Prod.fst).Nodup := by
          rw [List.map_append]
          refine List.nodup_append.mpr ⟨distinct, List.nodup_singleton _, fun k hk l hl same => ?_⟩
          rw [same, List.mem_singleton.mp hl] at hk
          exact known hk
        rw [Store.setDefaultValue_new known, ← Keyed.ofList_eq both, ← Keyed.ofList_eq distinct,
          Keyed.ofList, Keyed.ofList, List.map_append, List.foldl_append]
        rfl

end Keyed

end Stencil
