import Stencil.Proofs.Overlay
import Stencil.Proofs.Sites

/-!
# Maps as Members

What is left of a map when it is written as JSON.

The entries of a map are set as properties of an object, under their names. Different
keys can have the same name, as a number and its text do. Such entries become one
member, at the place of the first of them and with the value of the last. No other
entry is lost, and none is added. Members whose names are no array indices stay in
order, so a map without such names and without names that coincide is written entry
by entry.

This is so at the top and at any depth, and for all values, as long as those that
remain can be written where they are.

## Main definitions

* `latestEntries`: The entries that remain, by their names.
* `Store.EntryByEntry`: Members that are entries in turn.
* `Store.MapObject`: The members that a map is written as.

## Theorems

* `keys_latestEntries`, `lookup_latestEntries`: Which entries remain.
* `Store.map_members`: How a map is written.
* `Store.map_not_entry_by_entry`: Entries that become one, and entries that change
  places.
-/

namespace Stencil

/-- The entries of a map that remain when they are set one after the other under their
    names. -/
def latestEntries (entries : List (Value × Value)) : List (String × Value) :=
  overlay [] (namedEntries entries)

/-- Whether a name is no array index. -/
def isProperName (name : String) : Bool :=
  (indexOf? name).isNone

section

variable {entries : List (Value × Value)}

/-- Each name remains once, where it came first. -/
theorem keys_latestEntries (entries : List (Value × Value)) :
    (latestEntries entries).map Prod.fst = ((namedEntries entries).map Prod.fst).eraseDups :=
  keys_overlay_nil (namedEntries entries)

/-- Under each name remains what came last. -/
theorem lookup_latestEntries (entries : List (Value × Value)) (name : String) :
    (latestEntries entries).lookup name = (namedEntries entries).reverse.lookup name := by
  rw [latestEntries, lookup_overlay]
  exact Option.or_none

theorem nodup_latestEntries (entries : List (Value × Value)) :
    ((latestEntries entries).map Prod.fst).Nodup :=
  nodup_overlay_nil (namedEntries entries)

/-- Nothing is lost where names are different. -/
theorem latestEntries_of_nodup (distinct : ((namedEntries entries).map Prod.fst).Nodup) :
    latestEntries entries = namedEntries entries :=
  @overlay_of_nodup [] _ distinct

end

namespace Keyed

/-- Names that are no array indices stay in order. -/
theorem proper_ownKeyOrder {α : Type} (pairs : List (String × α)) :
    ((ownKeyOrder pairs).map Prod.fst).filter isProperName
      = (pairs.map Prod.fst).filter isProperName := by
  have indices : ((pairs.filter fun e => (indexOf? e.1).isSome).insertionSort RankLe).filter
      (isProperName ∘ Prod.fst) = [] := by
    refine List.filter_eq_nil_iff.mpr fun e he => ?_
    have index := (List.mem_filter.mp ((List.perm_insertionSort RankLe _).mem_iff.mp he)).2
    rw [Function.comp_apply, isProperName, Option.isNone_eq_false_iff.mpr index]
    exact Bool.false_ne_true
  rw [List.filter_map, List.filter_map, ownKeyOrder, List.filter_append, indices, List.nil_append,
    List.filter_filter]
  simp only [Function.comp_apply, isProperName, Bool.and_self]
  rfl

theorem ownKeyOrder_of_proper {α : Type} {pairs : List (String × α)}
    (proper : ∀ e ∈ pairs, isProperName e.1 = true) : ownKeyOrder pairs = pairs := by
  have indices : pairs.filter (fun e => (indexOf? e.1).isSome) = [] := by
    refine List.filter_eq_nil_iff.mpr fun e he => ?_
    rw [Option.isSome_eq_false_iff.mpr (proper e he)]
    exact Bool.false_ne_true
  rw [ownKeyOrder, indices]
  exact List.filter_eq_self.mpr proper

end Keyed

namespace Store

/-- Members that entries are written as, one for each and in turn. -/
def EntryByEntry (interp : Interpretation) (st : Store) :
    List (String × Value) → List (String × Json) → Prop :=
  List.Forall₂ fun e m => m.1 = e.1 ∧ Site.Writes interp ⟨st, e.1, e.2⟩ (some m.2)

/-- The members that a map is written as. There is one for each name, which stands for the
    last entry of the name; names that are no array indices are in the order in which they
    came first. -/
structure MapObject (interp : Interpretation) (st : Store) (entries : List (Value × Value))
    (members : List (String × Json)) : Prop where
  names : (members.map Prod.fst).Perm ((namedEntries entries).map Prod.fst).eraseDups
  order : (members.map Prod.fst).filter isProperName
    = ((namedEntries entries).map Prod.fst).eraseDups.filter isProperName
  values : ∀ m ∈ members, ∃ v, (namedEntries entries).reverse.lookup m.1 = some v
    ∧ Site.Writes interp ⟨st, m.1, v⟩ (some m.2)
  inTurn : ((namedEntries entries).map Prod.fst).Nodup →
    (∀ e ∈ namedEntries entries, isProperName e.1 = true) →
      st.EntryByEntry interp (namedEntries entries) members

variable {interp : Interpretation} {st : Store} {r : Ref} {entries : List (Value × Value)}
  {integrity : Integrity}

/-- A map contributes the entries that remain, in the order of properties. -/
theorem contribution_map (there : st.get r = .bare (.map entries) integrity)
    (named : ∀ e ∈ entries, e.1.name? ≠ none) (key : String) :
    Site.contribution interp ⟨st, key, .object r⟩
      = .ok (st, .members none
        ((ownKeyOrder (latestEntries entries)).map fun e => (e.1, .data e.2))) := by
  have kind := inherits_of_bare there
  have members : Serializer.mapMembers interp st [] entries
      = .ok ((ownKeyOrder (latestEntries entries)).map Keyed.entry) := by
    rw [mapMembers_eq named, Keyed.ofList_overlay]
    rfl
  rw [Site.contribution, contribution_of_lacks (lacksJson_bare there rfl rfl rfl)]
  simp only [Serializer.strict, Serializer.collection, kind, there, Object.body_bare, members,
    bind, Except.bind, pure, Except.pure, Keyed.texts_entries]
  rfl

/-- Where all of them can be written, there is one allowance for all. -/
theorem exists_allowance {pairs : List (String × Value)}
    (written : ∀ e ∈ pairs, ∃ j, Site.Writes interp ⟨st, e.1, e.2⟩ (some j)) :
    ∃ n, ∀ e ∈ pairs, ∃ j, Site.write interp n [] ⟨st, e.1, e.2⟩ = .ok (some j) := by
  induction pairs with
  | nil => exact ⟨0, nofun⟩
  | cons e pairs ih =>
      rcases written e List.mem_cons_self with ⟨j, m, path, here⟩
      rcases ih fun d hd => written d (List.mem_cons_of_mem e hd) with ⟨n, rest⟩
      refine ⟨max m n, fun d hd => ?_⟩
      rcases List.mem_cons.mp hd with rfl | hd
      · exact ⟨j, Site.write_mono here (Nat.le_max_left m n) (List.nil_subset path)⟩
      · rcases rest d hd with ⟨i, there⟩
        exact ⟨i, Site.write_mono there (Nat.le_max_right m n) (List.nil_subset [])⟩

/-- Where all of them can be written, there is a member for each. -/
theorem exists_members {n : Nat} {pairs : List (String × Value)}
    (written : ∀ e ∈ pairs, ∃ j, Site.write interp n [] ⟨st, e.1, e.2⟩ = .ok (some j)) :
    ∃ members, Store.encodeMembers (Site.writeSlot interp n [] none st)
        (pairs.map fun e => (e.1, .data e.2)) = .ok members
      ∧ st.EntryByEntry interp pairs members := by
  induction pairs with
  | nil => exact ⟨[], rfl, .nil⟩
  | cons e pairs ih =>
      rcases written e List.mem_cons_self with ⟨j, here⟩
      rcases ih fun d hd => written d (List.mem_cons_of_mem e hd) with ⟨members, rest, each⟩
      refine ⟨(e.1, j) :: members, ?_, .cons ⟨rfl, n, [], here⟩ each⟩
      have first : Site.writeSlot interp n [] none st e.1 (.data e.2) = .ok (some j) := here
      rw [List.map_cons, encodeMembers, first, rest]
      rfl

/-- A map is written as its members. -/
theorem write_map (there : st.get r = .bare (.map entries) integrity)
    (named : ∀ e ∈ entries, e.1.name? ≠ none) {n : Nat} {members : List (String × Json)}
    (each : Store.encodeMembers (Site.writeSlot interp n [] none st)
      ((ownKeyOrder (latestEntries entries)).map fun e => (e.1, .data e.2)) = .ok members)
    (key : String) :
    Site.write interp (n + 1) [] ⟨st, key, .object r⟩ = .ok (some (.object members)) := by
  rw [Site.write_succ, contribution_map there named]
  change Content.encode _ _ n [] st (.members none _) = _
  rw [Site.encode_members]
  change Store.encodeMembers _ _ >>= _ = _
  rw [each]
  rfl

/-- Members for the entries that remain, in the order of properties. -/
theorem mapObject {members : List (String × Json)}
    (each : st.EntryByEntry interp (ownKeyOrder (latestEntries entries)) members) :
    st.MapObject interp entries members := by
  have keys : members.map Prod.fst = (ownKeyOrder (latestEntries entries)).map Prod.fst := by
    rw [← List.forall₂_eq_eq_eq, List.forall₂_map_left_iff, List.forall₂_map_right_iff]
    exact (List.Forall₂.flip each).imp fun _ _ h => h.1
  refine ⟨?_, ?_, fun m hm => ?_, fun distinct proper => ?_⟩
  · rw [keys, ← keys_latestEntries]
    exact (Keyed.ownKeyOrder_perm _).map Prod.fst
  · rw [keys, Keyed.proper_ownKeyOrder, keys_latestEntries]
  · have distinct : (members.map Prod.fst).Nodup := by
      rw [keys]
      exact ((Keyed.ownKeyOrder_perm _).map Prod.fst).nodup_iff.mpr (nodup_latestEntries entries)
    have here : members.lookup m.1 = some m.2 := lookup_of_mem distinct hm
    rcases lookup_forall₂ (fun _ _ h => h.1.symm) each m.1 with ⟨-, none⟩ | ⟨v, j, found, same, h⟩
    · rw [here] at none
      cases none
    · rw [here] at same
      cases same
      refine ⟨v, ?_, h.2⟩
      rw [← lookup_latestEntries]
      exact lookup_of_mem (nodup_latestEntries entries)
        ((Keyed.ownKeyOrder_perm _).mem_iff.mp (mem_of_lookup found))
  · rwa [latestEntries_of_nodup distinct, Keyed.ownKeyOrder_of_proper proper] at each

/-- A map whose keys have names is written as an object with its members, at the top and
    wherever else it is written, and the object is contained in the text of whatever the map
    is inside of. By itself the map has a text if there is allowance for one. -/
theorem map_members (interp : Interpretation) (there : st.get r = .bare (.map entries) integrity)
    (named : ∀ e ∈ entries, e.1.name? ≠ none)
    (written : ∀ e ∈ namedEntries entries, ∃ j, Site.Writes interp ⟨st, e.1, e.2⟩ (some j)) :
    ∃ members, st.MapObject interp entries members
      ∧ (∀ key, Site.Writes interp ⟨st, key, .object r⟩ (some (.object members)))
      ∧ (∀ (root : Site) (key text : String), root.key = "" →
        Relation.ReflTransGen (Site.Inside interp) root ⟨st, key, .object r⟩ →
        Serializer.structured interp root.store root.value = .ok text →
          ∃ document, text = String.ofList document.print
            ∧ Relation.ReflTransGen Json.Holds document (.object members))
      ∧ ((∀ e ∈ namedEntries entries, ∃ j,
          Site.write interp (st.depth - 1) [] ⟨st, e.1, e.2⟩ = .ok (some j)) →
        Serializer.serialize interp st (.object r)
          = .ok (.existing (.text (String.ofList (Json.object members).print)))) := by
  have remains : ∀ e ∈ ownKeyOrder (latestEntries entries), e ∈ namedEntries entries := by
    intro e he
    have found := lookup_of_mem (nodup_latestEntries entries)
      ((Keyed.ownKeyOrder_perm _).mem_iff.mp he)
    rw [lookup_latestEntries] at found
    exact List.mem_reverse.mp (mem_of_lookup found)
  rcases exists_allowance written with ⟨n, each⟩
  rcases exists_members fun e he => each e (remains e he) with ⟨members, made, writtenAs⟩
  have here := write_map there named made
  refine ⟨members, mapObject writtenAs, fun key => ⟨_, _, here key⟩, ?_, fun room => ?_⟩
  · intro root key text top inside gives
    rcases ok_of_bind gives with ⟨document, whole, gives⟩
    have whole : root.write interp root.store.depth [] = .ok document := by
      rw [Site.write, top]
      exact whole
    -- The map has a document inside of the root, and there is only one.
    rcases Site.holds_of_inside whole inside with ⟨m, inner, e, again, contained⟩
    rcases contained _ (Site.write_unique (here key) again).symm with ⟨j, rfl, way⟩
    cases gives
    exact ⟨j, rfl, way⟩
  · rcases exists_members fun e he => room e (remains e he) with ⟨members', made', -⟩
    have whole := write_map there named made' ""
    have enough : st.depth - 1 + 1 = st.depth := by
      have := Site.depth_pos st
      omega
    rw [enough] at whole
    have same := Site.write_unique (here "") whole
    cases same
    rw [serialize_structure (.map there), Serializer.structured]
    change (((Site.write interp st.depth [] ⟨st, "", .object r⟩) >>= _).map _) = _
    rw [whole]
    rfl

section

/-- A map with a key and its text, a map with an index behind another name, and a map that
    holds the first one, in an array. -/
private def labels : Store :=
  ⟨Store.initial.objects ++ #[
    Object.ofBody (.map [(.boolean true, .text "a"), (.text "true", .text "b")]),
    Object.ofBody (.map [(.text "b", .text "x"), (.text "1", .text "y")]),
    Object.ofBody (.map [(.text "z", .text "y"), (.boolean true, .object ⟨2⟩)]),
    Object.ofBody (.array [some (.object ⟨4⟩)])]⟩

private theorem labels_writes (key : String) : Site.Writes .standard ⟨labels, key, .object ⟨2⟩⟩
    (some (.object [("true", .text "b")])) :=
  ⟨2, [], rfl⟩

/-- A map that holds a map, by itself and in an array. -/
theorem map_members_of_labels :
    let interp := Interpretation.standard
    let entries : List (Value × Value) := [(.text "z", .text "y"), (.boolean true, .object ⟨2⟩)]
    let text := "\x7b\"z\":\"y\",\"true\":\x7b\"true\":\"b\"\x7d\x7d"
    ∃ members, labels.MapObject interp entries members
      ∧ text = String.ofList (Json.object members).print
      ∧ Serializer.serialize interp labels (.object ⟨4⟩) = .ok (.existing (.text text))
      ∧ ∃ document, "[" ++ text ++ "]" = String.ofList document.print
        ∧ Relation.ReflTransGen Json.Holds document (.object members) := by
  intro interp entries text
  have each : ∀ e ∈ namedEntries entries, ∃ j,
      Site.write interp (labels.depth - 1) [] ⟨labels, e.1, e.2⟩ = .ok (some j) := by
    intro e mem
    rcases List.mem_cons.mp mem with rfl | mem
    · exact ⟨_, rfl⟩
    · rcases List.mem_singleton.mp mem with rfl
      exact ⟨_, rfl⟩
  have there : labels.get ⟨4⟩ = .bare (.map entries) {} := rfl
  rcases map_members interp there (by decide) fun e mem =>
    (each e mem).imp fun j here => ⟨_, _, here⟩ with ⟨members, object, -, nested, alone⟩
  have here : Serializer.serialize interp labels (.object ⟨4⟩) = .ok (.existing (.text text)) := by
    decide +kernel
  have same := (alone each).symm.trans here
  have inside : Site.Inside interp ⟨labels, "", .object ⟨5⟩⟩ ⟨labels, indexName 0, .object ⟨4⟩⟩ :=
    have offers : Site.contribution interp ⟨labels, "", .object ⟨5⟩⟩
        = .ok (labels, .items (some ⟨5⟩) [.object ⟨4⟩]) := rfl
    .item offers rfl
  have whole : Serializer.structured interp labels (.object ⟨5⟩) = .ok ("[" ++ text ++ "]") := by
    decide +kernel
  exact ⟨members, object, (Value.text.inj (Answer.existing.inj (Except.ok.inj same))).symm, here,
    nested ⟨labels, "", .object ⟨5⟩⟩ _ _ rfl (.single inside) whole⟩

/-- Two entries with one name become one member, and an index goes in front. So in neither
    case is a map written entry by entry. -/
theorem map_not_entry_by_entry :
    let written (r : Ref) := Serializer.serialize .standard labels (.object r)
    let faithful (r : Ref) (entries : List (Value × Value)) := ∃ members,
      Site.Writes .standard ⟨labels, "", .object r⟩ (some (.object members))
        ∧ labels.EntryByEntry .standard (namedEntries entries) members
    (written ⟨2⟩ = .ok (.existing (.text "\x7b\"true\":\"b\"\x7d"))
        ∧ ¬ faithful ⟨2⟩ [(.boolean true, .text "a"), (.text "true", .text "b")])
      ∧ written ⟨3⟩ = .ok (.existing (.text "\x7b\"1\":\"y\",\"b\":\"x\"\x7d"))
        ∧ ¬ faithful ⟨3⟩ [(.text "b", .text "x"), (.text "1", .text "y")] := by
  intro written faithful
  refine ⟨⟨by decide +kernel, ?_⟩, by decide +kernel, ?_⟩
  · rintro ⟨members, ⟨n, path, gives⟩, each⟩
    rcases labels_writes "" with ⟨m, inner, same⟩
    cases Site.write_unique gives same
    cases each with
    | cons _ rest => cases rest
  · rintro ⟨members, ⟨n, path, gives⟩, each⟩
    have same : Site.write .standard 2 [] ⟨labels, "", .object ⟨3⟩⟩
      = .ok (some (.object [("1", .text "y"), ("b", .text "x")])) := rfl
    cases Site.write_unique gives same
    cases each with
    | cons first _ => exact absurd first.1 (by decide)

end

end Store

end Stencil
