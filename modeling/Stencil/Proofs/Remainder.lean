import Stencil.Proofs.StoredDefaults

/-!
# What Is Left of a Template

A step of substitution, for templates that are on the way already.

Each step makes a new template: its source is put together and parsed again, and
its defaults are copies of copies. `Template.IsLeft` says what the template after
some steps has to do with the one at the start. Its source is the cut of the old
one with all texts so far filled in, its defaults are those of the old one that
still name a placeholder, and their contents are the same. This is what one step
keeps.

The literals of the source and the texts are free of `$`, so literals that grow
together never form a placeholder. The texts so far matter only as a lookup. And
a default that some step drops is one that no later step would have kept.

## Main definitions

* `Piece`: A value that is put in, with its text.
* `Template.Takes`: An object that supplies pieces.
* `Template.Prepared`: What is asked of a template.
* `Template.usedDefaults`: The defaults that a placeholder can use.
* `Template.IsLeft`: What is left of a template after some steps.

## Theorems

* `Template.Prepared.isLeft`: At the start, everything is left.
* `Template.IsLeft.cut_splice`: The source of the next template.
* `Template.IsLeft.carried`: The defaults of the next template.
* `Template.ensures_substitute_left`: One step.
-/

namespace Stencil

/-- A value that is put in for a key, and its text. -/
structure Piece where
  key : String
  value : Value
  text : String

namespace Piece

/-- What is supplied. -/
def entry (p : Piece) : String × Value :=
  (p.key, p.value)

/-- What is put into the source. -/
def line (p : Piece) : String × String :=
  (p.key, p.text)

theorem keys_entries (pieces : List Piece) :
    (pieces.map entry).map Prod.fst = pieces.map key := by
  rw [List.map_map]
  rfl

theorem keys_lines (pieces : List Piece) : (pieces.map line).map Prod.fst = pieces.map key := by
  rw [List.map_map]
  rfl

end Piece

namespace Template

/-- An object of data supplies pieces: values under declared keys that are no
    templates and whose texts are without a `$`. -/
structure Takes (interp : Interpretation) (st : Store) (t : Template) (values : Value)
    (pieces : List Piece) : Prop where
  holds : st.Holds values
  supplies : st.Supplies values (pieces.map Piece.entry)
  known : ∀ p ∈ pieces, p.key ∈ t.placeholders
  written : ∀ p ∈ pieces, t.Writes interp st p.entry p.line
  clear : ∀ p ∈ pieces, '$' ∉ p.text.toList

/-- A template of the usual variant whose literals are without a `$` and whose
    defaults are data, in a store where what templates write depends on contents
    alone. -/
structure Prepared (interp : Interpretation) (st : Store) (r : Ref) (t : Template) (c : Cut) :
    Prop where
  intact : st.Intact
  byContent : ∀ q u, st.template? q = some u → u.ByContent interp st
  held : st.template? r = some t
  variant : t.variant = .prompt
  cut : c.Of t.source
  free : ∀ l ∈ c.literals, '$' ∉ l
  distinct : (t.defaults.map Prod.fst).Nodup
  data : ∀ e ∈ t.defaults, st.IsData e.2 ∧ e.2 ≠ .undefined

/-- The defaults for the names of a cut. -/
def defaultsFor (c : Cut) (defaults : List (String × Value)) : List (String × Value) :=
  defaults.filter fun e => e.1 ∈ c.names

/-- The defaults that a placeholder can use. -/
def usedDefaults (t : Template) : List (String × Value) :=
  t.defaults.filter fun e => e.1 ∈ t.placeholders

/-- What is left of a template once texts were put into its source: a template in
    a later store, with the contents of some of the defaults, among them all that
    name a placeholder. -/
structure IsLeft (base : Store) (t : Template) (c : Cut) (texts : List (String × String))
    (defaults : List (String × Value)) (st : Store) (r : Ref) (u : Template) : Prop where
  intact : st.Intact
  grown : base.Extends st
  held : st.template? r = some u
  variant : u.variant = .prompt
  settings : u.settings = t.settings
  clear : ∀ x ∈ texts, '$' ∉ x.2.toList
  cut : (c.subst (texts.lookup ·)).Of u.source
  sublist : defaults.Sublist t.defaults
  complete : defaultsFor (c.subst (texts.lookup ·)) defaults
    = defaultsFor (c.subst (texts.lookup ·)) t.defaults
  same : List.Forall₂ (Store.SameEntry base st) defaults u.defaults

variable {interp : Interpretation} {base st : Store} {t u : Template} {c : Cut} {q r : Ref}
  {texts : List (String × String)} {defaults : List (String × Value)}

/-- At the start, everything is left. -/
theorem Prepared.isLeft (prepared : Prepared interp base r t c) :
    IsLeft base t c [] t.defaults base r t where
  intact := prepared.intact
  grown := .refl base
  held := prepared.held
  variant := prepared.variant
  settings := rfl
  clear := fun _ mem => absurd mem List.not_mem_nil
  cut := by
    change (c.subst fun _ => none).Of t.source
    rw [Cut.subst_none]
    exact prepared.cut
  sublist := .refl _
  complete := rfl
  same := by
    have held : ∀ e ∈ t.defaults, base.Holds e.2 := fun e he =>
      prepared.intact.closed.default prepared.held he
    refine List.forall₂_same.mpr fun e he => ⟨rfl, ?_⟩
    exact .of_extends prepared.intact.closed (held e he) (.refl base)

/-! ### One step -/

/-- Entries with the contents of data are data. -/
theorem data_of_same {entries entries' : List (String × Value)}
    (data : ∀ e ∈ entries, base.IsData e.2 ∧ e.2 ≠ .undefined)
    (same : List.Forall₂ (Store.SameEntry base st) entries entries') :
    ∀ e ∈ entries', st.IsData e.2 ∧ e.2 ≠ .undefined := by
  induction same with
  | nil => exact fun _ mem => absurd mem List.not_mem_nil
  | @cons d d' _ _ first _ ih =>
      intro e mem
      rcases List.mem_cons.mp mem with rfl | mem
      · rcases data d List.mem_cons_self with ⟨isData, given⟩
        refine ⟨isData.of_alike first.content, fun undefined => given ?_⟩
        rcases first.content with ⟨f, S, -, -, renamed⟩
        exact (Value.rename_eq_iff rfl).mp (renamed.symm.trans undefined)
      · exact ih (fun d hd => data d (List.mem_cons_of_mem _ hd)) e mem

theorem same_trans {st' : Store} {first second third : List (String × Value)}
    (same : List.Forall₂ (Store.SameEntry base st) first second)
    (same' : List.Forall₂ (Store.SameEntry st st') second third) :
    List.Forall₂ (Store.SameEntry base st') first third := by
  induction same generalizing third with
  | nil =>
      cases same'
      exact .nil
  | cons one _ ih =>
      cases same' with
      | cons two rest => exact .cons (one.trans two) (ih rest)

/-- The texts for names of both kinds are found one after the other. -/
theorem subst_append (c : Cut) (texts more : List (String × String)) :
    (c.subst (texts.lookup ·)).subst (more.lookup ·) = c.subst ((texts ++ more).lookup ·) := by
  rw [Cut.subst_subst]
  refine congrArg c.subst (funext fun n => ?_)
  rw [List.lookup_append]

/-- Fewer names have fewer defaults. -/
theorem defaultsFor_defaultsFor {c d : Cut} (names : c.names ⊆ d.names)
    (defaults : List (String × Value)) :
    defaultsFor c (defaultsFor d defaults) = defaultsFor c defaults := by
  rw [defaultsFor, defaultsFor, List.filter_filter]
  refine List.filter_congr fun e _ => ?_
  rw [Bool.and_eq_left_iff_imp, decide_eq_true_iff, decide_eq_true_iff]
  exact fun mem => names mem

theorem names_subst_append_subset (c : Cut) (texts more : List (String × String)) :
    (c.subst ((texts ++ more).lookup ·)).names ⊆ (c.subst (texts.lookup ·)).names := by
  intro n hn
  rw [mem_names_subst_lookup, List.map_append] at hn
  exact mem_names_subst_lookup.mpr ⟨hn.1, fun mem => hn.2 (List.mem_append_left _ mem)⟩

/-- The used defaults are those for the names of the cut. -/
theorem usedDefaults_eq (cut : c.Of t.source) : t.usedDefaults = defaultsFor c t.defaults := by
  refine List.filter_congr fun e _ => decide_eq_decide.mpr ?_
  rw [placeholders_eq cut, List.mem_eraseDups]

namespace IsLeft

/-- What is left writes the same. -/
theorem serialize_eq (left : IsLeft base t c texts defaults st r u)
    (prepared : Prepared interp base q t c) (st' : Store) (v : Value) :
    u.serialize interp st' v = t.serialize interp st' v :=
  serialize_congr (left.variant.trans prepared.variant.symm)
    (congrArg Settings.serializer left.settings) st' v

/-- What is left has the names without a text. -/
theorem mem_placeholders (left : IsLeft base t c texts defaults st r u)
    (prepared : Prepared interp base q t c) {n : String} :
    n ∈ u.placeholders ↔ n ∈ t.placeholders ∧ n ∉ texts.map Prod.fst := by
  rw [placeholders_eq left.cut, placeholders_eq prepared.cut, List.mem_eraseDups,
    List.mem_eraseDups, mem_names_subst_lookup]

/-- What is left finishes the same. -/
theorem finish_eq (left : IsLeft base t c texts defaults st r u) : u.finish = t.finish :=
  finish_congr (congrArg Settings.dedent left.settings)

/-- The used defaults are the same. -/
theorem used (left : IsLeft base t c texts defaults st r u) :
    List.Forall₂ (Store.SameEntry base st) (defaultsFor (c.subst (texts.lookup ·)) t.defaults)
      u.usedDefaults := by
  rw [usedDefaults_eq left.cut, ← left.complete]
  refine List.rel_filter (fun e e' same => ?_) left.same
  beta_reduce
  rw [same.key]

/-- After a step, all defaults are used. -/
theorem usedDefaults_eq_defaults
    (left : IsLeft base t c texts (defaultsFor (c.subst (texts.lookup ·)) t.defaults) st r u) :
    u.usedDefaults = u.defaults := by
  rw [usedDefaults_eq left.cut]
  refine List.filter_eq_self.mpr fun e he => ?_
  have mem : e.1 ∈ u.defaults.map Prod.fst := List.mem_map_of_mem he
  rw [← Store.keys_eq_of_same left.same] at mem
  rcases List.mem_map.mp mem with ⟨d, hd, same⟩
  exact same ▸ (List.mem_filter.mp hd).2

section

variable {values : Value} {pieces : List Piece}

/-- Pieces are written the same by what is left. -/
theorem written (left : IsLeft base t c texts defaults st r u)
    (prepared : Prepared interp base q t c) (takes : t.Takes interp base values pieces) :
    List.Forall₂ (u.Writes interp st) (pieces.map Piece.entry) (pieces.map Piece.line) := by
  have inside := prepared.intact.closed.supplied takes.supplies
  refine List.forall₂_map_left_iff.mpr (List.forall₂_map_right_iff.mpr ?_)
  refine List.forall₂_same.mpr fun p hp => ⟨rfl, ?_, ?_⟩
  · -- What is no template at the start is none later.
    rw [left.grown.templateRef?_eq prepared.intact.closed (inside _ (List.mem_map_of_mem hp))]
    exact (takes.written p hp).simple
  · have alike := Store.Alike.of_extends prepared.intact.closed
      (inside _ (List.mem_map_of_mem hp)) left.grown
    rw [left.serialize_eq prepared]
    exact (prepared.byContent q t prepared.held left.grown alike p.text).mp
      (takes.written p hp).text

theorem clear_append (left : IsLeft base t c texts defaults st r u)
    (takes : t.Takes interp base values pieces) :
    ∀ x ∈ texts ++ pieces.map Piece.line, '$' ∉ x.2.toList := by
  intro x hx
  rcases List.mem_append.mp hx with before | now
  · exact left.clear x before
  · rcases List.mem_map.mp now with ⟨p, hp, rfl⟩
    exact takes.clear p hp

/-- The source with more texts has the cut with more texts. -/
theorem cut_splice (left : IsLeft base t c texts defaults st r u)
    (prepared : Prepared interp base q t c) (takes : t.Takes interp base values pieces) :
    (c.subst ((texts ++ pieces.map Piece.line).lookup ·)).Of
      (u.splice (pieces.map Piece.line)) := by
  have free := Cut.free_subst prepared.free
    fun n _ s (found : (texts ++ pieces.map Piece.line).lookup n = some s) =>
      left.clear_append takes (n, s) (mem_of_lookup found)
  -- Filling a cut gives a source of the cut with the texts in, as no literal that grows
  -- together has a `$`.
  rw [splice_eq_fill_cut left.cut, ← subst_append]
  refine left.cut.subst fun l hl => bare_of_free (free l ?_)
  rw [← subst_append]
  exact hl

/-- The defaults that are passed on are those for the names that are left. -/
theorem carried (left : IsLeft base t c texts defaults st r u)
    {w : Template} (hw : (c.subst ((texts ++ pieces.map Piece.line).lookup ·)).Of w.source) :
    List.Forall₂ (Store.SameEntry base st)
      (defaultsFor (c.subst ((texts ++ pieces.map Piece.line).lookup ·)) defaults)
      (u.carriedOwn w.placeholders ((pieces.map Piece.entry).map Prod.fst)) := by
  refine List.rel_filter (fun e e' same => ?_) left.same
  change decide (e.1 ∈ _) = true ↔ (w.placeholders.contains e'.1 && !List.contains _ e'.1) = true
  have absent : e.1 ∈ (c.subst ((texts ++ pieces.map Piece.line).lookup ·)).names →
      e.1 ∉ pieces.map Piece.key := by
    intro mem
    rw [mem_names_subst_lookup, List.map_append, Piece.keys_lines] at mem
    exact fun now => mem.2 (List.mem_append_right _ now)
  rw [← same.key, placeholders_eq hw, Piece.keys_entries]
  -- A name that is left has no text, so the second condition adds nothing to the first.
  simp only [List.contains_eq_mem, List.mem_eraseDups, decide_eq_true_eq, Bool.and_eq_true,
    Bool.not_eq_true', decide_eq_false_iff_not]
  exact ⟨fun h => ⟨h, absent h⟩, fun h => h.1⟩

end

/-- With the defaults that are passed on, the new template is what is left. -/
theorem ensures_storeAll (left : IsLeft base t c texts defaults st r u)
    (prepared : Prepared interp base q t c) {values : Value} {pieces : List Piece}
    (takes : t.Takes interp base values pieces) {w : Template}
    (derived : w.IsDerived u (u.splice (pieces.map Piece.line))) :
    (storeAll interp (copy interp) st.next
      (u.carriedOwn w.placeholders ((pieces.map Piece.entry).map Prod.fst))).Ensures False
      (st.push (Object.ofBody (.template w))) fun _ st' => st.Extends st' ∧ ∃ w,
        IsLeft base t c (texts ++ pieces.map Piece.line)
          (defaultsFor (c.subst ((texts ++ pieces.map Piece.line).lookup ·)) t.defaults)
          st' st.next w := by
  have hw : (c.subst ((texts ++ pieces.map Piece.line).lookup ·)).Of w.source :=
    derived.source_eq ▸ left.cut_splice prepared takes
  have settings : w.settings = u.settings := by
    rw [derived.settings, derivedSettings, left.variant]
  -- What the defaults of all steps lose by now does not depend on what they lost before.
  have carried := left.carried hw
  have fewer := names_subst_append_subset c texts (pieces.map Piece.line)
  rw [← defaultsFor_defaultsFor fewer, left.complete, defaultsFor_defaultsFor fewer] at carried
  have data := data_of_same (fun e he => prepared.data e (List.mem_filter.mp he).1) carried
  have distinct : ((u.carriedOwn w.placeholders
      ((pieces.map Piece.entry).map Prod.fst)).map Prod.fst).Nodup := by
    rw [← Store.keys_eq_of_same carried]
    exact prepared.distinct.sublist (List.filter_sublist.map Prod.fst)
  have fresh := Store.given_push st left.intact (inside_of_derived left.intact left.held derived)
    derived.defaults
  have copies : ∀ e ∈ u.carriedOwn w.placeholders ((pieces.map Piece.entry).map Prod.fst),
      CopiesAs interp (copy interp) st e.2 ∧ e.2 ≠ .undefined := fun e he =>
    ⟨copiesAs_data (data e he).1, (data e he).2⟩
  refine Action.ensures_mono (ensures_storeAll_stored copies (.refl st) distinct fresh) ?_
  rintro _ st' given
  rcases given.held with ⟨ds, made, mirrors⟩
  have same := Store.sameEntry_of_mirrors (fun e he => (data e he).1) mirrors
  refine ⟨given.grown, _, given.intact, left.grown.trans given.grown, Store.template?_of_get made,
    ?_, settings.trans left.settings, left.clear_append takes, hw, List.filter_sublist,
    defaultsFor_defaultsFor (List.Subset.refl _) _, same_trans carried same⟩
  change w.variant = .prompt
  rw [derived.variant, derivedVariant, left.variant]

end IsLeft

/-- A step leaves a template whose source has the texts of all steps, with the
    contents of the defaults that still name a placeholder. -/
theorem ensures_substitute_left (what : String) (prepared : Prepared interp base q t c)
    (left : IsLeft base t c texts defaults st r u) {values : Value} {pieces : List Piece}
    (takes : t.Takes interp base values pieces)
    (new : ∀ p ∈ pieces, p.key ∉ texts.map Prod.fst) :
    (substitute interp what r values).Ensures False st fun v st' => v = .object st.next ∧ ∃ w,
      IsLeft base t c (texts ++ pieces.map Piece.line)
        (defaultsFor (c.subst ((texts ++ pieces.map Piece.line).lookup ·)) t.defaults)
        st' st.next w := by
  -- The pieces are seen from the start; what is left of the template is in a later
  -- store.
  have supplies := takes.supplies.extends takes.holds left.grown
  have known : ∀ e ∈ pieces.map Piece.entry, e.1 ∈ u.placeholders := by
    intro e he
    rcases List.mem_map.mp he with ⟨p, hp, rfl⟩
    exact (left.mem_placeholders prepared).mpr ⟨takes.known p hp, new p hp⟩
  have written := left.written prepared takes
  have parses := (left.cut_splice prepared takes).ofSource?_eq
  have rebuilt := ensures_rebuilt left.intact.closed supplies written parses fun _ derived =>
    left.ensures_storeAll prepared takes derived
  rcases Action.exists_of_ensures rebuilt with ⟨next, gives, rfl, -, w, isLeft⟩
  rcases substitute_eq what left.held supplies known (inserts_of_writes written) with
    ⟨result, after⟩
  refine Action.ensures_of_ok (a := .object st.next) (by rw [result, gives]; rfl) ⟨rfl, w, ?_⟩
  rw [after]
  exact isLeft

end Template

end Stencil
