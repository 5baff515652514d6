import Stencil.Proofs.Remainder

/-!
# Substitution in Steps

Filling the placeholders of a template in several steps is filling them at once.

`Template.IsLeft` is what one step keeps, so it holds after any number of them.
It mentions the texts of all steps only as a lookup, so the order of the steps
does not matter.

Rendering what is left then fills the same cut as rendering at once: a name that
a step filled has the text of its piece in both, and by content all values that
are not filled yet have the same texts in both stores.

## Main definitions

* `Divided`: Values in two groups.
* `Template.substituteEach`: One step after the other.

## Theorems

* `Template.ensures_substituteEach_left`: What several steps leave.
* `Template.render_left_iff`: Rendering what is left.
* `Template.substitute_in_steps`: All of this together.
* `Template.no_steps_keep_unused_default`: What no steps at all leave.
-/

namespace Stencil

namespace Piece

variable {pieces : List Piece} {n : String}

/-- Where no key occurs twice, every piece has its line. -/
theorem lookup_lines (distinct : (pieces.map key).Nodup) {p : Piece} (hp : p ∈ pieces) :
    (pieces.map line).lookup p.key = some p.text := by
  refine lookup_of_mem ?_ (List.mem_map_of_mem hp)
  rw [keys_lines]
  exact distinct

theorem lookup_lines_eq_none (absent : n ∉ pieces.map key) : (pieces.map line).lookup n = none := by
  rw [lookup_eq_none_iff_keys, keys_lines]
  exact absent

end Piece

/-- Values are given in two groups, one of them as pieces, and no key occurs
    twice. -/
structure Divided (pieces : List Piece) (rest all : List (String × Value)) : Prop where
  perm : all.Perm (pieces.map Piece.entry ++ rest)
  distinct : (pieces.map Piece.key ++ rest.map Prod.fst).Nodup

namespace Divided

variable {pieces : List Piece} {rest all : List (String × Value)}

theorem distinct_pieces (divided : Divided pieces rest all) : (pieces.map Piece.key).Nodup :=
  (List.nodup_append.mp divided.distinct).1

theorem distinct_all (divided : Divided pieces rest all) : (all.map Prod.fst).Nodup := by
  have keys := divided.perm.map Prod.fst
  rw [List.map_append, Piece.keys_entries] at keys
  exact keys.nodup_iff.mpr divided.distinct

/-- The rest has other keys than the pieces. -/
theorem apart (divided : Divided pieces rest all) {e : String × Value} (he : e ∈ rest) :
    e.1 ∉ pieces.map Piece.key := by
  intro mem
  exact (List.nodup_append.mp divided.distinct).2.2 e.1 mem e.1 (List.mem_map_of_mem he) rfl

theorem lookup_piece (divided : Divided pieces rest all) {p : Piece} (hp : p ∈ pieces) :
    all.lookup p.key = some p.value := by
  refine lookup_of_mem divided.distinct_all (divided.perm.mem_iff.mpr ?_)
  exact List.mem_append_left _ (List.mem_map_of_mem hp)

theorem lookup_rest (divided : Divided pieces rest all) {n : String}
    (absent : n ∉ pieces.map Piece.key) : all.lookup n = rest.lookup n := by
  have none : (pieces.map Piece.entry).lookup n = none := by
    rw [lookup_eq_none_iff_keys, Piece.keys_entries]
    exact absent
  rw [lookup_eq_of_perm divided.distinct_all divided.perm, List.lookup_append, none, Option.none_or]

theorem of_perm (divided : Divided pieces rest all) {pieces' : List Piece}
    (perm : pieces.Perm pieces') : Divided pieces' rest all where
  perm := divided.perm.trans ((perm.map Piece.entry).append_right rest)
  distinct := ((perm.map Piece.key).append_right _).nodup_iff.mp divided.distinct

end Divided

namespace Template

variable {interp : Interpretation} {base st : Store} {t u : Template} {c : Cut} {q r : Ref}
  {texts : List (String × String)} {defaults : List (String × Value)}

/-! ### One step after the other -/

/-- Fill placeholders with the entries of objects, one object after the other. -/
def substituteEach (interp : Interpretation) (what : String) : Ref → List Value → Action Value
  | r, [] => return .object r
  | r, values :: more => do
    match ← substitute interp what r values with
    | .object next => substituteEach interp what next more
    | other => return other

/-- Several steps leave a template whose source has the texts of all of them. -/
theorem ensures_substituteEach_left (what : String) (prepared : Prepared interp base q t c)
    (left : IsLeft base t c texts defaults st r u) {parts : List (Value × List Piece)}
    (takes : ∀ p ∈ parts, t.Takes interp base p.1 p.2)
    (distinct : (texts.map Prod.fst ++ (parts.flatMap Prod.snd).map Piece.key).Nodup) :
    (substituteEach interp what r (parts.map Prod.fst)).Ensures False st fun v st' => ∃ last w,
      v = .object last
        ∧ IsLeft base t c (texts ++ (parts.flatMap Prod.snd).map Piece.line)
          (if parts = [] then defaults else
            defaultsFor (c.subst ((texts ++ (parts.flatMap Prod.snd).map Piece.line).lookup ·))
              t.defaults)
          st' last w := by
  induction parts generalizing texts defaults st r u with
  | nil =>
      refine ⟨r, u, rfl, ?_⟩
      rw [if_pos rfl]
      change IsLeft base t c (texts ++ []) defaults st r u
      rw [List.append_nil]
      exact left
  | cons p parts ih =>
      rw [List.flatMap_cons, List.map_append, ← List.append_assoc] at distinct
      -- No step fills what an earlier one did.
      have new : ∀ x ∈ p.2, x.key ∉ texts.map Prod.fst := by
        intro x hx mem
        have before := (List.nodup_append.mp (List.nodup_append.mp distinct).1).2.2
        exact before x.key mem x.key (List.mem_map_of_mem hx) rfl
      have step := ensures_substitute_left what prepared left (takes p List.mem_cons_self) new
      refine Action.ensures_bind step ?_
      rintro v st' ⟨rfl, w, left'⟩
      have distinct' : ((texts ++ p.2.map Piece.line).map Prod.fst
          ++ (parts.flatMap Prod.snd).map Piece.key).Nodup := by
        rw [List.map_append, Piece.keys_lines]
        exact distinct
      refine Action.ensures_mono
        (ih left' (fun d hd => takes d (List.mem_cons_of_mem _ hd)) distinct') ?_
      rintro v st'' ⟨last, w', rfl, left''⟩
      refine ⟨last, w', rfl, ?_⟩
      rw [List.flatMap_cons, List.map_append, ← List.append_assoc, if_neg (List.cons_ne_nil _ _)]
      -- The last step of all leaves the defaults that this one does.
      by_cases none : parts = []
      · rw [if_pos none] at left''
        rw [none] at left'' ⊢
        rw [List.flatMap_nil, List.map_nil, List.append_nil] at left'' ⊢
        exact left''
      · rw [if_neg none] at left''
        exact left''

/-! ### Rendering what is left -/

/-- Under a key, entries with the same contents have the same, or nothing. -/
theorem lookup_of_same {entries entries' : List (String × Value)}
    (same : List.Forall₂ (Store.SameEntry base st) entries entries') (n : String) :
    entries.lookup n = none ∧ entries'.lookup n = none
      ∨ ∃ v v', entries.lookup n = some v ∧ entries'.lookup n = some v' ∧ base.Alike v st v' := by
  rcases lookup_forall₂ (fun _ _ first => first.key) same n with
    none | ⟨v, v', found, found', entry⟩
  · exact .inl none
  · exact .inr ⟨v, v', found, found', entry.content⟩

theorem Offers.extends {st' : Store} {values : Value} {supplied : List (String × Value)}
    (offered : Offers st values supplied) (held : st.Holds values) (grown : st.Extends st') :
    Offers st' values supplied := by
  rcases offered with supplies | nothing
  · exact .inl (supplies.extends held grown)
  · exact .inr nothing

theorem Offers.holds {values : Value} {supplied : List (String × Value)} (closed : st.Closed)
    (offered : Offers st values supplied) : ∀ e ∈ supplied, st.Holds e.2 := by
  rcases offered with supplies | ⟨-, rfl⟩
  · exact closed.supplied supplies
  · exact fun _ mem => absurd mem List.not_mem_nil

section

variable {pieces : List Piece} {rest all : List (String × Value)}

/-- Where nothing was filled in, there is the same to convert. -/
theorem IsLeft.converts_iff (left : IsLeft base t c texts defaults st r u)
    (prepared : Prepared interp base q t c) (inside : ∀ e ∈ rest, base.Holds e.2) {n : String}
    (mem : n ∈ (c.subst (texts.lookup ·)).names) (found : all.lookup n = rest.lookup n)
    (s : String) :
    (∃ v, u.valueFor? rest n = some v ∧ u.Converts interp st v s)
      ↔ ∃ v, t.valueFor? all n = some v ∧ t.Converts interp base v s := by
  have byContent : t.ByContent interp base := prepared.byContent q t prepared.held
  simp only [valueFor?, found, converts_congr (left.serialize_eq prepared st)]
  cases given : rest.lookup n with
  | some v =>
      have held := inside (n, v) (mem_of_lookup given)
      simp only [Option.some_or, Option.some.injEq, exists_eq_left']
      exact converts_extends prepared.intact left.intact left.grown prepared.byContent byContent
        held s
  | none =>
      -- Steps drop defaults, but none of a name that is left.
      have stored : defaults.lookup n = t.defaults.lookup n := by
        have kept : decide (n ∈ (c.subst (texts.lookup ·)).names) = true := decide_eq_true mem
        have found : ∀ entries : List (String × Value),
            (defaultsFor (c.subst (texts.lookup ·)) entries).lookup n = entries.lookup n :=
          fun entries => lookup_filter_keys (p := fun k => decide (k ∈ Cut.names _)) kept
        rw [← found, left.complete, found]
      simp only [Option.none_or, ← stored]
      rcases lookup_of_same left.same n with ⟨none, none'⟩ | ⟨v, v', some, some', alike⟩
      · simp only [none, none', reduceCtorEq, false_and, exists_const]
      · have data := (prepared.data (n, v) (left.sublist.subset (mem_of_lookup some))).1
        simp only [some, some', Option.some.injEq, exists_eq_left']
        exact converts_alike left.grown byContent data alike s

/-- A piece has its text and no other. -/
theorem converts_piece {p : Piece} (written : t.Writes interp st p.entry p.line) (s : String) :
    t.Converts interp st p.value s ↔ s = p.text := by
  have simple : st.templateRef? p.value = none := written.simple
  have text : t.serialize interp st p.value = .ok (.existing (.text p.text)) := written.text
  rw [Converts, simple]
  simp only [text, Except.ok.injEq, Answer.existing.injEq, Value.text.injEq]
  exact eq_comm

/-- Rendering what is left with the remaining values gives a text if and only if
    rendering the template with all values gives it. -/
theorem render_left_iff (what : String) (prepared : Prepared interp base q t c)
    (left : IsLeft base t c (pieces.map Piece.line) defaults st r u)
    (known : ∀ p ∈ pieces, p.key ∈ t.placeholders)
    (written : ∀ p ∈ pieces, t.Writes interp base p.entry p.line) {remaining everything : Value}
    (offered : Offers base remaining rest) (held : base.Holds remaining)
    (declared : ∀ e ∈ rest, e.1 ∈ t.placeholders) (offered' : Offers base everything all)
    (divided : Divided pieces rest all) (s : String) :
    (render interp what r remaining).resultAt st = .ok (.text s)
      ↔ (render interp what q everything).resultAt base = .ok (.text s) := by
  have unknown : u.unknownKeys (rest.map Prod.fst) = [] := by
    refine unknownKeys_eq_nil fun e he => ?_
    rw [left.mem_placeholders prepared, Piece.keys_lines]
    exact ⟨declared e he, divided.apart he⟩
  have unknown' : t.unknownKeys (all.map Prod.fst) = [] := by
    refine unknownKeys_eq_nil fun e he => ?_
    rcases List.mem_append.mp (divided.perm.mem_iff.mp he) with piece | other
    · rcases List.mem_map.mp piece with ⟨p, hp, rfl⟩
      exact known p hp
    · exact declared e other
  -- What is filled in has the text of its piece, and the rest is converted alike.
  have filled : ∀ p ∈ pieces, ∀ s, (∃ v, t.valueFor? all p.key = some v
      ∧ t.Converts interp base v s) ↔ s = p.text := by
    intro p hp s
    simp only [valueFor?, divided.lookup_piece hp, Option.some_or, Option.some.injEq,
      exists_eq_left']
    exact converts_piece (written p hp) s
  have names : ∀ n, n ∈ (c.subst ((pieces.map Piece.line).lookup ·)).names
      ↔ n ∈ c.names ∧ n ∉ pieces.map Piece.key := by
    intro n
    rw [mem_names_subst_lookup, Piece.keys_lines]
  have others : ∀ n ∈ (c.subst ((pieces.map Piece.line).lookup ·)).names, ∀ s,
      (∃ v, u.valueFor? rest n = some v ∧ u.Converts interp st v s)
        ↔ ∃ v, t.valueFor? all n = some v ∧ t.Converts interp base v s := by
    intro n hn s
    exact left.converts_iff prepared (offered.holds prepared.intact.closed) hn
      (divided.lookup_rest ((names n).mp hn).2) s
  rw [render_eq_ok_iff what left.intact.untouched left.held
      (offered.extends held left.grown) left.cut,
    render_eq_ok_iff what prepared.intact.untouched prepared.held offered' prepared.cut,
    left.finish_eq]
  constructor
  · rintro ⟨-, g, converted, rfl⟩
    -- At once, what the steps filled has the texts of its pieces.
    refine ⟨unknown', fun n => (((pieces.map Piece.line).lookup n).getD (g n)), ?_, ?_⟩
    · intro n hn
      by_cases mem : n ∈ pieces.map Piece.key
      · rcases List.mem_map.mp mem with ⟨p, hp, rfl⟩
        refine (filled p hp _).mpr ?_
        simp only [Piece.lookup_lines divided.distinct_pieces hp, Option.getD_some]
      · have remains := (names n).mpr ⟨hn, mem⟩
        simp only [Piece.lookup_lines_eq_none mem, Option.getD_none]
        exact (others n remains _).mp (converted n remains)
    · rw [Cut.fill_subst]
      refine congrArg t.finish (congrArg c.fill (funext fun n => ?_))
      beta_reduce
      cases (pieces.map Piece.line).lookup n with
      | none => rfl
      | some s => rfl
  · rintro ⟨-, g, converted, rfl⟩
    refine ⟨unknown, g, ?_, ?_⟩
    · intro n hn
      exact (others n hn _).mpr (converted n ((names n).mp hn).1)
    · rw [Cut.fill_subst]
      -- What is converted at once has only one text, which is that of the piece.
      refine congrArg t.finish (Cut.fill_congr fun n hn => ?_)
      by_cases mem : n ∈ pieces.map Piece.key
      · rcases List.mem_map.mp mem with ⟨p, hp, rfl⟩
        rw [Piece.lookup_lines divided.distinct_pieces hp, Option.some_or,
          (filled p hp _).mp (converted p.key hn)]
      · rw [Piece.lookup_lines_eq_none mem, Option.none_or]

end

/-! ### The order of the steps -/

/-- Filling placeholders in several steps, in any order, and then rendering is
    filling them in one step, and rendering at once. The defaults are the same.
    Without any step the template still has those that no placeholder can use, if there
    are any. -/
theorem substitute_in_steps (what : String) (prepared : Prepared interp base r t c)
    {parts : List (Value × List Piece)} (takes : ∀ p ∈ parts, t.Takes interp base p.1 p.2)
    {union : Value} {pieces : List Piece} (holds : base.Holds union)
    (supplies : base.Supplies union (pieces.map Piece.entry))
    (perm : pieces.Perm (parts.flatMap Prod.snd)) {remaining : Value}
    {rest : List (String × Value)} (offered : Offers base remaining rest)
    (held : base.Holds remaining) (declared : ∀ e ∈ rest, e.1 ∈ t.placeholders)
    {everything : Value} {all : List (String × Value)} (offered' : Offers base everything all)
    (divided : Divided (parts.flatMap Prod.snd) rest all) :
    let single := substitute interp what r union
    let once := single.storeAfter base
    ∃ w, single.resultAt base = .ok (.object base.next) ∧ once.template? base.next = some w
      ∧ ∀ order : List (Value × List Piece), order.Perm parts →
        let chain := substituteEach interp what r (order.map Prod.fst)
        let after := chain.storeAfter base
        ∃ last u, chain.resultAt base = .ok (.object last) ∧ after.template? last = some u
          ∧ u.equals w = true ∧ u.placeholders = w.placeholders
          ∧ List.Forall₂ (Store.SameEntry after once) u.usedDefaults w.defaults
          ∧ (parts ≠ [] ∨ t.usedDefaults = t.defaults → u.usedDefaults = u.defaults)
          ∧ ∀ s, (render interp what last remaining).resultAt after = .ok (.text s)
            ↔ (render interp what r everything).resultAt base = .ok (.text s) := by
  intro single once
  have each : ∀ p ∈ parts.flatMap Prod.snd, p.key ∈ t.placeholders
      ∧ t.Writes interp base p.entry p.line ∧ '$' ∉ p.text.toList := by
    intro p hp
    rcases List.mem_flatMap.mp hp with ⟨part, hpart, hp⟩
    have given := takes part hpart
    exact ⟨given.known p hp, given.written p hp, given.clear p hp⟩
  have takesAll : t.Takes interp base union pieces := by
    refine ⟨holds, supplies, ?_, ?_, ?_⟩
    · exact fun p hp => (each p (perm.mem_iff.mp hp)).1
    · exact fun p hp => (each p (perm.mem_iff.mp hp)).2.1
    · exact fun p hp => (each p (perm.mem_iff.mp hp)).2.2
  rcases Action.exists_of_ensures (ensures_substitute_left what prepared prepared.isLeft takesAll
    fun _ _ mem => absurd mem List.not_mem_nil) with ⟨_, gives, rfl, w, leftW⟩
  refine ⟨w, gives, leftW.held, fun order perm'' => ?_⟩
  intro chain after
  have reordered : (order.flatMap Prod.snd).Perm (parts.flatMap Prod.snd) :=
    perm''.flatMap_right Prod.snd
  have divided' : Divided (order.flatMap Prod.snd) rest all := divided.of_perm reordered.symm
  rcases Action.exists_of_ensures (ensures_substituteEach_left what prepared prepared.isLeft
    (fun p hp => takes p (perm''.mem_iff.mp hp)) divided'.distinct_pieces) with
    ⟨_, gives', last, u, rfl, leftU⟩
  refine ⟨last, u, gives', leftU.held, ?_⟩
  -- The texts are the same up to their order, which the cut that is left does not depend on.
  have cut : c.subst (((order.flatMap Prod.snd).map Piece.line).lookup ·)
      = c.subst ((pieces.map Piece.line).lookup ·) := by
    refine congrArg c.subst (funext fun n => lookup_eq_of_perm ?_ ?_ n)
    · rw [Piece.keys_lines]
      exact divided'.distinct_pieces
    · exact (reordered.trans perm.symm).map Piece.line
  have cutU : (c.subst ((pieces.map Piece.line).lookup ·)).Of u.source := cut ▸ leftU.cut
  have cutW : (c.subst ((pieces.map Piece.line).lookup ·)).Of w.source := leftW.cut
  refine ⟨?_, ?_, ?_, fun some => ?_, fun s => ?_⟩
  · have name : u.name = w.name :=
      congrArg Settings.name (leftU.settings.trans leftW.settings.symm)
    have source : u.source = w.source :=
      String.toList_inj.mp (cutU.text_eq.symm.trans cutW.text_eq)
    rw [equals, name, source, beq_self_eq_true, beq_self_eq_true, Bool.and_self]
  · rw [placeholders_eq cutU, placeholders_eq cutW]
  · have sameU : List.Forall₂ (Store.SameEntry base after)
        (defaultsFor (c.subst (((order.flatMap Prod.snd).map Piece.line).lookup ·)) t.defaults)
        u.usedDefaults := leftU.used
    rw [cut] at sameU
    exact same_trans (List.Forall₂.flip (sameU.imp fun _ _ same => same.symm)) leftW.same
  · by_cases none : order = []
    · -- Without any step it is the same template.
      subst none
      cases gives'
      cases prepared.held.symm.trans leftU.held
      exact some.resolve_left fun some => some (List.nil_perm.mp perm'')
    · rw [if_neg none] at leftU
      exact leftU.usedDefaults_eq_defaults
  · exact render_left_iff what prepared leftU (fun p hp => (each p (reordered.mem_iff.mp hp)).1)
      (fun p hp => (each p (reordered.mem_iff.mp hp)).2.1) offered held declared offered' divided' s

section

/-- A serializer that gives its argument depends on contents alone. -/
theorem byContent_of_argument {f : Ref} (variant : t.variant = .prompt)
    (serializer : t.serializer = some f) (inside : f.index < st.objects.size)
    (body : (st.get f).body = .function (.routine .argument)) :
    t.ByContent .standard st := by
  have gives : ∀ (s : Store) (v : Value), (s.get f).body = .function (.routine .argument) →
      t.serialize .standard s v = .ok (.existing v) := by
    intro s v body
    rw [serialize, variant]
    simp only [serializeBase, serializer, Store.call, body]
    rfl
  intro st' v v' grown alike s
  rw [gives st v body, gives st' v' (by rw [grown.get_eq f inside, body])]
  rcases alike with ⟨g, S, -, -, rfl⟩
  have same : v.rename g = .text s ↔ v = .text s := Value.rename_eq_iff rfl
  rw [Except.ok.injEq, Except.ok.injEq, Answer.existing.injEq, Answer.existing.injEq, same]

/-- The source of a template with three placeholders. -/
private def pathCut : Cut :=
  .placed [] "a" (.placed ['-'] "b" (.placed ['-'] "c" (.last [])))

/-- A template that writes texts as they are, with a default that looks like a
    placeholder and one that nothing asks for. -/
private def path : Template :=
  { ofCut "" pathCut (by decide) [("c", .text "$\x7ba\x7d"), ("z", .object ⟨4⟩)] with
    serializer := some ⟨2⟩ }

/-- The template, with objects for each of two placeholders, for both and for none. -/
private def paths : Store :=
  ⟨Store.initial.objects ++ #[Object.ofBody (.function (.routine .argument)),
    Object.ofBody (.template path), Object.plain [("k", .text "v")],
    Object.plain [("a", .text "x")], Object.plain [("b", .text "\x7by\x7d")],
    Object.plain [("a", .text "x"), ("b", .text "\x7by\x7d")], Object.plain []]⟩

private def first : Piece := ⟨"a", .text "x", "x"⟩

private def second : Piece := ⟨"b", .text "\x7by\x7d", "\x7by\x7d"⟩

private theorem path_prepared : Prepared .standard paths ⟨3⟩ path pathCut where
  intact := by decide
  byContent := by
    have only : ∀ i < 9, i ≠ 3 → paths.template? ⟨i⟩ = none := by decide
    intro q u held
    have inside := Store.index_lt_of_template? held
    by_cases same : q.index = 3
    · rw [show q = ⟨3⟩ from Ref.eq_of_index same] at held
      cases held
      exact byContent_of_argument (f := ⟨2⟩) rfl rfl (by decide) rfl
    · rw [only q.index inside same] at held
      cases held
  held := rfl
  variant := rfl
  cut := ⟨by decide, by decide⟩
  free := by decide
  distinct := by decide
  data := by
    intro e he
    have given : ∀ e ∈ path.defaults, e.2 ≠ .undefined := by decide
    refine ⟨?_, given e he⟩
    have stored : path.defaults = [("c", .text "$\x7ba\x7d"), ("z", .object ⟨4⟩)] := rfl
    rw [stored] at he
    rcases List.mem_cons.mp he with rfl | he
    · exact Store.isData_of_refs rfl
    · rcases List.mem_singleton.mp he with rfl
      refine ⟨{⟨4⟩}, ⟨?_, ?_, ?_⟩, ?_⟩
      · rintro _ rfl
        refine .record _ rfl rfl rfl fun e he => ?_
        rcases List.mem_singleton.mp he with rfl
        exact ⟨_, rfl⟩
      · rintro _ rfl q hq
        cases hq
      · rintro _ rfl
        decide
      · intro q hq
        rcases List.mem_singleton.mp hq with rfl
        rfl

/-- A text in braces beside a default that looks like a placeholder. -/
theorem substitute_in_steps_of_path :
    let interp := Interpretation.standard
    let chain := substituteEach interp "this" ⟨3⟩ [.object ⟨6⟩, .object ⟨5⟩]
    Prepared interp paths ⟨3⟩ path pathCut
      ∧ path.Takes interp paths (.object ⟨5⟩) [first]
      ∧ path.Takes interp paths (.object ⟨6⟩) [second]
      ∧ paths.Supplies (.object ⟨7⟩) ([first, second].map Piece.entry)
      ∧ Offers paths .undefined []
      ∧ ∃ last, chain.resultAt paths = .ok (.object last)
        ∧ (render interp "this" last .undefined).resultAt (chain.storeAfter paths)
          = .ok (.text "x-\x7by\x7d-$\x7ba\x7d") := by
  intro interp chain
  have prepared : Prepared interp paths ⟨3⟩ path pathCut := path_prepared
  have takesFirst : path.Takes interp paths (.object ⟨5⟩) [first] := by
    refine ⟨by decide, by decide, by decide, ?_, by decide⟩
    exact List.forall_mem_singleton.mpr ⟨rfl, rfl, rfl⟩
  have takesSecond : path.Takes interp paths (.object ⟨6⟩) [second] := by
    refine ⟨by decide, by decide, by decide, ?_, by decide⟩
    exact List.forall_mem_singleton.mpr ⟨rfl, rfl, rfl⟩
  have supplies : paths.Supplies (.object ⟨7⟩) ([first, second].map Piece.entry) := by decide
  have offered : Offers paths .undefined [] := .inr ⟨rfl, rfl⟩
  refine ⟨prepared, takesFirst, takesSecond, supplies, offered, ?_⟩
  have takes : ∀ p ∈ [(Value.object ⟨5⟩, [first]), (Value.object ⟨6⟩, [second])],
      path.Takes interp paths p.1 p.2 :=
    List.forall_mem_cons.mpr ⟨takesFirst, List.forall_mem_singleton.mpr takesSecond⟩
  rcases substitute_in_steps "this" prepared takes (by decide) supplies (.refl _) offered
    (by decide) (by decide) (.inl supplies) ⟨.refl _, by decide⟩ with ⟨w, -, -, orders⟩
  rcases orders _ (.swap _ _ []) with ⟨last, u, gives, -, -, -, -, -, renders⟩
  exact ⟨last, gives, (renders _).mpr (by decide +kernel)⟩

/-- No steps at all leave the template as it is, with the default that nothing asks for.
    Substituting nothing does not, because the default is not passed on. -/
theorem no_steps_keep_unused_default :
    let interp := Interpretation.standard
    let chain := substituteEach interp "this" ⟨3⟩ []
    let single := substitute interp "this" ⟨3⟩ (.object ⟨8⟩)
    Prepared interp paths ⟨3⟩ path pathCut ∧ paths.Supplies (.object ⟨8⟩) []
      ∧ chain.resultAt paths = .ok (.object ⟨3⟩)
      ∧ (∃ u, (chain.storeAfter paths).template? ⟨3⟩ = some u
        ∧ u.defaults.map Prod.fst = ["c", "z"])
      ∧ single.resultAt paths = .ok (.object paths.next)
      ∧ ∃ w, (single.storeAfter paths).template? paths.next = some w
        ∧ w.defaults.map Prod.fst = ["c"] := by
  intro interp chain single
  have known : ∀ u ∈ (single.storeAfter paths).template? paths.next,
      u.defaults.map Prod.fst = ["c"] := by decide +kernel
  have made : ((single.storeAfter paths).template? paths.next).isSome = true := by decide +kernel
  rcases Option.isSome_iff_exists.mp made with ⟨w, held⟩
  exact ⟨path_prepared, by decide, rfl, ⟨path, rfl, rfl⟩, by decide +kernel, w, held,
    known w held⟩

end

end Template

end Stencil
