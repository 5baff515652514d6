import Stencil.Proofs.ByContent
import Stencil.Proofs.DataDefaults
import Stencil.Proofs.InnerTemplates

/-!
# Mirrored Defaults

What is stored as a default, and what its copies have in common with it.

A default is data, or it is a template whose own defaults are defaults again. A
copy of data has the same content. A copy of a template is another template, so
it has no content to compare: it agrees in what it was made with, and its
defaults are copies in turn. `Store.Mirrors` says that. It also says that all
templates among the copies are at later addresses, because what happens next is
that another template changes, an earlier one.

Templates are nested as deep as the definition of `Store.Stored` goes, and that
depth counts: copying them is given an allowance. As with rendering, it is not
more than there are objects.

A mirror renders as its original does, if the serializers see nothing but
contents.

## Main definitions

* `Store.Stands`: A template that can be copied, apart from its defaults.
* `Store.Stored`, `Store.StoredWithin`: What is stored as a default.
* `Store.Mirrors`: A copy of a default.
* `Store.MirrorsEntry`: The same for entries.

## Theorems

* `Store.Stored.within`, `Store.storedWithin_size`: Templates are not nested
  deeper than there are objects.
* `Store.Mirrors.of_same`: A mirror remains one while other templates change.
* `Template.rendered_mirrors`, `Template.converts_mirrors`: Mirrors have the
  same texts.
-/

namespace Stencil

namespace Store

/-! ### Defaults -/

/-- At an address there is a template of the usual variant, with one default for
    each key. -/
structure Stands (st : Store) (r : Ref) (t : Template) : Prop where
  known : st.templateRef? (.object r) = some r
  held : st.template? r = some t
  variant : t.variant = .prompt
  distinct : (t.defaults.map Prod.fst).Nodup

/-- What is stored as a default: data, or a template whose defaults are stored. -/
inductive Stored (st : Store) : Value → Prop
  | data {v : Value} (data : st.IsData v) (given : v ≠ .undefined) : Stored st v
  | template {r : Ref} {t : Template} (stands : st.Stands r t)
      (defaults : ∀ e ∈ t.defaults, Stored st e.2) : Stored st (.object r)

/-- What is stored inside a template, at most so deep. -/
def StoredWithin (st : Store) : Nat → Ref → Prop
  | 0, _ => False
  | depth + 1, r => ∃ t, st.Stands r t ∧ ∀ e ∈ t.defaults,
      st.IsData e.2 ∧ e.2 ≠ .undefined ∨ ∃ q, e.2 = .object q ∧ st.StoredWithin depth q

variable {base st st' : Store} {r : Ref} {v w : Value} {t : Template}

/-- Templates in templates, where everything else is data. -/
theorem storedWithin_iff {depth : Nat} : st.StoredWithin depth r
    ↔ NestedWithin (fun v => st.IsData v ∧ v ≠ .undefined) st.Stands depth r := by
  induction depth generalizing r with
  | zero => exact .rfl
  | succ depth ih => simp only [StoredWithin, NestedWithin, ih]

theorem StoredWithin.known {depth : Nat} (stored : st.StoredWithin depth r) :
    st.templateRef? (.object r) = some r := by
  cases depth with
  | zero => exact absurd stored not_false
  | succ depth =>
      rcases stored with ⟨t, stands, -⟩
      exact stands.known

/-- There is a depth for what is stored. -/
theorem Stored.within (stored : st.Stored v) :
    st.IsData v ∧ v ≠ .undefined ∨ ∃ q depth, v = .object q ∧ st.StoredWithin depth q := by
  have nested : Nested (fun v => st.IsData v ∧ v ≠ .undefined) st.Stands v := by
    induction stored with
    | data data given => exact .leaf ⟨data, given⟩
    | template stands _ ih => exact .template stands ih
  simp only [storedWithin_iff]
  exact nested.within

/-- Templates are not stored in one another deeper than there are objects. -/
theorem storedWithin_size {depth bound : Nat} (stored : st.StoredWithin depth r)
    (le : st.objects.size ≤ bound) : st.StoredWithin bound r := by
  rw [storedWithin_iff] at stored ⊢
  exact nestedWithin_bound stored fun q t stands =>
    Nat.lt_of_lt_of_le (index_lt_of_template? stands.held) le

theorem Stored.holds (stored : st.Stored v) : st.Holds v := by
  cases stored with
  | data data _ => exact data.holds
  | template stands _ =>
      intro q hq
      rw [List.mem_singleton.mp hq]
      exact index_lt_of_template? stands.held

theorem Stored.given (stored : st.Stored v) : v ≠ .undefined := by
  cases stored with
  | data _ given => exact given
  | template _ _ => nofun

/-! ### Mirrors -/

/-- A value in a later store that is a copy of a default: data of the same
    content, or a template with the same source and settings, at an address that
    is not below a bound, whose defaults mirror those of the original. -/
inductive Mirrors (base : Store) (low : Nat) (st : Store) : Value → Value → Prop
  | data {v w : Value} (data : base.IsData v) (alike : Alike base v st w) :
      Mirrors base low st v w
  | template {r q : Ref} {t u : Template} (stands : base.Stands r t)
      (there : st.get q = .ofBody (.template u)) (inside : q.index < st.objects.size)
      (above : low ≤ q.index) (variant : u.variant = .prompt) (settings : u.settings = t.settings)
      (source : u.source = t.source)
      (keys : t.defaults.map Prod.fst = u.defaults.map Prod.fst)
      (values : ∀ e d, (e, d) ∈ t.defaults.zip u.defaults → Mirrors base low st e.2 d.2) :
      Mirrors base low st (.object r) (.object q)

/-- An entry and a copy of it under the same key. -/
structure MirrorsEntry (base : Store) (low : Nat) (st : Store) (e d : String × Value) : Prop where
  key : e.1 = d.1
  value : base.Mirrors low st e.2 d.2

variable {low : Nat}

theorem template?_of_get {q : Ref} {u : Template} (there : st.get q = .ofBody (.template u)) :
    st.template? q = some u :=
  template?_of_body (by rw [there]; rfl)

/-- What was made as a template is one. -/
theorem templateRef?_of_get {q : Ref} {u : Template} (there : st.get q = .ofBody (.template u)) :
    st.templateRef? (.object q) = some q := by
  have family : st.inherits q (.template .prompt) = true := by
    have next : (st.get q).prototype = .family (.template u.variant) := by
      rw [there]
      rfl
    rw [inherits_of_family next]
    cases u.variant <;> rfl
  rw [templateRef?, if_pos family]

/-- Entries have copies under the same keys. -/
theorem forall₂_mirrorsEntry {entries copies : List (String × Value)}
    (keys : entries.map Prod.fst = copies.map Prod.fst)
    (values : ∀ e d, (e, d) ∈ entries.zip copies → base.Mirrors low st e.2 d.2) :
    List.Forall₂ (base.MirrorsEntry low st) entries copies := by
  induction entries generalizing copies with
  | nil =>
      cases copies with
      | nil => exact .nil
      | cons d copies => cases keys
  | cons e entries ih =>
      cases copies with
      | nil => cases keys
      | cons d copies =>
          rw [List.map_cons, List.map_cons, List.cons.injEq] at keys
          refine .cons ⟨keys.1, values e d List.mem_cons_self⟩ (ih keys.2 fun e' d' mem => ?_)
          exact values e' d' (List.mem_cons_of_mem _ mem)

theorem keys_eq_of_mirrors {entries copies : List (String × Value)}
    (mirrors : List.Forall₂ (base.MirrorsEntry low st) entries copies) :
    entries.map Prod.fst = copies.map Prod.fst :=
  keys_forall₂ (fun _ _ first => first.key) mirrors

/-- A mirror of data has its content. -/
theorem Mirrors.alike (mirrors : base.Mirrors low st v w) (data : base.IsData v) :
    Alike base v st w := by
  cases mirrors with
  | data _ alike => exact alike
  | template stands =>
      have none := data.templateRef?_eq_none
      rw [stands.known] at none
      cases none

/-- Mirrors of entries of data are the same entries. -/
theorem sameEntry_of_mirrors {entries copies : List (String × Value)}
    (data : ∀ e ∈ entries, base.IsData e.2)
    (mirrors : List.Forall₂ (base.MirrorsEntry low st) entries copies) :
    List.Forall₂ (SameEntry base st) entries copies := by
  induction mirrors with
  | nil => exact .nil
  | cons first _ ih =>
      exact .cons ⟨first.key, first.value.alike (data _ List.mem_cons_self)⟩
        (ih fun e he => data e (List.mem_cons_of_mem _ he))

/-- A mirror remains one if the templates from the bound on stay the same, and all
    data. -/
theorem Mirrors.of_same {low' : Nat} (mirrors : base.Mirrors low st v w) (le : low' ≤ low)
    (size_le : st.objects.size ≤ st'.objects.size)
    (same : ∀ r, r.index < st.objects.size → low ≤ r.index ∨ (st.get r).IsData →
      st'.get r = st.get r) : base.Mirrors low' st' v w := by
  -- Data may be anywhere, so it is required to stay wherever it is.
  induction mirrors with
  | data data alike =>
      exact .data data (alike.trans ((data.of_alike alike).alike_self size_le
        fun r inside isData => same r inside (.inr isData)))
  | template stands there inside above variant settings source keys _ ih =>
      exact .template stands ((same _ inside (.inl above)).trans there)
        (Nat.lt_of_lt_of_le inside size_le) (Nat.le_trans le above) variant settings source keys ih

theorem Mirrors.extends {low' : Nat} (mirrors : base.Mirrors low st v w) (le : low' ≤ low)
    (h : st.Extends st') : base.Mirrors low' st' v w :=
  mirrors.of_same le h.size_le fun r inside _ => h.get_eq r inside

/-- A mirror remains one while a template below the bound changes. -/
theorem Mirrors.extendsBut {next : Ref} (mirrors : base.Mirrors low st v w)
    (below : next.index < low) (held : st.template? next = some t) (h : st.ExtendsBut next st') :
    base.Mirrors low st' v w := by
  refine mirrors.of_same (Nat.le_refl _) h.size_le fun r inside kept => h.get_eq r inside ?_
  rintro rfl
  rcases kept with above | isData
  · omega
  · exact not_isData_of_template? held isData

theorem Mirrors.templateRef?_eq {q : Ref} (mirrors : base.Mirrors low st v w)
    (known : base.templateRef? v = some q) :
    ∃ p t u, v = .object q ∧ w = .object p ∧ base.template? q = some t
      ∧ st.get p = .ofBody (.template u) := by
  cases mirrors with
  | data data _ =>
      rw [data.templateRef?_eq_none] at known
      cases known
  | @template r p t u stands there =>
      rw [stands.known, Option.some.injEq] at known
      subst known
      exact ⟨p, t, u, rfl, rfl, stands.held, there⟩

end Store

/-! ### The texts of mirrors -/

namespace Template

variable {interp : Interpretation} {base st : Store} {t : Template} {low : Nat} {v w : Value}

/-- Mirrored templates render alike. -/
theorem rendered_mirrors (grown : base.Extends st)
    (byContent : ∀ r u, base.template? r = some u → u.ByContent interp base) (n : Nat)
    {r q : Ref} (mirrors : base.Mirrors low st (.object r) (.object q))
    (known : base.templateRef? (.object r) = some r) (s : String) :
    rendered interp st n q [] = .ok s ↔ rendered interp base n r [] = .ok s := by
  -- By induction on the allowance: what a template renders as depends on its defaults at
  -- one depth less.
  induction n generalizing r q s with
  | zero => rfl
  | succ n ih =>
      cases mirrors with
      | data data _ =>
          rw [data.templateRef?_eq_none] at known
          cases known
      | @template _ _ t u stands there inside above variant settings source keys values =>
          rw [rendered, rendered, Store.template?_of_get there, stands.held]
          rcases t.exists_cut with ⟨c, hc, -⟩
          have hc' : c.Of u.source := source ▸ hc
          have finish : u.finish = t.finish := finish_congr (congrArg Settings.dedent settings)
          have serialize : ∀ st v, u.serialize interp st v = t.serialize interp st v :=
            serialize_congr (variant.trans stands.variant.symm)
              (congrArg Settings.serializer settings)
          have here := byContent r t stands.held
          change u.filled _ [] = .ok s ↔ t.filled _ [] = .ok s
          rw [filled_eq_ok_iff hc, filled_eq_ok_iff hc', finish]
          -- Both have the same names, so what is left is one name and its value.
          refine and_congr (by rfl) (exists_congr fun text => and_congr_left fun _ => ?_)
          refine forall_congr' fun name => forall_congr' fun _ => ?_
          have each : ∀ v w, base.Mirrors low st v w → ∀ s,
              u.converted interp st (fun inner => rendered interp st n inner []) name w = .ok s
                ↔ t.converted interp base (fun inner => rendered interp base n inner []) name v
                  = .ok s := by
            intro v w mirrors s
            rw [converted, converted]
            cases simple : base.templateRef? v with
            | some inner =>
                rcases mirrors.templateRef?_eq simple with ⟨p, t', u', rfl, rfl, -, there'⟩
                rw [Store.templateRef?_of_get there']
                exact ih mirrors simple s
            | none =>
                cases mirrors with
                | data data alike =>
                    rw [(data.of_alike alike).templateRef?_eq_none]
                    simp only [resultAt_write_eq_ok_iff, serialize]
                    exact (here grown alike s).symm
                | template stands' =>
                    rw [stands'.known] at simple
                    cases simple
          have entries := Store.forall₂_mirrorsEntry keys values
          simp only [valueFor?, List.lookup_nil, Option.none_or]
          -- Nothing is supplied, so the value is a default, or there is none in both.
          rcases lookup_forall₂ (fun _ _ first => first.key) entries name with
            ⟨none, none'⟩ | ⟨v, w, found, found', entry⟩
          · simp only [none, none', reduceCtorEq, false_and, exists_const]
          · simp only [found, found', Option.some.injEq, exists_eq_left']
            exact each v w entry.value (text name)

/-- A default and a mirror of it have the same texts. -/
theorem converts_mirrors (intact : base.Intact) (intact' : st.Intact) (grown : base.Extends st)
    (byContent : ∀ r u, base.template? r = some u → u.ByContent interp base)
    (here : t.ByContent interp base) (mirrors : base.Mirrors low st v w) (s : String) :
    t.Converts interp st w s ↔ t.Converts interp base v s := by
  cases simple : base.templateRef? v with
  | none =>
      cases mirrors with
      | data data alike => exact converts_alike grown here data alike s
      | template stands =>
          rw [stands.known] at simple
          cases simple
  | some inner =>
      rcases mirrors.templateRef?_eq simple with ⟨q, _, u, rfl, rfl, -, there⟩
      have simple' := Store.templateRef?_of_get there
      have same := rendered_mirrors grown byContent st.objects.size mirrors simple s
      -- By itself the original has the allowance of its own store.
      rw [rendered_of_size_le interp base grown.size_le] at same
      rw [Converts, Converts, simple, simple']
      simp only [render_inner_eq intact.untouched simple, render_inner_eq intact'.untouched simple',
        map_text_eq_ok_iff, same]

end Template

end Stencil
