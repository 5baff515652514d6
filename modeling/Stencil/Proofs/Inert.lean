import Stencil.Proofs.StoredDefaults

/-!
# Inert Values

Values that are no templates and do not turn into any.

Whether an object is a template is decided by what its prototypes end in, and
that is settled once the object is there. `Store.Later` says what else is: in a
later store an object has the prototype that it had, functions do what they
did, and a template has other defaults at most. Apart from that, anything may
have happened to objects. So whoever is no template now is none later on.

It is less clear that the copy of such a value is no template. Nearly all copies
have the prototype of what was copied, or that of a built-in kind. But the copy
of a wrapped text, number or boolean is made from what its method `valueOf`
gives. If that is an object, then it takes the place of the copy, as it is, and
it can be a template that somebody holds. Inert values are those of which this
is not said: whatever their `valueOf` gives, it is no object, then and later.
All values are inert that are neither templates nor wrapped, and so are wrapped
ones that nobody has given a `valueOf`.

## Main definitions

* `Store.Later`: A store in which objects may have changed.
* `Store.EndsIn`: What the prototypes of an object end in.
* `Store.Inert`: Values that are no templates, and whose copies are none.

## Theorems

* `Store.Inert.later`: What is inert remains so.
* `Store.Inert.templateRef?_eq_none`: What is inert is no template.
* `Store.inert_copy`: The copy of an inert value is inert.
-/

namespace Stencil

/-- Whether the objects of a family are wrapped texts, numbers or booleans. -/
def Family.isWrapper (f : Family) : Bool :=
  [string, number, boolean].any f.isA

namespace Store

/-! ### Later stores -/

/-- A store in which objects may have been added and changed. No object was given
    another prototype, what can be called does what it did, wrapped values are the
    same, and a template has other defaults at most. -/
structure Later (st st' : Store) : Prop where
  size_le : st.objects.size ≤ st'.objects.size
  prototype_eq : ∀ r, r.index < st.objects.size → (st'.get r).prototype = (st.get r).prototype
  isFunction_eq : ∀ r, r.index < st.objects.size → (st'.get r).isFunction = (st.get r).isFunction
  function : ∀ r, (st.get r).isFunction = true → (st'.get r).body = (st.get r).body
  boxed : ∀ r v, (st.get r).body = .boxed v → st'.get r = st.get r
  template : ∀ r t, st.get r = .ofBody (.template t) →
    ∃ defaults, st'.get r = .ofBody (.template { t with defaults := defaults })

variable {interp : Interpretation} {st st' st'' : Store} {r q : Ref} {t : Template}
  {root : Option Family} {v w : Value} {o : Object}

namespace Later

theorem of_extends (h : st.Extends st') : st.Later st' where
  size_le := h.size_le
  prototype_eq r inside := by rw [h.get_eq r inside]
  isFunction_eq r inside := by rw [h.get_eq r inside]
  function r callable := by rw [h.get_eq r (index_lt_of_isFunction callable)]
  boxed r v body := by
    refine h.get_eq r (index_lt_of_body ?_)
    rw [body]
    exact nofun
  template r t there := by
    refine ⟨t.defaults, ?_⟩
    rw [h.get_eq r (index_lt_of_template? (template?_of_get there)), there]

theorem refl (st : Store) : st.Later st :=
  .of_extends (.refl st)

theorem trans (first : st.Later st') (second : st'.Later st'') : st.Later st'' where
  size_le := Nat.le_trans first.size_le second.size_le
  prototype_eq r inside := by
    rw [second.prototype_eq r (Nat.lt_of_lt_of_le inside first.size_le),
      first.prototype_eq r inside]
  isFunction_eq r inside := by
    rw [second.isFunction_eq r (Nat.lt_of_lt_of_le inside first.size_le),
      first.isFunction_eq r inside]
  function r callable := by
    have still : (st'.get r).isFunction = true := by
      rw [first.isFunction_eq r (index_lt_of_isFunction callable), callable]
    rw [second.function r still, first.function r callable]
  boxed r v body := by
    have same := first.boxed r v body
    rw [second.boxed r v (by rw [same, body]), same]
  template r t there := by
    rcases first.template r t there with ⟨defaults, there'⟩
    rcases second.template r _ there' with ⟨defaults', there''⟩
    exact ⟨defaults', there''⟩

/-- A template was given a default. -/
theorem putDefault (there : st.get r = .ofBody (.template t)) (key : String) (v : Value) :
    st.Later (st.putDefault r key v) := by
  have held := template?_of_get there
  have self : (st.putDefault r key v).get r
      = .ofBody (.template { t with defaults := setDefaultValue key v t.defaults }) := by
    rw [get_putDefault_self held, there]
    rfl
  -- All other objects are the same, so each part is about the template alone.
  have others : ∀ q, q ≠ r → (st.putDefault r key v).get q = st.get q :=
    fun q apart => get_putDefault_ne held apart
  refine ⟨(extendsBut_putDefault held).size_le, fun q _ => ?_, fun q _ => ?_, fun q callable => ?_,
    fun q w body => ?_, fun q u there' => ?_⟩
  · by_cases same : q = r
    · rw [same, self, there]
      rfl
    · rw [others q same]
  · by_cases same : q = r
    · rw [same, self, there]
      rfl
    · rw [others q same]
  · refine congrArg Object.body (others q fun same => ?_)
    rw [same, there] at callable
    cases callable
  · refine others q fun same => ?_
    rw [same, there] at body
    cases body
  · rcases eq_or_ne q r with rfl | apart
    · cases Body.template.inj (congrArg Object.body (there.symm.trans there'))
      exact ⟨_, self⟩
    · exact ⟨u.defaults, (others q apart).trans there'⟩

end Later

/-! ### Prototypes -/

/-- The prototypes of an object end in a family, or in nothing. -/
inductive EndsIn (st : Store) : Option Family → Ref → Prop
  | none {r : Ref} (next : (st.get r).prototype = .none) : EndsIn st none r
  | family {r : Ref} {f : Family} (next : (st.get r).prototype = .family f) : EndsIn st (some f) r
  | object {root : Option Family} {r q : Ref} (next : (st.get r).prototype = .object q)
      (inside : q.index < st.objects.size) (rest : EndsIn st root q) : EndsIn st root r

namespace EndsIn

/-- What follows the same prototype ends in the same. -/
theorem of_prototype (ends : st.EndsIn root r) (h : st.Later st')
    (same : (st'.get q).prototype = (st.get r).prototype) : st'.EndsIn root q := by
  induction ends generalizing q with
  | none next => exact .none (same.trans next)
  | family next => exact .family (same.trans next)
  | object next inside _ ih =>
      exact .object (same.trans next) (Nat.lt_of_lt_of_le inside h.size_le)
        (ih (h.prototype_eq _ inside))

/-- What the prototypes of an object end in stays. -/
theorem later (ends : st.EndsIn root r) (inside : r.index < st.objects.size) (h : st.Later st') :
    st'.EndsIn root r :=
  ends.of_prototype h (h.prototype_eq r inside)

/-- A lookup of what an object derives from finds nothing else, however far it
    goes. -/
theorem rootFamilyWithin (ends : st.EndsIn root r) {n : Nat} {f : Family}
    (found : st.rootFamilyWithin n r = some f) : root = some f := by
  induction n generalizing r with
  | zero => cases found
  | succ n ih =>
      rw [Store.rootFamilyWithin] at found
      cases ends with
      | none next =>
          rw [next] at found
          cases found
      | family next =>
          rw [next] at found
          exact found
      | object next _ rest =>
          rw [next] at found
          exact ih rest found

/-- What an object inherits from is what its prototypes end in. -/
theorem of_inherits (ends : st.EndsIn root r) {f : Family} (inherits : st.inherits r f = true) :
    ∃ g, root = some g ∧ g.isA f = true := by
  rw [Store.inherits, rootFamily?] at inherits
  cases found : st.rootFamilyWithin (st.objects.size + 1) r with
  | none =>
      rw [found] at inherits
      cases inherits
  | some g =>
      rw [found] at inherits
      exact ⟨g, ends.rootFamilyWithin found, inherits⟩

/-- A lookup finds the family that prototypes end in, if it goes far enough. -/
theorem exists_rootFamilyWithin {f : Family} (ends : st.EndsIn (some f) r) :
    ∃ n, st.rootFamilyWithin n r = some f := by
  generalize same : some f = root at ends
  induction ends with
  | none => cases same
  | family next =>
      refine ⟨1, ?_⟩
      rw [Store.rootFamilyWithin, next]
  | object next _ _ ih =>
      rcases ih same with ⟨n, found⟩
      refine ⟨n + 1, ?_⟩
      rw [Store.rootFamilyWithin, next]
      exact found

/-- What an object inherits from is up to the family that its prototypes end in. -/
theorem inherits_eq {f g : Family} (ends : st.EndsIn (some f) r)
    (inside : r.index < st.objects.size) : st.inherits r g = f.isA g := by
  have follows := st.followsPrototypes_rootFamilyWithin
  rcases ends.exists_rootFamilyWithin with ⟨n, found⟩
  -- Each prototype on the way is found with one step less, so no two of them are the same.
  have within : r.index < st.objects.size ∧ st.EndsIn (some f) r
      ∧ st.rootFamilyWithin st.objects.size r = some f := by
    refine succeeds_within (P := fun n q => q.index < st.objects.size ∧ st.EndsIn (some f) q
      ∧ st.rootFamilyWithin n q = some f) ?_ ?_ ?_ (n := n) ⟨inside, ends, found⟩
    · rintro n q ⟨inside, ends, found⟩
      exact ⟨inside, ends, follows.succ found⟩
    · exact fun n q h => h.1
    · rintro n q ⟨inside, ends, found⟩ short
      cases ends with
      | family next =>
          refine absurd ⟨inside, .family next, ?_⟩ short
          rw [Store.rootFamilyWithin, next]
      | @object _ _ p next above rest =>
          have goes : ∀ m, st.rootFamilyWithin (m + 1) q = st.rootFamilyWithin m p := by
            intro m
            rw [Store.rootFamilyWithin, next]
          rw [goes] at found short
          exact ⟨p, ⟨above, rest, found⟩, fun h => short ⟨inside, .object next above rest, h.2.2⟩⟩
  rw [Store.inherits, rootFamily?, follows.succ within.2.2]

end EndsIn

/-! ### Inert values -/

/-- What the method `valueOf` of an object gives is no object, whatever happens
    until it is called. -/
def GivesSimple (interp : Interpretation) (st : Store) (r : Ref) : Prop :=
  ∀ ⦃st' : Store⦄ ⦃answer : Answer⦄, st.Later st' →
    st'.invoke interp "value" r "valueOf" = .ok answer → ∃ v, answer = .existing v ∧ v.refs = []

/-- Values that are no templates, and that are not wrapped in a way that their
    copies might be some. -/
def Inert (interp : Interpretation) (st : Store) (v : Value) : Prop :=
  ∀ r ∈ v.refs, r.index < st.objects.size ∧ ∃ root, st.EndsIn root r ∧ ∀ f ∈ root,
    f.isA (.template .prompt) = false
      ∧ (f.isWrapper = true → (st.get r).isFunction = true ∨ st.GivesSimple interp r)

theorem inert_of_simple (simple : v.refs = []) : st.Inert interp v := by
  intro r hr
  rw [simple] at hr
  cases hr

/-- What is inert remains so. -/
theorem Inert.later (inert : st.Inert interp v) (h : st.Later st') : st'.Inert interp v := by
  intro r hr
  rcases inert r hr with ⟨inside, root, ends, kinds⟩
  refine ⟨Nat.lt_of_lt_of_le inside h.size_le, root, ends.later inside h, fun f hf => ?_⟩
  refine ⟨(kinds f hf).1, fun wrapper => ?_⟩
  rcases (kinds f hf).2 wrapper with callable | simple
  · left
    rw [h.isFunction_eq r inside, callable]
  · exact .inr fun st'' answer after => simple (h.trans after)

/-- What is inert is no template. -/
theorem Inert.templateRef?_eq_none (inert : st.Inert interp v) : st.templateRef? v = none := by
  cases v with
  | object r =>
      rcases inert r List.mem_cons_self with ⟨-, root, ends, kinds⟩
      rw [templateRef?, if_neg]
      intro inherits
      rcases ends.of_inherits inherits with ⟨f, rfl, isTemplate⟩
      rw [(kinds f rfl).1] at isTemplate
      cases isTemplate
  | _ => rfl

/-- A wrapped text, number or boolean with nothing besides gives what it wraps. -/
theorem givesSimple_of_boxed
    (simple : v.wrapper = .string ∨ v.wrapper = .number ∨ v.wrapper = .boolean)
    (there : st.get r = .ofBody (.boxed v)) : st.GivesSimple interp r := by
  intro st' answer h given
  have still : st'.get r = .bare (.boxed v) {} := by
    rw [h.boxed r v (by rw [there]; rfl), there]
    rfl
  rw [invoke_valueOf simple (genuine_of_bare still)] at given
  refine ⟨v, (Except.ok.inj given).symm, ?_⟩
  cases v with
  | object q => rcases simple with h | h | h <;> cases h
  | _ => rfl

/-- An object of a kind that is neither a template nor wrapped. -/
theorem inert_of_family {f : Family} (inside : r.index < st.objects.size)
    (next : (st.get r).prototype = .family f) (other : f.isA (.template .prompt) = false)
    (plain : f.isWrapper = false) : st.Inert interp (.object r) := by
  intro q hq
  cases List.mem_singleton.mp hq
  refine ⟨inside, some f, .family next, fun g hg => ?_⟩
  cases hg
  exact ⟨other, fun wrapper => nomatch plain.symm.trans wrapper⟩

/-! ### Copies -/

/-- What the copy of an inert object starts from: an object of a built-in kind, a
    wrapped value with nothing besides, or an object with the same prototype. -/
inductive InertShell (st : Store) (r : Ref) (o : Object) : Prop
  | family {f : Family} (next : o.prototype = .family f)
      (other : f.isA (.template .prompt) = false) (plain : f.isWrapper = false)
  | boxed {v : Value} (simple : v.wrapper = .string ∨ v.wrapper = .number ∨ v.wrapper = .boolean)
      (whole : o = .ofBody (.boxed v))
  | same (next : o.prototype = (st.get r).prototype)
      (plain : ∀ f, st.EndsIn (some f) r → f.isWrapper = false)

/-- The shell around a value that is no object. -/
theorem inertShell_wrapperShell (simple : v.refs = []) :
    ∃ o, (st.wrapperShell (.existing v)).2 = .object o ∧ st.InertShell r o := by
  cases v with
  | object q => cases simple
  | undefined => exact ⟨_, rfl, .family rfl rfl rfl⟩
  | null => exact ⟨_, rfl, .family rfl rfl rfl⟩
  | text s => exact ⟨_, rfl, .boxed (.inl rfl) rfl⟩
  | number n => exact ⟨_, rfl, .boxed (.inr (.inl rfl)) rfl⟩
  | boolean b => exact ⟨_, rfl, .boxed (.inr (.inr rfl)) rfl⟩
  | bigint n => exact ⟨_, rfl, .family rfl rfl rfl⟩
  | symbol label => exact ⟨_, rfl, .family rfl rfl rfl⟩

/-- Of an inert object that derives from a kind that wraps values, and cannot be called,
    the copy is one of such a value. Only there something could take the place of the
    copy. -/
theorem inertShell_of_wrapped (inert : st.Inert interp (.object r))
    (object : (st.get r).isFunction = false)
    (wrapped : st.inherits r .string = true ∨ st.inherits r .number = true
      ∨ st.inherits r .boolean = true) {answer : Answer}
    (given : st.invoke interp "value" r "valueOf" = .ok answer) :
    ∃ o, (st.wrapperShell answer).2 = .object o ∧ st.InertShell r o := by
  rcases inert r List.mem_cons_self with ⟨-, root, ends, kinds⟩
  have wrapper : ∃ f ∈ root, f.isWrapper = true := by
    rcases wrapped with string | number | boolean
    · rcases ends.of_inherits string with ⟨f, hf, isA⟩
      exact ⟨f, hf, by simp [Family.isWrapper, isA]⟩
    · rcases ends.of_inherits number with ⟨f, hf, isA⟩
      exact ⟨f, hf, by simp [Family.isWrapper, isA]⟩
    · rcases ends.of_inherits boolean with ⟨f, hf, isA⟩
      exact ⟨f, hf, by simp [Family.isWrapper, isA]⟩
  rcases wrapper with ⟨f, hf, isWrapper⟩
  rcases (kinds f hf).2 isWrapper with callable | simple
  · rw [object] at callable
    cases callable
  · rcases simple (.refl st) given with ⟨v, rfl, refs⟩
    exact inertShell_wrapperShell refs

/-- An inert object that cannot be called has a shell of such a kind, if it has
    one. -/
theorem inertShell_of_shell (inert : st.Inert interp (.object r))
    (object : (st.get r).isFunction = false) {shell : Shell}
    (h : st.shell interp r = .ok (st', shell)) :
    ∃ o, shell = .object o ∧ st.InertShell r o := by
  rcases inert r List.mem_cons_self with ⟨inside, -⟩
  cases shellOf_shell h with
  | @made b f _ family kind =>
      refine ⟨_, rfl, .family (congrArg Prototype.family family) (kind _ (by decide)) ?_⟩
      refine List.any_eq_false.mpr fun g mem => Bool.eq_false_iff.mp (kind g ?_)
      exact List.mem_append_left [.template .prompt] mem
  | wrapped kind given => exact inertShell_of_wrapped inert object kind given
  | array body visited => exact ⟨_, rfl, .family rfl rfl rfl⟩
  | map body => exact ⟨_, rfl, .family rfl rfl rfl⟩
  | set body => exact ⟨_, rfl, .family rfl rfl rfl⟩
  | same kind =>
      refine ⟨_, rfl, .same rfl fun f ends => List.any_eq_false.mpr fun g mem => ?_⟩
      rw [← ends.inherits_eq inside, kind g mem]
      exact Bool.false_ne_true

/-- What has such a shell as its start is inert. -/
theorem InertShell.inert (shell : st.InertShell r o) (inert : st.Inert interp (.object r))
    (h : st.Later st') (inside : q.index < st'.objects.size) {vs : List Value}
    (there : st'.get q = o.withParts vs) : st'.Inert interp (.object q) := by
  have prototype : (st'.get q).prototype = o.prototype := by
    rw [there]
    rfl
  cases shell with
  | family next other plain => exact inert_of_family inside (prototype.trans next) other plain
  | @boxed v simple whole =>
      -- A wrapped value holds nothing, so there is nothing to fill it with.
      have same : st'.get q = .ofBody (.boxed v) := by
        rw [there, whole]
        rfl
      intro p hp
      cases List.mem_singleton.mp hp
      refine ⟨inside, some v.wrapper, .family (by rw [same]; rfl), fun f hf => ?_⟩
      cases hf
      refine ⟨?_, fun _ => .inr (givesSimple_of_boxed simple same)⟩
      rcases simple with h | h | h <;> rw [h] <;> rfl
  | same next plain =>
      rcases inert r List.mem_cons_self with ⟨-, root, ends, kinds⟩
      intro p hp
      cases List.mem_singleton.mp hp
      refine ⟨inside, root, ends.of_prototype h (prototype.trans next), fun f hf => ?_⟩
      refine ⟨(kinds f hf).1, fun wrapper => ?_⟩
      cases hf
      exact nomatch (plain f ends).symm.trans wrapper

/-- The copy of an inert value is inert. -/
theorem inert_copy (inert : st.Inert interp v) (h : st.copy interp v = .ok (st', w)) :
    st'.Inert interp w := by
  have grown := extends_copy h
  rcases ok_of_bind h with ⟨⟨state, copy⟩, copied, same⟩
  cases same
  cases v with
  | object r =>
      cases copyOf_value copied with
      | function callable => exact inert
      | known object found => cases found
      | finished object found =>
          rcases inertShell_of_shell inert object found with ⟨o, same, -⟩
          cases same
      | @filled st₁ o filled vs object found each =>
          rcases inertShell_of_shell inert object found with ⟨_, same, start⟩
          cases same
          -- The shell is filled when all that it holds was copied, and stays where it was
          -- put.
          have more := extends_each (fun h => extends_copyingValue h) each
          have inside : st₁.next.index < filled.store.objects.size :=
            Nat.lt_of_lt_of_le (index_next_lt st₁ o) more.size_le
          refine start.inert inert (.of_extends grown) ?_ (get_write_self inside)
          rw [size_write]
          exact inside
  | _ =>
      cases copied
      exact inert_of_simple rfl

end Store

end Stencil
