import Mathlib.Data.List.Zip
import Stencil.Proofs.Depth
import Stencil.Object

/-!
# Templates Among Defaults

A default may be a template, which has defaults in turn.

What is said of a default is often said of all that is stored inside it: something of
each template, at any depth, and something of everything else. `Nested` says such
things of one value. What is said of a value and of a copy of it has the same shape,
with two templates whose defaults are under the same keys. `Paired` says such things.
Both take as parameters what is said of templates and of the rest, and it is there that
stores come in.

A value may be nested and yet lead to the same template along several ways. What it
does not do is to lead from a template to itself. So nothing is nested deeper than
there are addresses, and that is enough of an allowance.

## Main definitions

* `Nested`: Something holds at all depths of a value.
* `NestedWithin`: The same, at most so deep.
* `Paired`: Something holds of two values at all depths.

## Theorems

* `Nested.within`, `nestedWithin_bound`: Templates are not nested deeper than there are
  addresses.
* `Paired.imp`, `Paired.symm`, `Paired.trans`: What holds of pairs follows from what
  holds at each depth.
-/

namespace Stencil

/-! ### One value -/

/-- Something holds of each template inside of a value, and something else of what is no
    template. -/
inductive Nested (leaf : Value → Prop) (node : Ref → Template → Prop) : Value → Prop
  | leaf {v : Value} (holds : leaf v) : Nested leaf node v
  | template {r : Ref} {t : Template} (holds : node r t)
      (defaults : ∀ e ∈ t.defaults, Nested leaf node e.2) : Nested leaf node (.object r)

/-- The same of a template at an address, where templates are nested at most so deep. -/
def NestedWithin (leaf : Value → Prop) (node : Ref → Template → Prop) : Nat → Ref → Prop
  | 0, _ => False
  | depth + 1, r => ∃ t, node r t ∧ ∀ e ∈ t.defaults,
      leaf e.2 ∨ ∃ q, e.2 = .object q ∧ NestedWithin leaf node depth q

section

variable {leaf leaf' : Value → Prop} {node node' : Ref → Template → Prop} {v : Value} {r : Ref}

theorem Nested.imp (nested : Nested leaf node v) (leaves : ∀ v, leaf v → leaf' v)
    (nodes : ∀ r t, node r t → node' r t) : Nested leaf' node' v := by
  induction nested with
  | leaf holds => exact .leaf (leaves _ holds)
  | template holds _ ih => exact .template (nodes _ _ holds) ih

theorem nestedWithin_succ (depth : Nat) (r : Ref) (nested : NestedWithin leaf node depth r) :
    NestedWithin leaf node (depth + 1) r := by
  induction depth generalizing r with
  | zero => exact absurd nested not_false
  | succ depth ih =>
      rcases nested with ⟨t, here, defaults⟩
      refine ⟨t, here, fun e he => ?_⟩
      rcases defaults e he with simple | ⟨q, same, inner⟩
      · exact .inl simple
      · exact .inr ⟨q, same, ih q inner⟩

/-- There is a depth for what is nested. -/
theorem Nested.within (nested : Nested leaf node v) :
    leaf v ∨ ∃ q depth, v = .object q ∧ NestedWithin leaf node depth q := by
  induction nested with
  | leaf simple => exact .inl simple
  | @template r t here _ ih =>
      -- A depth for all defaults together is the greatest of theirs.
      have deepest : ∀ entries : List (String × Value), (∀ e ∈ entries, e ∈ t.defaults) →
          ∃ depth, ∀ e ∈ entries, leaf e.2 ∨ ∃ q, e.2 = .object q
            ∧ NestedWithin leaf node depth q := by
        intro entries
        induction entries with
        | nil => exact fun _ => ⟨0, fun _ mem => absurd mem List.not_mem_nil⟩
        | cons d entries deeper =>
            intro among
            rcases deeper fun e he => among e (List.mem_cons_of_mem _ he) with ⟨depth, rest⟩
            have more : ∀ m, depth ≤ m → ∀ e ∈ entries, leaf e.2 ∨ ∃ q, e.2 = .object q
                ∧ NestedWithin leaf node m q := by
              intro m le e he
              rcases rest e he with simple | ⟨q, same, inner⟩
              · exact .inl simple
              · exact .inr ⟨q, same, enough_of_le nestedWithin_succ le inner⟩
            rcases ih d (among d List.mem_cons_self) with simple | ⟨q, m, same, inner⟩
            · refine ⟨depth, fun e he => ?_⟩
              rcases List.mem_cons.mp he with rfl | he
              · exact .inl simple
              · exact rest e he
            · refine ⟨max depth m, fun e he => ?_⟩
              rcases List.mem_cons.mp he with rfl | he
              · exact .inr ⟨q, same, enough_of_le nestedWithin_succ (Nat.le_max_right _ _) inner⟩
              · exact more _ (Nat.le_max_left _ _) e he
      rcases deepest t.defaults (fun _ he => he) with ⟨depth, defaults⟩
      exact .inr ⟨r, depth + 1, rfl, t, here, defaults⟩

/-- Templates are not nested deeper than there are addresses. -/
theorem nestedWithin_bound {depth bound : Nat} (nested : NestedWithin leaf node depth r)
    (inside : ∀ q t, node q t → q.index < bound) : NestedWithin leaf node bound r := by
  refine succeeds_within (P := NestedWithin leaf node) nestedWithin_succ ?_ ?_ nested
  · intro n q nested
    cases n with
    | zero => exact absurd nested not_false
    | succ n =>
        rcases nested with ⟨t, here, -⟩
        exact inside q t here
  · intro n q nested short
    by_contra none
    -- If all that is stored inside needed less depth, so would the template.
    rcases nested with ⟨t, here, defaults⟩
    refine short ⟨t, here, fun e he => ?_⟩
    rcases defaults e he with simple | ⟨p, same, inner⟩
    · exact .inl simple
    · refine .inr ⟨p, same, ?_⟩
      by_contra deeper
      exact none ⟨p, inner, deeper⟩

end

/-! ### Two values -/

/-- Between two entries at the same position there is one of each list in between. -/
theorem exists_mem_zip {α β γ : Type} {as : List α} {bs : List β} {cs : List γ} {a : α} {c : γ}
    (length : as.length = bs.length) (mem : (a, c) ∈ as.zip cs) :
    ∃ b, (a, b) ∈ as.zip bs ∧ (b, c) ∈ bs.zip cs := by
  induction as generalizing bs cs with
  | nil => cases mem
  | cons a' as ih =>
      cases bs with
      | nil => cases length
      | cons b bs =>
          cases cs with
          | nil => cases mem
          | cons c' cs =>
              rcases List.mem_cons.mp mem with same | rest
              · cases same
                exact ⟨b, List.mem_cons_self, List.mem_cons_self⟩
              · rcases ih (Nat.succ.inj length) rest with ⟨b', first, second⟩
                exact ⟨b', List.mem_cons_of_mem _ first, List.mem_cons_of_mem _ second⟩

/-- Something holds of each two templates that are at the same place inside of two values,
    and something else of what is no template. Defaults are at the same place if they are
    under the same key. -/
inductive Paired (leaf : Value → Value → Prop)
    (node : Ref → Template → Ref → Template → Prop) : Value → Value → Prop
  | leaf {v w : Value} (holds : leaf v w) : Paired leaf node v w
  | template {r q : Ref} {t u : Template} (holds : node r t q u)
      (keys : t.defaults.map Prod.fst = u.defaults.map Prod.fst)
      (values : ∀ e d, (e, d) ∈ t.defaults.zip u.defaults → Paired leaf node e.2 d.2) :
      Paired leaf node (.object r) (.object q)

namespace Paired

variable {leaf leaf' leaf'' : Value → Value → Prop}
  {node node' node'' : Ref → Template → Ref → Template → Prop} {v w x : Value}

theorem imp (paired : Paired leaf node v w) (leaves : ∀ v w, leaf v w → leaf' v w)
    (nodes : ∀ r t q u, node r t q u → node' r t q u) : Paired leaf' node' v w := by
  induction paired with
  | leaf holds => exact .leaf (leaves _ _ holds)
  | template holds keys _ ih => exact .template (nodes _ _ _ _ holds) keys ih

theorem symm (paired : Paired leaf node v w) :
    Paired (fun v w => leaf w v) (fun r t q u => node q u r t) w v := by
  induction paired with
  | leaf holds => exact .leaf holds
  | template holds keys _ ih =>
      refine .template holds keys.symm fun e d mem => ih d e ?_
      rw [← List.zip_swap]
      exact List.mem_map.mpr ⟨(e, d), mem, rfl⟩

/-- What is at the same place as a third value at each depth. Nothing may be a template
    for one pair and none for the other. -/
theorem trans (first : Paired leaf node v w) (second : Paired leaf' node' w x)
    (leaves : ∀ v w x, leaf v w → leaf' w x → leaf'' v x)
    (nodes : ∀ r t q u p s u', node r t q u → node' q u' p s → u' = u ∧ node'' r t p s)
    (apart : ∀ v q u p s, leaf v (.object q) → ¬ node' q u p s)
    (apart' : ∀ r t q u x, node r t q u → ¬ leaf' (.object q) x) :
    Paired leaf'' node'' v x := by
  induction first generalizing x with
  | leaf holds =>
      cases second with
      | leaf holds' => exact .leaf (leaves _ _ _ holds holds')
      | template holds' => exact absurd holds' (apart _ _ _ _ _ holds)
  | template holds keys _ ih =>
      cases second with
      | leaf holds' => exact absurd holds' (apart' _ _ _ _ _ holds)
      | template holds' keys' values' =>
          rcases nodes _ _ _ _ _ _ _ holds holds' with ⟨rfl, composed⟩
          refine .template composed (keys.trans keys') fun e d mem => ?_
          have length := congrArg List.length keys
          rw [List.length_map, List.length_map] at length
          rcases exists_mem_zip length mem with ⟨m, mem, mem'⟩
          exact ih e m mem (values' m d mem')

end Paired

end Stencil
