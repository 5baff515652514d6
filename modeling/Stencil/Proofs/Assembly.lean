import Mathlib.Logic.Relation
import Stencil.Proofs.Depth
import Stencil.Proofs.GraphCopies
import Stencil.Proofs.RenderOutcome
import Stencil.Store.Json

/-!
# Documents Out of Parts

How a document comes out of what each value shows of itself, whatever values
are.

A value shows a finished document or parts, and a document with parts is made of
the documents of these. What is written is followed by an allowance of depth, and
by the objects that parts belong to: no object is written inside itself. Parts
that belong to nothing escape that, so a cycle of such values only ends with the
allowance.

A document is made exactly if everything that is met shows something and nothing
is met inside itself. In one direction, whatever is met is given less allowance
than what it was met from, so on a cycle the allowance would be less than itself.
In the other, the objects that a value is inside of are different ones, and there
are no more of them than objects.

Where there are cycles, the outcome still does not depend on the allowance if
there is enough of it. Take the values that are followed one inside another while
the allowance is short by one. Each of them needs one more level than the next,
so none is met twice while the path is the same, and the path only grows. That
bounds their number by the square of the number of objects.

## Main definitions

* `Facet`, `View`: What values show.
* `View.assemble`: The document of a value.
* `View.Shows`: The parts of a value.
* `View.Grounded`: Only objects below a bound have parts.
* `Facet.rename`: What is shown, under other addresses.

## Theorems

* `View.not_cyclic_of_ok`, `View.exists_facet_of_ok`: What is met on the way to a
  document.
* `View.exists_document`: When there is a document.
* `View.assemble_of_le`: More depth than enough changes nothing.
* `View.assemble_rename`: Views that show the same under other addresses.
-/

namespace Stencil

/-- What is raised is a new error. -/
def Thrown.IsFault (e : Thrown) : Prop :=
  ∃ kind message, e = .fault kind message

/-- What a value shows of itself. -/
inductive Facet where
  /-- A finished document, or nothing. -/
  | done (document : Option Json)
  /-- Parts that are written in turn and then joined, and the object that they
      belong to. -/
  | parts (owner : Option Ref) (values : List Value) (join : List (Option Json) → Json)

/-- What every value shows, unless it is refused. -/
abbrev View := Value → Except Thrown Facet

namespace View

/-- The document of a value, with an allowance of depth. `path` are the objects
    that it is written inside of. -/
def assemble (view : View) : Nat → List Ref → Value → Except Thrown (Option Json)
  | 0, _, _ => .error .tooDeep
  | allowance + 1, path, v => do
    match ← view v with
    | .done document => return document
    | .parts owner values join => do
      let path ← Store.enter path owner
      let documents ← values.mapM (assemble view allowance path)
      return some (join documents)

/-- One value is a part of another. -/
def Shows (view : View) (v w : Value) : Prop :=
  ∃ owner values join, view v = .ok (.parts owner values join) ∧ w ∈ values

/-- In a closed set of values, only objects below a bound have parts, and parts
    belong to the object that shows them or to nothing. -/
structure Grounded (view : View) (V : Set Value) (bound : Nat) : Prop where
  object : ∀ v ∈ V, ∀ owner values join, view v = .ok (.parts owner values join) →
    ∃ r, v = .object r ∧ r.index < bound ∧ ∀ q ∈ owner, q = r
  closed : ∀ v ∈ V, ∀ w, view.Shows v w → w ∈ V

end View

/-! ### Lists of computations -/

section

variable {α β ε : Type} {f g : α → Except ε β} {xs : List α}

theorem exists_ok_of_map {h : α → β} {x : Except ε α} {b : β} (gives : x.map h = .ok b) :
    ∃ a, x = .ok a := by
  cases x with
  | error e => cases gives
  | ok a => exact ⟨a, rfl⟩

theorem map_eq_error_iff {h : α → β} {x : Except ε α} {e : ε} :
    x.map h = .error e ↔ x = .error e := by
  cases x with
  | error d => exact ⟨fun same => congrArg _ (Except.error.inj same), fun same =>
      congrArg _ (Except.error.inj same)⟩
  | ok a => exact ⟨nofun, nofun⟩

theorem exists_mapM_ok (fine : ∀ a ∈ xs, ∃ b, f a = .ok b) : ∃ bs, xs.mapM f = .ok bs := by
  induction xs with
  | nil => exact ⟨[], rfl⟩
  | cons a xs ih =>
      rcases fine a List.mem_cons_self with ⟨b, here⟩
      rcases ih fun c hc => fine c (List.mem_cons_of_mem a hc) with ⟨bs, rest⟩
      exact ⟨b :: bs, by rw [List.mapM_cons, here, rest]; rfl⟩

theorem exists_error_of_mapM {e : ε} (fails : xs.mapM f = .error e) : ∃ a ∈ xs, f a = .error e := by
  induction xs with
  | nil => cases fails
  | cons a xs ih =>
      rw [List.mapM_cons] at fails
      cases here : f a with
      | error d =>
          rw [here] at fails
          cases fails
          exact ⟨a, List.mem_cons_self, here⟩
      | ok b =>
          rw [here] at fails
          change (xs.mapM f >>= _) = _ at fails
          cases rest : xs.mapM f with
          | error d =>
              rw [rest] at fails
              cases fails
              rcases ih rest with ⟨c, mem, there⟩
              exact ⟨c, List.mem_cons_of_mem a mem, there⟩
          | ok bs =>
              rw [rest] at fails
              cases fails

/-- If one error is all that can turn into something else, and the computations
    end otherwise, they end the same. -/
theorem mapM_settles {e : ε} (settles : ∀ a ∈ xs, f a ≠ .error e → g a = f a)
    (other : xs.mapM f ≠ .error e) : xs.mapM g = xs.mapM f := by
  induction xs with
  | nil => rfl
  | cons a xs ih =>
      have here : f a ≠ .error e := by
        intro fails
        rw [List.mapM_cons, fails] at other
        exact other rfl
      rw [List.mapM_cons, List.mapM_cons, settles a List.mem_cons_self here]
      cases first : f a with
      | error _ => rfl
      | ok b =>
          have rest : xs.mapM f ≠ .error e := by
            intro fails
            rw [List.mapM_cons, first, fails] at other
            exact other rfl
          rw [ih (fun c hc => settles c (List.mem_cons_of_mem a hc)) rest]

/-- Where the error turns into something else, it does so at an element. -/
theorem exists_settling {e : ε} (settles : ∀ a ∈ xs, f a ≠ .error e → g a = f a)
    (early : xs.mapM f = .error e) (late : xs.mapM g ≠ .error e) :
    ∃ a ∈ xs, f a = .error e ∧ g a ≠ .error e := by
  by_contra none
  have same : ∀ a ∈ xs, g a = f a := by
    intro a mem
    by_cases fails : f a = .error e
    · by_contra other
      exact none ⟨a, mem, fails, fun again => other (again.trans fails.symm)⟩
    · exact settles a mem fails
  exact late ((mapM_congr same).trans early)

end

/-- Different addresses below a bound are no more than the bound. -/
theorem length_le_of_nodup {refs : List Ref} {bound : Nat} (nodup : refs.Nodup)
    (inside : ∀ r ∈ refs, r.index < bound) : refs.length ≤ bound := by
  have distinct : (refs.map Ref.index).Nodup :=
    List.Nodup.map (fun _ _ same => Ref.eq_of_index same) nodup
  have among : refs.map Ref.index ⊆ List.range bound := by
    intro i hi
    rcases List.mem_map.mp hi with ⟨r, hr, rfl⟩
    exact List.mem_range.mpr (inside r hr)
  have length := (List.subperm_of_subset distinct among).length_le
  rwa [List.length_map, List.length_range] at length

namespace View

variable {view : View} {V : Set Value} {bound n : Nat} {path : List Ref} {v w : Value}
  {d : Option Json}

/-! ### One level -/

theorem enter_eq_ok {owner : Option Ref} {inner : List Ref}
    (h : Store.enter path owner = .ok inner) :
    (owner = none ∧ inner = path) ∨ ∃ r, owner = some r ∧ r ∉ path ∧ inner = r :: path := by
  cases owner with
  | none =>
      cases h
      exact .inl ⟨rfl, rfl⟩
  | some r =>
      rw [Store.enter] at h
      split at h
      · cases h
      · next absent =>
          cases h
          exact .inr ⟨r, rfl, absent, rfl⟩

theorem assemble_parts {owner : Option Ref} {values : List Value}
    {join : List (Option Json) → Json} {inner : List Ref}
    (shown : view v = .ok (.parts owner values join))
    (entered : Store.enter path owner = .ok inner) :
    view.assemble (n + 1) path v
      = (values.mapM (view.assemble n inner)).map fun documents => some (join documents) := by
  rw [assemble, shown]
  change (Store.enter path owner >>= _) = _
  rw [entered]
  rfl

/-- What is met inside itself is refused. -/
theorem assemble_circular {owner : Option Ref} {values : List Value}
    {join : List (Option Json) → Json} {e : Thrown}
    (shown : view v = .ok (.parts owner values join))
    (refused : Store.enter path owner = .error e) :
    view.assemble (n + 1) path v = .error e := by
  rw [assemble, shown]
  change (Store.enter path owner >>= _) = _
  rw [refused]
  rfl

theorem assemble_done (shown : view v = .ok (.done d)) :
    view.assemble (n + 1) path v = .ok d := by
  rw [assemble, shown]
  rfl

theorem assemble_refused {e : Thrown} (refused : view v = .error e) :
    view.assemble (n + 1) path v = .error e := by
  rw [assemble, refused]
  rfl

/-- Where all that is refused is refused with a new error, nothing else is raised. -/
theorem isFault_of_error (closed : ∀ v ∈ V, ∀ w, view.Shows v w → w ∈ V)
    (faults : ∀ v ∈ V, ∀ e, view v = .error e → e.IsFault) (hv : v ∈ V) {e : Thrown}
    (fails : view.assemble n path v = .error e) : e.IsFault := by
  induction n generalizing path v with
  | zero =>
      cases fails
      exact ⟨_, _, rfl⟩
  | succ n ih =>
      cases shown : view v with
      | error d =>
          rw [assemble_refused shown] at fails
          cases fails
          exact faults v hv _ shown
      | ok facet =>
          cases facet with
          | done d =>
              rw [assemble_done shown] at fails
              cases fails
          | parts owner values join =>
              cases entered : Store.enter path owner with
              | error d =>
                  rw [assemble_circular shown entered] at fails
                  cases fails
                  cases owner with
                  | none => cases entered
                  | some r =>
                      rw [Store.enter] at entered
                      split at entered
                      · cases entered
                        exact ⟨_, _, rfl⟩
                      · cases entered
              | ok inner =>
                  rw [assemble_parts shown entered] at fails
                  rcases exists_error_of_mapM (map_eq_error_iff.mp fails) with ⟨w, mem, here⟩
                  exact ih (closed v hv w ⟨owner, values, join, shown, mem⟩) here

/-- What shows parts is not nothing. -/
theorem exists_of_parts (parts : ∀ e, view v ≠ .ok (.done e))
    (gives : view.assemble n path v = .ok d) : ∃ j, d = some j := by
  cases n with
  | zero => cases gives
  | succ n =>
      cases shown : view v with
      | error e =>
          rw [assemble_refused shown] at gives
          cases gives
      | ok facet =>
          cases facet with
          | done e => exact absurd shown (parts e)
          | parts owner values join =>
              cases entered : Store.enter path owner with
              | error e =>
                  rw [assemble_circular shown entered] at gives
                  cases gives
              | ok inner =>
                  rw [assemble_parts shown entered] at gives
                  cases each : values.mapM (view.assemble n inner) with
                  | error e =>
                      rw [each] at gives
                      cases gives
                  | ok documents =>
                      rw [each] at gives
                      cases gives
                      exact ⟨_, rfl⟩

/-! ### What is met -/

/-- The parts of what has a document have documents, for which there was less
    allowance. -/
theorem exists_of_shows (gives : view.assemble n path v = .ok d) (shows : view.Shows v w) :
    ∃ m < n, ∃ inner e, view.assemble m inner w = .ok e := by
  rcases shows with ⟨owner, values, join, shown, mem⟩
  cases n with
  | zero => cases gives
  | succ n =>
      cases entered : Store.enter path owner with
      | error e =>
          rw [assemble_circular shown entered] at gives
          cases gives
      | ok inner =>
          rw [assemble_parts shown entered] at gives
          rcases exists_ok_of_map gives with ⟨documents, each⟩
          rcases exists_ok_of_mapM each w mem with ⟨e, he⟩
          exact ⟨n, Nat.lt_succ_self n, inner, e, he⟩

theorem exists_of_reaches (gives : view.assemble n path v = .ok d)
    (reached : Relation.TransGen view.Shows v w) :
    ∃ m < n, ∃ inner e, view.assemble m inner w = .ok e := by
  induction reached with
  | single shows => exact exists_of_shows gives shows
  | tail _ shows ih =>
      rcases ih with ⟨m, less, inner, e, he⟩
      rcases exists_of_shows he shows with ⟨k, less', rest⟩
      exact ⟨k, less'.trans less, rest⟩

/-- What has a document is not met inside itself: the allowance would be less than
    itself. -/
theorem not_cyclic_of_ok (gives : view.assemble n path v = .ok d) :
    ¬ Relation.TransGen view.Shows v v := by
  intro cycle
  induction n using Nat.strongRecOn generalizing path d with
  | ind n ih =>
      rcases exists_of_reaches gives cycle with ⟨m, less, inner, e, he⟩
      exact ih m less he

/-- Everything that is met on the way to a document shows something, and is not met
    inside itself. -/
theorem exists_facet_of_ok (gives : view.assemble n path v = .ok d)
    (reached : Relation.ReflTransGen view.Shows v w) :
    (∃ facet, view w = .ok facet) ∧ ¬ Relation.TransGen view.Shows w w := by
  have met : ∃ m inner e, view.assemble m inner w = .ok e := by
    rcases Relation.reflTransGen_iff_eq_or_transGen.mp reached with rfl | reached
    · exact ⟨n, path, d, gives⟩
    · rcases exists_of_reaches gives reached with ⟨m, -, inner, e, he⟩
      exact ⟨m, inner, e, he⟩
  rcases met with ⟨m, inner, e, he⟩
  refine ⟨?_, not_cyclic_of_ok he⟩
  cases m with
  | zero => cases he
  | succ m =>
      cases shown : view w with
      | ok facet => exact ⟨facet, rfl⟩
      | error _ =>
          rw [assemble_refused shown] at he
          cases he

/-- Where everything that is met shows something and nothing is met inside itself,
    there is a document. `trail` are all objects that the value is inside of. -/
theorem exists_document_from (grounded : view.Grounded V bound) {trail : List Ref} (hv : v ∈ V)
    (distinct : trail.Nodup)
    (above : ∀ r ∈ trail, r.index < bound ∧ Relation.TransGen view.Shows (.object r) v)
    (among : ∀ r ∈ path, r ∈ trail) (enough : bound < n + trail.length)
    (fine : ∀ w, Relation.ReflTransGen view.Shows v w →
      (∃ facet, view w = .ok facet) ∧ ¬ Relation.TransGen view.Shows w w) :
    ∃ d, view.assemble n path v = .ok d := by
  induction n generalizing v trail path with
  | zero =>
      have few := length_le_of_nodup distinct fun r hr => (above r hr).1
      omega
  | succ n ih =>
      rcases fine v .refl with ⟨⟨facet, shown⟩, acyclic⟩
      cases facet with
      | done d => exact ⟨d, assemble_done shown⟩
      | parts owner values join =>
          rcases grounded.object v hv owner values join shown with ⟨r, rfl, inside, own⟩
          -- The object is none of those that it is inside of, so it can be entered.
          have new : r ∉ trail := fun mem => acyclic (above r mem).2
          have entered : ∃ inner, Store.enter path owner = .ok inner
              ∧ ∀ q ∈ inner, q ∈ r :: trail := by
            cases owner with
            | none => exact ⟨path, rfl, fun q hq => List.mem_cons_of_mem r (among q hq)⟩
            | some q =>
                rcases own q rfl with rfl
                refine ⟨q :: path, if_neg fun mem => new (among q mem), fun p hp => ?_⟩
                rcases List.mem_cons.mp hp with rfl | hp
                · exact List.mem_cons_self
                · exact List.mem_cons_of_mem q (among p hp)
          rcases entered with ⟨inner, enters, within⟩
          have each : ∀ w ∈ values, ∃ d, view.assemble n inner w = .ok d := by
            intro w mem
            have shows : view.Shows (.object r) w := ⟨owner, values, join, shown, mem⟩
            refine ih (grounded.closed _ hv w shows) (List.nodup_cons.mpr ⟨new, distinct⟩) ?_
              within (by rw [List.length_cons]; omega) fun u reached => fine u ?_
            · intro q hq
              rcases List.mem_cons.mp hq with rfl | hq
              · exact ⟨inside, .single shows⟩
              · exact ⟨(above q hq).1, (above q hq).2.tail shows⟩
            · exact Relation.ReflTransGen.head shows reached
          rcases exists_mapM_ok each with ⟨documents, gives⟩
          exact ⟨some (join documents), by rw [assemble_parts shown enters, gives]; rfl⟩

theorem exists_document (grounded : view.Grounded V bound) (hv : v ∈ V) (enough : bound < n)
    (fine : ∀ w, Relation.ReflTransGen view.Shows v w →
      (∃ facet, view w = .ok facet) ∧ ¬ Relation.TransGen view.Shows w w) :
    ∃ d, view.assemble n [] v = .ok d :=
  exists_document_from grounded hv List.nodup_nil (fun _ mem => absurd mem List.not_mem_nil)
    (fun _ mem => absurd mem List.not_mem_nil) enough fine

/-! ### Enough depth -/

/-- What does not end for lack of depth ends the same with more of it. -/
theorem assemble_succ (settled : view.assemble n path v ≠ .error .tooDeep) :
    view.assemble (n + 1) path v = view.assemble n path v := by
  induction n generalizing path v with
  | zero => exact absurd rfl settled
  | succ n ih =>
      cases shown : view v with
      | error e => rw [assemble_refused shown, assemble_refused shown]
      | ok facet =>
          cases facet with
          | done d => rw [assemble_done shown, assemble_done shown]
          | parts owner values join =>
              cases entered : Store.enter path owner with
              | error e => rw [assemble_circular shown entered, assemble_circular shown entered]
              | ok inner =>
                  rw [assemble_parts shown entered] at settled
                  have rest : values.mapM (view.assemble n inner) ≠ .error .tooDeep :=
                    fun short => settled (map_eq_error_iff.mpr short)
                  rw [assemble_parts shown entered, assemble_parts shown entered,
                    mapM_settles (fun w _ h => ih h) rest]

theorem assemble_eq_of_le {m : Nat} (le : n ≤ m)
    (settled : view.assemble n path v ≠ .error .tooDeep) :
    view.assemble m path v = view.assemble n path v := by
  induction le with
  | refl => rfl
  | step _ ih => rw [assemble_succ (ih ▸ settled), ih]

/-- What needs one level more than there is has a part that does. -/
theorem exists_late_part (late : view.assemble (n + 1) path v = .error .tooDeep)
    (settled : view.assemble (n + 2) path v ≠ .error .tooDeep) :
    ∃ owner values join inner w, view v = .ok (.parts owner values join)
      ∧ Store.enter path owner = .ok inner ∧ w ∈ values
      ∧ view.assemble n inner w = .error .tooDeep
      ∧ view.assemble (n + 1) inner w ≠ .error .tooDeep := by
  cases shown : view v with
  | error e =>
      rw [assemble_refused shown] at late settled
      exact absurd late settled
  | ok facet =>
      cases facet with
      | done d =>
          rw [assemble_done shown] at late
          cases late
      | parts owner values join =>
          cases entered : Store.enter path owner with
          | error e =>
              rw [assemble_circular shown entered] at late settled
              exact absurd late settled
          | ok inner =>
              rw [assemble_parts shown entered] at late settled
              have early := map_eq_error_iff.mp late
              have later : values.mapM (view.assemble (n + 1) inner) ≠ .error .tooDeep :=
                fun short => settled (map_eq_error_iff.mpr short)
              rcases exists_settling (fun w _ h => assemble_succ h) early later with
                ⟨w, mem, short, fine⟩
              exact ⟨owner, values, join, inner, w, rfl, entered, mem, short, fine⟩

/-- A bound on the depth that is needed at all. `seen` are the objects that were met
    since the path is the same, all of which need more. -/
theorem depth_le (grounded : view.Grounded V bound) {seen : List Ref} (hv : v ∈ V)
    (path_nodup : path.Nodup) (path_inside : ∀ r ∈ path, r.index < bound)
    (seen_nodup : seen.Nodup) (seen_inside : ∀ r ∈ seen, r.index < bound)
    (more : ∀ r ∈ seen, view.assemble (n + 1) path (.object r) = .error .tooDeep)
    (late : view.assemble n path v = .error .tooDeep)
    (settled : view.assemble (n + 1) path v ≠ .error .tooDeep) :
    n ≤ (bound - path.length) * (bound + 1) + (bound - seen.length) := by
  induction n generalizing path seen v with
  | zero => exact Nat.zero_le _
  | succ n ih =>
      rcases exists_late_part late settled with
        ⟨owner, values, join, inner, w, shown, entered, mem, short, fine⟩
      rcases grounded.object v hv owner values join shown with ⟨r, rfl, inside, own⟩
      have hw := grounded.closed _ hv w ⟨owner, values, join, shown, mem⟩
      rcases enter_eq_ok entered with ⟨-, rfl⟩ | ⟨q, same, absent, rfl⟩
      · -- The path is the same, and this object is seen now.
        have new : r ∉ seen := fun again => settled (more r again)
        have distinct := List.nodup_cons.mpr ⟨new, seen_nodup⟩
        have below : ∀ q ∈ r :: seen, q.index < bound := by
          intro q hq
          rcases List.mem_cons.mp hq with rfl | hq
          · exact inside
          · exact seen_inside q hq
        have few := length_le_of_nodup distinct below
        have rest := ih hw path_nodup path_inside distinct below (by
          intro q hq
          rcases List.mem_cons.mp hq with rfl | hq
          · exact late
          · by_contra other
            have fails := more q hq
            rw [assemble_succ other] at fails
            exact other fails) short fine
        rw [List.length_cons] at few rest
        omega
      · -- The path grows, and nothing was seen on it yet.
        rcases own q same with rfl
        have distinct := List.nodup_cons.mpr ⟨absent, path_nodup⟩
        have below : ∀ p ∈ q :: path, p.index < bound := by
          intro p hp
          rcases List.mem_cons.mp hp with rfl | hp
          · exact inside
          · exact path_inside p hp
        have few := length_le_of_nodup distinct below
        have rest : n ≤ (bound - (q :: path).length) * (bound + 1)
            + (bound - ([] : List Ref).length) :=
          ih hw distinct below List.nodup_nil (fun _ mem => absurd mem List.not_mem_nil)
            (fun _ mem => absurd mem List.not_mem_nil) short fine
        rw [List.length_cons] at few rest
        have product : (bound - path.length) * (bound + 1)
            = (bound - (path.length + 1)) * (bound + 1) + (bound + 1) := by
          rw [← Nat.succ_mul]
          congr 1
          omega
        rw [List.length_nil] at rest
        omega

/-- More depth than enough changes nothing. -/
theorem assemble_of_le (grounded : view.Grounded V bound) (hv : v ∈ V)
    (enough : (bound + 1) * (bound + 1) ≤ n) {m : Nat} (le : n ≤ m) :
    view.assemble m [] v = view.assemble n [] v := by
  by_cases settled : view.assemble n [] v = .error .tooDeep
  · rw [settled]
    by_contra later
    -- At some depth the error turns into something else, and that is too deep.
    have first : ∃ k, n ≤ k ∧ view.assemble k [] v = .error .tooDeep
        ∧ view.assemble (k + 1) [] v ≠ .error .tooDeep := by
      by_contra none
      refine later ?_
      clear later
      induction le with
      | refl => exact settled
      | step le ih =>
          by_contra other
          exact none ⟨_, le, ih, other⟩
    rcases first with ⟨k, above, late, fine⟩
    have few : k ≤ (bound - ([] : List Ref).length) * (bound + 1)
        + (bound - ([] : List Ref).length) :=
      depth_le grounded hv List.nodup_nil (fun _ mem => absurd mem List.not_mem_nil)
        List.nodup_nil (fun _ mem => absurd mem List.not_mem_nil)
        (fun _ mem => absurd mem List.not_mem_nil) late fine
    rw [List.length_nil, Nat.sub_zero] at few
    rw [Nat.add_mul, Nat.one_mul] at enough
    omega
  · exact assemble_eq_of_le le settled

end View

/-! ### Other addresses -/

/-- What is shown, under other addresses. -/
def Facet.rename (f : Ref → Ref) : Facet → Facet
  | done document => done document
  | parts owner values join => parts (owner.map f) (values.map (Value.rename f)) join

namespace View

variable {view view' : View} {S : Set Ref} {f : Ref → Ref}

/-- The addresses of values are in a set. -/
def Over (S : Set Ref) (v : Value) : Prop :=
  ∀ q ∈ v.refs, q ∈ S

theorem enter_map (injective : Set.InjOn f S) {path : List Ref} {owner : Option Ref}
    (among : ∀ r ∈ path, r ∈ S) (own : ∀ r ∈ owner, r ∈ S) :
    Store.enter (path.map f) (owner.map f) = (Store.enter path owner).map (List.map f) := by
  cases owner with
  | none => rfl
  | some r =>
      have same : f r ∈ path.map f ↔ r ∈ path := by
        refine ⟨fun mem => ?_, List.mem_map_of_mem⟩
        rcases List.mem_map.mp mem with ⟨q, hq, image⟩
        rwa [← injective (among q hq) (own r rfl) image]
      rw [Option.map_some, Store.enter, Store.enter]
      by_cases mem : r ∈ path
      · rw [if_pos mem, if_pos (same.mpr mem)]
        rfl
      · rw [if_neg mem, if_neg fun h => mem (same.mp h)]
        rfl

/-- Where another view shows the same under other addresses, it has the same
    documents. -/
theorem assemble_rename (injective : Set.InjOn f S)
    (same : ∀ v, Over S v → view' (v.rename f) = (view v).map (Facet.rename f))
    (closed : ∀ v, Over S v → ∀ w, view.Shows v w → Over S w)
    (owned : ∀ v, Over S v → ∀ owner values join, view v = .ok (.parts owner values join) →
      ∀ r ∈ owner, r ∈ S) (n : Nat) {path : List Ref} {v : Value}
    (among : ∀ r ∈ path, r ∈ S) (covered : Over S v) :
    view'.assemble n (path.map f) (v.rename f) = view.assemble n path v := by
  -- By the allowance, for all paths at once: the path of the parts has one object more.
  induction n generalizing path v with
  | zero => rfl
  | succ n ih =>
      have image := same v covered
      cases shown : view v with
      | error e =>
          rw [shown] at image
          rw [assemble_refused shown, assemble_refused image]
      | ok facet =>
          rw [shown] at image
          cases facet with
          | done d => rw [assemble_done shown, assemble_done image]
          | parts owner values join =>
              have own := owned v covered owner values join shown
              have entering := enter_map injective among own
              cases entered : Store.enter path owner with
              | error e =>
                  rw [entered] at entering
                  rw [assemble_circular shown entered, assemble_circular image entering]
              | ok inner =>
                  rw [entered] at entering
                  have within : ∀ r ∈ inner, r ∈ S := by
                    rcases enter_eq_ok entered with ⟨-, rfl⟩ | ⟨q, rfl, -, rfl⟩
                    · exact among
                    · intro r hr
                      rcases List.mem_cons.mp hr with rfl | hr
                      · exact own r rfl
                      · exact among r hr
                  have each : (values.map (Value.rename f)).mapM (view'.assemble n (inner.map f))
                      = values.mapM (view.assemble n inner) := by
                    rw [List.mapM_map]
                    refine mapM_congr fun w mem => ?_
                    exact ih within (closed v covered w ⟨owner, values, join, shown, mem⟩)
                  rw [assemble_parts shown entered, assemble_parts image entering, each]

end View

end Stencil
