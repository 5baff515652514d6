import Mathlib.Data.List.Induction
import Stencil.Logger

/-!
# Loggers and Their Roots

Which level is in force, told from what was done.

A logger keeps a level of its own, and a child is made with the level that its
creator has at that time. None of these copies is ever brought up to date, and a
child does not even hang below its creator, but below the parent of its creator, if
there is one. That nothing comes of this is what is shown here: which level is in
force at a logger can be told without looking at any logger, from the list of what
was done. It takes two questions to that list: who was made below whom, and which
level the logger at the top was given last.

`Topmost` and `LastLevel` ask these. Neither follows the parents that the forest
stores, which `Roots` compares with whom loggers were made below. Both a step and a
run keep this.

That levels of loggers below others are of no consequence, not even for loggers that
are made later, is not seen from one forest. Two runs are compared for that, which
differ in such a level. Their forests are `Alike` all along.

Labels are simpler. A child gets its label when it is made, and only it can be given
another one.

## Main definitions

* `Forest.Step`, `Forest.after`, `Forest.run`, `Forest.grown`: What is done with
  loggers, and what it leads to.
* `Forest.AllowsAll`: Only loggers that there are take part, and children get labels.
* `Forest.Topmost`: The logger that another one is below, and that is below none.
* `Forest.LastLevel`: The level that a logger was given last.
* `Forest.Roots`: A forest stores parents that lead to the topmost loggers.
* `Forest.Alike`: Forests that differ in levels that are of no consequence.

## Theorems

* `Forest.Roots.after`, `Forest.Roots.run`: Steps and runs keep the roots.
* `Forest.Roots.topmost_iff`: The root of a logger is the topmost one above it.
* `Forest.LastLevel.level_eq`, `Forest.exists_lastLevel`: The level of a root.
* `Forest.Alike.run`, `Forest.Alike.log_eq`: Forests that are alike stay so, and
  show the same messages.
* `Forest.label_child`: The label of a child.
* `Forest.levels_follow_roots`: Which level is in force, which messages are shown,
  and behind which label.
-/

namespace Stencil

/-- No channel is silent. -/
theorem Channel.rank_lt (channel : Channel) : channel.level.rank < Level.silent.rank := by
  cases channel <;> decide

namespace Forest

/-- What is done with loggers. -/
inductive Step where
  /-- A new logger with a level, below another one or by itself. -/
  | create (level : Level) (parent : Option Nat)
  /-- A child of a logger, with what its label goes on with. -/
  | child (creator : Nat) (label : String)
  /-- A logger is given a level, or a label, or both. -/
  | configure (i : Nat) (level : Option Level) (label : Option String)

/-- What a step leads to. -/
def after (f : Forest) : Step → Forest
  | .create level parent => (f.add { level := level, parent := parent }).1
  | .child creator label => (f.child creator label).1
  | .configure i level label => f.configure i level label

/-- What steps lead to, one after the other. -/
def run (f : Forest) (steps : List Step) : Forest :=
  steps.foldl after f

/-- What steps lead to from the beginning on, when there are no loggers. The global
    one is made by the first step, if there is to be one. -/
def grown (steps : List Step) : Forest :=
  run {} steps

/-- Steps on loggers that there are. A child goes on with a text that is not
    empty. -/
def Allows (f : Forest) : Step → Prop
  | .create _ none => True
  | .create _ (some p) => p < f.loggers.size
  | .child creator label => creator < f.loggers.size ∧ label ≠ ""
  | .configure i _ _ => i < f.loggers.size

instance decidableAllows (f : Forest) : (s : Step) → Decidable (f.Allows s)
  | .create _ none => isTrue trivial
  | .create _ (some _) => Nat.decLt _ _
  | .child _ _ => inferInstanceAs (Decidable (_ ∧ _))
  | .configure _ _ _ => Nat.decLt _ _

/-- Runs of such steps. -/
def AllowsAll : Forest → List Step → Prop
  | _, [] => True
  | f, s :: steps => f.Allows s ∧ AllowsAll (f.after s) steps

instance decidableAllowsAll : (f : Forest) → (steps : List Step) → Decidable (f.AllowsAll steps)
  | _, [] => isTrue trivial
  | f, s :: steps => @instDecidableAnd _ _ _ (decidableAllowsAll (f.after s) steps)

/-- For a step that makes a logger, the logger that it is made below, if any: its
    parent, or its creator. -/
def Step.origin? : Step → Option (Option Nat)
  | create _ parent => some parent
  | child creator _ => some (some creator)
  | configure _ _ _ => none

/-- Which loggers were made below which, by order of creation. -/
def origins (steps : List Step) : List (Option Nat) :=
  steps.filterMap Step.origin?

/-- A logger that was made below none is above another one, or is the same. -/
inductive Topmost (origins : List (Option Nat)) : Nat → Nat → Prop
  | root {i : Nat} (made : origins[i]? = some none) : Topmost origins i i
  | under {i p r : Nat} (made : origins[i]? = some (some p)) (above : Topmost origins p r) :
      Topmost origins i r

/-- A step gives a logger a level, by making it with that level, when so many were made
    before it, or by configuring it. -/
inductive Step.GivesLevel (before : Nat) : Step → Nat → Level → Prop
  | create (level : Level) (parent : Option Nat) :
      GivesLevel before (.create level parent) before level
  | configure (i : Nat) (level : Level) (label : Option String) :
      GivesLevel before (.configure i (some level) label) i level

/-- A logger was given a level, and none since then. -/
def LastLevel (steps : List Step) (i : Nat) (level : Level) : Prop :=
  ∃ past s future, steps = past ++ s :: future
    ∧ s.GivesLevel (origins past).length i level
    ∧ ∀ t ∈ future, ∀ other label, t ≠ .configure i (some other) label

/-- What a step does to a logger that there is. -/
def Step.effect (i : Nat) : Step → Logger → Logger
  | configure j level label, logger =>
    if j = i then
      { logger with
        level := level.getD logger.level
        label := label.getD logger.label }
    else logger
  | _, logger => logger

/-- Texts joined by spaces. Empty ones leave no trace. -/
def joined (texts : List String) : String :=
  " ".intercalate (texts.filter (· ≠ ""))

variable {f g : Forest} {made : List (Option Nat)} {steps more : List Step} {s : Step}
  {i r : Nat} {level : Level}

/-! ### Steps and runs -/

theorem run_append : f.run (steps ++ more) = (f.run steps).run more :=
  List.foldl_append

theorem grown_append : grown (steps ++ more) = (grown steps).run more :=
  run_append

theorem allowsAll_append :
    f.AllowsAll (steps ++ more) ↔ f.AllowsAll steps ∧ (f.run steps).AllowsAll more := by
  induction steps generalizing f with
  | nil => exact ⟨fun h => ⟨trivial, h⟩, fun h => h.2⟩
  | cons s steps ih => exact (and_congr_right fun _ => ih).trans and_assoc.symm

theorem origins_append : origins (steps ++ more) = origins steps ++ origins more :=
  List.filterMap_append

theorem origins_cons (s : Step) (steps : List Step) :
    origins (s :: steps) = origins [s] ++ origins steps := by
  rw [← origins_append, List.singleton_append]

/-- A step makes at most one logger. -/
theorem size_after (f : Forest) (s : Step) :
    (f.after s).loggers.size = f.loggers.size + (origins [s]).length := by
  cases s with
  | create level parent => exact size_add f _
  | child creator label => exact size_add f _
  | configure i level label => exact size_configure f i level label

theorem size_run (f : Forest) (steps : List Step) :
    (f.run steps).loggers.size = f.loggers.size + (origins steps).length := by
  induction steps generalizing f with
  | nil => rfl
  | cons s steps ih =>
      rw [run, List.foldl_cons, ← run, ih, size_after, origins_cons s steps,
        List.length_append, Nat.add_assoc]

theorem size_grown (steps : List Step) : (grown steps).loggers.size = (origins steps).length := by
  rw [grown, size_run]
  exact Nat.zero_add _

theorem get_after (inside : i < f.loggers.size) (s : Step) :
    (f.after s).get i = s.effect i (f.get i) := by
  cases s with
  | create level parent => exact get_add_of_lt inside _
  | child creator label => exact get_add_of_lt inside _
  | configure j level label =>
      rw [after, get_configure, Step.effect]
      by_cases same : j = i
      · rw [if_pos ⟨same, same ▸ inside⟩, if_pos same]
      · rw [if_neg fun h => same h.1, if_neg same]

/-- What no step of a run changes about a logger stays. -/
theorem field_run {α : Type} {field : Logger → α} (inside : i < f.loggers.size)
    (kept : ∀ s ∈ steps, ∀ logger, field (s.effect i logger) = field logger) :
    field ((f.run steps).get i) = field (f.get i) := by
  induction steps generalizing f with
  | nil => rfl
  | cons s steps ih =>
      rw [List.forall_mem_cons] at kept
      have there : i < (f.after s).loggers.size := by
        rw [size_after]
        omega
      have first := kept.1 (f.get i)
      rw [← get_after inside] at first
      exact (ih there kept.2).trans first

/-! ### Roots -/

/-- The root of a logger is found by following parents down. -/
theorem rootOf_eq_self (top : (f.get i).parent = none) : f.rootOf i = i := by
  rw [rootOf, top]

theorem rootOf_eq_parent {p : Nat} (parent : (f.get i).parent = some p) (lt : p < i) :
    f.rootOf i = f.rootOf p := by
  rw [rootOf, parent]
  exact if_pos lt

/-- A root depends on the parents up to a logger only. -/
theorem rootOf_congr (same : ∀ j ≤ i, (g.get j).parent = (f.get j).parent) :
    g.rootOf i = f.rootOf i := by
  induction i using Nat.strongRecOn with
  | ind i ih =>
      rw [rootOf, rootOf, same i (Nat.le_refl i)]
      cases (f.get i).parent with
      | none => rfl
      | some p =>
          by_cases lt : p < i
          · simp only [if_pos lt]
            exact ih p lt fun j le => same j (Nat.le_trans le (Nat.le_of_lt lt))
          · simp only [if_neg lt]

/-- A new logger does not come between the others and their roots. -/
theorem rootOf_add (inside : i < f.loggers.size) (logger : Logger) :
    (f.add logger).1.rootOf i = f.rootOf i :=
  rootOf_congr fun j le => by rw [get_add_of_lt (Nat.lt_of_le_of_lt le inside)]

/-- A forest stores parents that lead to the loggers that others were made below. -/
structure Roots (f : Forest) (made : List (Option Nat)) : Prop where
  size_eq : f.loggers.size = made.length
  parent_lt : ∀ i p, (f.get i).parent = some p → p < i
  root : ∀ i, made[i]? = some none → (f.get i).parent = none
  below : ∀ i p, made[i]? = some (some p) →
    p < i ∧ (f.get i).parent ≠ none ∧ f.rootOf i = f.rootOf p

/-- The topmost logger was made below none. -/
theorem Topmost.made_eq (top : Topmost made i r) : made[r]? = some none := by
  induction top with
  | root found => exact found
  | under found above ih => exact ih

namespace Roots

theorem empty : Roots {} [] where
  size_eq := rfl
  parent_lt _ _ h := nomatch h
  root _ h := nomatch h
  below _ _ h := nomatch h

/-- What a root looks like in the forest. -/
theorem parent_rootOf (roots : Roots f made) (i : Nat) : (f.get (f.rootOf i)).parent = none := by
  induction i using Nat.strongRecOn with
  | ind i ih =>
      cases parent : (f.get i).parent with
      | none => rw [rootOf_eq_self parent, parent]
      | some p =>
          have lt := roots.parent_lt i p parent
          rw [rootOf_eq_parent parent lt]
          exact ih p lt

/-- Parents that stay where they are lead to the same loggers. -/
theorem of_parents (roots : Roots f made) (size_eq : g.loggers.size = f.loggers.size)
    (same : ∀ j, (g.get j).parent = (f.get j).parent) : Roots g made where
  size_eq := size_eq.trans roots.size_eq
  parent_lt i p h := roots.parent_lt i p (same i ▸ h)
  root i h := (same i).trans (roots.root i h)
  below i p h := by
    rw [same i, rootOf_congr fun j _ => same j, rootOf_congr fun j _ => same j]
    exact roots.below i p h

/-- A new logger with a parent that leads to the one it is made below. -/
theorem add (roots : Roots f made) {logger : Logger} {origin : Option Nat}
    (none_iff : logger.parent = none ↔ origin = none)
    (leads : ∀ q p, logger.parent = some q → origin = some p →
      q < f.loggers.size ∧ p < f.loggers.size ∧ f.rootOf q = f.rootOf p) :
    Roots (f.add logger).1 (made ++ [origin]) := by
  have last : (made ++ [origin])[f.loggers.size]? = some origin := by
    rw [roots.size_eq, List.getElem?_concat_length]
  have front {j : Nat} (inside : j < f.loggers.size) : (made ++ [origin])[j]? = made[j]? :=
    List.getElem?_append_left (roots.size_eq ▸ inside)
  -- What was made is either old, and then nothing has changed, or it is the new logger.
  have range {j : Nat} {x : Option Nat} (found : (made ++ [origin])[j]? = some x) :
      j < f.loggers.size ∨ j = f.loggers.size := by
    have inside := (List.getElem?_eq_some_iff.mp found).1
    rw [List.length_append, List.length_singleton, ← roots.size_eq] at inside
    omega
  refine ⟨?_, ?_, ?_, ?_⟩
  · rw [size_add, roots.size_eq, List.length_append, List.length_singleton]
  · intro i p parent
    rw [get_add] at parent
    split at parent
    · next same =>
        cases made_below : origin with
        | none => rw [none_iff.mpr made_below] at parent; cases parent
        | some q => rw [same]; exact (leads p q parent made_below).1
    · exact roots.parent_lt i p parent
  · intro i found
    rcases range found with inside | rfl
    · rw [get_add_of_lt inside]
      exact roots.root i (front inside ▸ found)
    · rw [get_add_self]
      exact none_iff.mpr (Option.some.inj (last.symm.trans found))
  · intro i p found
    rcases range found with inside | rfl
    · rcases roots.below i p (front inside ▸ found) with ⟨lt, parent, leads⟩
      rw [get_add_of_lt inside, rootOf_add inside, rootOf_add (Nat.lt_trans lt inside)]
      exact ⟨lt, parent, leads⟩
    · have made_below : origin = some p := Option.some.inj (last.symm.trans found)
      cases parent : logger.parent with
      | none => rw [none_iff.mp parent] at made_below; cases made_below
      | some q =>
          -- Its root is found through its parent, which is old.
          rcases leads q p parent made_below with ⟨lt, below, same⟩
          have up : ((f.add logger).1.get f.loggers.size).parent = some q := by
            rw [get_add_self, parent]
          rw [rootOf_eq_parent up lt, rootOf_add lt, rootOf_add below, up]
          exact ⟨below, nofun, same⟩

/-- A step keeps the roots. A child may hang below the parent of its creator, which
    has the same root. -/
theorem after (roots : Roots f made) (allowed : f.Allows s) :
    Roots (f.after s) (made ++ origins [s]) := by
  cases s with
  | create level parent =>
      refine roots.add Iff.rfl ?_
      rintro q p rfl same
      cases same
      exact ⟨allowed, allowed, rfl⟩
  | child creator label =>
      refine roots.add ⟨nofun, nofun⟩ ?_
      rintro q p up same
      cases same
      cases up
      refine ⟨?_, allowed.1, ?_⟩
      · cases parent : (f.get creator).parent with
        | none => exact allowed.1
        | some q => exact Nat.lt_trans (roots.parent_lt creator q parent) allowed.1
      · cases parent : (f.get creator).parent with
        | none => rfl
        | some q => exact (rootOf_eq_parent parent (roots.parent_lt creator q parent)).symm
  | configure j level label =>
      rw [show origins [.configure j level label] = [] from rfl, List.append_nil]
      refine roots.of_parents (size_configure f j level label) fun k => ?_
      rw [Forest.after, get_configure]
      split <;> rfl

/-- A run keeps the roots. -/
theorem run (roots : Roots f made) (allowed : f.AllowsAll steps) :
    Roots (f.run steps) (made ++ origins steps) := by
  induction steps generalizing f made with
  | nil => rwa [show origins [] = [] from rfl, List.append_nil]
  | cons s steps ih =>
      have behind := ih (roots.after allowed.1) allowed.2
      rwa [List.append_assoc, ← origins_cons] at behind

theorem grown (allowed : ({} : Forest).AllowsAll steps) : Roots (grown steps) (origins steps) :=
  empty.run allowed

/-- The root of a logger is the topmost one above it. -/
theorem topmost_iff (roots : Roots f made) :
    Topmost made i r ↔ i < f.loggers.size ∧ f.rootOf i = r := by
  constructor
  · intro topmost
    induction topmost with
    | root found =>
        have inside := (List.getElem?_eq_some_iff.mp found).1
        exact ⟨roots.size_eq ▸ inside, rootOf_eq_self (roots.root _ found)⟩
    | under found above ih =>
        have inside := (List.getElem?_eq_some_iff.mp found).1
        exact ⟨roots.size_eq ▸ inside, (roots.below _ _ found).2.2.trans ih.2⟩
  · rintro ⟨inside, rfl⟩
    induction i using Nat.strongRecOn with
    | ind i ih =>
        have bound : i < made.length := roots.size_eq ▸ inside
        have found := List.getElem?_eq_getElem bound
        cases origin : made[i] with
        | none =>
            rw [origin] at found
            rw [rootOf_eq_self (roots.root i found)]
            exact .root found
        | some p =>
            rw [origin] at found
            -- The parent stored may be another one than `p`, but it has the same root.
            rcases roots.below i p found with ⟨lt, -, same⟩
            rw [same]
            exact .under found (ih p lt (Nat.lt_trans lt inside))

end Roots

/-! ### Levels -/

/-- A step that gives a logger no level leaves the one that it has. -/
theorem Step.level_effect (spared : ∀ other label, s ≠ .configure i (some other) label)
    (logger : Logger) : (s.effect i logger).level = logger.level := by
  cases s with
  | create _ _ | child _ _ => rfl
  | configure j level label =>
      rw [effect]
      split
      · next same =>
          cases level with
          | none => rfl
          | some other => exact absurd (same ▸ rfl) (spared other label)
      · rfl

/-- A step that gives a logger a level sets it. -/
theorem Step.GivesLevel.level_eq (gives : s.GivesLevel f.loggers.size i level)
    (allowed : f.Allows s) :
    i < (f.after s).loggers.size ∧ ((f.after s).get i).level = level := by
  rw [size_after]
  cases gives with
  | create _ parent =>
      refine ⟨Nat.lt_succ_self _, ?_⟩
      rw [after, get_add_self]
  | configure _ _ label =>
      refine ⟨allowed, ?_⟩
      rw [get_after allowed, effect, if_pos rfl]
      rfl

/-- The level that a logger was given last is the one that it has. -/
theorem LastLevel.level_eq (last : LastLevel steps i level)
    (allowed : ({} : Forest).AllowsAll steps) : ((grown steps).get i).level = level := by
  rcases last with ⟨past, s, future, rfl, gives, spared⟩
  rw [← size_grown] at gives
  rcases gives.level_eq (allowsAll_append.mp allowed).2.1 with ⟨inside, set⟩
  rw [grown_append]
  exact (field_run inside fun t mem => Step.level_effect (spared t mem)).trans set

/-- A logger that was made below none was given a level. -/
theorem exists_lastLevel (found : (origins steps)[r]? = some none) :
    ∃ level, LastLevel steps r level := by
  induction steps using List.reverseRecOn with
  | nil => cases found
  | append_singleton steps s ih =>
      by_cases configures : ∃ level label, s = .configure r (some level) label
      · rcases configures with ⟨level, label, rfl⟩
        exact ⟨level, steps, _, [], rfl, .configure r level label, nofun⟩
      · by_cases old : r < (origins steps).length
        · rw [origins_append, List.getElem?_append_left old] at found
          rcases ih found with ⟨level, past, t, future, rfl, gives, spared⟩
          refine ⟨level, past, t, future ++ [s], by simp, gives, ?_⟩
          intro u mem other label
          rcases List.mem_append.mp mem with mem | mem
          · exact spared u mem other label
          · rw [List.mem_singleton.mp mem]
            exact fun same => configures ⟨other, label, same⟩
        · rw [origins_append, List.getElem?_append_right (Nat.not_lt.mp old)] at found
          -- Of the steps that make a logger, only one makes a root.
          cases s with
          | create level parent =>
              have first := (List.getElem?_eq_some_iff.mp found).1
              have last : r = (origins steps).length := by
                simp only [origins, List.filterMap_cons, List.filterMap_nil, Step.origin?,
                  List.length_singleton] at first
                simp only [origins] at old ⊢
                omega
              subst last
              exact ⟨level, steps, _, [], rfl, .create level parent, nofun⟩
          | child creator label =>
              cases ahead : r - (origins steps).length with
              | zero => rw [ahead] at found; cases found
              | succ k => rw [ahead] at found; cases found
          | configure j level label => cases found

/-- The level in force is the last one of the topmost logger. -/
theorem levelOf_eq_iff (allowed : ({} : Forest).AllowsAll steps)
    (inside : i < (origins steps).length) :
    (grown steps).levelOf i = level
      ↔ ∃ r, Topmost (origins steps) i r ∧ LastLevel steps r level := by
  have roots := Roots.grown allowed
  rw [← size_grown] at inside
  constructor
  · rintro rfl
    have top : Topmost (origins steps) i ((grown steps).rootOf i) :=
      roots.topmost_iff.mpr ⟨inside, rfl⟩
    rcases exists_lastLevel top.made_eq with ⟨level, last⟩
    have same := last.level_eq allowed
    exact ⟨_, top, by rwa [levelOf, same]⟩
  · rintro ⟨r, top, last⟩
    rw [levelOf, (roots.topmost_iff.mp top).2]
    exact last.level_eq allowed

/-! ### Levels of no consequence -/

/-- Loggers that differ in their levels at most, and only if they are below others. -/
structure LoggerAlike (a b : Logger) : Prop where
  parent_eq : a.parent = b.parent
  label_eq : a.label = b.label
  level_eq : a.parent = none → a.level = b.level

/-- Forests of such loggers. -/
structure Alike (f g : Forest) : Prop where
  size_eq : f.loggers.size = g.loggers.size
  get : ∀ i, LoggerAlike (f.get i) (g.get i)

namespace Alike

theorem add (alike : Alike f g) {a b : Logger} (new : LoggerAlike a b) :
    Alike (f.add a).1 (g.add b).1 := by
  refine ⟨by rw [size_add, size_add, alike.size_eq], fun i => ?_⟩
  rw [get_add, get_add, alike.size_eq]
  split
  · exact new
  · exact alike.get i

/-- A step keeps forests alike. A child may get different levels in them, but it is
    below another logger. -/
theorem after (alike : Alike f g) (s : Step) : Alike (f.after s) (g.after s) := by
  cases s with
  | create level parent => exact alike.add ⟨rfl, rfl, fun _ => rfl⟩
  | child creator label =>
      refine alike.add ⟨?_, ?_, nofun⟩
      · rw [(alike.get creator).parent_eq]
      · rw [(alike.get creator).label_eq]
  | configure j level label =>
      have size_eq := (size_configure f j level label).trans
        (alike.size_eq.trans (size_configure g j level label).symm)
      refine ⟨size_eq, fun i => ?_⟩
      have old := alike.get i
      rw [Forest.after, Forest.after, get_configure, get_configure, alike.size_eq]
      split
      · exact ⟨old.parent_eq, congrArg label.getD old.label_eq,
          fun top => congrArg level.getD (old.level_eq top)⟩
      · exact old

theorem run (alike : Alike f g) (steps : List Step) : Alike (f.run steps) (g.run steps) := by
  induction steps generalizing f g with
  | nil => exact alike
  | cons s steps ih => exact ih (alike.after s)

/-- Configuring the level of a logger below another one is of no consequence. -/
theorem of_configure {j : Nat} (below : (f.get j).parent ≠ none) (level : Option Level)
    (label : Option String) : Alike (f.configure j level label) (f.configure j none label) := by
  refine ⟨by rw [size_configure, size_configure], fun i => ?_⟩
  rw [get_configure, get_configure]
  split
  · next same => exact ⟨rfl, rfl, fun top => absurd (same.1 ▸ top) below⟩
  · exact ⟨rfl, rfl, fun _ => rfl⟩

/-- Forests that are alike show the same messages. -/
theorem log_eq (alike : Alike f g) (roots : Roots f made) (palette : Palette) (i : Nat)
    (channel : Channel) (message : String) :
    f.log palette i channel message = g.log palette i channel message := by
  have root : g.rootOf i = f.rootOf i := rootOf_congr fun j _ => (alike.get j).parent_eq.symm
  have level : f.levelOf i = g.levelOf i := by
    rw [levelOf, levelOf, root]
    exact (alike.get _).level_eq (roots.parent_rootOf i)
  rw [log, log, level, (alike.get i).label_eq]

end Alike

/-! ### Messages and labels -/

/-- A message is shown if the level in force is not above that of its channel. -/
theorem exists_log_iff (palette : Palette) (f : Forest) (i : Nat) (channel : Channel)
    (message : String) :
    (∃ line, f.log palette i channel message = some line)
      ↔ (f.levelOf i).rank ≤ channel.level.rank := by
  rw [log, Level.allows]
  by_cases shown : (f.levelOf i).rank ≤ channel.level.rank
  · simp [shown]
  · simp [shown]

/-- A label that goes on with a text is joined with it. -/
theorem labelled_eq_joined {label : String} (filled : label ≠ "") (front : String) :
    Logger.labelled front label = joined [front, label] := by
  rw [Logger.labelled, joined]
  by_cases empty : front = ""
  · rw [if_pos empty]
    simp [empty, filled]
  · rw [if_neg empty]
    simp [empty, filled]

/-- A step that gives a logger no label leaves the one that it has. -/
theorem Step.label_effect (spared : ∀ level other, s ≠ .configure i level (some other))
    (logger : Logger) : (s.effect i logger).label = logger.label := by
  cases s with
  | create _ _ | child _ _ => rfl
  | configure j level label =>
      rw [effect]
      split
      · next same =>
          cases label with
          | none => rfl
          | some other => exact absurd (same ▸ rfl) (spared level other)
      · rfl

/-- A child has the label of its creator at that time, joined with its own part, until
    it is given another one. -/
theorem label_child {past future : List Step} {creator : Nat} {label : String}
    (filled : label ≠ "")
    (spared : ∀ s ∈ future, ∀ level other,
      s ≠ .configure (origins past).length level (some other)) :
    ((grown (past ++ .child creator label :: future)).get (origins past).length).label
      = joined [((grown past).get creator).label, label] := by
  rw [← size_grown] at spared ⊢
  have inside : (grown past).loggers.size
      < ((grown past).after (.child creator label)).loggers.size := by
    rw [size_after]
    exact Nat.lt_succ_self _
  have new : (((grown past).after (.child creator label)).get (grown past).loggers.size).label
      = Logger.labelled ((grown past).get creator).label label := by
    rw [after, child, get_add_self]
  rw [← labelled_eq_joined filled, ← new, grown_append]
  exact field_run inside fun s mem => Step.label_effect (spared s mem)

/-- Whatever is done with loggers, in whatever order, the level in force at a logger is
    the one that the topmost logger above it was given last. So it makes no difference
    to any message, then or later, that a logger below another one is given a level. A
    message is shown exactly if its rank is at least that of the level in force, and so
    never at a silent one. And the label of a child is what its creator had at the time,
    joined with its own part, whatever other loggers are given since. The colours that
    messages are shown in have no part in it. -/
theorem levels_follow_roots (palette : Palette) (steps : List Step)
    (allowed : ({} : Forest).AllowsAll steps) :
    (∀ i < (origins steps).length, ∀ level,
        (grown steps).levelOf i = level
          ↔ ∃ r, Topmost (origins steps) i r ∧ LastLevel steps r level)
      ∧ (∀ past j level label future,
          steps = past ++ .configure j (some level) label :: future →
          (origins past)[j]? ≠ some none →
          ∀ i channel message,
            (grown steps).log palette i channel message
                = (grown (past ++ .configure j none label :: future)).log palette i channel message
              ∧ (label = none → (grown steps).log palette i channel message
                = (grown (past ++ future)).log palette i channel message))
      ∧ (∀ i channel message,
          ((∃ line, (grown steps).log palette i channel message = some line)
              ↔ ((grown steps).levelOf i).rank ≤ channel.level.rank)
            ∧ ((grown steps).levelOf i = .silent →
                (grown steps).log palette i channel message = none))
      ∧ ∀ past creator label future, steps = past ++ .child creator label :: future →
          (∀ s ∈ future, ∀ level other,
            s ≠ .configure (origins past).length level (some other)) →
          ((grown steps).get (origins past).length).label
            = joined [((grown past).get creator).label, label] := by
  refine ⟨fun i inside level => levelOf_eq_iff allowed inside, ?_, ?_, ?_⟩
  · rintro past j level label future rfl below i channel message
    have early := allowsAll_append.mp allowed
    have roots := Roots.grown early.1
    have inside : j < (origins past).length := roots.size_eq ▸ early.2.1
    have parent : ((grown past).get j).parent ≠ none := by
      cases origin : (origins past)[j] with
      | none =>
          rw [List.getElem?_eq_getElem inside, origin] at below
          exact absurd rfl below
      | some p =>
          refine (roots.below j p ?_).2.1
          rw [List.getElem?_eq_getElem inside, origin]
    -- From that step on the two runs differ in levels below others, and stay alike.
    have alike := (Alike.of_configure parent (some level) label).run future
    have same := alike.log_eq ((roots.after early.2.1).run early.2.2) palette i channel message
    rw [grown_append, grown_append, grown_append]
    refine ⟨same, ?_⟩
    rintro rfl
    rw [configure_none] at same
    exact same
  · intro i channel message
    refine ⟨exists_log_iff palette _ i channel message, fun silent => ?_⟩
    rw [Option.eq_none_iff_forall_ne_some]
    intro line shown
    have rank := (exists_log_iff palette _ i channel message).mp ⟨line, shown⟩
    rw [silent] at rank
    exact absurd rank (Nat.not_le.mpr channel.rank_lt)
  · rintro past creator label future rfl spared
    exact label_child (allowsAll_append.mp allowed).2.1.2 spared

/-- A grandchild follows the root, and its label keeps what its creator was called. -/
theorem levels_follow_roots_of_family :
    let past : List Step := [.create .info none, .child 0 "[a]"]
    let future : List Step :=
      [.configure 1 (some .debug) (some "[c]"), .configure 0 (some .warn) none]
    let steps := past ++ .child 1 "[b]" :: future
    ({} : Forest).AllowsAll steps
      ∧ (grown steps).levelOf 2 = .warn
      ∧ ((grown steps).get 2).label = "[a] [b]" := by
  intro past future steps
  have allowed : ({} : Forest).AllowsAll steps := by decide
  have follows := levels_follow_roots .terminal steps allowed
  refine ⟨allowed, (follows.1 2 (by decide) .warn).mpr ⟨0, ?_, ?_⟩, ?_⟩
  · exact .under rfl (.under rfl (.root rfl))
  · exact ⟨past ++ [.child 1 "[b]", .configure 1 (some .debug) (some "[c]")],
      .configure 0 (some .warn) none, [], rfl, .configure 0 .warn none, nofun⟩
  · refine (follows.2.2.2 past 1 "[b]" future rfl ?_).trans (by decide)
    intro s mem level other same
    subst same
    simp [future, past, origins, Step.origin?] at mem

end Forest

end Stencil
