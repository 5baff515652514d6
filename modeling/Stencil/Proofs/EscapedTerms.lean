import Mathlib.Data.List.TakeWhile
import Stencil.Proofs.Escaping

/-!
# Terms of Escaped Bodies

What stands outside brackets in a body of a pattern and in the same body with more
escaped.

Names and bounds consist of inert characters, so they are found in both bodies or in
neither. That matters for bounds: a brace that opens none stands for itself, and must
not begin to open some.

## Main definitions

* `Pattern.IsInterval`: The texts of bounds.

## Theorems

* `Pattern.interval?_rel`: Bounds are read from both bodies, or from neither.
* `Pattern.quantifier_leads`, `Pattern.groupName_leads`, `Pattern.openGroup_leads`: The
  readers of what is around terms.
* `Pattern.escapedTerm_leads`: What stands behind a backslash is read from both bodies.
-/

namespace Stencil

namespace Pattern

variable {c d : Char} {cs ds shown : List Char} {p : Char → Bool}

/-! ### Names and numbers -/

theorem takeWhile_behind (h : Escapes cs ds) (inert : ∀ c, p c = true → isInert c = true) :
    ds.takeWhile p = cs.takeWhile p
      ∧ Behind cs (cs.drop (cs.takeWhile p).length) (ds.drop (cs.takeWhile p).length) :=
  ⟨(h.stretch inert).1, (behind_drop h inert (Nat.le_refl _)).2⟩

/-- The reader of an inert character. -/
theorem Behind.next {rest rest' : List Char} (behind : Behind cs (c :: rest) rest')
    (inert : isInert c = true) : ∃ rest₂, rest' = c :: rest₂ ∧ Behind cs rest rest₂ := by
  rcases behind.escapes.of_inert inert with ⟨rest₂, rfl, after⟩
  exact ⟨rest₂, rfl, after, Nat.le_of_succ_le behind.le⟩

/-- What is no backslash was already there. -/
theorem Behind.prior {rest rest' : List Char} (behind : Behind cs rest (c :: rest'))
    (other : c ≠ '\\') : ∃ rest₂, rest = c :: rest₂ ∧ Behind cs rest₂ rest' := by
  rcases behind.escapes.of_other other with ⟨rest₂, rfl, after⟩
  exact ⟨rest₂, rfl, after, Nat.le_of_succ_le behind.le⟩

theorem isInert_of_isNameChar (name : Property.isNameChar c = true) : isInert c = true :=
  isInert_of_any (by decide) name

theorem isInert_of_isDigit (digit : c.isDigit = true) : isInert c = true :=
  isInert_of_any (by decide) digit

/-- The name of a property is read from both bodies. -/
theorem read?_of_escapes (h : Escapes cs ds) {u : Property × List Char}
    (reads : Property.read? cs = some u) :
    ∃ v, Property.read? ds = some v ∧ SameBehind cs u v := by
  have inert : ∀ c, Property.isNameChar c = true → isInert c = true :=
    fun _ => isInert_of_isNameChar
  unfold Property.read? at reads
  split at reads
  · next cs =>
      rcases h.of_inert (by decide) with ⟨ds, rfl, inside⟩
      rcases takeWhile_behind inside inert with ⟨name, behind⟩
      simp only [Property.read?, name]
      dsimp only at reads
      split at reads
      · next closes =>
          rw [closes] at behind
          rcases behind.next (by decide) with ⟨rest, closes', left⟩
          cases reads
          rw [closes']
          exact ⟨_, rfl, rfl, left.cons⟩
      · next cs₂ more =>
          rw [more] at behind
          rcases behind.next (by decide) with ⟨ds₂, more', left⟩
          rcases takeWhile_behind left.escapes inert with ⟨value, behind₂⟩
          rw [more']
          simp only [value]
          split at reads
          · next closes =>
              rw [closes] at behind₂
              rcases behind₂.next (by decide) with ⟨rest, closes', left₂⟩
              cases reads
              rw [closes']
              exact ⟨_, rfl, rfl, (left.trans left₂).cons⟩
          · cases reads
      · cases reads
  · cases reads

theorem property_leads (h : Escapes cs ds) (s : Survey) (inClass lacking : Bool) :
    Leads (SameBehind cs) (property s inClass lacking cs) (property s inClass lacking ds) := by
  unfold property
  cases reads : Property.read? cs with
  | none => exact leads_error _ _
  | some u =>
      rcases read?_of_escapes h reads with ⟨v, reads', same, behind⟩
      rcases u with ⟨p, rest⟩
      rcases v with ⟨p', rest'⟩
      cases same
      rw [reads']
      refine leads_ite (fun _ => leads_ok ⟨rfl, behind⟩) fun _ => ?_
      exact leads_ite (fun _ => leads_ok ⟨rfl, behind⟩) fun _ => leads_error _ _

/-! ### Quantifiers -/

/-- A text between braces that stands for bounds. -/
inductive IsInterval : List Char → Nat × Option Nat → Prop
  | exactly {low : List Char} (given : low ≠ []) (digits : ∀ c ∈ low, c.isDigit = true) :
      IsInterval ('{' :: (low ++ ['}'])) (boundOf low, some (boundOf low))
  | least {low : List Char} (given : low ≠ []) (digits : ∀ c ∈ low, c.isDigit = true) :
      IsInterval ('{' :: (low ++ [',', '}'])) (boundOf low, none)
  | between {low high : List Char} (given : low ≠ []) (digits : ∀ c ∈ low, c.isDigit = true)
      (given' : high ≠ []) (digits' : ∀ c ∈ high, c.isDigit = true) :
      IsInterval ('{' :: (low ++ ',' :: (high ++ ['}']))) (boundOf low, some (boundOf high))

theorem IsInterval.inert {front : List Char} {b : Nat × Option Nat} (h : IsInterval front b) :
    front.all isInert = true := by
  have digit {cs : List Char} (digits : ∀ c ∈ cs, c.isDigit = true) : cs.all isInert = true :=
    List.all_eq_true.mpr fun c hc => isInert_of_isDigit (digits c hc)
  cases h with
  | exactly _ digits =>
      simp only [List.all_cons, List.all_append, digit digits]
      decide
  | least _ digits =>
      simp only [List.all_cons, List.all_append, digit digits]
      decide
  | between _ digits _ digits' =>
      simp only [List.all_cons, List.all_append, digit digits, digit digits']
      decide

/-- A stretch of a kind ends where something else follows. -/
theorem takeWhile_stretch (all : ∀ c ∈ cs, p c = true) (stops : p d = false) (ds : List Char) :
    (cs ++ d :: ds).takeWhile p = cs ∧ (cs ++ d :: ds).drop cs.length = d :: ds := by
  rw [List.takeWhile_append_of_pos all, List.takeWhile_cons_of_neg (Bool.eq_false_iff.mp stops),
    List.append_nil, List.drop_left]
  exact ⟨rfl, rfl⟩

theorem digits_append (cs : List Char) :
    cs.takeWhile Char.isDigit ++ cs.drop (cs.takeWhile Char.isDigit).length = cs :=
  List.prefix_iff_eq_append.mp (List.takeWhile_prefix _)

theorem exists_interval {b : Nat × Option Nat} {rest : List Char}
    (reads : interval? cs = some (b, rest)) :
    ∃ front, IsInterval front b ∧ cs = front ++ rest := by
  have digits {cs : List Char} : ∀ c ∈ cs.takeWhile Char.isDigit, c.isDigit = true :=
    fun c hc => List.mem_takeWhile_imp hc
  unfold interval? at reads
  split at reads
  · next cs =>
      have whole := digits_append cs
      dsimp only at reads
      split at reads
      · cases reads
      next given =>
      -- What stands behind the first digits says which of the three forms it is.
      split at reads
      · next closes =>
          cases reads
          rw [closes] at whole
          refine ⟨_, .exactly given digits, ?_⟩
          rw [List.cons_append, List.append_assoc, List.singleton_append, whole]
      · next closes =>
          cases reads
          rw [closes] at whole
          refine ⟨_, .least given digits, ?_⟩
          rw [List.cons_append, List.append_assoc, List.cons_append, List.singleton_append, whole]
      · next more _ comma =>
          rw [comma] at whole
          have whole' := digits_append more
          split at reads
          · next _ _ given' closes =>
              cases reads
              rw [closes] at whole'
              have given' : more.takeWhile Char.isDigit ≠ [] := by
                rw [given']
                exact List.cons_ne_nil _ _
              refine ⟨_, .between given digits given' digits, ?_⟩
              rw [List.cons_append, List.append_assoc, List.cons_append, List.append_assoc,
                List.singleton_append, whole', whole]
          · cases reads
      · cases reads
  · cases reads

theorem IsInterval.read {front : List Char} {b : Nat × Option Nat} (bounds : IsInterval front b)
    (rest : List Char) : interval? (front ++ rest) = some (b, rest) := by
  cases bounds with
  | @exactly low given digits =>
      rcases takeWhile_stretch digits (show Char.isDigit '}' = false by decide) rest with
        ⟨kept, left⟩
      rw [List.cons_append, List.append_assoc, List.singleton_append]
      simp only [interval?, kept, left, given, if_false]
  | @least low given digits =>
      rcases takeWhile_stretch digits (show Char.isDigit ',' = false by decide) ('}' :: rest) with
        ⟨kept, left⟩
      rw [List.cons_append, List.append_assoc, List.cons_append, List.singleton_append]
      simp only [interval?, kept, left, given, if_false]
  | @between low high given digits given' digits' =>
      rcases takeWhile_stretch digits (show Char.isDigit ',' = false by decide)
        (high ++ '}' :: rest) with ⟨kept, left⟩
      rcases takeWhile_stretch digits' (show Char.isDigit '}' = false by decide) rest with
        ⟨kept', left'⟩
      rw [List.cons_append, List.append_assoc, List.cons_append, List.append_assoc,
        List.singleton_append]
      simp only [interval?, kept, left, given, if_false]
      cases high with
      | nil => exact absurd rfl given'
      | cons digit high =>
          -- The comma is not read as the end of the form without an upper bound.
          have other : digit ≠ '}' := by
            rintro rfl
            exact absurd (digits' _ List.mem_cons_self) (by decide)
          split
          · next same => exact absurd (List.cons.inj same).1 (by decide)
          · next same => exact absurd (List.cons.inj (List.cons.inj same).2).1 other
          · next same =>
              cases same
              rw [kept', left']
              rfl
          · next none => exact absurd rfl (none _)

/-- Bounds are read from both bodies, or from neither. -/
theorem interval?_rel (h : Escapes cs ds) :
    Option.Rel (SameBehind cs) (interval? cs) (interval? ds) := by
  cases reads : interval? cs with
  | some u =>
      rcases u with ⟨b, rest⟩
      rcases exists_interval reads with ⟨front, bounds, rfl⟩
      rcases h.of_append front bounds.inert with ⟨rest', rfl, after⟩
      rw [bounds.read]
      refine .some ⟨rfl, after, ?_⟩
      rw [List.length_append]
      exact Nat.le_add_left _ _
  | none =>
      cases reads' : interval? ds with
      | none => exact .none
      | some v =>
          rcases v with ⟨b, rest⟩
          rcases exists_interval reads' with ⟨front, bounds, rfl⟩
          have other : '\\' ∉ front := fun mem =>
            absurd (List.all_eq_true.mp bounds.inert _ mem) (by decide)
          rcases h.of_append_other front other with ⟨rest', rfl, -⟩
          rw [bounds.read] at reads
          cases reads

/-- A mark that something repeats is left behind in both bodies, and what asks for as few
    times as possible. -/
theorem star_leads (h : Escapes cs ds) (s : Survey) (allowed : Bool) :
    Leads (Behind cs) (quantifier s allowed ('*' :: cs)) (quantifier s allowed ('*' :: ds)) := by
  refine leads_ite (fun _ => leads_error _ _) fun _ => ?_
  rcases h.head with ⟨rfl, rfl⟩ | ⟨c, cs, ds, rfl, rfl, -, rest⟩ | ⟨c, cs, ds, rfl, rfl, other⟩
  · exact leads_ok (.refl h)
  · by_cases lazy : c = '?'
    · subst lazy
      exact leads_ok (Behind.refl rest).cons
    · split
      · next same => exact absurd (List.cons.inj same).1 lazy
      split
      · next same => exact absurd (List.cons.inj same).1 lazy
      exact leads_ok (.refl h)
  · split
    · next same =>
        rw [(List.cons.inj same).1] at other
        cases other
    split
    · next same => exact absurd (List.cons.inj same).1 (by decide)
    exact leads_ok (.refl h)

/-- What no quantifier begins with is left as it is. -/
theorem quantifier_other {s : Survey} {allowed : Bool} (star : c ≠ '*') (plus : c ≠ '+')
    (mark : c ≠ '?') (brace : c ≠ '\x7b') : quantifier s allowed (c :: cs) = .ok (c :: cs) := by
  unfold quantifier
  dsimp only
  split
  · next same => exact absurd (List.cons.inj same).1 star
  · next same => exact absurd (List.cons.inj same).1 plus
  · next same => exact absurd (List.cons.inj same).1 mark
  · next same => exact absurd (List.cons.inj same).1 brace
  · rfl

/-- A quantifier is left behind in both bodies. -/
theorem quantifier_leads (h : Escapes cs ds) (s : Survey) (allowed : Bool) :
    Leads (Behind cs) (quantifier s allowed cs) (quantifier s allowed ds) := by
  rcases h.head with ⟨rfl, rfl⟩ | ⟨c, cs, ds, rfl, rfl, -, rest⟩ | ⟨c, cs, ds, rfl, rfl, other⟩
  · exact leads_ok (.refl h)
  · -- All three marks are read alike.
    have marked : Leads (Behind (c :: cs)) (quantifier s allowed ('*' :: cs))
        (quantifier s allowed ('*' :: ds)) :=
      leads_mono (star_leads rest s allowed) fun _ _ behind => behind.cons
    by_cases star : c = '*'
    · subst star
      exact marked
    by_cases plus : c = '+'
    · subst plus
      exact marked
    by_cases mark : c = '?'
    · subst mark
      exact marked
    by_cases brace : c = '\x7b'
    · subst brace
      have same := interval?_rel h
      unfold quantifier
      dsimp only
      generalize interval? ('\x7b' :: cs) = x at same
      generalize interval? ('\x7b' :: ds) = y at same
      cases same with
      | none => exact leads_ite (fun _ => leads_error _ _) fun _ => leads_ok (.refl h)
      | @some u v same =>
          rcases u with ⟨⟨low, high⟩, rest⟩
          rcases v with ⟨bounds, rest'⟩
          rcases same with ⟨same, behind⟩
          cases same
          have left : Leads (Behind ('\x7b' :: cs)) (quantifier s allowed ('*' :: rest))
              (quantifier s allowed ('*' :: rest')) :=
            leads_mono (star_leads behind.escapes s allowed) fun _ _ => behind.trans
          cases high with
          | none => exact left
          | some high => exact leads_ite (fun _ => leads_error _ _) fun _ => left
    · rw [quantifier_other star plus mark brace, quantifier_other star plus mark brace]
      exact leads_ok (.refl h)
  · have apart {d : Char} (inert : isInert d = true) : c ≠ d := by
      rintro rfl
      rw [inert] at other
      cases other
    rw [quantifier_other (apart (by decide)) (apart (by decide)) (apart (by decide))
      (apart (by decide))]
    exact leads_ok (.refl h)

/-! ### Groups -/

theorem Shows.ne_nil (shows : Shows c shown) : shown ≠ [] := by
  rcases shows with rfl | named
  · exact List.cons_ne_nil _ _
  · intro none
    rw [none] at named
    exact absurd (lineBreak?_cases named) (by decide)

/-- A body with more escaped is not shorter. -/
theorem Escapes.length_le (h : Escapes cs ds) : cs.length ≤ ds.length := by
  induction h with
  | nil => exact Nat.le_refl _
  | last => exact Nat.le_refl _
  | plain _ _ ih => exact Nat.succ_le_succ ih
  | pair shows _ ih =>
      have given := List.length_pos_iff.mpr shows.ne_nil
      simp only [List.length_cons, List.length_append]
      omega
  | fresh _ _ ih =>
      simp only [List.length_cons, List.length_append]
      omega

theorem isInert_of_startsIdentifier (starts : startsIdentifier c = true) : isInert c = true :=
  isInert_of_any (by decide +kernel) starts

theorem isInert_of_continuesIdentifier (goesOn : continuesIdentifier c = true) :
    isInert c = true :=
  isInert_of_any (by decide +kernel) goesOn

/-- What can be written in another way is in no name. -/
theorem groupName_marked {bound : Nat} {name : String} (marks : Marks c shown) :
    groupName bound name (c :: cs) = .error .wrongName := by
  have other := marks.not_isInert
  have starts : ¬ startsIdentifier c = true := fun starts => by
    rw [isInert_of_startsIdentifier starts] at other
    cases other
  have goesOn : ¬ continuesIdentifier c = true := fun goesOn => by
    rw [isInert_of_continuesIdentifier goesOn] at other
    cases other
  have closes : c ≠ '>' := by
    rintro rfl
    exact absurd other (by decide)
  cases bound with
  | zero => rfl
  | succ bound =>
      unfold groupName
      simp only [marks.ne_backslash, if_false, pure_bind, starts, goesOn, closes,
        Bool.false_eq_true]
      exact ite_self _

/-- The name of a group is read from both bodies. -/
theorem groupName_leads {bound bound' : Nat} (enough : bound ≤ bound') (name : String)
    (h : Escapes cs ds) :
    Leads (SameBehind cs) (groupName bound name cs) (groupName bound' name ds) := by
  induction bound generalizing bound' name cs ds with
  | zero => exact leads_error _ _
  | succ bound ih =>
      rcases exists_bound enough with ⟨bound', rfl, within⟩
      -- However a character was written, the name goes on with it in the same way.
      have decides {c : Char} {rest rest' : List Char} (behind : Behind cs rest rest') :
          Leads (SameBehind cs)
            (if name = "" then
              if startsIdentifier c then groupName bound (name.push c) rest
              else throw .wrongName
            else if c = '>' then return (name, rest)
            else if continuesIdentifier c then groupName bound (name.push c) rest
            else throw .wrongName)
            (if name = "" then
              if startsIdentifier c then groupName bound' (name.push c) rest'
              else throw .wrongName
            else if c = '>' then return (name, rest')
            else if continuesIdentifier c then groupName bound' (name.push c) rest'
            else throw .wrongName) := by
        have next : Leads (SameBehind cs) (groupName bound (name.push c) rest)
            (groupName bound' (name.push c) rest') :=
          leads_mono (ih within _ behind.escapes) fun _ _ => behind.same
        refine leads_ite (fun _ => leads_ite (fun _ => next) fun _ => leads_error _ _) fun _ => ?_
        refine leads_ite (fun _ => leads_ok ⟨rfl, behind⟩) fun _ => ?_
        exact leads_ite (fun _ => next) fun _ => leads_error _ _
      cases h with
      | nil => exact leads_error _ _
      | last => exact leads_error _ _
      | plain other rest =>
          unfold groupName
          simp only [other, if_false, pure_bind]
          exact decides (Behind.refl rest).cons
      | @pair c shown cs ds shows rest =>
          unfold groupName
          simp only [if_true]
          by_cases letter : c = 'u'
          · subst letter
            rw [shows_of_inert shows (by decide)]
            rcases unicode?_cases rest true with ⟨u, v, reads, reads', same, behind⟩ | ⟨reads, -⟩
            · simp only [List.singleton_append, reads, reads', same, pure_bind]
              exact decides behind.cons.cons
            · simp only [reads]
              exact leads_error _ _
          · split
            · next same => exact absurd (List.cons.inj same).1 letter
            · exact leads_error _ _
      | fresh marks rest =>
          rw [groupName_marked marks]
          exact leads_error _ _

/-- A group is opened in both bodies. -/
theorem openGroup_leads (h : Escapes cs ds) (p : Progress) :
    Leads (SameBehind cs) (openGroup p cs) (openGroup p ds) := by
  rw [openGroup.eq_def p cs]
  dsimp only
  split
  · rcases h.of_append ['?', ':'] (by decide) with ⟨rest', rfl, rest⟩
    exact leads_ok ⟨rfl, (Behind.refl rest).cons.cons⟩
  · rcases h.of_append ['?', '='] (by decide) with ⟨rest', rfl, rest⟩
    exact leads_ok ⟨rfl, (Behind.refl rest).cons.cons⟩
  · rcases h.of_append ['?', '!'] (by decide) with ⟨rest', rfl, rest⟩
    exact leads_ok ⟨rfl, (Behind.refl rest).cons.cons⟩
  · rcases h.of_append ['?', '<', '='] (by decide) with ⟨rest', rfl, rest⟩
    exact leads_ok ⟨rfl, (Behind.refl rest).cons.cons.cons⟩
  · rcases h.of_append ['?', '<', '!'] (by decide) with ⟨rest', rfl, rest⟩
    exact leads_ok ⟨rfl, (Behind.refl rest).cons.cons.cons⟩
  · next cs ahead behind =>
      rcases h.of_append ['?', '<'] (by decide) with ⟨ds, rfl, rest⟩
      rw [List.cons_append, List.cons_append, List.nil_append, openGroup]
      · refine leads_bind (groupName_leads (Nat.succ_le_succ rest.length_le) "" rest) ?_
        rintro ⟨name, left⟩ ⟨name', left'⟩ ⟨same, after⟩
        cases same
        exact leads_ok ⟨rfl, after.cons.cons⟩
      · exact rest.ne_append ['='] (by decide) ahead
      · exact rest.ne_append ['!'] (by decide) behind
  · exact leads_error _ _
  · next none =>
      have none' : ∀ tail, ds ≠ '?' :: tail := h.ne_append ['?'] (by decide) none
      rw [openGroup]
      · exact leads_ok ⟨rfl, .refl h⟩
      all_goals exact fun _ => none' _

/-! ### Terms -/

variable {rest rest' : List Char}

/-- A term is read from both bodies if what is behind it is. -/
theorem term_leads (behind : Behind cs rest rest') (s : Survey) (allowed : Bool) (p : Progress) :
    Leads (SameBehind cs) (do return (p, ← quantifier s allowed rest))
      (do return (p, ← quantifier s allowed rest')) :=
  leads_bind (quantifier_leads behind.escapes s allowed) fun _ _ after =>
    leads_ok ⟨rfl, behind.trans after⟩

/-- Line breaks and slashes, and what they are written as, have no meaning of their own
    behind a backslash. -/
theorem escapedTerm_of_mem
    (mem : c ∈ ['/', 'n', 'r', 'u', '\n', '\r', '\u2028', '\u2029']) (s : Survey) (p : Progress) :
    escapedTerm s p (c :: cs)
      = do return (p, ← quantifier s true (← escape s false (c :: cs)).2) := by
  simp only [List.mem_cons, List.not_mem_nil, or_false] at mem
  rcases mem with rfl | rfl | rfl | rfl | rfl | rfl | rfl | rfl <;> rfl

theorem head_of_lineBreak? {name : List Char} (named : lineBreak? c = some name) :
    ∃ d tail, name = d :: tail ∧ d ∈ ['n', 'r', 'u'] := by
  have mem := lineBreak?_cases named
  simp only [List.mem_cons, List.not_mem_nil, or_false] at mem
  rcases mem with rfl | rfl | rfl | rfl <;> exact ⟨_, _, rfl, by decide⟩

/-- The name of a line break as a term. -/
theorem escapedTerm_name {name : List Char} (named : lineBreak? c = some name) (s : Survey)
    (p : Progress) :
    escapedTerm s p (name ++ ds)
      = do return (p, ← quantifier s true (← escape s false (name ++ ds)).2) := by
  rcases head_of_lineBreak? named with ⟨d, tail, rfl, mem⟩
  exact escapedTerm_of_mem (List.mem_cons_of_mem _ (List.mem_append_left _ mem)) s p

/-- What a new backslash was put in front of, as a term. -/
theorem escapedTerm_marked (marks : Marks c shown) (s : Survey) (p : Progress) :
    escapedTerm s p (shown ++ ds) = do return (p, ← quantifier s true ds) := by
  have reads : escapedTerm s p (shown ++ ds)
      = do return (p, ← quantifier s true (← escape s false (shown ++ ds)).2) := by
    rcases marks with ⟨rfl, rfl⟩ | named
    · exact escapedTerm_of_mem (by decide) s p
    · exact escapedTerm_name named s p
  rw [reads, escape_marked marks]
  rfl

/-- What stands behind a backslash in both bodies is read from both. -/
theorem escapedTerm_plain (h : Escapes cs ds) (s : Survey) (p : Progress) :
    Leads (SameBehind (c :: cs)) (escapedTerm s p (c :: cs)) (escapedTerm s p (c :: ds)) := by
  have behind : Behind (c :: cs) cs ds := (Behind.refl h).cons
  have plain : Leads (SameBehind (c :: cs))
      (do return (p, ← quantifier s true (← escape s false (c :: cs)).2))
      (do return (p, ← quantifier s true (← escape s false (c :: ds)).2)) :=
    leads_bind (escape_plain h s false) fun _ _ same => term_leads same.2 s true p
  unfold escapedTerm
  dsimp only
  refine leads_ite (fun _ => leads_ok ⟨rfl, behind⟩) fun _ => ?_
  refine leads_ite (fun _ => term_leads behind s true p) fun _ => ?_
  refine leads_ite (fun _ => ?_) fun _ => ?_
  · exact leads_bind (property_leads h s false _) fun _ _ same =>
      term_leads (behind.trans same.2) s true p
  refine leads_ite (fun _ => ?_) fun _ => ?_
  · split
    · next cs =>
        rcases h.of_inert (by decide) with ⟨ds, rfl, inside⟩
        refine leads_bind (groupName_leads (Nat.succ_le_succ inside.length_le) "" inside) ?_
        rintro ⟨name, rest⟩ ⟨name', rest'⟩ ⟨same, after⟩
        cases same
        exact term_leads after.cons.cons s true _
    · exact leads_error _ _
  refine leads_ite (fun digit => ?_) fun _ => plain
  have other : c ≠ '\\' := by
    rintro rfl
    exact absurd digit (by decide)
  rcases takeWhile_behind (.plain other h) fun _ => isInert_of_isDigit with ⟨number, after⟩
  rw [number]
  refine leads_ite (fun _ => term_leads after s true p) fun _ => ?_
  refine leads_ite (fun _ => leads_error _ _) fun _ => ?_
  exact leads_ite (fun _ => term_leads behind s true p) fun _ => plain

/-- What stands behind a backslash outside brackets is read from both bodies. -/
theorem escapedTerm_leads (shows : Shows c shown) (h : Escapes cs ds) (s : Survey)
    (p : Progress) :
    Leads (SameBehind (c :: cs)) (escapedTerm s p (c :: cs)) (escapedTerm s p (shown ++ ds)) := by
  rcases shows with rfl | named
  · exact escapedTerm_plain h s p
  · rw [escapedTerm_of_mem (List.mem_append_right ['/', 'n', 'r', 'u'] (mem_of_lineBreak? named)),
      escapedTerm_name named]
    exact leads_bind (escape_leads (.inr named) h s false) fun _ _ same =>
      term_leads same.2 s true p

end Pattern

end Stencil
