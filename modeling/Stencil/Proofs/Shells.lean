import Stencil.Proofs.Copying
import Stencil.Proofs.Lineage

/-!
# Objects That Can Be Copied

The objects whose copy starts from the object itself.

What the copy of an object starts from is its shell. Kinds with a state of their
own are made anew from what their methods say, and then their shell only has
that state: it is the object itself if there was nothing more to it. Everything
else keeps its properties and its prototype, as long as it does not derive from
one of those kinds. A copy can always get more properties, and what its body
gives it as properties has the usual attributes; that is the only thing that can
get lost.

`Copyable` collects these objects. Dates, patterns and links are made from what
they say about themselves, so that has to lead back to them: an instant is
within the reach of dates, and patterns and links are in the normal form in
which they are kept. Reading a text that is in normal form gives it back.

## Main definitions

* `Link.IsNormal`, `Pattern.IsNormal`: Normal forms.
* `Store.Ordinary`: Objects that derive from no kind with copies of its own.
* `Store.Copyable`: Objects whose copy starts from the object itself.

## Theorems

* `Number.truncate?_ofInt`: Integers are numbers.
* `Store.visit_eq`: The elements of an array in which nothing is missing.
* `Store.flagsPart_eq`, `Store.patternOf_eq`: The pattern that a pattern says it
  is.
* `Store.linkOf_eq`: The link that a link says it is.
* `Store.shell_array`, `Store.shell_map`, `Store.shell_set`, `Store.shell_date`,
  `Store.shell_pattern`, `Store.shell_url`, `Store.shell_boxed`,
  `Store.shell_record`: The shells of the kinds.
* `Store.shell_eq`: The shell of an object that can be copied.
-/

namespace Stencil

/-! ### Numbers -/

theorem splitTwos_eq (bound n : Nat) :
    (splitTwos bound n).1 * twoTo (splitTwos bound n).2 = n := by
  induction bound generalizing n with
  | zero => exact Nat.mul_one n
  | succ bound ih =>
      rw [splitTwos]
      by_cases even : n % 2 = 0
      · rw [if_pos even]
        have half := ih (n / 2)
        simp only [twoTo_succ, ← Nat.mul_assoc, half]
        omega
      · rw [if_neg even, twoTo_zero, Nat.mul_one]

/-- Integers are numbers. -/
theorem Number.truncate?_ofInt (n : Int) : (Number.ofInt n).truncate? = some n := by
  rw [ofInt, dyadic]
  by_cases zero : n.natAbs = 0
  · rw [Int.natAbs_eq_zero.mp zero]
    rfl
  · rw [if_neg zero]
    have whole : ((splitTwos n.natAbs.log2 n.natAbs).1 : Int)
        * twoTo (splitTwos n.natAbs.log2 n.natAbs).2 = n.natAbs := by
      exact_mod_cast splitTwos_eq n.natAbs.log2 n.natAbs
    have noFraction : (-((splitTwos n.natAbs.log2 n.natAbs).2 : Int)).toNat = 0 := by omega
    simp only [truncate?, Int.zero_add, Int.toNat_natCast, Option.some.injEq]
    rw [noFraction, twoTo_zero, Int.natCast_one, Int.ediv_one, whole]
    by_cases negative : n < 0
    · rw [decide_eq_true negative, if_pos rfl]
      omega
    · rw [decide_eq_false negative, if_neg (by decide)]
      omega

/-! ### Normal forms -/

/-- A link is in normal form: its parts make it up, and reading it gives it
    back. Links that were read are documented to be; the results that copy links take it
    as a premise. -/
structure Link.IsNormal (href : String) : Prop where
  parts : (Link.ofHref href).href = href
  reading : (Link.read? href).map Link.href = some href

/-- A pattern is in normal form: it is the one that its body and its flags
    make. Every pattern that was made is. -/
def Pattern.IsNormal (p : Pattern) : Prop :=
  Pattern.make? p.source p.flags = .ok p

/-- Whether the objects of a family are copied in a way of their own. -/
def Family.hasOwnCopies (f : Family) : Bool :=
  [date, pattern, url, string, number, boolean, map, set].any f.isA

/-- The character of a part that is a flag. -/
def Part.flag? : Part → Option Char
  | flag c => some c
  | _ => none

namespace Store

/-- The prototypes of an object lead to no family whose objects are copied in a
    way of their own. -/
inductive Ordinary (st : Store) : Ref → Prop
  | none {r : Ref} (next : (st.get r).prototype = .none) : Ordinary st r
  | family {r : Ref} {f : Family} (next : (st.get r).prototype = .family f)
      (other : f.hasOwnCopies = false) : Ordinary st r
  | object {r q : Ref} (next : (st.get r).prototype = .object q)
      (inside : q.index < st.objects.size) (rest : Ordinary st q) : Ordinary st r

/-- An object whose copy starts from the object itself. -/
inductive Copyable (st : Store) (r : Ref) : Prop
  /-- Properties of all kinds, under a prototype that may be any object. -/
  | record (body : (st.get r).body = .record) (ordinary : st.Ordinary r)
  | array (elements : List Value) {integrity : Integrity}
      (there : st.get r = .bare (.array (elements.map some)) integrity)
  | map (entries : List (Value × Value)) (distinct : Distinct (entries.map Prod.fst))
      {integrity : Integrity} (there : st.get r = .bare (.map entries) integrity)
  | set (elements : List Value) (distinct : Distinct elements) {integrity : Integrity}
      (there : st.get r = .bare (.set elements) integrity)
  | date (instant : Option Instant)
      (within : ∀ ms ∈ instant, -Instant.reach ≤ ms ∧ ms ≤ Instant.reach)
      {integrity : Integrity} (there : st.get r = .bare (.date instant) integrity)
  | pattern (p : Pattern) (normal : p.IsNormal) {integrity : Integrity}
      (there : st.get r = .bare (.pattern p (.number (Number.ofInt 0))) integrity)
  | url (href : String) (normal : Link.IsNormal href) {integrity : Integrity}
      (there : st.get r = .bare (.url href) integrity)
  | boxed (v : Value) (simple : v.wrapper = .string ∨ v.wrapper = .number ∨ v.wrapper = .boolean)
      {integrity : Integrity} (there : st.get r = .bare (.boxed v) integrity)

variable {interp : Interpretation} {st st' : Store} {r : Ref}

/-! ### What an object derives from -/

/-- A lookup of what an ordinary object derives from finds no kind with copies of
    its own, however far it goes. -/
theorem Ordinary.rootFamilyWithin (ordinary : st.Ordinary r) {n : Nat} {f : Family}
    (found : st.rootFamilyWithin n r = some f) : f.hasOwnCopies = false := by
  induction n generalizing r with
  | zero => cases found
  | succ n ih =>
      rw [Store.rootFamilyWithin] at found
      cases ordinary with
      | none next =>
          rw [next] at found
          cases found
      | family next other =>
          rw [next] at found
          cases found
          exact other
      | object next inside rest =>
          rw [next] at found
          exact ih rest found

theorem Ordinary.inherits (ordinary : st.Ordinary r) {f : Family}
    (own : f ∈ [Family.date, .pattern, .url, .string, .number, .boolean, .map, .set]) :
    st.inherits r f = false := by
  rw [Store.inherits, rootFamily?]
  cases found : st.rootFamilyWithin (st.objects.size + 1) r with
  | none => rfl
  | some root =>
      have other := ordinary.rootFamilyWithin found
      rw [Family.hasOwnCopies, List.any_eq_false] at other
      exact Bool.eq_false_iff.mpr (other f own)

/-- What an ordinary object derives from stays. -/
theorem Ordinary.extends (ordinary : st.Ordinary r) (inside : r.index < st.objects.size)
    (h : st.Extends st') : st'.Ordinary r := by
  induction ordinary with
  | none next => exact .none (h.get_eq _ inside ▸ next)
  | family next other => exact .family (h.get_eq _ inside ▸ next) other
  | object next above rest ih =>
      exact .object (h.get_eq _ inside ▸ next) (Nat.lt_of_lt_of_le above h.size_le) (ih above)

/-- What is bare derives from the family of its kind. -/
theorem inherits_of_bare {b : Body} {integrity : Integrity} (there : st.get r = .bare b integrity)
    (f : Family) : st.inherits r f = b.family.isA f :=
  inherits_of_family (by rw [there, Object.prototype_bare])

/-! ### Dates -/

/-- The count of milliseconds of an instant stands for it. -/
theorem instantOf_milliseconds {instant : Option Instant}
    (within : ∀ ms ∈ instant, -Instant.reach ≤ ms ∧ ms ≤ Instant.reach) :
    st.instantOf interp (milliseconds instant) = .ok instant := by
  cases instant with
  | none => rfl
  | some ms =>
      change Except.ok (Instant.ofNumber? (Number.ofInt ms)) = _
      rw [Instant.ofNumber?, Number.truncate?_ofInt]
      exact congrArg Except.ok (if_pos (within ms rfl))

/-- A date tells its own time. -/
theorem invoke_getTime {instant : Option Instant} (genuine : st.Genuine r (.date instant)) :
    st.invoke interp "value" r "getTime" = .ok (.existing (milliseconds instant)) := by
  have found : st.find? r (.text "getTime")
      = some (.native (.method .time .date) (.family .date)) :=
    genuine.find? List.mem_cons_self
  rw [invoke, method?, found]
  simp only [nativeValue, genuine.body_eq, bind, Except.bind, pure, Except.pure]

/-! ### Wrapped values -/

/-- An object around a simple value gives that value. -/
theorem invoke_valueOf {v : Value} {subject : String}
    (simple : v.wrapper = .string ∨ v.wrapper = .number ∨ v.wrapper = .boolean)
    (genuine : st.Genuine r (.boxed v)) :
    st.invoke interp subject r "valueOf" = .ok (.existing v) := by
  have found : st.find? r (.text "valueOf")
      = some (.native (.method .value v.wrapper) (.family v.wrapper)) := by
    rw [genuine.find? List.mem_cons_self]
    cases v with
    | text s => rfl
    | number n => rfl
    | boolean b => rfl
    | _ => rcases simple with h | h | h <;> cases h
  rw [invoke, method?, found]
  simp only [nativeValue, genuine.body_eq, bind, Except.bind, pure, Except.pure]
  rcases simple with h | h | h <;> simp only [h, if_true]

/-! ### Arrays -/

/-- Visiting an array goes through its elements. -/
theorem visit_array {elements : List (Option Value)} (genuine : st.Genuine r (.array elements))
    (refusal : String) : st.visit interp refusal (.object r) = st.elements interp r := by
  have iterable : st.isIterable r = true := by
    rw [isIterable, genuine.rootFamily?]
    rfl
  have isArray : st.inherits r .array = true := genuine.inherits .array
  rw [visit, Reader.visit, iterable, if_pos rfl, Reader.visitObject, isArray, if_pos rfl,
    genuine.body_eq]
  rfl

/-- Visiting an array in which nothing is missing gives its elements. -/
theorem visit_eq {elements : List Value} (genuine : st.Genuine r (.array (elements.map some)))
    (refusal : String) : st.visit interp refusal (.object r) = .ok (st, elements) := by
  have each : ∀ (vs : List Value) (i : Nat),
      (reader interp).elementsFrom r st i (vs.map some) = .ok (st, vs) := by
    intro vs
    induction vs with
    | nil => exact fun _ => rfl
    | cons v vs ih =>
        intro i
        rw [List.map_cons, Reader.elementsFrom, ih]
        rfl
  have indexed : (st.get r).indexed = elements.map some := by
    rw [Object.indexed, genuine.body_eq]
  rw [visit_array genuine, Store.elements, Reader.elements, indexed]
  exact each elements 0

/-! ### Patterns -/

/-- The flags of a pattern in normal form are in their order. -/
theorem flags_eq_of_isNormal {p : Pattern} (normal : p.IsNormal) :
    p.flags = String.ofList (Pattern.allFlags.filter p.flags.toList.contains) := by
  rw [Pattern.IsNormal, Pattern.make?] at normal
  split at normal
  · cases normal
  · split at normal
    · have same : Pattern.ofParts p.source p.flags = p := Except.ok.inj normal
      exact (congrArg Pattern.flags same).symm
    · cases normal

section

variable {p : Pattern} {lastIndex : Value}

/-- A pattern tells whether it has a flag. -/
theorem read_flag (genuine : st.Genuine r (.pattern p lastIndex)) (bound : Nat)
    {name : String} {c : Char} (part : (name, Part.flag c) ∈ Family.pattern.parts) :
    readWithin interp (bound + 1) st r (.text name)
      = .ok (st, .boolean (p.flags.toList.contains c)) := by
  have found : st.find? r (.text name) = some (.native (.part (.flag c)) (.family .pattern)) := by
    rw [genuine.find? (List.mem_map_of_mem part)]
    simp only [Family.parts, List.mem_cons, Prod.mk.injEq, List.not_mem_nil, or_false] at part
    -- The first two parts of a pattern are its body and its flags, and all others are one
    -- flag.
    rcases part with ⟨_, h⟩ | ⟨_, h⟩ | ⟨rfl, h⟩ | ⟨rfl, h⟩ | ⟨rfl, h⟩ | ⟨rfl, h⟩ | ⟨rfl, h⟩ |
      ⟨rfl, h⟩ | ⟨rfl, h⟩ | ⟨rfl, h⟩ <;> cases h <;> rfl
  rw [readWithin, found]
  simp only [readPart, bodyPart, bodyPart?, genuine.body_eq]

/-- Flags that are asked for one part after the other come out in the order of
    the parts. -/
theorem collected {ask : Store × List Char → String × Part → Except Thrown (Store × List Char)}
    (has : Char → Bool) {parts : List (String × Part)}
    (asked : ∀ e ∈ parts, ∀ flags,
      ask (st, flags) e = .ok (st, flags ++ e.2.flag?.toList.filter has)) (flags : List Char) :
    parts.foldlM ask (st, flags)
      = .ok (st, flags ++ (parts.filterMap fun e => e.2.flag?).filter has) := by
  induction parts generalizing flags with
  | nil => simp [pure, Except.pure]
  | cons e parts ih =>
      have rest := ih fun e he => asked e (List.mem_cons_of_mem _ he)
      simp only [List.foldlM_cons, asked e List.mem_cons_self, bind, Except.bind, rest,
        List.append_assoc]
      -- A part that is no flag adds nothing.
      cases flag : e.2.flag? with
      | none => simp [flag]
      | some c => simp [flag, ← List.filter_append]

/-- The flags that a pattern says it has are its flags. -/
theorem flagsPart_eq (normal : p.IsNormal) (genuine : st.Genuine r (.pattern p lastIndex))
    (bound : Nat) :
    flagsPart (readWithin interp (bound + 1)) st r = .ok (st, .text p.flags) := by
  rw [flagsPart, collected p.flags.toList.contains (fun e he flags => ?_)]
  · exact congrArg (fun text => Except.ok (st, Value.text text)) (flags_eq_of_isNormal normal).symm
  · rcases e with ⟨name, part⟩
    cases part with
    | flag c =>
        have here : (Value.boolean (p.flags.toList.contains c)).holds
            = p.flags.toList.contains c := rfl
        simp only [read_flag genuine bound he, bind, Except.bind, pure, Except.pure, here,
          Part.flag?, Option.toList_some, List.filter_cons, List.filter_nil]
        by_cases has : p.flags.toList.contains c = true
        · rw [if_pos has, if_pos has]
        · rw [if_neg has, if_neg has, List.append_nil]
    | _ => simp [Part.flag?]

/-- The pattern that a pattern says it is. -/
theorem patternOf_eq (normal : p.IsNormal) (genuine : st.Genuine r (.pattern p lastIndex)) :
    st.patternOf interp r = .ok p := by
  have source : st.read interp r (.text "source") = .ok (st, .text p.source) := by
    have found : st.find? r (.text "source")
        = some (.native (.part .source) (.family .pattern)) :=
      genuine.find? List.mem_cons_self
    rw [read, readWithin, found]
    simp only [readPart, bodyPart, bodyPart?, genuine.body_eq]
  have flags : st.read interp r (.text "flags") = .ok (st, .text p.flags) := by
    have found : st.find? r (.text "flags") = some (.native (.part .flags) (.family .pattern)) :=
      genuine.find? (List.mem_cons_of_mem _ List.mem_cons_self)
    rw [read, readWithin, found]
    exact flagsPart_eq normal genuine st.objects.size
  have again : Pattern.make? p.source p.flags = .ok p := normal
  have parts : st.patternParts interp (.text p.source) (.text p.flags)
      = .ok (st, .text p.source, .text p.flags) := rfl
  have text : ∀ s, st.partText interp (.text s) = .ok s := fun _ => rfl
  simp only [patternOf, source, flags, bind, Except.bind, parts, text, again]
  rfl

end

/-! ### Links -/

/-- The link that a link says it is. -/
theorem linkOf_eq {href : String} (normal : Link.IsNormal href)
    (genuine : st.Genuine r (.url href)) : st.linkOf interp r = .ok href := by
  have found : st.find? r (.text "href")
      = some (.native (.part (.link .href)) (.family .url)) :=
    genuine.find? List.mem_cons_self
  have reads : st.read interp r (.text "href") = .ok (st, .text href) := by
    rw [read, readWithin, found]
    simp only [readPart, bodyPart, bodyPart?, genuine.body_eq, Link.part, normal.parts]
  rcases Option.map_eq_some_iff.mp normal.reading with ⟨l, again, same⟩
  have text : st.textOf interp (.text href) = .ok href := rfl
  simp only [linkOf, reads, bind, Except.bind, text, again]
  exact congrArg Except.ok same

/-! ### All kinds -/

/-- The shell of an array has the elements that are visited. -/
theorem shell_array {elements : List (Option Value)} (genuine : st.Genuine r (.array elements)) :
    st.shell interp r = st.visit interp "value is not iterable" (.object r) >>= fun visited =>
      .ok (visited.1, .object (.ofBody (.array (visited.2.map some)))) := by
  have kind := genuine.inherits
  simp only [Store.shell, kind, genuine.body_eq]
  rfl

/-- The shell of a map has its entries. -/
theorem shell_map {entries : List (Value × Value)} (genuine : st.Genuine r (.map entries)) :
    st.shell interp r = .ok (st, .object (.ofBody (.map entries))) := by
  have kind := genuine.inherits
  simp only [Store.shell, collectionShell, kind, genuine.body_eq]
  rfl

/-- The shell of a set has its elements. -/
theorem shell_set {elements : List Value} (genuine : st.Genuine r (.set elements)) :
    st.shell interp r = .ok (st, .object (.ofBody (.set elements))) := by
  have kind := genuine.inherits
  simp only [Store.shell, collectionShell, kind, genuine.body_eq]
  rfl

/-- The shell of a date has the instant that it tells. -/
theorem shell_date {instant : Option Instant} (genuine : st.Genuine r (.date instant)) :
    st.shell interp r = st.instantOf interp (milliseconds instant) >>= fun instant =>
      .ok (st, .object (.ofBody (.date instant))) := by
  have isDate : st.inherits r .date = true := genuine.inherits .date
  rw [Store.shell, isDate, if_pos rfl, invoke_getTime genuine]
  rfl

/-- The shell of a pattern is the pattern that it says it is. -/
theorem shell_pattern {p : Pattern} {lastIndex : Value} (normal : p.IsNormal)
    (genuine : st.Genuine r (.pattern p lastIndex)) :
    st.shell interp r = .ok (st, .object (.ofBody (.pattern p (.number (Number.ofInt 0))))) := by
  have kind := genuine.inherits
  simp only [Store.shell, kind, patternOf_eq normal genuine]
  rfl

/-- The shell of a link is the link that it says it is. -/
theorem shell_url {href : String} (normal : Link.IsNormal href)
    (genuine : st.Genuine r (.url href)) :
    st.shell interp r = .ok (st, .object (.ofBody (.url href))) := by
  have kind := genuine.inherits
  simp only [Store.shell, kind, linkOf_eq normal genuine]
  rfl

/-- The shell of a wrapped value wraps it anew. -/
theorem shell_boxed {v : Value}
    (simple : v.wrapper = .string ∨ v.wrapper = .number ∨ v.wrapper = .boolean)
    (genuine : st.Genuine r (.boxed v)) :
    st.shell interp r = .ok (st, .object (.ofBody (.boxed v))) := by
  have kind := genuine.inherits
  simp only [Store.shell, kind, invoke_valueOf simple genuine]
  cases v with
  | text s => rfl
  | number n => rfl
  | boolean b => rfl
  | _ => rcases simple with h | h | h <;> cases h

/-- The shell of an object that no kind has a way of its own for is the object itself. -/
theorem shell_record (body : (st.get r).body = .record) (ordinary : st.Ordinary r) :
    st.shell interp r = .ok (st, .object (st.get r).unlocked) := by
  have same : (st.get r).ordinaryShell = (st.get r).unlocked := by
    simp only [Object.ordinaryShell, Object.unlocked, body]
  simp only [Store.shell, ordinary.inherits, List.mem_cons, true_or, or_true, body, same,
    Bool.false_eq_true, if_false, Bool.or_self]

/-- The shell of an object that can be copied is the object itself. -/
theorem shell_eq (copyable : st.Copyable r) :
    st.shell interp r = .ok (st, .object (st.get r).unlocked) := by
  cases copyable with
  | record body ordinary => exact shell_record body ordinary
  | array elements there =>
      have genuine := genuine_of_bare there
      rw [shell_array genuine, visit_eq genuine, there]
      rfl
  | map entries distinct there =>
      rw [shell_map (genuine_of_bare there), there]
      rfl
  | set elements distinct there =>
      rw [shell_set (genuine_of_bare there), there]
      rfl
  | date instant within there =>
      rw [shell_date (genuine_of_bare there), instantOf_milliseconds within, there]
      rfl
  | pattern p normal there =>
      rw [shell_pattern normal (genuine_of_bare there), there]
      rfl
  | url href normal there =>
      rw [shell_url normal (genuine_of_bare there), there]
      rfl
  | boxed v simple there =>
      rw [shell_boxed simple (genuine_of_bare there), there]
      rfl

end Store

end Stencil
