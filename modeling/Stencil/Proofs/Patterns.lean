import Stencil.Proofs.Entries
import Stencil.Proofs.EscapedBodies
import Stencil.Proofs.Shells

/-!
# Patterns in Normal Form

Patterns are made again from their own body and flags.

A pattern is written with everything escaped that would end its body, and with its
flags in their order. Doing so twice is no different from doing it once: the name
behind the backslash of a line break is read as it is, and so is an escaped slash, and
both leave open what was open before. And what was escaped in a well-formed body leaves
it well-formed. So the patterns in normal form are just those that can be made.

## Main definitions

* `Pattern.accepts`: Whether flags are those of patterns.

## Theorems

* `Pattern.escapeFrom_escapeFrom`: What is escaped has nothing left to be escaped.
* `Pattern.ofParts_ofParts`: The parts of a pattern are those of itself.
* `Pattern.check_source`: The body of a pattern is well-formed as it is written.
* `Pattern.isNormal_iff`: The normal patterns are those that can be made.
-/

namespace Stencil

namespace Pattern

variable {source flags : String} {p : Pattern}

/-! ### Bodies -/

/-- Behind a backslash the name of a line break is read as it is. -/
theorem escapeFrom_name {name : List Char}
    (mem : name ∈ [['n'], ['r'], "u2028".toList, "u2029".toList]) (inClass : Bool)
    (rest : List Char) :
    escapeFrom true inClass (name ++ rest) = name ++ escapeFrom false inClass rest := by
  simp only [List.mem_cons, List.not_mem_nil, or_false] at mem
  rcases mem with rfl | rfl | rfl | rfl <;> cases inClass <;> rfl

/-- What is escaped has nothing left to be escaped. -/
theorem escapeFrom_escapeFrom (escaped inClass : Bool) (cs : List Char) :
    escapeFrom escaped inClass (escapeFrom escaped inClass cs) = escapeFrom escaped inClass cs := by
  induction cs generalizing escaped inClass with
  | nil => rfl
  | cons c cs ih =>
      rw [escapeFrom]
      cases found : lineBreak? c with
      | some name =>
          have mem := lineBreak?_cases found
          have apart : c ≠ '\\' ∧ c ≠ '[' ∧ c ≠ ']' := by
            have breaks := mem_of_lineBreak? found
            simp only [List.mem_cons, List.not_mem_nil, or_false] at breaks
            rcases breaks with rfl | rfl | rfl | rfl <;> decide
          -- A line break leaves a class open or closed, and so does its name.
          have state : (c == '\\' && !escaped) = false
              ∧ (if escaped = true then inClass
                  else if inClass = true then c != ']' else c == '[') = inClass := by
            cases escaped <;> cases inClass <;> simp [apart]
          simp only [state.1, state.2]
          cases escaped with
          | true =>
              simp only [if_true]
              rw [escapeFrom_name mem, ih]
          | false =>
              simp only [Bool.false_eq_true, if_false, List.cons_append]
              rw [escapeFrom_backslash, escapeFrom_name mem, ih]
      | none =>
          simp only
          by_cases slash : (c = '/' && !escaped && !inClass) = true
          · simp only [Bool.and_eq_true, decide_eq_true_eq, Bool.not_eq_true'] at slash
            rcases slash with ⟨⟨rfl, rfl⟩, rfl⟩
            exact congrArg (['\\', '/'] ++ ·) (ih false false)
          · rw [if_neg slash, List.singleton_append, escapeFrom, found]
            simp only [if_neg slash, List.singleton_append, ih]

/-! ### Flags -/

theorem mem_flags {c : Char} (flag : c ∈ allFlags) :
    (ofParts source flags).flags.toList.contains c = flags.toList.contains c := by
  rw [ofParts, String.toList_ofList, Bool.eq_iff_iff, List.contains_iff_mem, List.mem_filter]
  exact and_iff_right flag

/-! ### Patterns -/

/-- The parts of a pattern are those of itself. -/
theorem ofParts_ofParts (source flags : String) :
    ofParts (ofParts source flags).source (ofParts source flags).flags = ofParts source flags := by
  have body : (ofParts (ofParts source flags).source (ofParts source flags).flags).source
      = (ofParts source flags).source := by
    by_cases empty : source = ""
    · simp only [ofParts, empty]
      decide
    · have some : source.toList ≠ [] := fun none => empty (String.toList_inj.mp none)
      have written : String.ofList (escapeFrom false false source.toList) ≠ "" := by
        intro none
        refine (escapes_escapeFrom false source.toList).ne_nil some ?_
        rw [← String.toList_ofList (l := escapeFrom false false source.toList), none]
        rfl
      simp only [ofParts, empty, written, if_false, String.toList_ofList, escapeFrom_escapeFrom]
  have order : (ofParts (ofParts source flags).source (ofParts source flags).flags).flags
      = (ofParts source flags).flags := by
    change String.ofList (allFlags.filter (ofParts source flags).flags.toList.contains)
      = String.ofList (allFlags.filter flags.toList.contains)
    rw [List.filter_congr fun c flag => mem_flags flag]
  generalize ofParts (ofParts source flags).source (ofParts source flags).flags = p at body order
  generalize ofParts source flags = q at body order
  rcases p with ⟨_, _⟩
  rcases q with ⟨_, _⟩
  cases body
  cases order
  rfl

/-- Whether flags are those of patterns, each given once, and ask for one grammar. -/
def accepts (flags : List Char) : Bool :=
  flags.all allFlags.contains && flags.eraseDups.length = flags.length
    && !(flags.contains 'u' && flags.contains 'v')

/-- What is made is the pattern with these parts, if its flags are accepted and its body is
    well-formed. -/
theorem make?_eq_ok_iff : make? source flags = .ok p ↔ p = ofParts source flags
    ∧ accepts flags.toList = true ∧ ∃ u, check (modeOf flags.toList) source = .ok u := by
  have guard : (!(flags.toList.all allFlags.contains
      && flags.toList.eraseDups.length = flags.toList.length)
      || (flags.toList.contains 'u' && flags.toList.contains 'v')) = !accepts flags.toList := by
    rw [accepts, Bool.not_and _ (!_), Bool.not_not]
  rw [make?]
  simp only [guard]
  cases accepts flags.toList with
  | false =>
      constructor
      · intro made
        cases made
      · rintro ⟨-, accepted, -⟩
        cases accepted
  | true =>
      cases check (modeOf flags.toList) source with
      | error flaw =>
          constructor
          · intro made
            cases made
          · rintro ⟨-, -, _, fine⟩
            cases fine
      | ok u =>
          constructor
          · intro made
            exact ⟨(Except.ok.inj made).symm, rfl, u, rfl⟩
          · rintro ⟨rfl, -, -⟩
            rfl

/-- The flags of a pattern are accepted, and ask for the same grammar. -/
theorem accepts_flags (accepted : accepts flags.toList = true) :
    accepts (ofParts source flags).flags.toList = true
      ∧ modeOf (ofParts source flags).flags.toList = modeOf flags.toList := by
  have u : (ofParts source flags).flags.toList.contains 'u' = flags.toList.contains 'u' :=
    mem_flags (by decide)
  have v : (ofParts source flags).flags.toList.contains 'v' = flags.toList.contains 'v' :=
    mem_flags (by decide)
  have known : (ofParts source flags).flags.toList.all allFlags.contains = true := by
    rw [ofParts, String.toList_ofList, List.all_eq_true]
    exact fun c mem => List.contains_iff_mem.mpr (List.mem_filter.mp mem).1
  have once : (ofParts source flags).flags.toList.eraseDups
      = (ofParts source flags).flags.toList := by
    refine eraseDups_of_nodup ?_
    rw [ofParts, String.toList_ofList]
    exact List.Nodup.filter _ (by decide)
  rw [accepts, Bool.and_eq_true] at accepted
  rw [accepts, modeOf, modeOf, u, v, known, once, accepted.2, decide_eq_true rfl]
  exact ⟨rfl, rfl⟩

/-- The body of a pattern is well-formed as it is written, if it was as it was given. -/
theorem check_source {mode : Mode} (fine : check mode source = .ok ()) :
    check mode (ofParts source flags).source = .ok () := by
  by_cases empty : source = ""
  · -- A pattern without a body is written as a group with nothing in it.
    have written : (ofParts source flags).source = "(?:)" := if_pos empty
    rw [written]
    cases mode <;> decide +kernel
  · have written : (ofParts source flags).source
        = String.ofList (escapeFrom false false source.toList) := if_neg empty
    rw [written]
    refine check_of_escapes ?_ fine
    rw [String.toList_ofList]
    exact escapes_escapeFrom false source.toList

/-- A pattern that was made is normal. -/
theorem isNormal_of_make? (made : make? source flags = .ok p) : p.IsNormal := by
  rcases make?_eq_ok_iff.mp made with ⟨rfl, accepted, _, fine⟩
  have again : accepts (ofParts source flags).flags.toList = true
      ∧ modeOf (ofParts source flags).flags.toList = modeOf flags.toList := accepts_flags accepted
  rw [IsNormal, make?_eq_ok_iff, ofParts_ofParts, again.2]
  exact ⟨rfl, again.1, (), check_source fine⟩

/-- The normal patterns are those that can be made. -/
theorem isNormal_iff : p.IsNormal ↔ ∃ source flags, make? source flags = .ok p :=
  ⟨fun normal => ⟨p.source, p.flags, normal⟩, fun ⟨_, _, made⟩ => isNormal_of_make? made⟩

end Pattern

end Stencil
