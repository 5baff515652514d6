import Stencil.Proofs.Acceptance
import Stencil.Proofs.OctetCodes

/-!
# Bytes as Text

An array of bytes has a text, and nothing of it is lost there. Bytes that are
well-formed UTF-8 are read, so that writing the text gives the bytes again, except for
a byte order mark at the start. What is not well-formed is written in base64, the mark
included, and reading that gives the bytes again.

Which of the two it is depends on the bytes that the array shows. What is around them
in the buffer does not matter, nor does where they lie.

The other way round, from a text to its bytes and back, the mark is what is lost. A text
may start with that character like with any other, and its bytes then look as if the mark
had been put in front of a shorter text. Only the first one is taken for a mark, so all
other texts come back as they were, with this character in them or not.

## Main definitions

* `Utf8.mark`: The byte order mark as a character.
* `Store.IsView`: Arrays of bytes.

## Theorems

* `Serializer.toUTF8_octetText`, `Serializer.decode?_octetText`: The text of bytes.
* `Store.serialize_view`: The text of an array of bytes.
* `Store.serialize_keeps_bytes`: The array loses nothing in its text.
* `Utf8.withoutMark_encode`: Which texts have bytes that start with a mark.
* `Store.serialize_encoded`: The text comes back from its bytes, except for a mark.
-/

namespace Stencil

/-- Only two families have arrays of bytes. -/
theorem Family.eq_of_isA_uint8Array {f : Family} (array : f.isA (.octets .uint8Array) = true) :
    f = .octets .uint8Array ∨ f = .octets .buffer := by
  revert array
  cases f with
  | octets c => cases c <;> decide
  | cells c => cases c <;> decide
  | error kind => cases kind <;> decide
  | template v => cases v <;> decide
  | _ => decide

namespace Utf8

/-- The character that is a byte order mark at the start of a text. -/
def mark : Char :=
  '\uFEFF'

/-- A text without a byte order mark in front of it. -/
def unmarked : List Char → List Char
  | [] => []
  | c :: cs => if c = mark then cs else c :: cs

theorem unmarked_of_bare {cs : List Char} (bare : cs.head? ≠ some mark) : unmarked cs = cs := by
  cases cs with
  | nil => rfl
  | cons c cs => rw [unmarked, if_neg fun same => bare (congrArg some same)]

/-- The octets of a text start with a mark only if the text does. -/
theorem withoutMark_encode (cs : List Char) :
    withoutMark (cs.flatMap String.utf8EncodeChar)
      = (unmarked cs).flatMap String.utf8EncodeChar := by
  cases cs with
  | nil => rfl
  | cons c cs =>
      by_cases same : c = mark
      · rw [unmarked, if_pos same, same]
        rfl
      · rw [unmarked, if_neg same, withoutMark.eq_def]
        split
        · next rest octets =>
            -- Read as a character, the three octets in front are the mark.
            have reads : decode? (0xEF :: 0xBB :: 0xBF :: rest) = some (c :: cs) :=
              decode?_eq_some_iff.mpr octets.symm
            have spells : Spells [0xEF, 0xBB, 0xBF] 0xFEFF :=
              .three 0xEF 0xBB 0xBF (by decide) rfl rfl
            rcases Option.map_eq_some_iff.mp ((spells.decode?_append rest).symm.trans reads)
              with ⟨tail, -, parts⟩
            exact absurd (List.cons.inj parts).1.symm same
        · rfl

end Utf8

namespace Serializer

/-- The text of octets: what they say in UTF-8, or else their base64. -/
def octetText (octets : List UInt8) : String :=
  match Utf8.read? octets with
  | some cs => String.ofList cs
  | none => String.ofList (Base64.encode octets)

variable {octets : List UInt8}

/-- Reading the bytes of a text gives it again, without its mark. -/
theorem octetText_encode {s : String} (holds : octets.toByteArray = s.toUTF8) :
    octetText octets = String.ofList (Utf8.unmarked s.toList) := by
  have written : octets = s.toList.flatMap String.utf8EncodeChar := by
    have same := congrArg (fun bytes : ByteArray => bytes.data.toList) holds
    rwa [← String.ofList_toList (s := s), String.toUTF8_eq_toByteArray,
      String.toByteArray_ofList, List.utf8Encode, List.toList_data_toByteArray,
      List.toList_data_toByteArray] at same
  have reads : Utf8.read? octets = some (Utf8.unmarked s.toList) := by
    rw [Utf8.read?_eq, written, Utf8.withoutMark_encode]
    exact Utf8.decode?_eq_some_iff.mpr rfl
  rw [octetText, reads]

/-- Writing the text of well-formed bytes gives them again. -/
theorem toUTF8_octetText (wellFormed : Utf8.IsWellFormed octets) :
    (octetText octets).toUTF8 = (Utf8.withoutMark octets).toByteArray := by
  rcases Utf8.exists_read?_iff.mpr wellFormed with ⟨cs, reads⟩
  rw [octetText, reads]
  exact Utf8.toUTF8_of_read? reads

theorem octetText_of_not (illFormed : ¬ Utf8.IsWellFormed octets) :
    octetText octets = String.ofList (Base64.encode octets) := by
  rw [octetText]
  cases reads : Utf8.read? octets with
  | none => rfl
  | some cs => exact absurd (Utf8.exists_read?_iff.mp ⟨cs, reads⟩) illFormed

/-- Reading the text of other bytes gives them again. -/
theorem decode?_octetText (illFormed : ¬ Utf8.IsWellFormed octets) :
    Base64.decode? (octetText octets).toList = some octets := by
  rw [octetText_of_not illFormed, String.toList_ofList]
  exact Base64.decode?_encode octets

end Serializer

namespace Store

/-- An array of bytes, be it a buffer or not, that perhaps belongs to a class of its own
    or has properties, as long as those do not hide where its bytes are. -/
structure IsView (st : Store) (r : Ref) (w : Window UInt8) : Prop where
  body : ∃ c, c ≠ .dataView ∧ (st.get r).body = .octets c w
  array : st.inherits r (.octets .uint8Array) = true
  unhidden : ∀ name ∈ ["buffer", "byteOffset", "byteLength"], ∃ n holder,
    st.find? r (.text name) = some (.native n holder)

variable {interp : Interpretation} {st : Store} {r : Ref} {w : Window UInt8}

/-- A stretch with the bounds of a window is what the window shows. -/
theorem stretch_window (w : Window UInt8) :
    st.stretch interp w.buffer (countValue w.offset) (countValue w.length) = .ok w.visible := by
  have position (n : Nat) : (Number.ofInt n).position = n := by
    have whole := Number.truncate?_ofInt n
    rw [Number.position.eq_def]
    split
    · next infinite =>
        rw [infinite] at whole
        cases whole
    · rw [whole, Option.getD_some]
  have fits := w.fits
  have inside : ¬ ((w.buffer.length : Int) - w.offset < 0) := by omega
  have within : ¬ ((w.buffer.length : Int) - w.offset < w.length) := by omega
  have start : ¬ ((w.offset : Int) < 0) := by omega
  have asked : countValue w.length ≠ .undefined := nofun
  have number (n : Nat) : st.numberOf interp (countValue n) = .ok (Number.ofInt n) := rfl
  simp only [stretch, number, bind, Except.bind, pure, Except.pure, position, inside, within, start,
    asked, if_false, Except.map, Int.toNat_natCast]
  rfl

namespace IsView

theorem exists_root (view : st.IsView r w) : ∃ c : OctetClass, st.rootFamily? r = some (.octets c)
    ∧ (c = .uint8Array ∨ c = .buffer) := by
  have array := view.array
  rw [inherits] at array
  split at array
  · next root found =>
      rcases Family.eq_of_isA_uint8Array array with rfl | rfl
      · exact ⟨_, found, .inl rfl⟩
      · exact ⟨_, found, .inr rfl⟩
  · cases array

/-- It derives from nothing whose objects have a canonical text. -/
theorem canonical? (view : st.IsView r w) : Serializer.canonical? interp st r = .ok none := by
  rcases view.exists_root with ⟨c, root, rfl | rfl⟩ <;>
    simp only [Serializer.canonical?, Serializer.isWrapper, inherits, root] <;> rfl

/-- Where its bytes lie is computed from what it is, also when the store has grown. -/
theorem read_part (view : st.IsView r w) {st' : Store} (grown : st.Extends st') {name : String}
    (p : Part) (known : (name, p)
      ∈ [("buffer", Part.buffer), ("byteOffset", .byteOffset), ("byteLength", .byteLength)])
    {result : Store × Value} (gives : st'.viewPart? p (st.get r).body = some result) :
    st'.read interp r (.text name) = .ok result := by
  rcases view.body with ⟨c, other, body⟩
  rcases view.exists_root with ⟨d, root, kind⟩
  have inside : r.index < st.objects.size := by
    by_contra outside
    rw [get_of_size_le (Nat.le_of_not_lt outside)] at body
    cases body
  have derives : st.Derives (.octets d) ["buffer", "byteOffset", "byteLength"]
      (st.objects.size + 1) r :=
    .of_native (by rintro ⟨⟩) (by decide) root view.unhidden
  have derives' := (derives.of_extends inside grown).mono (Nat.succ_le_succ grown.size_le)
  have found : st'.find? r (.text name) = some (.native (.part p) (.family .typedArray)) := by
    simp only [List.mem_cons, List.not_mem_nil, or_false, Prod.mk.injEq] at known
    rcases known with ⟨rfl, rfl⟩ | ⟨rfl, rfl⟩ | ⟨rfl, rfl⟩ <;>
      rcases kind with rfl | rfl <;> exact derives'.findWithin_eq (by decide)
  have part : st'.bodyPart r p (.family .typedArray) = .ok result := by
    have computed : st'.bodyPart? .typedArray p (st'.get r).body = some result := by
      rw [body] at gives
      rw [grown.get_eq r inside, body, ← gives]
      cases c with
      | dataView => exact absurd rfl other
      | _ =>
          simp only [List.mem_cons, List.not_mem_nil, or_false, Prod.mk.injEq] at known
          rcases known with ⟨-, rfl⟩ | ⟨-, rfl⟩ | ⟨-, rfl⟩ <;> rfl
    rw [bodyPart, computed]
  rw [read, readWithin, found]
  simp only [List.mem_cons, List.not_mem_nil, or_false, Prod.mk.injEq] at known
  rcases known with ⟨-, rfl⟩ | ⟨-, rfl⟩ | ⟨-, rfl⟩ <;> exact part

end IsView

/-- The text of an array of bytes is that of the bytes that it shows. -/
theorem serialize_view (view : st.IsView r w) :
    Serializer.serialize interp st (.object r)
      = .ok (.existing (.text (Serializer.octetText w.visible))) := by
  rcases view.body with ⟨c, other, body⟩
  have object : (st.get r).isFunction = false := by rw [Object.isFunction, body]
  have text : Serializer.byteText interp st r = .ok (Serializer.octetText w.visible) := by
    rw [Serializer.byteText, Serializer.octetText, body]
    change (match Utf8.read? w.visible with | some cs => _ | none => _) = _
    cases Utf8.read? w.visible with
    | some cs => rfl
    | none =>
        -- Asking for the buffer makes an object of it, which the other answers do not notice.
        let buffer := Object.ofBody (.arrayBuffer w.buffer)
        have grown := extends_push st buffer
        have source : st.read interp r (.text "buffer") = .ok (st.push buffer, .object st.next) :=
          view.read_part (.refl st) .buffer (by decide) (by rw [body]; rfl)
        have offset : (st.push buffer).read interp r (.text "byteOffset")
            = .ok (st.push buffer, countValue (w.offset * 1)) :=
          view.read_part grown .byteOffset (by decide) (by rw [body]; rfl)
        have length : (st.push buffer).read interp r (.text "byteLength")
            = .ok (st.push buffer, countValue (w.length * 1)) :=
          view.read_part grown .byteLength (by decide) (by rw [body]; rfl)
        rw [Nat.mul_one] at offset length
        have octets : (st.push buffer).octetsOf interp (.object st.next) (countValue w.offset)
            (countValue w.length) = .ok w.visible := by
          rw [octetsOf, get_push_next]
          exact stretch_window w
        simp only [source, offset, length, octets, bind, Except.bind]
        rfl
  simp only [Serializer.serialize, object, view.canonical?, Serializer.objectText, view.array, text,
    if_true, bind, Except.bind]
  rfl

/-- The text of an array of bytes keeps them. It says them where they are well-formed, and is
    their base64 where they are not. An array that shows the same bytes has the same text,
    whatever else is in its buffer. -/
theorem serialize_keeps_bytes (interp : Interpretation) (view : st.IsView r w) :
    ∃ t, Serializer.serialize interp st (.object r) = .ok (.existing (.text t))
      ∧ (Utf8.IsWellFormed w.visible → t.toUTF8 = (Utf8.withoutMark w.visible).toByteArray)
      ∧ (¬ Utf8.IsWellFormed w.visible → t = String.ofList (Base64.encode w.visible)
        ∧ Base64.decode? t.toList = some w.visible)
      ∧ ∀ (interp' : Interpretation) (st' : Store) (r' : Ref) (w' : Window UInt8),
        st'.IsView r' w' → w'.visible = w.visible →
          Serializer.serialize interp' st' (.object r') = .ok (.existing (.text t)) := by
  refine ⟨_, serialize_view view, Serializer.toUTF8_octetText, fun illFormed =>
    ⟨Serializer.octetText_of_not illFormed, Serializer.decode?_octetText illFormed⟩, ?_⟩
  intro interp' st' r' w' view' same
  rw [serialize_view view', same]

section

/-- A text after a byte order mark with other bytes around it, a part of a character, and
    the same text in a buffer of its own that has a property. -/
private def snippets : Store :=
  ⟨Store.initial.objects ++ #[
    Object.ofBody (.octets .uint8Array
      ⟨[0xFF, 0xEF, 0xBB, 0xBF, 0x41, 0xC3, 0xA9, 0xFF], 1, 6, by decide⟩),
    Object.ofBody (.octets .buffer ⟨[0x41, 0xE2, 0x82, 0xAC], 1, 2, by decide⟩),
    { Object.ofBody (.octets .buffer ⟨[0xEF, 0xBB, 0xBF, 0x41, 0xC3, 0xA9], 0, 6, by decide⟩) with
      fields := [(.text "note", { slot := .data .null })] }]⟩

/-- The text is said without its mark, be it in a buffer of its own or not, and the part of a
    character is written in base64. -/
theorem serialize_keeps_bytes_of_snippets :
    let text (r : Ref) := Serializer.serialize .standard snippets (.object r)
    let whole : Window UInt8 := ⟨[0xFF, 0xEF, 0xBB, 0xBF, 0x41, 0xC3, 0xA9, 0xFF], 1, 6, by decide⟩
    let part : Window UInt8 := ⟨[0x41, 0xE2, 0x82, 0xAC], 1, 2, by decide⟩
    (snippets.IsView ⟨2⟩ whole ∧ Utf8.IsWellFormed whole.visible)
      ∧ (snippets.IsView ⟨3⟩ part ∧ ¬ Utf8.IsWellFormed part.visible)
      ∧ text ⟨2⟩ = .ok (.existing (.text "Aé")) ∧ text ⟨4⟩ = text ⟨2⟩
      ∧ text ⟨3⟩ = .ok (.existing (.text "4oI=")) := by
  intro text whole part
  have native {r : Ref} (buffer : ∃ n holder, snippets.find? r (.text "buffer")
      = some (.native n holder)) (offset : ∃ n holder, snippets.find? r (.text "byteOffset")
      = some (.native n holder)) (length : ∃ n holder, snippets.find? r (.text "byteLength")
      = some (.native n holder)) : ∀ name ∈ ["buffer", "byteOffset", "byteLength"], ∃ n holder,
      snippets.find? r (.text name) = some (.native n holder) := by
    simpa using ⟨buffer, offset, length⟩
  have first : snippets.IsView ⟨2⟩ whole :=
    ⟨⟨_, by decide, rfl⟩, rfl, native ⟨_, _, rfl⟩ ⟨_, _, rfl⟩ ⟨_, _, rfl⟩⟩
  have second : snippets.IsView ⟨3⟩ part :=
    ⟨⟨_, by decide, rfl⟩, rfl, native ⟨_, _, rfl⟩ ⟨_, _, rfl⟩ ⟨_, _, rfl⟩⟩
  have third : snippets.IsView ⟨4⟩ ⟨[0xEF, 0xBB, 0xBF, 0x41, 0xC3, 0xA9], 0, 6, by decide⟩ :=
    ⟨⟨_, by decide, rfl⟩, rfl, native ⟨_, _, rfl⟩ ⟨_, _, rfl⟩ ⟨_, _, rfl⟩⟩
  have wellFormed : Utf8.IsWellFormed whole.visible := by decide
  have illFormed : ¬ Utf8.IsWellFormed part.visible := by decide
  rcases serialize_keeps_bytes .standard first with ⟨t, said, writes, -, alike⟩
  rcases serialize_keeps_bytes .standard second with ⟨u, encoded, -, reads, -⟩
  have same : t = "Aé" := String.toByteArray_inj.mp ((writes wellFormed).trans (by decide +kernel))
  refine ⟨⟨first, wellFormed⟩, ⟨second, illFormed⟩, same ▸ said,
    (alike _ _ _ _ third rfl).trans said.symm, encoded.trans ?_⟩
  rw [(reads illFormed).1]
  decide +kernel

end

/-- A text comes back from an array with its bytes, unless it starts with a byte order mark.
    Then the text behind the mark comes back. -/
theorem serialize_encoded (interp : Interpretation) (view : st.IsView r w) {s : String}
    (holds : w.visible.toByteArray = s.toUTF8) :
    (s.toList.head? ≠ some Utf8.mark →
        Serializer.serialize interp st (.object r) = .ok (.existing (.text s)))
      ∧ ∀ t, s.toList = Utf8.mark :: t →
        Serializer.serialize interp st (.object r) = .ok (.existing (.text (.ofList t))) := by
  have reads : Serializer.serialize interp st (.object r)
      = .ok (.existing (.text (.ofList (Utf8.unmarked s.toList)))) := by
    rw [serialize_view view, Serializer.octetText_encode holds]
  constructor
  · intro bare
    rw [reads, Utf8.unmarked_of_bare bare, String.ofList_toList]
  · intro t parts
    rw [reads, parts, Utf8.unmarked, if_pos rfl]

section

/-- A text with marks at its start and inside. -/
private def marksAround : Window UInt8 :=
  ⟨[0xEF, 0xBB, 0xBF, 0x61, 0xEF, 0xBB, 0xBF], 0, 7, by decide⟩

/-- A text with a mark inside only. -/
private def marksWithin : Window UInt8 :=
  ⟨[0x00, 0x61, 0xEF, 0xBB, 0xBF, 0xE2, 0x82, 0xAC], 1, 7, by decide⟩

private def marks : Store :=
  ⟨Store.initial.objects ++ #[
    Object.ofBody (.octets .uint8Array marksAround), Object.ofBody (.octets .buffer marksWithin)]⟩

private theorem marks_isView : marks.IsView ⟨2⟩ marksAround ∧ marks.IsView ⟨3⟩ marksWithin := by
  refine ⟨⟨⟨_, by decide, rfl⟩, rfl, ?_⟩, ⟨⟨_, by decide, rfl⟩, rfl, ?_⟩⟩
  · simpa using ⟨⟨_, _, rfl⟩, ⟨_, _, rfl⟩, ⟨_, _, rfl⟩⟩
  · simpa using ⟨⟨_, _, rfl⟩, ⟨_, _, rfl⟩, ⟨_, _, rfl⟩⟩

/-- The first mark is lost, and no other. -/
theorem serialize_encoded_of_marks :
    let text (r : Ref) := Serializer.serialize .standard marks (.object r)
    (marks.IsView ⟨2⟩ marksAround ∧ marksAround.visible.toByteArray = "\uFEFFa\uFEFF".toUTF8
        ∧ text ⟨2⟩ = .ok (.existing (.text "a\uFEFF")))
      ∧ (marks.IsView ⟨3⟩ marksWithin ∧ marksWithin.visible.toByteArray = "a\uFEFF€".toUTF8
        ∧ text ⟨3⟩ = .ok (.existing (.text "a\uFEFF€"))) := by
  intro text
  have first : marksAround.visible.toByteArray = "\uFEFFa\uFEFF".toUTF8 := by decide +kernel
  have second : marksWithin.visible.toByteArray = "a\uFEFF€".toUTF8 := by decide +kernel
  refine ⟨⟨marks_isView.1, first, ?_⟩, ⟨marks_isView.2, second, ?_⟩⟩
  · exact (serialize_encoded .standard marks_isView.1 first).2 ['a', '\uFEFF'] (by decide)
  · exact (serialize_encoded .standard marks_isView.2 second).1 (by decide)

/-- A text with a mark in front does not come back. -/
theorem serialize_drops_mark :
    ¬ ∀ (interp : Interpretation) (st : Store) (r : Ref) (w : Window UInt8) (s : String),
      st.IsView r w → w.visible.toByteArray = s.toUTF8 →
        Serializer.serialize interp st (.object r) = .ok (.existing (.text s)) := by
  intro faithful
  have back := faithful .standard marks ⟨2⟩ _ "\uFEFFa\uFEFF" marks_isView.1 (by decide +kernel)
  rw [serialize_view marks_isView.1] at back
  simp only [Except.ok.injEq, Answer.existing.injEq, Value.text.injEq] at back
  exact absurd back (by decide +kernel)

end

end Store

end Stencil
