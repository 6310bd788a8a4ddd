import JsonSchema.Proofs.Addressing.Encoding
import JsonSchema.Proofs.Addressing.Key
import Mathlib.Data.List.TakeDrop

/-!
# Fragments and selectors

A fragment is decoded before it is read as a pointer, so the fragments that lead to a place are the
texts that decode to the text of its pointer. The text of the pointer is one of them unless it has
an escape of its own, and with everything but a few characters encoded it always is.

A selector has a URI in front of the fragment, which is read as the `$id` of a document is. That the
text of a URI is read as this URI is not proved here but asked for, as `BaseUri.Rereads`.
-/

namespace JsonSchema

/-- The text of the base is read as the base. Without a URI nothing is read. -/
def BaseUri.Rereads (base : BaseUri) : Prop :=
  base = .anonymous ∨ BaseUri.ofId base.text = .ok base

/-- The characters that stand for themselves in every fragment: the letters and digits of ASCII and
five others. -/
def Percent.isPlain (c : Char) : Bool :=
  c.isAlphanum || c ∈ ['-', '.', '_', '~', '/']

/-- The text of a pointer with everything encoded that is not plain. -/
def Pointer.encoded (p : Pointer) : String :=
  String.ofList (Percent.encode (fun c => !Percent.isPlain c) p.text.toList)

open Percent

theorem Pointer.decode_encoded (p : Pointer) :
    decode p.encoded.toList = bytes p.text.toList := by
  rw [encoded, String.toList_ofList]
  exact decode_encode rfl _

/-- **A fragment leads to a pointer** if it decodes to its text. -/
theorem fragmentPointer_eq_ok {fragment : List Char} (text : String) {p : Pointer} :
    fragmentPointer fragment text = .ok p ↔ decode fragment = bytes p.text.toList := by
  rw [← decodeText?_eq_some]
  unfold fragmentPointer
  cases decodeText? fragment with
  | none => exact iff_of_false nofun nofun
  | some decoded =>
      dsimp only
      rw [Option.some.injEq, ← Pointer.parse_eq_ok]
      cases Pointer.parse decoded with
      | ok q => exact ⟨fun h => by cases h; rfl, fun h => by cases h; rfl⟩
      | error cause => exact iff_of_false nofun nofun

/-- A mere fragment leads to a place in the document in which it stands. -/
theorem BaseUri.resolve_fragment {base : BaseUri} {fragment : String} {p : Pointer} :
    base.resolve ("#" ++ fragment) = .ok { base, pointer := p } ↔
      decode fragment.toList = bytes p.text.toList := by
  have hlist : ("#" ++ fragment).toList = '#' :: fragment.toList := by
    rw [String.toList_append]
    rfl
  unfold resolve
  rw [hlist, ← fragmentPointer_eq_ok ("#" ++ fragment)]
  show (fragmentPointer fragment.toList ("#" ++ fragment)).bind
    (fun pointer => Except.ok (Target.mk base pointer)) = .ok { base, pointer := p } ↔ _
  cases fragmentPointer fragment.toList ("#" ++ fragment) with
  | ok q => exact ⟨fun h => by cases h; rfl, fun h => by cases h; rfl⟩
  | error cause => exact iff_of_false nofun nofun

/-! ## Selectors -/

/-- A text is split in front of the first character that it is split at. -/
theorem splitBefore_stop {stop : Char} {front : List Char} (hfront : stop ∉ front)
    {tail : List Char} (htail : tail = [] ∨ ∃ rest, tail = stop :: rest) :
    Uri.splitBefore [stop] (front ++ tail) = (front, tail) := by
  have hkeep : ∀ c ∈ front, (! List.contains [stop] c) = true := by
    intro c hc
    have hne : c ≠ stop := fun he => hfront (he ▸ hc)
    simp [hne]
  unfold Uri.splitBefore
  rw [List.span_eq_takeWhile_dropWhile, List.takeWhile_append_of_pos hkeep,
    List.dropWhile_append_of_pos hkeep]
  rcases htail with rfl | ⟨rest, rfl⟩
  · simp
  · simp

namespace Target

variable {base : BaseUri} {p : Pointer} {fragment : String}

/-- A selector whose front is the text of a base leads into the document with that base. -/
theorem ofSelector_of_split (hbase : base.Rereads) {text : String} {tail : List Char}
    (hsplit : Uri.splitBefore ['#'] text.toList = (base.text.toList, tail)) :
    ofSelector text =
      (fragmentPointer (tail.drop 1) text).map fun pointer => { base, pointer } := by
  have hfinish : ((fragmentPointer (tail.drop 1) text).bind fun pointer =>
      Except.ok (Target.mk base pointer)) =
        (fragmentPointer (tail.drop 1) text).map fun pointer => { base, pointer } := by
    cases fragmentPointer (tail.drop 1) text <;> rfl
  unfold ofSelector
  rw [hsplit]
  dsimp only
  rw [← hfinish, String.ofList_toList]
  by_cases hempty : base.text.toList = []
  · have htext : base.text = BaseUri.anonymous.text := String.toList_inj.mp hempty
    rw [hempty, BaseUri.text_injective htext]
    rfl
  · rw [if_neg (by simpa using hempty)]
    -- there is a text, so there is a URI that it is read as
    rcases hbase with rfl | hread
    · exact absurd rfl hempty
    · rw [hread]
      rfl

/-- A selector with the text of a base and a fragment. -/
theorem ofSelector_fragment (hbase : base.Rereads) :
    ofSelector (base.text ++ "#" ++ fragment) = .ok { base, pointer := p } ↔
      decode fragment.toList = bytes p.text.toList := by
  have hlist : (base.text ++ "#" ++ fragment).toList =
      base.text.toList ++ '#' :: fragment.toList := by
    simp [String.toList_append]
  have hsplit := splitBefore_stop base.hash_not_mem_text (.inr ⟨fragment.toList, rfl⟩)
  rw [← hlist] at hsplit
  rw [ofSelector_of_split hbase hsplit, List.drop_one, List.tail_cons,
    ← fragmentPointer_eq_ok (base.text ++ "#" ++ fragment)]
  cases fragmentPointer fragment.toList (base.text ++ "#" ++ fragment) with
  | ok q => exact ⟨fun h => by cases h; rfl, fun h => by cases h; rfl⟩
  | error cause => exact iff_of_false nofun nofun

/-- The text of a base selects the root of the document. -/
theorem ofSelector_text (hbase : base.Rereads) :
    ofSelector base.text = .ok { base, pointer := .root } := by
  have hsplit := splitBefore_stop base.hash_not_mem_text (.inl rfl)
  rw [List.append_nil] at hsplit
  have hroot : fragmentPointer [] base.text = .ok .root := by
    rw [fragmentPointer_eq_ok]
    simp [decode, Pointer.text, Pointer.root, Pointer.render]
  rw [ofSelector_of_split hbase hsplit, List.drop_nil, hroot]
  rfl

/-- **The key of a place selects it** exactly if there is no escape in its pointer. -/
theorem ofSelector_key {here : Target} (hbase : here.base.Rereads) :
    ofSelector here.key = .ok here ↔ ¬ HasEscape here.pointer.text.toList := by
  obtain ⟨base, p⟩ := here
  cases hp : p.isRoot with
  | true =>
      have hroot : p = .root := congrArg Pointer.mk (List.isEmpty_iff.mp hp)
      have hkey : Target.key { base, pointer := p } = base.text := by
        rw [Target.key, BaseUri.key, hp]
        rfl
      rw [hkey, hroot]
      exact iff_of_true (ofSelector_text hbase) not_hasEscape_nil
  | false =>
      have hkey : Target.key { base, pointer := p } = base.text ++ "#" ++ p.text := by
        rw [Target.key, BaseUri.key, hp]
        rfl
      rw [hkey, ofSelector_fragment hbase]
      exact decode_eq_bytes_iff p.text.toList

/-- The encoded text of a pointer selects its place whatever there is in it. -/
theorem ofSelector_encoded {here : Target} (hbase : here.base.Rereads) :
    ofSelector (here.base.text ++ "#" ++ here.pointer.encoded) = .ok here :=
  (ofSelector_fragment hbase).mpr here.pointer.decode_encoded

end Target

end JsonSchema
