import JsonSchema.Proofs.Basic
import JsonSchema.Text.Percent

/-!
# Reading percent encoding back

Decoding a text gives its own bytes unless some `%` in it stands in front of two hexadecimal digits;
with such an escape there are fewer. If `%` is reserved, every escape in an encoded text was put
there by the encoding, and decoding gives the bytes of the text that was encoded.
-/

namespace JsonSchema.Percent

/-- The bytes of a text in UTF-8. -/
def bytes (cs : List Char) : List UInt8 := cs.flatMap String.utf8EncodeChar

/-- Somewhere in the text a `%` stands in front of two hexadecimal digits. -/
def HasEscape (cs : List Char) : Prop :=
  ∃ high low, (byte? high low).isSome = true ∧ ['%', high, low] <:+: cs

@[simp] theorem bytes_nil : bytes [] = [] := rfl

@[simp] theorem bytes_cons (c : Char) (rest : List Char) :
    bytes (c :: rest) = String.utf8EncodeChar c ++ bytes rest := List.flatMap_cons

theorem length_encodeChar_pos (c : Char) : 0 < (String.utf8EncodeChar c).length :=
  List.length_pos_iff.mpr String.utf8EncodeChar_ne_nil

/-! ## Decoding -/

theorem decode_escape {high low : Char} {b : UInt8} (h : byte? high low = some b)
    (rest : List Char) : decode ('%' :: high :: low :: rest) = b :: decode rest := by
  rw [decode, h]

/-- A character that does not begin an escape stands for itself. -/
theorem decode_cons {c : Char} {rest : List Char}
    (h : ∀ high low more, c = '%' → rest = high :: low :: more → byte? high low = none) :
    decode (c :: rest) = String.utf8EncodeChar c ++ decode rest := by
  by_cases hstart : ∃ high low more, c = '%' ∧ rest = high :: low :: more
  · obtain ⟨high, low, more, rfl, rfl⟩ := hstart
    rw [decode, h high low more rfl rfl]
  · rw [decode]
    intro high low more hc hrest
    exact hstart ⟨high, low, more, hc, hrest⟩

theorem hasEscape_of_byte? {high low : Char} {b : UInt8} (h : byte? high low = some b)
    (rest : List Char) : HasEscape ('%' :: high :: low :: rest) := by
  refine ⟨high, low, by rw [h]; rfl, ?_⟩
  exact (List.prefix_append ['%', high, low] rest).isInfix

theorem hasEscape_cons {c : Char} {rest : List Char}
    (h : ∀ high low more, c = '%' → rest = high :: low :: more → byte? high low = none) :
    HasEscape (c :: rest) ↔ HasEscape rest := by
  constructor
  · rintro ⟨high, low, hbyte, hinfix⟩
    rcases List.infix_cons_iff.mp hinfix with hprefix | hinfix
    · -- an escape in front would begin with the first character
      obtain ⟨more, hmore⟩ := hprefix
      have hc : c = '%' := (List.head_eq_of_cons_eq hmore).symm
      have hrest : rest = high :: low :: more := (List.tail_eq_of_cons_eq hmore).symm
      rw [h high low more hc hrest] at hbyte
      cases hbyte
    · exact ⟨high, low, hbyte, hinfix⟩
  · rintro ⟨high, low, hbyte, hinfix⟩
    exact ⟨high, low, hbyte, List.infix_cons hinfix⟩

theorem not_hasEscape_nil : ¬ HasEscape [] := by
  rintro ⟨high, low, _, hinfix⟩
  have hlength := hinfix.length_le
  simp at hlength

/-- A text either has no character, or begins with an escape, or its first character is on its own.
The induction over texts that decoding calls for. -/
theorem escape_induction {motive : List Char → Prop} (nil : motive [])
    (escape : ∀ high low b rest, byte? high low = some b → motive rest →
      motive ('%' :: high :: low :: rest))
    (char : ∀ c rest, (∀ high low more, c = '%' → rest = high :: low :: more →
      byte? high low = none) → motive rest → motive (c :: rest)) (cs : List Char) : motive cs := by
  induction cs using decode.induct with
  | case1 => exact nil
  | case2 high low rest b h ih => exact escape high low b rest h ih
  | case3 high low rest h ih =>
      refine char '%' (high :: low :: rest) (fun high' low' more _ heq => ?_) ih
      cases heq
      exact h
  | case4 c rest h ih =>
      exact char c rest (fun high low more hc hrest => (h high low more hc hrest).elim) ih

/-- Escapes make the decoded text shorter. -/
theorem length_decode (cs : List Char) : (decode cs).length ≤ (bytes cs).length ∧
    (HasEscape cs → (decode cs).length < (bytes cs).length) := by
  induction cs using escape_induction with
  | nil => exact ⟨Nat.le_refl 0, fun h => absurd h not_hasEscape_nil⟩
  | escape high low b rest hbyte ih =>
      have hhigh := length_encodeChar_pos high
      have hlow := length_encodeChar_pos low
      have hpercent := length_encodeChar_pos '%'
      rw [decode_escape hbyte]
      simp only [bytes_cons, List.length_append, List.length_cons]
      exact ⟨by omega, fun _ => by omega⟩
  | char c rest hno ih =>
      rw [decode_cons hno, hasEscape_cons hno]
      simp only [bytes_cons, List.length_append]
      exact ⟨by omega, fun hescape => by have := ih.2 hescape; omega⟩

/-- **Decoding leaves a text as it is** exactly if there is no escape in it. -/
theorem decode_eq_bytes_iff (cs : List Char) : decode cs = bytes cs ↔ ¬ HasEscape cs := by
  constructor
  · intro heq hescape
    have hlt := (length_decode cs).2 hescape
    rw [heq] at hlt
    exact Nat.lt_irrefl _ hlt
  · intro hno
    induction cs using escape_induction with
    | nil => simp [decode]
    | escape high low b rest hbyte _ => exact absurd (hasEscape_of_byte? hbyte rest) hno
    | char c rest hchar ih =>
        rw [hasEscape_cons hchar] at hno
        rw [decode_cons hchar, bytes_cons, ih hno]

instance (cs : List Char) : Decidable (HasEscape cs) :=
  decidable_of_iff (decode cs ≠ bytes cs) (by rw [ne_eq, decode_eq_bytes_iff, not_not])

/-- Decoding gives a text exactly if the bytes are the ones of the text. -/
theorem decodeText?_eq_some {cs : List Char} {text : String} :
    decodeText? cs = some text ↔ decode cs = bytes text.toList := by
  have htext : text.toByteArray = ⟨(bytes text.toList).toArray⟩ := by
    rw [← String.utf8Encode_toList, List.utf8Encode, ← List.data_toByteArray]
    rfl
  unfold decodeText? String.fromUTF8?
  constructor
  · intro h
    split at h
    · rename_i hvalid
      have hdecoded : (⟨(decode cs).toArray⟩ : ByteArray) = text.toByteArray := by
        rw [← Option.some.inj h]
        rfl
      rw [htext, ByteArray.mk.injEq] at hdecoded
      exact List.toArray_inj hdecoded
    · cases h
  · intro h
    have hvalid : (⟨(decode cs).toArray⟩ : ByteArray).IsValidUTF8 := by
      rw [h, ← htext]
      exact text.isValidUTF8
    rw [dif_pos hvalid, Option.some.injEq, ← String.toByteArray_inj, htext, ← h]
    rfl

/-! ## Encoding -/

theorem hexDigit?_hexChar {n : Nat} (h : n < 16) : hexDigit? (hexChar n) = some n := by
  have all : ∀ m < 16, hexDigit? (hexChar m) = some m := by decide
  exact all n h

theorem byte?_hexChar (b : UInt8) :
    byte? (hexChar (b.toNat / 16)) (hexChar (b.toNat % 16)) = some b := by
  have hb : b.toNat < 256 := b.toNat_lt
  have hvalue : 16 * (b.toNat / 16) + b.toNat % 16 = b.toNat := Nat.div_add_mod b.toNat 16
  unfold byte?
  rw [hexDigit?_hexChar (by omega), hexDigit?_hexChar (by omega)]
  show some (UInt8.ofNat (16 * (b.toNat / 16) + b.toNat % 16)) = some b
  rw [hvalue, UInt8.ofNat_toNat]

theorem decode_encodeByte (b : UInt8) (rest : List Char) :
    decode (encodeByte b ++ rest) = b :: decode rest :=
  decode_escape (byte?_hexChar b) rest

theorem decode_encodeBytes (bs : List UInt8) (rest : List Char) :
    decode (bs.flatMap encodeByte ++ rest) = bs ++ decode rest := by
  induction bs with
  | nil => rfl
  | cons b bs ih =>
      rw [List.flatMap_cons, List.append_assoc, decode_encodeByte, ih]
      rfl

theorem decode_encodeChar {reserved : Char → Bool} (hpercent : reserved '%' = true) (c : Char)
    (rest : List Char) :
    decode (encodeChar reserved c ++ rest) = String.utf8EncodeChar c ++ decode rest := by
  unfold encodeChar
  by_cases hc : reserved c = true
  · rw [if_pos hc, decode_encodeBytes]
  · rw [if_neg hc]
    -- what is not encoded is no `%`
    refine decode_cons fun high low more hpct _ => ?_
    rw [hpct] at hc
    exact absurd hpercent hc

/-- **Decoding undoes encoding** if `%` is reserved, whatever else is. -/
theorem decode_encode {reserved : Char → Bool} (hpercent : reserved '%' = true) (cs : List Char) :
    decode (encode reserved cs) = bytes cs := by
  induction cs with
  | nil => simp [encode, decode]
  | cons c rest ih =>
      have hsplit : encode reserved (c :: rest) = encodeChar reserved c ++ encode reserved rest :=
        List.flatMap_cons
      rw [hsplit, decode_encodeChar hpercent, ih, bytes_cons]

end JsonSchema.Percent
