/-!
# Percent encoding

Characters that may not stand in a part of a URI are written as the bytes of their UTF-8 encoding,
each as `%` and two hexadecimal digits. Which characters those are depends on the part.
-/

namespace JsonSchema.Percent

/-- A hexadecimal digit, in upper case. -/
def hexChar (n : Nat) : Char :=
  if n < 10 then Char.ofNat ('0'.toNat + n) else Char.ofNat ('A'.toNat + (n - 10))

/-- A byte as `%` and two digits. -/
def encodeByte (b : UInt8) : List Char :=
  ['%', hexChar (b.toNat / 16), hexChar (b.toNat % 16)]

/-- A character, encoded if `reserved` says so. -/
def encodeChar (reserved : Char → Bool) (c : Char) : List Char :=
  if reserved c then (String.utf8EncodeChar c).flatMap encodeByte else [c]

/-- A text with its reserved characters encoded. -/
def encode (reserved : Char → Bool) (cs : List Char) : List Char :=
  cs.flatMap (encodeChar reserved)

theorem hexChar_ne_hash {n : Nat} (h : n < 16) : hexChar n ≠ '#' := by
  have all : ∀ m < 16, hexChar m ≠ '#' := by decide
  exact all n h

theorem hash_not_mem_encodeByte (b : UInt8) : '#' ∉ encodeByte b := by
  have hb : b.toNat < 256 := b.toNat_lt
  simp only [encodeByte, List.mem_cons, List.not_mem_nil, or_false, not_or]
  exact ⟨by decide, (hexChar_ne_hash (by omega)).symm, (hexChar_ne_hash (by omega)).symm⟩

/-- An encoded text holds no `#` if that is reserved. -/
theorem hash_not_mem_encode {reserved : Char → Bool} (h : reserved '#' = true) (cs : List Char) :
    '#' ∉ encode reserved cs := by
  intro hmem
  obtain ⟨c, _, hc⟩ := List.mem_flatMap.1 hmem
  simp only [encodeChar] at hc
  split at hc
  · obtain ⟨b, _, hb⟩ := List.mem_flatMap.1 hc
    exact hash_not_mem_encodeByte b hb
  · rename_i hr
    rw [List.mem_singleton] at hc
    exact hr (hc ▸ h)

/-- The value of a hexadecimal digit. -/
def hexDigit? (c : Char) : Option Nat :=
  if '0' ≤ c ∧ c ≤ '9' then some (c.toNat - '0'.toNat)
  else if 'a' ≤ c ∧ c ≤ 'f' then some (c.toNat - 'a'.toNat + 10)
  else if 'A' ≤ c ∧ c ≤ 'F' then some (c.toNat - 'A'.toNat + 10)
  else none

/-- The byte that two hexadecimal digits stand for. -/
def byte? (high low : Char) : Option UInt8 := do
  let h ← hexDigit? high
  let l ← hexDigit? low
  return UInt8.ofNat (16 * h + l)

/-- The bytes that a text stands for. A `%` without two digits behind it stands for itself. -/
def decode : List Char → List UInt8
  | [] => []
  | '%' :: high :: low :: rest =>
    match byte? high low with
    | some b => b :: decode rest
    | none => String.utf8EncodeChar '%' ++ decode (high :: low :: rest)
  | c :: rest => String.utf8EncodeChar c ++ decode rest

/-- The text that the decoded bytes encode in UTF-8, if they do. -/
def decodeText? (cs : List Char) : Option String :=
  String.fromUTF8? ⟨(decode cs).toArray⟩

/-! ## What is reserved where -/

/-- Control characters, and everything beyond ASCII. -/
def isControl (c : Char) : Bool :=
  c.toNat < 0x20 || 0x7E < c.toNat

/-- Reserved in the path. -/
def inPath (c : Char) : Bool :=
  isControl c || c ∈ [' ', '"', '<', '>', '\x60', '#', '?', '\x7b', '\x7d']

/-- Reserved in the user name and the password. -/
def inUserInfo (c : Char) : Bool :=
  inPath c || c ∈ ['/', ':', ';', '=', '@', '[', '\\', ']', '^', '|']

/-- Reserved in the query. The schemes of the web reserve the apostrophe too. -/
def inQuery (special : Bool) (c : Char) : Bool :=
  isControl c || c ∈ [' ', '"', '#', '<', '>'] || (special && c == '\'')

end JsonSchema.Percent
