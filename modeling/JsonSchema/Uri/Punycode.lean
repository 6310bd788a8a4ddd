/-!
# Punycode

Writes a label of any characters with letters, digits and hyphens alone. The ASCII characters come
first. Each other one is then given by a number that tells how many insertions, in the order of
code points and places, lie between it and the one before it. The numbers have variable length,
and the weights of their digits adapt to the numbers written so far.
-/

namespace JsonSchema.Uri.Punycode

/-- The character of a digit: `a` to `z`, then `0` to `9`. -/
def digitChar (d : Nat) : Char :=
  if d < 26 then Char.ofNat ('a'.toNat + d) else Char.ofNat ('0'.toNat + (d - 26))

/-- The digit that a character stands for. -/
def digit? (c : Char) : Option Nat :=
  if 'a' ≤ c ∧ c ≤ 'z' then some (c.toNat - 'a'.toNat)
  else if 'A' ≤ c ∧ c ≤ 'Z' then some (c.toNat - 'A'.toNat)
  else if '0' ≤ c ∧ c ≤ '9' then some (c.toNat - '0'.toNat + 26)
  else none

/-- Digits below this one end a number. `k` is `36` at the first digit and grows by `36`. -/
def threshold (k bias : Nat) : Nat :=
  if k ≤ bias then 1 else if bias + 26 ≤ k then 26 else k - bias

theorem threshold_pos (k bias : Nat) : 1 ≤ threshold k bias := by
  simp only [threshold]
  split
  · omega
  · split <;> omega

/-- Divides by `35` until the number is small, and counts the divisions in steps of `36`. -/
def scaleDown (delta k : Nat) : Nat × Nat :=
  if 455 < delta then scaleDown (delta / 35) (k + 36) else (delta, k)
termination_by delta

/-- The bias after a number: `count` characters have been placed so far. -/
def adapt (delta count : Nat) (first : Bool) : Nat :=
  let delta := if first then delta / 700 else delta / 2
  let (delta, k) := scaleDown (delta + delta / count) 0
  k + 36 * delta / (delta + 38)

/-- The bias at the start. -/
def initialBias : Nat := 72

/-- The least code point that is encoded. -/
def initialCodePoint : Nat := 0x80

/-! ## Encoding -/

/-- The digits of a number from the one with weight `k` on. -/
def writeNumber (bias k n : Nat) : List Char :=
  let t := threshold k bias
  if n < t then [digitChar n]
  else digitChar (t + (n - t) % (36 - t)) :: writeNumber bias (k + 36) ((n - t) / (36 - t))
termination_by n
decreasing_by
  have := threshold_pos k bias
  have := Nat.div_le_self (n - threshold k bias) (36 - threshold k bias)
  omega

/-- A label that is being encoded. -/
structure Encoding where
  /-- The digits so far. -/
  text : List Char
  /-- The insertions passed since the last number. -/
  delta : Nat
  /-- The bias. -/
  bias : Nat
  /-- How many characters have been placed. -/
  placed : Nat

/-- Passes one character of the label while those with the code point `n` are placed. -/
def Encoding.pass (ascii n : Nat) (s : Encoding) (c : Nat) : Encoding :=
  if c < n then { s with delta := s.delta + 1 }
  else if c = n then
    { text := s.text ++ writeNumber s.bias 36 s.delta
      delta := 0
      bias := adapt s.delta (s.placed + 1) (s.placed == ascii)
      placed := s.placed + 1 }
  else s

/-- Places the characters with each of the code points, which ascend. `next` is the least code
point that has not been passed. -/
def placeAll (label : List Nat) (ascii : Nat) : Nat → List Nat → Encoding → Encoding
  | _, [], s => s
  | next, n :: rest, s =>
    let s := { s with delta := s.delta + (n - next) * (s.placed + 1) }
    let s := label.foldl (Encoding.pass ascii n) s
    placeAll label ascii (n + 1) rest { s with delta := s.delta + 1 }

/-- The label in letters, digits and hyphens. -/
def encode (label : List Nat) : List Char :=
  let ascii := label.filter (· < initialCodePoint)
  let others := (label.filter (initialCodePoint ≤ ·)).mergeSort.eraseDups
  let s := placeAll label ascii.length initialCodePoint others
    { text := [], delta := 0, bias := initialBias, placed := ascii.length }
  ascii.map Char.ofNat ++ (if ascii.isEmpty then [] else ['-']) ++ s.text

/-! ## Decoding -/

/-- A label that is being decoded. -/
structure Decoding where
  /-- The label so far. -/
  label : List Nat
  /-- The code point of the last insertion. -/
  codePoint : Nat
  /-- The place after the last insertion. -/
  place : Nat
  /-- The bias. -/
  bias : Nat
  /-- What the digits of the current number add up to. -/
  delta : Nat
  /-- The weight of the next digit. -/
  weight : Nat
  /-- `36` times the number of the next digit. -/
  k : Nat

/-- Reads one digit. The last digit of a number inserts a character. -/
def Decoding.read? (s : Decoding) (c : Char) : Option Decoding := do
  let d ← digit? c
  let delta := s.delta + d * s.weight
  let t := threshold s.k s.bias
  if d < t then
    let count := s.label.length + 1
    let total := s.place + delta
    let codePoint := s.codePoint + total / count
    let place := total % count
    if codePoint.isValidChar then
      some
        { label := s.label.take place ++ codePoint :: s.label.drop place
          codePoint
          place := place + 1
          bias := adapt delta count (s.codePoint == initialCodePoint && s.place == 0)
          delta := 0
          weight := 1
          k := 36 }
    else none
  else some { s with delta, weight := s.weight * (36 - t), k := s.k + 36 }

/-- The ASCII part in front of the last hyphen, if it is not empty, and the digits. -/
def splitAscii (cs : List Char) : List Char × List Char :=
  let digits := (cs.reverse.takeWhile (· != '-')).reverse
  let front := cs.take (cs.length - digits.length - 1)
  if front.isEmpty then ([], cs) else (front, digits)

/-- The label that a text stands for. -/
def decode? (cs : List Char) : Option (List Nat) := do
  let (ascii, digits) := splitAscii cs
  let start : Decoding :=
    { label := ascii.map Char.toNat, codePoint := initialCodePoint, place := 0, bias := initialBias
      delta := 0, weight := 1, k := 36 }
  let s ← digits.foldlM Decoding.read? start
  if s.k = 36 then some s.label else none

end JsonSchema.Uri.Punycode
