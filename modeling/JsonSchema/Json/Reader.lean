import JsonSchema.Json.Value
import JsonSchema.Number.Scaling
/-!
# Reading JSON text

The grammar is strict: no comments, no trailing commas, no byte order mark, no control characters
in strings, and escapes must form Unicode text, so half of a surrogate pair is refused. Containers
may be nested up to `maxNesting` deep. A name that is repeated in an object keeps its first place
and takes its last value.

Each reader takes the text and gives what it read together with the rest of the text. A reader
with a `bound` reads at most so many characters, elements or members; the length of the whole text
is always enough.
-/

namespace JsonSchema.Json

/-- How deep containers may be nested. -/
def maxNesting : Nat := 127

/-- What is read from the front of a text, and the rest of the text. -/
abbrev Reader (α : Type) := List Char → Option (α × List Char)

/-- The four characters that may stand between tokens. -/
def isBlank (c : Char) : Bool :=
  c == ' ' || c == '\n' || c == '\t' || c == '\r'

/-- Drops blanks at the front. -/
def skipBlanks (cs : List Char) : List Char :=
  cs.dropWhile isBlank

/-! ## Strings -/

/-- The value of a hexadecimal digit. -/
def hexDigit? (c : Char) : Option Nat :=
  if '0' ≤ c ∧ c ≤ '9' then some (c.toNat - '0'.toNat)
  else if 'a' ≤ c ∧ c ≤ 'f' then some (c.toNat - 'a'.toNat + 10)
  else if 'A' ≤ c ∧ c ≤ 'F' then some (c.toNat - 'A'.toNat + 10)
  else none

/-- Reads four hexadecimal digits. -/
def readHex4 : Reader Nat
  | a :: b :: c :: d :: rest => do
    let a ← hexDigit? a
    let b ← hexDigit? b
    let c ← hexDigit? c
    let d ← hexDigit? d
    return (((a * 16 + b) * 16 + c) * 16 + d, rest)
  | _ => none

/-- Reads what follows the `u` of an escape. A high surrogate must be followed by the escape of a
low one, and the two make one character. -/
def readUnicodeEscape : Reader Char := fun cs => do
  let (high, rest) ← readHex4 cs
  if 0xD800 ≤ high ∧ high < 0xDC00 then
    match rest with
    | '\\' :: 'u' :: rest =>
      let (low, rest) ← readHex4 rest
      if 0xDC00 ≤ low ∧ low < 0xE000 then
        return (Char.ofNat (0x10000 + (high - 0xD800) * 0x400 + (low - 0xDC00)), rest)
      else none
    | _ => none
  else if 0xDC00 ≤ high ∧ high < 0xE000 then none
  else return (Char.ofNat high, rest)

/-- Reads what follows the backslash of an escape. -/
def readEscape : Reader Char
  | '"' :: rest => some ('"', rest)
  | '\\' :: rest => some ('\\', rest)
  | '/' :: rest => some ('/', rest)
  | 'b' :: rest => some ('\x08', rest)
  | 'f' :: rest => some ('\x0c', rest)
  | 'n' :: rest => some ('\n', rest)
  | 'r' :: rest => some ('\r', rest)
  | 't' :: rest => some ('\t', rest)
  | 'u' :: rest => readUnicodeEscape rest
  | _ => none

/-- Reads a string after its opening quote; the text read so far is given in reverse. -/
def readStringFrom : Nat → List Char → Reader String
  | 0, _, _ => none
  | _ + 1, _, [] => none
  | bound + 1, done, c :: rest =>
    if c = '"' then some (String.ofList done.reverse, rest)
    else if c = '\\' then do
      let (d, rest) ← readEscape rest
      readStringFrom bound (d :: done) rest
    else if c.toNat < 0x20 then none
    else readStringFrom bound (c :: done) rest

/-- Reads a string after its opening quote. -/
def readString (bound : Nat) : Reader String :=
  readStringFrom bound []

/-! ## Numbers -/

/-- Splits the longest run of digits off the front. -/
def spanDigits (cs : List Char) : List Char × List Char :=
  cs.span Char.isDigit

/-- The number that a run of digits spells. -/
def digitsToNat (cs : List Char) : Nat :=
  cs.foldl (fun n c => n * 10 + (c.toNat - '0'.toNat)) 0

/-- Reads the digits before the point: `0` alone or a run that does not start with `0`. -/
def readWhole : Reader (List Char)
  | '0' :: rest =>
    match rest with
    | c :: _ => if c.isDigit then none else some (['0'], rest)
    | [] => some (['0'], [])
  | cs =>
    match spanDigits cs with
    | ([], _) => none
    | r => some r

/-- Reads the point and the digits after it, if there is a point. -/
def readFraction : Reader (List Char)
  | '.' :: rest =>
    match spanDigits rest with
    | ([], _) => none
    | r => some r
  | cs => some ([], cs)

/-- Reads the exponent, if there is one. -/
def readExponent : Reader (Option Int)
  | c :: rest =>
    if c = 'e' ∨ c = 'E' then
      let (negative, rest) :=
        match rest with
        | '-' :: rest => (true, rest)
        | '+' :: rest => (false, rest)
        | _ => (false, rest)
      match spanDigits rest with
      | ([], _) => none
      | (digits, rest) =>
        let n : Int := digitsToNat digits
        some (some (if negative then -n else n), rest)
    else some (none, c :: rest)
  | [] => some (none, [])

/-- Appends digits to a number for as long as it fits in 64 bits. Gives the number and the digits
that are left. -/
def appendDigits : Nat → List Char → Nat × List Char
  | n, [] => (n, [])
  | n, c :: cs =>
    let next := n * 10 + (c.toNat - '0'.toNat)
    if next < Nat.pow 2 64 then appendDigits next cs else (n, c :: cs)

/-- The number of a numeral: an exact integer if there is neither point nor exponent and the
numeral fits a word. A negated zero is not an integer, since no integer keeps its sign. Every other
numeral is the number of its leading digits, as many as 64 bits hold, rounded and then scaled by
the power of ten that remains. -/
def numeral? (negative : Bool) (whole fraction : List Char) (exponent : Option Int) :
    Option Number :=
  let (n, beyond) := appendDigits 0 whole
  let signed : Int := if negative then -(n : Int) else n
  if h : IsWord signed ∧ ¬(negative ∧ n = 0) ∧ beyond = [] ∧ fraction = [] ∧ exponent = none then
    some (.integer signed h.1)
  else do
    let (digits, ignored) := appendDigits n fraction
    let places : Int := beyond.length - (fraction.length - ignored.length : Nat)
    let leading ← Double.ofRatio? negative digits 1
    let x ← leading.scaled? (places + exponent.getD 0)
    return .float x

/-- Digits behind a number do not make it smaller. -/
theorem le_foldl_digits (cs : List Char) (n : Nat) :
    n ≤ cs.foldl (fun n c => n * 10 + (c.toNat - '0'.toNat)) n := by
  induction cs generalizing n with
  | nil => exact Nat.le_refl n
  | cons c cs ih =>
    calc
      n ≤ n * 10 + (c.toNat - '0'.toNat) := by omega
      _ ≤ _ := ih _

/-- Digits that fit in 64 bits altogether are all appended. -/
theorem appendDigits_of_lt (cs : List Char) (n : Nat)
    (h : cs.foldl (fun n c => n * 10 + (c.toNat - '0'.toNat)) n < Nat.pow 2 64) :
    appendDigits n cs = (cs.foldl (fun n c => n * 10 + (c.toNat - '0'.toNat)) n, []) := by
  induction cs generalizing n with
  | nil => rfl
  | cons c cs ih =>
    have hfits : n * 10 + (c.toNat - '0'.toNat) < Nat.pow 2 64 :=
      Nat.lt_of_le_of_lt (le_foldl_digits cs _) h
    simp only [appendDigits, List.foldl_cons, if_pos hfits]
    exact ih _ h

/-- A whole number that fits a word is read exactly. -/
theorem numeral?_of_isWord (negative : Bool) (whole : List Char)
    (h : IsWord (if negative then -(digitsToNat whole : Int) else digitsToNat whole))
    (hzero : ¬(negative ∧ digitsToNat whole = 0)) :
    numeral? negative whole [] none = some (.integer _ h) := by
  have hfits : digitsToNat whole < Nat.pow 2 64 := by
    simp only [IsWord, Nat.pow_eq] at h ⊢
    split at h <;> omega
  have happend : appendDigits 0 whole = (digitsToNat whole, []) := appendDigits_of_lt whole 0 hfits
  simp only [numeral?, happend, and_true]
  exact dif_pos ⟨h, hzero⟩

/-- Reads a number whose sign has been read. -/
def readUnsigned (negative : Bool) : Reader Number := fun cs => do
  let (whole, rest) ← readWhole cs
  let (fraction, rest) ← readFraction rest
  let (exponent, rest) ← readExponent rest
  let number ← numeral? negative whole fraction exponent
  return (number, rest)

/-- Reads a number. -/
def readNumber : Reader Number
  | '-' :: rest => readUnsigned true rest
  | cs => readUnsigned false cs

-- The sixteen digits of the exact value fit in 53 bits, but ten times the value does not.
example : readNumber "9007199254740993.0".toList =
    some (.float (.ofNat false 9007199254740994 (by decide)), []) := by
  decide +kernel

/-! ## Values -/

/-- Reads the elements of an array after the `[` and the blanks behind it, up to its `]`. -/
def readItems (item : Reader Value) : Nat → Reader (List Value)
  | 0, _ => none
  | bound + 1, cs => do
    let (v, rest) ← item cs
    match skipBlanks rest with
    | ']' :: rest => return ([v], rest)
    | ',' :: rest =>
      let (vs, rest) ← readItems item bound (skipBlanks rest)
      return (v :: vs, rest)
    | _ => none

/-- Reads a member: a string, a colon and a value. -/
def readMember (item : Reader Value) (bound : Nat) : Reader (String × Value)
  | '"' :: rest => do
    let (name, rest) ← readString bound rest
    match skipBlanks rest with
    | ':' :: rest =>
      let (v, rest) ← item (skipBlanks rest)
      return ((name, v), rest)
    | _ => none
  | _ => none

/-- Reads the members of an object after the `{` and the blanks behind it, up to its `}`, and adds
them to those already read. -/
def readMembers (member : Reader (String × Value)) :
    Nat → Members Value → Reader (Members Value)
  | 0, _, _ => none
  | bound + 1, done, cs => do
    let ((name, v), rest) ← member cs
    let done := done.set name v
    match skipBlanks rest with
    | '\x7d' :: rest => return (done, rest)
    | ',' :: rest => readMembers member bound done (skipBlanks rest)
    | _ => none

/-- Reads the word `word`, which stands for `v`. -/
def readWord (word : String) (v : Value) : Reader Value := fun cs =>
  let letters := word.toList
  if letters.isPrefixOf cs then some (v, cs.drop letters.length) else none

/-- Reads a value that starts with the first character. `nested` reads the values inside a
container; it is absent where containers are nested too deep. -/
def readNode (bound : Nat) (nested : Option (Reader Value)) : Reader Value
  | '[' :: rest => do
    let item ← nested
    match skipBlanks rest with
    | ']' :: rest => return (.array [], rest)
    | rest =>
      let (vs, rest) ← readItems item bound rest
      return (.array vs, rest)
  | '\x7b' :: rest => do
    let item ← nested
    match skipBlanks rest with
    | '\x7d' :: rest => return (.object [], rest)
    | rest =>
      let (members, rest) ← readMembers (readMember item bound) bound [] rest
      return (.object members, rest)
  | '"' :: rest => do
    let (s, rest) ← readString bound rest
    return (.string s, rest)
  | 'n' :: rest => readWord "null" .null ('n' :: rest)
  | 't' :: rest => readWord "true" (.bool true) ('t' :: rest)
  | 'f' :: rest => readWord "false" (.bool false) ('f' :: rest)
  | cs => do
    let (n, rest) ← readNumber cs
    return (.number n, rest)

/-- Reads a value with containers nested at most as deep as the last argument says. -/
def readValue (bound : Nat) : Nat → Reader Value
  | 0 => readNode bound none
  | nesting + 1 => readNode bound (some (readValue bound nesting))

end Json

/-- Reads a whole text as one JSON value. -/
def Value.ofText? (text : String) : Option Value := do
  let letters := text.toList
  let (v, rest) ← Json.readValue (letters.length + 1) Json.maxNesting (Json.skipBlanks letters)
  if (Json.skipBlanks rest).isEmpty then some v else none

end JsonSchema
