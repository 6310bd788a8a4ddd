import JsonSchema.Unicode.Composition
import JsonSchema.Unicode.Direction
import JsonSchema.Uri.LetterForm
import JsonSchema.Uri.Punycode
import JsonSchema.Uri.Address
/-!
# Host names

A host name is brought into letter forms and composed, and cut into labels. A label with characters
beyond ASCII is then written in Punycode behind the mark `xn--`; a label with that mark must be the
Punycode of such a label. Labels that mix the directions of writing must not be ambiguous, and the
invisible joiners stand only where they change how letters are shown.
-/

namespace JsonSchema.Uri

open Unicode

/-- The mark of labels in Punycode. -/
def punycodeMark : List Nat := "xn--".toList.map Char.toNat

/-- Characters of ASCII that no host name may contain. -/
def isForbiddenInName (n : Nat) : Bool :=
  n ≤ 0x20 || n == 0x7F || "#%/:<>?@[\\]^|".toList.any (·.toNat == n)

/-! ## Joiners -/

/-- The combining class of the marks that suppress a vowel. -/
def virama : Nat := 9

/-- The characters around a joiner are connected by it: the one before it suppresses its vowel, or
`letters` holds and two letters, with only transparent marks between them, join on either side. -/
def joinerFits (before after : List Nat) (letters : Bool) : Bool :=
  let visible := List.dropWhile fun n => joinsThrough.has n
  match before with
  | [] => false
  | n :: _ =>
    combiningClass n == virama ||
      (letters &&
        match visible before, visible after with
        | a :: _, b :: _ =>
          (joinsBoth.has a || joinsAfter.has a) &&
            (joinsBoth.has b || joinsBefore.has b)
        | _, _ => false)

/-- Every joiner of a label fits. `before` is the part already passed, in reverse. -/
def joinersFit (before : List Nat) : List Nat → Bool
  | [] => true
  | n :: rest =>
    (if n = 0x200C then joinerFits before rest true
      else if n = 0x200D then joinerFits before rest false
      else true) && joinersFit (n :: before) rest

/-! ## Directions -/

/-- The character is written from right to left. -/
def isRightToLeft (n : Nat) : Bool :=
  rightToLeft.has n || arabicLetter.has n

/-- Characters of either direction's labels that have no direction of their own. -/
def isNeutral (n : Nat) : Bool :=
  [europeanSeparator, commonSeparator, europeanTerminator, otherNeutral, boundaryNeutral,
    nonspacingMark].any fun set => set.has n

/-- The digit belongs to the class. -/
def isEuropeanNumber (n : Nat) : Bool := europeanNumber.has n

/-- The digit belongs to the class. -/
def isArabicNumber (n : Nat) : Bool := arabicNumber.has n

/-- The character is written from left to right. -/
def isLeftToRight (n : Nat) : Bool :=
  !(isRightToLeft n || isNeutral n || isEuropeanNumber n || isArabicNumber n ||
    directionControl.has n)

/-- Names with such a character have to keep the rules of direction. -/
def mixesDirections (n : Nat) : Bool := isRightToLeft n || isArabicNumber n

/-- The label has one direction, given by its first character; it ends in a letter or digit, marks
aside, and has not both kinds of digits. -/
def hasOneDirection (label : List Nat) : Bool :=
  match label with
  | [] => true
  | first :: _ =>
    match label.reverse.dropWhile fun n => nonspacingMark.has n with
    | [] => false
    | last :: _ =>
      if isRightToLeft first then
        label.all (fun n =>
          isRightToLeft n || isArabicNumber n || isEuropeanNumber n || isNeutral n) &&
        (isRightToLeft last || isArabicNumber last || isEuropeanNumber last) &&
        !(label.any isArabicNumber && label.any isEuropeanNumber)
      else
        isLeftToRight first &&
        label.all (fun n => isLeftToRight n || isEuropeanNumber n || isNeutral n) &&
        (isLeftToRight last || isEuropeanNumber last)

/-! ## Labels -/

/-- The combining marks. -/
def marks : CodeSet := (category? "m").getD .empty

/-- The label keeps the rules that do not depend on the other labels. -/
def isSoundLabel (label : List Nat) : Bool :=
  (match label with
    | [] => true
    | n :: _ => !marks.has n) && joinersFit [] label

/-- What a label stands for: itself, or what its Punycode spells. That must be a label that needs
Punycode, in its own letter form and composed. -/
def spelledLabel? (label : List Nat) : Option (List Nat) :=
  if punycodeMark.isPrefixOf label then do
    let digits := label.drop punycodeMark.length
    if digits.any (0x80 ≤ ·) then none
    else
      let spelled ← Punycode.decode? (digits.map Char.ofNat)
      if spelled.any (0x80 ≤ ·) && spelled.all isOwnForm && composed spelled == spelled then
        some spelled
      else none
  else some label

/-- The ASCII text of a label. -/
def asciiLabel (label : List Nat) : List Char :=
  if label.any (0x80 ≤ ·) then (punycodeMark.map Char.ofNat) ++ Punycode.encode label
  else label.map Char.ofNat

/-- The name has only characters of ASCII and no label in Punycode. -/
def isPlainName (name : List Char) : Bool :=
  name.all (·.toNat < 0x80) &&
    (labels name).all fun label =>
      !punycodeMark.isPrefixOf (label.map fun c => c.toLower.toNat)

/-- The ASCII text of a host name, if it is one. Plain names merely lose their capitals. -/
def asciiName? (name : List Char) : Option (List Char) :=
  if isPlainName name then
    if name.any (isForbiddenInName ·.toNat) then none else some (name.map Char.toLower)
  else do
    let forms ← name.mapM fun c => letterForm? c.toNat
    let folded := composed forms.flatten
    let parts := labels (folded.map Char.ofNat)
    let spelled ← parts.mapM fun part => spelledLabel? (part.map Char.toNat)
    let sound := spelled.all isSoundLabel
    let directed := !spelled.any (·.any mixesDirections) || spelled.all hasOneDirection
    if sound && directed && !folded.any isForbiddenInName then
      some (List.intercalate ['.'] (spelled.map asciiLabel))
    else none

end JsonSchema.Uri
