import JsonSchema.Unicode.CodeSet
/-!
# Tables of code points

The tables of the Unicode character database are kept as text. A set is written as its ranges in
hexadecimal with blanks and line breaks between them, such as `41-5A 61-7A AA`. A mapping is
written as rows such as `41-5A>61` in the same manner.
-/

namespace JsonSchema.Unicode

/-- The value of a hexadecimal digit in a table. -/
def tableDigit (c : Char) : Nat :=
  if c ≤ '9' then c.toNat - '0'.toNat else c.toNat - 'A'.toNat + 10

/-- The number that hexadecimal digits spell. -/
def tableNumber (digits : List Char) : Nat :=
  digits.foldl (fun n c => n * 16 + tableDigit c) 0

/-- The parts of a text between separators. There is always a first part, which may be empty. -/
def fields (separator : Char) (cs : List Char) : List (List Char) :=
  let (last, front) := cs.foldl (fun (current, done) c =>
    if c = separator then ([], current.reverse :: done) else (c :: current, done)) ([], [])
  (last.reverse :: front).reverse

/-- The entries of a table: what stands between blanks and line breaks. -/
def entries (text : String) : List (List Char) :=
  ((fields '\n' text.toList).flatMap (fields ' ')).filter (!·.isEmpty)

/-- A range as it stands in a table. -/
def tableRange (entry : List Char) : Nat × Nat :=
  match fields '-' entry with
  | [low, high] => (tableNumber low, tableNumber high)
  | _ => (tableNumber entry, tableNumber entry)

/-- The set that a table gives as text. -/
def CodeSet.ofText (text : String) : CodeSet :=
  ⟨(entries text).map tableRange⟩

/-! ## Mappings -/

/-- A row of a mapping: the code points from `low` to `high` in steps of `step` go to the code
points from the head of `target` on, in the same steps, each followed by the rest of `target`. -/
structure MapRow where
  /-- The first code point. -/
  low : Nat
  /-- The last code point. -/
  high : Nat
  /-- The distance between the code points of the row. -/
  step : Nat
  /-- Where the first code point goes. -/
  target : List Nat
deriving DecidableEq, Repr

namespace MapRow

/-- The row that `text` gives: `100-12E/2>101` maps `100` to `101`, `102` to `103` and so on, and
`BC>31.2044.34` maps one code point to three. -/
def ofText (entry : List Char) : MapRow :=
  match fields '>' entry with
  | source :: target :: _ =>
    let target := if target.isEmpty then [] else (fields '.' target).map tableNumber
    match fields '/' source with
    | [source, step] =>
      let (low, high) := tableRange source
      { low, high, step := tableNumber step, target }
    | _ =>
      let (low, high) := tableRange source
      { low, high, step := 1, target }
  | _ => { low := 0, high := 0, step := 1, target := [0] }

/-- Where the row sends a code point. -/
def at? (row : MapRow) (n : Nat) : Option (List Nat) :=
  if row.low ≤ n ∧ n ≤ row.high ∧ (n - row.low) % row.step = 0 then
    match row.target with
    | [] => some []
    | head :: rest => some ((head + (n - row.low)) :: rest)
  else none

/-- The rows that a table gives as text. -/
def table (text : String) : List MapRow :=
  (entries text).map ofText

end MapRow

/-- Where a mapping sends a code point, if it has a row for it. -/
def mapped? (rows : List MapRow) (n : Nat) : Option (List Nat) :=
  rows.findSome? fun row => row.at? n

end JsonSchema.Unicode
