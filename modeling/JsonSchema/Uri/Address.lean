import JsonSchema.Text.Percent
/-!
# Network addresses

The numeric hosts of a URI. An IPv4 address may be written with one to four numbers in decimal,
octal or hexadecimal, the last of which fills the remaining bytes. An IPv6 address is eight
groups, of which one run of zero groups may be left out. Both have one canonical text.
-/

namespace JsonSchema.Uri

/-- Cuts a text at every dot. There is always a first piece, which may be empty. -/
def labels : List Char → List (List Char)
  | [] => [[]]
  | c :: rest =>
    if c = '.' then [] :: labels rest
    else
      match labels rest with
      | [] => [[c]]
      | label :: more => (c :: label) :: more

/-- The decimal text of a number. -/
def decimal (n : Nat) : List Char := Nat.toDigits 10 n

/-! ## IPv4 -/

namespace Ipv4

/-- The number in front of which the base is marked, together with its base. -/
def splitBase : List Char → Nat × List Char
  | '0' :: 'x' :: rest => (16, rest)
  | '0' :: 'X' :: rest => (16, rest)
  | '0' :: c :: rest => (8, c :: rest)
  | cs => (10, cs)

/-- The number that a label spells, if it is a numeral. A bare base mark counts as zero. -/
def number? (label : List Char) : Option Nat :=
  if label.isEmpty then none
  else
    let (base, digits) := splitBase label
    digits.foldlM (fun n c => do
      let d ← Percent.hexDigit? c
      if d < base then some (n * base + d) else none) 0

/-- Whether the last label makes the whole name an address. -/
def endsInNumber (name : List Char) : Bool :=
  let last :=
    match (labels name).reverse with
    | [] :: last :: _ => last
    | last :: _ => last
    | [] => []
  (!last.isEmpty && last.all Char.isDigit) || (number? last).isSome

/-- The address that a name spells, as a 32-bit number. -/
def parse? (name : List Char) : Option Nat := do
  let parts := labels name
  let parts := if parts.getLast? = some [] then parts.dropLast else parts
  if 4 < parts.length then none
  else
    let numbers ← parts.mapM number?
    let last ← numbers.getLast?
    let front := numbers.dropLast
    if last < Nat.pow 256 (4 - front.length) ∧ front.all (· < 256) then
      let bytes := front.zipIdx.map fun (n, i) => n * Nat.pow 256 (3 - i)
      some (bytes.foldr (· + ·) last)
    else none

/-- The four numbers of an address in decimal. -/
def text (address : Nat) : List Char :=
  decimal (address / Nat.pow 256 3 % 256) ++ '.' :: decimal (address / Nat.pow 256 2 % 256) ++
    '.' :: decimal (address / 256 % 256) ++ '.' :: decimal (address % 256)

end Ipv4

/-! ## IPv6 -/

namespace Ipv6

/-- The groups read so far, and how many of them come before the run that is left out. The run
itself counts as one group, which is zero. -/
structure Partial where
  /-- The groups. -/
  groups : List Nat
  /-- The number of groups up to the run that is left out, if one is. -/
  gap : Option Nat

/-- Splits up to four hexadecimal digits off the front, and gives their value. -/
def readGroup : Nat → Nat → List Char → Nat × List Char
  | 0, value, cs => (value, cs)
  | _ + 1, value, [] => (value, [])
  | digits + 1, value, c :: rest =>
    match Percent.hexDigit? c with
    | some d => readGroup digits (value * 16 + d) rest
    | none => (value, c :: rest)

/-- Reads one byte of an embedded IPv4 address: no needless zeros, at most `255`. -/
def readByte? (cs : List Char) : Option (Nat × List Char) :=
  match cs.span Char.isDigit with
  | ([], _) => none
  | (digits, rest) =>
    let n := digits.foldl (fun n c => n * 10 + (c.toNat - '0'.toNat)) 0
    if (digits.head? = some '0' ∧ 1 < digits.length) ∨ 255 < n then none else some (n, rest)

/-- Reads an embedded IPv4 address, which ends the text, as two groups. -/
def readEmbedded? (cs : List Char) : Option (List Nat) := do
  let dot? : List Char → Option (List Char)
    | '.' :: rest => some rest
    | _ => none
  let (a, cs) ← readByte? cs
  let (b, cs) ← readByte? (← dot? cs)
  let (c, cs) ← readByte? (← dot? cs)
  let (d, cs) ← readByte? (← dot? cs)
  if cs.isEmpty then some [a * 256 + b, c * 256 + d] else none

/-- Reads the groups from the front on. The first argument bounds the number of steps. -/
def readGroups : Nat → Partial → List Char → Option Partial
  | 0, _, _ => none
  | _ + 1, read, [] => some read
  | bound + 1, read, c :: rest =>
    if read.groups.length = 8 then none
    else if c = ':' then
      if read.gap.isSome then none
      else
        readGroups bound
          { groups := read.groups ++ [0], gap := some (read.groups.length + 1) } rest
    else
      let (value, after) := readGroup 4 0 (c :: rest)
      match after with
      | [] => some { read with groups := read.groups ++ [value] }
      | '.' :: _ =>
        if c = '.' ∨ 6 < read.groups.length then none
        else (readEmbedded? (c :: rest)).map fun tail =>
          { read with groups := read.groups ++ tail }
      | ':' :: after =>
        if after.isEmpty then none
        else readGroups bound { read with groups := read.groups ++ [value] } after
      | _ => none

/-- Fills the run that was left out. Without one there must be eight groups. -/
def Partial.complete? (read : Partial) : Option (List Nat) :=
  match read.gap with
  | none => if read.groups.length = 8 then some read.groups else none
  | some n =>
    some (read.groups.take n ++ List.replicate (8 - read.groups.length) 0 ++ read.groups.drop n)

/-- The eight groups of an address. -/
def parse? (cs : List Char) : Option (List Nat) :=
  match cs with
  | ':' :: ':' :: rest =>
    (readGroups (rest.length + 1) { groups := [0], gap := some 1 } rest).bind Partial.complete?
  | ':' :: _ => none
  | [] => none
  | [_] => none
  | cs => (readGroups (cs.length + 1) { groups := [], gap := none } cs).bind Partial.complete?

/-- The length of the run of zeros at the front. -/
def zeroRun (groups : List Nat) : Nat := (groups.takeWhile (· == 0)).length

/-- Where the longest run of at least two zero groups starts and how long it is; of several the
first. -/
def longestRun? (groups : List Nat) : Option (Nat × Nat) :=
  (List.range groups.length).foldl (fun best i =>
    let run := zeroRun (groups.drop i)
    let longest := match best with
      | some (_, n) => n
      | none => 1
    if longest < run then some (i, run) else best) none

/-- Groups in hexadecimal with colons between them. -/
def joinGroups (groups : List Nat) : List Char :=
  List.intercalate [':'] (groups.map (Nat.toDigits 16))

/-- The canonical text of an address: the longest run of zero groups is left out. -/
def text (groups : List Nat) : List Char :=
  match longestRun? groups with
  | some (start, run) =>
    joinGroups (groups.take start) ++ [':', ':'] ++ joinGroups (groups.drop (start + run))
  | none => joinGroups groups

end Ipv6

end JsonSchema.Uri
