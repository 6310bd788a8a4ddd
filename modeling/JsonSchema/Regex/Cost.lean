import JsonSchema.Regex.Expr
/-!
# The cost of an expression

Two automata are made for an expression, and the number of bytes that each of them takes is
bounded. Repetitions count as often as they repeat their body, so the bound keeps short texts from
standing for huge automata. One automaton reads the text forwards and records where groups start
and end, the other one reads it backwards and records nothing.

The expression is simplified first: alternatives that are single characters, or sets, make one set.
All other alternatives are counted apart, even if they begin alike.

The automata read the bytes of UTF-8. A set of characters beyond ASCII is cut into sequences of
ranges of bytes. Forwards these make the least automaton that takes them; backwards there is a
state for every range, and sequences share the states of the ranges that they have in common at
their front.
-/

namespace JsonSchema.Regex

open Unicode

/-! ## Simplified expressions -/

namespace Expr

/-- Takes no character, whatever the text. -/
def takesNothing : Expr → Bool
  | empty => true
  | one _ => false
  | look _ => true
  | seq a b => a.takesNothing && b.takesNothing
  | either a b => a.takesNothing && b.takesNothing
  | repeated body _ most => body.takesNothing || most == some 0
  | group _ body => body.takesNothing

/-- A lower bound of the number of characters of a match, if there may be a match. -/
def leastLength? : Expr → Option Nat
  | empty => some 0
  | one set => if set.ranges.isEmpty then none else some 1
  | look _ => some 0
  | seq a b => do
    let m ← a.leastLength?
    let n ← b.leastLength?
    return m + n
  | either a b => do
    let m ← a.leastLength?
    let n ← b.leastLength?
    return min m n
  | repeated body least _ => body.leastLength?.map (least * ·)
  | group _ body => body.leastLength?

/-- Whether nothing has to be matched. -/
def isEmpty : Expr → Bool
  | empty => true
  | _ => false

/-- One expression after the other. -/
def followedBy (a b : Expr) : Expr :=
  if a.isEmpty then b else if b.isEmpty then a else seq a b

/-- A repetition. What takes no character need not be repeated. -/
def again (body : Expr) (least : Nat) (most : Option Nat) : Expr :=
  let (least, most) :=
    if body.takesNothing then (min least 1, some (min (most.getD 1) 1)) else (least, most)
  if most = some 0 then empty
  else if least = 1 ∧ most = some 1 then body
  else repeated body least most

/-- The single character that the expression takes, as a set. -/
def character? : Expr → Option CodeSet
  | one ⟨[(low, high)]⟩ => if low = high then some (.range low high) else none
  | _ => none

/-- The set that the expression takes a character of, unless this is a single character. -/
def properSet? (e : Expr) : Option CodeSet :=
  match e with
  | one set => if e.character?.isSome then none else some set
  | _ => none

/-- The alternatives of an expression. -/
def alternatives : Expr → List Expr
  | either a b => a.alternatives ++ b.alternatives
  | e => [e]

/-- One of several expressions. If all of them are characters, they make one set, and likewise if
all of them are sets. -/
def oneOf (es : List Expr) : Expr :=
  match es with
  | [e] => e
  | _ =>
    match es.mapM character?, es.mapM properSet? with
    | some sets, _ => one (.unions sets)
    | none, some sets => one (.unions sets)
    | none, none => joinRight either es

/-- The alternatives that the expression is simplified to, before they are made one. -/
def simpleAlternatives : Expr → List Expr
  | empty => [empty]
  | one set => [one set]
  | look condition => [look condition]
  | seq a b => [(oneOf a.simpleAlternatives).followedBy (oneOf b.simpleAlternatives)]
  | either a b => (oneOf a.simpleAlternatives).alternatives ++ b.simpleAlternatives
  | repeated body least most => [(oneOf body.simpleAlternatives).again least most]
  | group true body => [group true (oneOf body.simpleAlternatives)]
  | group false body => (oneOf body.simpleAlternatives).alternatives

/-- The expression, simplified. -/
def simplified (e : Expr) : Expr := oneOf e.simpleAlternatives

end Expr

/-! ## Characters as bytes -/

/-- Where the number of bytes of a character changes. -/
def lengthBounds : List Nat := [0x7F, 0x7FF, 0xFFFF]

/-- The bytes of a code point. -/
def codeUnits (n : Nat) : List Nat :=
  if n < 0x80 then [n]
  else if n < 0x800 then [0xC0 + n / 64, 0x80 + n % 64]
  else if n < 0x10000 then [0xE0 + n / 4096, 0x80 + n / 64 % 64, 0x80 + n % 64]
  else [0xF0 + n / 262144, 0x80 + n / 4096 % 64, 0x80 + n / 64 % 64, 0x80 + n % 64]

/-- Where a range has to be cut so that each byte of its code points runs through a range of its
own, or `none` if that is so already. -/
def cut? (low high : Nat) : Option Nat :=
  match lengthBounds.find? fun bound => low ≤ bound ∧ bound < high with
  | some bound => some bound
  | none =>
    if high ≤ 0x7F then none
    else
      [64, 4096, 262144].findSome? fun block =>
        if low / block = high / block then none
        else if low % block ≠ 0 then some (low / block * block + (block - 1))
        else if high % block ≠ block - 1 then some (high / block * block - 1)
        else none

/-- The sequences of ranges of bytes of the characters from `low` to `high`, in order. A range is
cut at most as often as the first argument says. -/
def byteSequences : Nat → Nat → Nat → List (List (Nat × Nat))
  | 0, _, _ => []
  | cuts + 1, low, high =>
    if high < low then []
    else if low < 0xE000 ∧ 0xD7FF < high then
      byteSequences cuts low (min high 0xD7FF) ++ byteSequences cuts (max low 0xE000) high
    else
      match cut? low high with
      | some bound => byteSequences cuts low bound ++ byteSequences cuts (bound + 1) high
      | none => [(codeUnits low).zip (codeUnits high)]

/-- How many ranges two sequences have in common at their front. -/
def commonFront : List (Nat × Nat) → List (Nat × Nat) → Nat
  | a :: as, b :: bs => if a = b then commonFront as bs + 1 else 0
  | _, _ => 0

/-- How many states sequences take that share their fronts. `last` is the one before them. -/
def sharedStates (last : List (Nat × Nat)) : List (List (Nat × Nat)) → Nat
  | [] => 0
  | s :: rest => s.length - commonFront last s + sharedStates s rest

/-- The states behind the ranges that sequences start with. Each state is told by the sequences that
go on from it. -/
def branches (sequences : List (List (Nat × Nat))) : List (List (List (Nat × Nat))) :=
  (sequences.splitBy fun a b => a.head? == b.head?).map (List.map List.tail)

/-- The states on the way from the first one to the end of all sequences, which have at most
`depth` ranges. -/
def statesFrom : Nat → List (List (Nat × Nat)) → List (List (List (Nat × Nat)))
  | 0, _ => []
  | depth + 1, sequences =>
    if sequences.all List.isEmpty then []
    else sequences :: (branches sequences).flatMap (statesFrom depth)

/-! ## Bytes of an automaton -/

/-- The direction in which an automaton reads the text. -/
inductive Direction where
  /-- From the start. -/
  | forwards
  /-- From the end. -/
  | backwards
deriving DecidableEq, Repr

/-- The bytes of one state. -/
def stateCost : Nat := 32

/-- The bytes of a transition that belongs to a state with several ones. -/
def transitionCost : Nat := 8

/-- The bytes of one of the states that a state leads to without taking a character. -/
def linkCost : Nat := 4

/-- The bytes of a state that leads to two others without taking a character. -/
def forkCost : Nat := stateCost + 2 * linkCost

/-- The bytes of the states for one character of a set. -/
def setCost (direction : Direction) (set : CodeSet) : Nat :=
  if (Expr.one set).character?.isSome then
    stateCost * (set.ranges.flatMap fun (low, _) => codeUnits low).length
  else if set.ranges.all fun (_, high) => high < 0x80 then
    2 * stateCost + transitionCost * set.ranges.length
  else
    let sequences := set.ranges.flatMap fun (low, high) => byteSequences 32 low high
    match direction with
    | .forwards =>
      (statesFrom 4 sequences).eraseDups.foldl
        (fun cost state => cost + stateCost + transitionCost * (branches state).length) stateCost
    | .backwards =>
      stateCost * (sharedStates [] sequences + 2) + linkCost * sequences.length

namespace Expr

/-- The bytes that one more alternative before `e` takes, itself aside. -/
def alternativeCost (e : Expr) : Nat :=
  match e with
  | either _ _ => linkCost
  | _ => forkCost + stateCost

/-- The bytes of the states for an expression. -/
def cost (direction : Direction) : Expr → Nat
  | empty => stateCost
  | one set => setCost direction set
  | look _ => stateCost
  | seq a b => a.cost direction + b.cost direction
  | either a b => a.cost direction + b.cost direction + b.alternativeCost
  | repeated body least none =>
    if least = 0 ∧ body.leastLength?.getD 0 = 0 then
      body.cost direction + 2 * forkCost + stateCost
    else max 1 least * body.cost direction + forkCost
  | repeated body least (some most) =>
    let once := body.cost direction
    if least = most then least * once
    else if most = 1 then once + forkCost + stateCost
    else
      (if least = 0 then stateCost else least * once) + stateCost +
        (most - least) * (once + forkCost)
  | group recorded body =>
    body.cost direction + if recorded ∧ direction = .forwards then 2 * stateCost else 0

/-- The greatest number of bytes of an automaton. -/
def maxCost : Nat := 10 * Nat.pow 2 20

/-- Whether neither automaton takes too many bytes. A match may start everywhere, so each automaton
begins with a loop over all bytes. The whole match is a group, and a last state tells its end. -/
def fits (e : Expr) : Bool :=
  let whole := group true e.simplified
  let loopCost := 2 * stateCost + transitionCost + forkCost
  [Direction.forwards, .backwards].all fun direction =>
    loopCost + whole.cost direction + stateCost ≤ maxCost

end Expr

end JsonSchema.Regex
