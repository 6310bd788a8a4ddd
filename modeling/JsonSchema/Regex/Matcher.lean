import JsonSchema.Regex.Expr
/-!
# Matching

To search a text, the expression is copied with a mark at every place where it takes a character.
The marks tell which characters could have been the last one taken. Each character of the text
moves the marks on once, so a search takes time in proportion to the text, whatever the expression.
-/

namespace JsonSchema.Regex

open Unicode

/-- An expression with marks. -/
inductive Marked where
  /-- Matches without taking a character. -/
  | empty
  /-- Takes one character of the set. The mark tells that it could just have done so. -/
  | one (set : CodeSet) (mark : Bool)
  /-- Takes no character, and the place must meet the condition. -/
  | look (condition : Condition)
  /-- Both, one after the other. -/
  | seq (first second : Marked)
  /-- Either of the two. -/
  | either (left right : Marked)
  /-- Any number of times. -/
  | many (body : Marked)
deriving Repr

namespace Marked

/-- Matches at a place without taking a character. -/
def skips (place : Place) : Marked → Bool
  | empty => true
  | one _ _ => false
  | look condition => condition.holds place
  | seq a b => a.skips place && b.skips place
  | either a b => a.skips place || b.skips place
  | many _ => true

/-- Could have matched up to a place, the last character before it being one that it took. -/
def ends (place : Place) : Marked → Bool
  | empty => false
  | one _ mark => mark
  | look _ => false
  | seq a b => (a.ends place && b.skips place) || b.ends place
  | either a b => a.ends place || b.ends place
  | many a => a.ends place

/-- Moves the marks over the character `c`, which follows the place. `enter` tells that the
expression may start at the place. -/
def advance (place : Place) (c : Char) (enter : Bool) : Marked → Marked
  | empty => empty
  | one set _ => one set (enter && set.contains c)
  | look condition => look condition
  | seq a b =>
    seq (a.advance place c enter) (b.advance place c ((enter && a.skips place) || a.ends place))
  | either a b => either (a.advance place c enter) (b.advance place c enter)
  | many a => many (a.advance place c (enter || a.ends place))

/-- Whether the expression ends at some place from here on. It may start at every place. -/
def search (before : Option Char) (r : Marked) : List Char → Bool
  | [] => r.skips ⟨before, none⟩ || r.ends ⟨before, none⟩
  | c :: rest =>
    let place : Place := ⟨before, some c⟩
    r.skips place || r.ends place || search (some c) (r.advance place c true) rest

/-- A balanced sequence of `n` copies. -/
def copies (r : Marked) (n : Nat) : Marked :=
  if n = 0 then empty
  else if n = 1 then r
  else seq (copies r (n / 2)) (copies r (n - n / 2))
termination_by n

end Marked

/-- The expression without marks, its repetitions written out. -/
def Expr.unmarked : Expr → Marked
  | empty => .empty
  | one set => .one set false
  | look condition => .look condition
  | seq a b => .seq a.unmarked b.unmarked
  | either a b => .either a.unmarked b.unmarked
  | repeated body least most =>
    let once := body.unmarked
    let rest := match most with
      | none => Marked.many once
      | some most => Marked.copies (.either .empty once) (most - least)
    if least = 0 then rest else .seq (once.copies least) rest
  | group _ body => body.unmarked

end JsonSchema.Regex
