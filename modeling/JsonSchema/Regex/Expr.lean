import JsonSchema.Unicode.Property
/-!
# Regular expressions

An expression matches stretches of a text. Besides sets of characters there are conditions on the
place between two characters, which match without taking any.
-/

namespace JsonSchema.Regex

open Unicode

/-- A place in a text, seen by its neighbours. -/
structure Place where
  /-- The character before, if the text does not start here. -/
  before : Option Char
  /-- The character after, if the text does not end here. -/
  after : Option Char
deriving DecidableEq, Repr

/-- How words begin and end at a place. -/
inductive WordEdge where
  /-- A word begins or ends. -/
  | edge
  /-- No word begins or ends. -/
  | noEdge
  /-- A word begins. -/
  | begins
  /-- A word ends. -/
  | ends
  /-- No word character stands before. -/
  | beginsHere
  /-- No word character stands after. -/
  | endsHere
deriving DecidableEq, Repr

/-- A condition on a place. -/
inductive Condition where
  /-- The start of the text. -/
  | textStart
  /-- The end of the text. -/
  | textEnd
  /-- The start of a line. Lines end with `\n`, or, if `crlf` holds, also with `\r` or both. -/
  | lineStart (crlf : Bool)
  /-- The end of a line. -/
  | lineEnd (crlf : Bool)
  /-- The edges of words, which consist of all characters of words or of those of ASCII only. -/
  | word (kind : WordEdge) (unicode : Bool)
deriving DecidableEq, Repr

/-- An expression. -/
inductive Expr where
  /-- Matches without taking a character. -/
  | empty
  /-- Takes one character of the set. -/
  | one (set : CodeSet)
  /-- Takes no character, and the place must meet the condition. -/
  | look (condition : Condition)
  /-- Both, one after the other. -/
  | seq (first second : Expr)
  /-- Either of the two. -/
  | either (left right : Expr)
  /-- As often as the bounds say. -/
  | repeated (body : Expr) (least : Nat) (most : Option Nat)
  /-- What stands in parentheses. The places where it starts and ends may be recorded. -/
  | group (recorded : Bool) (body : Expr)
deriving Repr

/-- Joins expressions from the right. -/
def joinRight (operation : Expr → Expr → Expr) : List Expr → Expr
  | [] => .empty
  | [e] => e
  | e :: rest => operation e (joinRight operation rest)

/-! ## Conditions -/

/-- The characters of words in ASCII. -/
def asciiWord : CodeSet := ⟨[(0x30, 0x39), (0x41, 0x5A), (0x5F, 0x5F), (0x61, 0x7A)]⟩

/-- Whether there is a neighbour and it belongs to a word. -/
def inWord (unicode : Bool) (neighbour : Option Char) : Bool :=
  neighbour.any fun c => if unicode then wordCharacters.contains c else asciiWord.contains c

/-- Whether the edge is as asked for. -/
def WordEdge.holds (kind : WordEdge) (before after : Bool) : Bool :=
  match kind with
  | .edge => before != after
  | .noEdge => before == after
  | .begins => !before && after
  | .ends => before && !after
  | .beginsHere => !before
  | .endsHere => !after

/-- Whether the place meets the condition. -/
def Condition.holds (condition : Condition) (place : Place) : Bool :=
  match condition with
  | textStart => place.before.isNone
  | textEnd => place.after.isNone
  | lineStart false => place.before.isNone || place.before == some '\n'
  | lineStart true =>
    place.before.isNone || place.before == some '\n' ||
      (place.before == some '\r' && place.after != some '\n')
  | lineEnd false => place.after.isNone || place.after == some '\n'
  | lineEnd true =>
    place.after.isNone || place.after == some '\r' ||
      (place.after == some '\n' && place.before != some '\r')
  | word kind unicode => kind.holds (inWord unicode place.before) (inWord unicode place.after)

end JsonSchema.Regex
