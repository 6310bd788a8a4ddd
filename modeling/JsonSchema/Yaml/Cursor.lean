/-!
# Places in a YAML text

Indentation decides the structure of a YAML text, so a reader has to know the column at which it
stands. A cursor is the text that is still to be read together with its place.

There are five line breaks, and a carriage return in front of a line feed belongs to it. In the
content of a scalar a line break counts as a line feed, except for the two separators of Unicode,
which stand for themselves.
-/

namespace JsonSchema.Yaml

/-- What is still to be read, and where it stands. Lines and columns are counted from zero. -/
structure Cursor where
  /-- The text that is still to be read. -/
  rest : List Char
  /-- The length of that text. -/
  left : Nat := rest.length
  /-- The line. -/
  line : Nat := 0
  /-- The column. -/
  column : Nat := 0

/-! ## Characters -/

/-- A space or a tab. -/
def isBlank (c : Char) : Bool :=
  c == ' ' || c == '\t'

/-- A character that ends a line. -/
def isBreak (c : Char) : Bool :=
  c == '\n' || c == '\r' || c == '\x85' || c == '\u2028' || c == '\u2029'

/-- A character of a name. -/
def isNameChar (c : Char) : Bool :=
  c.isAlphanum || c == '_' || c == '-'

/-- What a line break stands for in the content of a scalar. -/
def breakContent (c : Char) : Char :=
  if c == '\u2028' || c == '\u2029' then c else '\n'

/-- The characters that may occur in a text at all. -/
def isAllowed (c : Char) : Bool :=
  c == '\t' || c == '\n' || c == '\r' || c == '\x85' || (' ' ≤ c && c ≤ '~') ||
  ('\u00A0' ≤ c && c != '\uFFFE' && c != '\uFFFF')

/-! ## What comes next -/

/-- The text is at its end or at the end of a line. -/
def endsLine : List Char → Bool
  | [] => true
  | c :: _ => isBreak c

/-- The text is at its end, at the end of a line or at a blank. -/
def endsWord : List Char → Bool
  | [] => true
  | c :: _ => isBlank c || isBreak c

/-- The text starts with a given indicator that stands alone. -/
def startsWithMark (mark : List Char) (cs : List Char) : Bool :=
  mark.isPrefixOf cs && endsWord (cs.drop mark.length)

/-- The mark of the start of a document. -/
def documentStart : List Char := ['-', '-', '-']

/-- The mark of the end of a document. -/
def documentEnd : List Char := ['.', '.', '.']

namespace Cursor

/-- Moves over some characters of a line. -/
def skip (p : Cursor) (count : Nat) : Cursor :=
  { p with rest := p.rest.drop count, left := p.left - count, column := p.column + count }

/-- Moves over a line break. -/
def skipBreak (p : Cursor) : Cursor :=
  let count := if ['\r', '\n'].isPrefixOf p.rest then 2 else 1
  { rest := p.rest.drop count, left := p.left - count, line := p.line + 1, column := 0 }

/-- Moves over the characters of a line that satisfy a condition, and gives them. -/
def span (p : Cursor) (keep : Char → Bool) : List Char × Cursor :=
  let taken := p.rest.takeWhile keep
  (taken, p.skip taken.length)

/-- Moves over spaces and tabs. -/
def skipBlanks (p : Cursor) : Cursor :=
  (p.span isBlank).2

/-- Moves to the end of the line if a comment starts here. -/
def skipComment (p : Cursor) : Cursor :=
  match p.rest with
  | '#' :: _ => (p.span fun c => !isBreak c).2
  | _ => p

/-- Moves over blanks, a comment and a line break. There must be nothing else in the line. -/
def endLine? (p : Cursor) : Option Cursor :=
  let p := p.skipBlanks.skipComment
  if p.rest.isEmpty then some p
  else if endsLine p.rest then some p.skipBreak
  else none

/-- A mark of the start or the end of a document stands here, at the start of a line. -/
def atDocumentMark (p : Cursor) : Bool :=
  p.column == 0 && (startsWithMark documentStart p.rest || startsWithMark documentEnd p.rest)

end Cursor

/-! ## Gaps

Inside a scalar, blanks and line breaks between two words are folded: blanks around line breaks
vanish, a single line break becomes a space, and of more line breaks the first one vanishes.
-/

/-- The blanks and line breaks between two words of a scalar. -/
structure Gap where
  /-- The blanks in front of the first line break. -/
  blanks : List Char := []
  /-- What the line breaks stand for. -/
  breaks : List Char := []

namespace Gap

/-- What line breaks between two words become. -/
def foldBreaks : List Char → List Char
  | ['\n'] => [' ']
  | '\n' :: more => more
  | breaks => breaks

/-- What the gap becomes. -/
def content (gap : Gap) : List Char :=
  if gap.breaks.isEmpty then gap.blanks else foldBreaks gap.breaks

end Gap

/-- Moves over a gap, of which a part has been read. On its further lines no tab may stand left of
the column `indent`. -/
def Cursor.readGap (indent : Nat) : Nat → Cursor → Gap → Option (Gap × Cursor)
  | 0, p, gap => some (gap, p)
  | bound + 1, p, gap =>
    match p.rest with
    | [] => some (gap, p)
    | c :: _ =>
      if isBreak c then
        readGap indent bound p.skipBreak { gap with breaks := gap.breaks ++ [breakContent c] }
      else if !isBlank c then some (gap, p)
      else if gap.breaks.isEmpty then
        readGap indent bound (p.skip 1) { gap with blanks := gap.blanks ++ [c] }
      else if c == '\t' && p.column < indent then none
      else readGap indent bound (p.skip 1) gap

/-- Moves over the gap that starts here. -/
def Cursor.gap? (p : Cursor) (indent : Nat) : Option (Gap × Cursor) :=
  p.readGap indent (p.left + 1) {}

end JsonSchema.Yaml
