import JsonSchema.Text.Percent
import JsonSchema.Yaml.Cursor
/-!
# Reading scalars

A scalar is written between quotes, plainly, or as an indented block. The readers start at its
first character and give its content and the place behind it. A reader with a `bound` takes at
most so many steps; the length of the text is always enough.
-/

namespace JsonSchema.Yaml

/-! ## Quoted scalars -/

/-- The character that a short escape stands for. -/
def shortEscape? (c : Char) : Option Char :=
  match c with
  | '0' => some '\x00'
  | 'a' => some '\x07'
  | 'b' => some '\x08'
  | 't' => some '\t'
  | '\t' => some '\t'
  | 'n' => some '\n'
  | 'v' => some '\x0b'
  | 'f' => some '\x0c'
  | 'r' => some '\r'
  | 'e' => some '\x1b'
  | ' ' => some ' '
  | '"' => some '"'
  | '/' => some '/'
  | '\\' => some '\\'
  | 'N' => some '\x85'
  | '_' => some '\u00A0'
  | 'L' => some '\u2028'
  | 'P' => some '\u2029'
  | _ => none

/-- How many hexadecimal digits follow a letter in an escape. -/
def escapeWidth? (c : Char) : Option Nat :=
  match c with
  | 'x' => some 2
  | 'u' => some 4
  | 'U' => some 8
  | _ => none

/-- The number that hexadecimal digits spell. -/
def hexNumber? (digits : List Char) : Option Nat :=
  digits.foldlM (fun n c => (Percent.hexDigit? c).map (16 * n + ·)) 0

/-- The character that the escape behind a backslash stands for, and its length. -/
def escape? : List Char → Option (Char × Nat)
  | [] => none
  | c :: rest =>
    match escapeWidth? c with
    | none => (shortEscape? c).map (·, 1)
    | some width => do
      let digits := rest.take width
      let code ← hexNumber? digits
      if digits.length = width ∧ code.isValidChar then some (Char.ofNat code, width + 1) else none

/-- Reads a scalar between quotes up to the closing one; what has been read is given in reverse. -/
def readQuoted (quote : Char) : Nat → Cursor → List Char → Option (List Char × Cursor)
  | 0, _, _ => none
  | bound + 1, p, done =>
    if p.atDocumentMark then none
    else
      match p.rest with
      | [] => none
      | c :: rest =>
        if isBlank c || isBreak c then do
          let (gap, p) ← p.gap? 0
          readQuoted quote bound p (gap.content.reverse ++ done)
        else if c == '\'' && quote == '\'' && rest.head? == some '\'' then
          readQuoted quote bound (p.skip 2) ('\'' :: done)
        else if c == quote then some (done.reverse, p.skip 1)
        else if c == '\\' && quote == '"' then
          if rest.head?.any isBreak then do
            let (gap, p) ← (p.skip 1).skipBreak.gap? 0
            readQuoted quote bound p (gap.breaks.reverse ++ done)
          else do
            let (d, length) ← escape? rest
            readQuoted quote bound (p.skip (length + 1)) (d :: done)
        else readQuoted quote bound (p.skip 1) (c :: done)

/-- Reads a scalar in quotes. -/
def Cursor.quoted? (p : Cursor) (quote : Char) : Option (String × Cursor) := do
  let (content, p) ← readQuoted quote (p.left + 1) (p.skip 1) []
  return (String.ofList content, p)

/-! ## Plain scalars -/

/-- The indicators that may stand in a plain scalar outside brackets and braces only. -/
def isFlowIndicator (c : Char) : Bool :=
  c == ',' || c == '[' || c == ']' || c == '\x7b' || c == '\x7d'

/-- Reads a word of a plain scalar. It ends at a colon with a blank behind it, and inside brackets
and braces at an indicator, in front of which no colon may stand. -/
def plainWord? (inFlow : Bool) : List Char → Option (List Char)
  | [] => some []
  | c :: rest =>
    if isBlank c || isBreak c then some []
    else if inFlow && c == ':' && rest.head?.any (fun d => isFlowIndicator d || d == '?') then none
    else if c == ':' && endsWord rest then some []
    else if inFlow && isFlowIndicator c then some []
    else (plainWord? inFlow rest).map (c :: ·)

/-- A plain scalar. -/
structure Plain where
  /-- The content. -/
  content : List Char
  /-- The end of a line was passed behind the last word. -/
  passedBreak : Bool
  /-- The place behind the scalar. -/
  cursor : Cursor

/-- Reads a plain scalar of which the words in `done` have been read, and a gap after them. Its
further lines must be indented as far as `indent`, except inside brackets and braces. -/
def readPlain (inFlow : Bool) (indent : Nat) :
    Nat → Cursor → List Char → Gap → Option Plain
  | 0, _, _, _ => none
  | bound + 1, p, done, gap =>
    let finished : Plain :=
      { content := done, passedBreak := !gap.breaks.isEmpty, cursor := p }
    if p.atDocumentMark || p.rest.head? == some '#' then some finished
    else do
      let word ← plainWord? inFlow p.rest
      if word.isEmpty then return finished
      let done := done ++ gap.content ++ word
      let p := p.skip word.length
      if endsWord p.rest && !p.rest.isEmpty then
        let (gap, p) ← p.gap? indent
        if !inFlow && p.column < indent then
          return { content := done, passedBreak := !gap.breaks.isEmpty, cursor := p }
        else readPlain inFlow indent bound p done gap
      else return { content := done, passedBreak := false, cursor := p }

/-- Reads a plain scalar. -/
def Cursor.plain? (p : Cursor) (inFlow : Bool) (indent : Nat) : Option Plain :=
  readPlain inFlow indent (p.left + 1) p [] {}

/-! ## Block scalars -/

/-- What becomes of the line breaks at the end of a block scalar. -/
inductive Chomping where
  /-- None is kept. -/
  | strip
  /-- One is kept. -/
  | clip
  /-- All are kept. -/
  | keep
deriving DecidableEq, Repr

/-- The first line of a block scalar. -/
structure BlockHeader where
  /-- What becomes of the line breaks at the end. -/
  chomping : Chomping := .clip
  /-- How much further the block is indented than what is around it, if that is given. -/
  indent : Option Nat := none

/-- Reads the sign that tells what becomes of the line breaks at the end. -/
def readChomping (header : BlockHeader) : List Char → BlockHeader × Nat
  | '+' :: _ => ({ header with chomping := .keep }, 1)
  | '-' :: _ => ({ header with chomping := .strip }, 1)
  | _ => (header, 0)

/-- Reads the digit that tells the indentation, which must not be zero. -/
def readIndentDigit (header : BlockHeader) : List Char → Option (BlockHeader × Nat)
  | [] => some (header, 0)
  | c :: _ =>
    if c == '0' then none
    else if c.isDigit then some ({ header with indent := some (c.toNat - '0'.toNat) }, 1)
    else some (header, 0)

/-- Reads the sign and the digit, in either order. -/
def readBlockHeader (cs : List Char) : Option (BlockHeader × Nat) :=
  match readChomping {} cs with
  | (header, 0) => do
    let (header, digit) ← readIndentDigit header cs
    if digit = 0 then return (header, 0)
    let (header, sign) := readChomping header (cs.drop digit)
    return (header, digit + sign)
  | (header, sign) => do
    let (header, digit) ← readIndentDigit header (cs.drop sign)
    return (header, sign + digit)

/-- The empty lines in front of a line of a block. -/
structure EmptyLines where
  /-- What their line breaks stand for. -/
  breaks : List Char := []
  /-- The greatest column that was reached. -/
  widest : Nat := 0

/-- Moves over empty lines and over the indentation of the next line, up to the column `indent` if
that is known. No tab may stand in the indentation. -/
def readEmptyLines (indent : Option Nat) :
    Nat → Cursor → EmptyLines → Option (EmptyLines × Cursor)
  | 0, p, lines => some (lines, p)
  | bound + 1, p, lines =>
    let inside (column : Nat) : Bool := indent.all fun n => column < n
    match p.rest with
    | [] => some ({ lines with widest := max lines.widest p.column }, p)
    | c :: _ =>
      if c == ' ' && inside p.column then readEmptyLines indent bound (p.skip 1) lines
      else
        let lines := { lines with widest := max lines.widest p.column }
        if c == '\t' && inside p.column then none
        else if isBreak c then
          readEmptyLines indent bound p.skipBreak
            { lines with breaks := lines.breaks ++ [breakContent c] }
        else some (lines, p)

/-- Moves over the empty lines that start here. -/
def Cursor.emptyLines? (p : Cursor) (indent : Option Nat) : Option (EmptyLines × Cursor) :=
  readEmptyLines indent (p.left + 1) p {}

/-- The line break behind a line, as content, and the place behind it. -/
def Cursor.lineBreak (p : Cursor) : List Char × Cursor :=
  match p.rest with
  | [] => ([], p)
  | c :: _ => ([breakContent c], p.skipBreak)

/-- What stands between two lines of a block: the line break behind the first one and those of
empty lines. In a folded block the line break vanishes, or becomes a space, unless one of the two
lines starts with a blank. -/
def joinLines (folded : Bool) (lineBreak : List Char) (empty : List Char) : List Char :=
  if folded && lineBreak == ['\n'] then if empty.isEmpty then [' '] else empty
  else lineBreak ++ empty

/-- A block of which some lines have been read. -/
structure BlockLines where
  /-- The content. -/
  content : List Char := []
  /-- The line break behind the last line. -/
  lineBreak : List Char := []
  /-- The line breaks of the empty lines after it. -/
  empty : List Char := []
  /-- The last line starts with a blank. -/
  startsBlank : Bool := false

/-- Reads the lines of a block. -/
def readBlockLines (folded : Bool) (indent : Nat) :
    Nat → Cursor → BlockLines → Option (BlockLines × Cursor)
  | 0, p, block => some (block, p)
  | bound + 1, p, block =>
    match p.rest with
    | [] => some (block, p)
    | c :: _ =>
      if p.column = indent then do
        let folds := folded && !block.startsBlank && !isBlank c
        let (line, p) := p.span fun c => !isBreak c
        let (lineBreak, p) := p.lineBreak
        let (lines, p) ← p.emptyLines? (some indent)
        readBlockLines folded indent bound p {
          content := block.content ++ joinLines folds block.lineBreak block.empty ++ line
          lineBreak, empty := lines.breaks, startsBlank := isBlank c }
      else some (block, p)

/-- The content of a block, with the line breaks at its end. -/
def BlockLines.chomp (block : BlockLines) : Chomping → List Char
  | .strip => block.content
  | .clip => block.content ++ block.lineBreak
  | .keep => block.content ++ block.lineBreak ++ block.empty

/-- Reads a block. What is around it is indented by one less than `outer`. -/
def Cursor.block? (p : Cursor) (folded : Bool) (outer : Nat) : Option (String × Cursor) := do
  let p := p.skip 1
  let (header, length) ← readBlockHeader p.rest
  let p ← (p.skip length).endLine?
  let given := header.indent.map fun n => max outer 1 - 1 + n
  let (lines, p) ← p.emptyLines? given
  let indent := given.getD (max lines.widest (max outer 1))
  let (block, p) ← readBlockLines folded indent p.left p { empty := lines.breaks }
  return (String.ofList (block.chomp header.chomping), p)

end JsonSchema.Yaml
