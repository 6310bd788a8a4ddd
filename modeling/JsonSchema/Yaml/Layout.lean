import JsonSchema.Yaml.Scalar
import JsonSchema.Yaml.Token
/-!
# Layout

Turns a text into tokens. Outside brackets and braces, collections are opened and closed by
indentation: a dash, or the key of a mapping, further to the right than the innermost open
collection opens one, and whatever stands further to the left closes it.

Whether a node is the key of a mapping shows only at the colon behind it. Where a node may be a key
its place among the tokens is kept in mind, and at the colon the key is announced there. Such a key
must stand on one line and be at most `maxKeyLength` characters long.
-/

namespace JsonSchema.Yaml

/-- How long a key may be that is not announced by a question mark. -/
def maxKeyLength : Nat := 1024

/-- A place where a key may have started. -/
structure KeyStart where
  /-- Nothing but a key can stand here. -/
  required : Bool
  /-- How many tokens stand before it. -/
  before : Nat
  /-- Where the key starts. -/
  start : Cursor

/-- What is known at a place in the text. -/
structure Layout where
  /-- The place. -/
  cursor : Cursor
  /-- The tokens so far, the last one first. -/
  tokens : List Token := []
  /-- The columns of the collections that are open by indentation, the innermost one first. -/
  indents : List Nat := []
  /-- A key may start here. -/
  keyAllowed : Bool := true
  /-- Where the last node started that may be a key, inside the innermost brackets. -/
  key : Option KeyStart := none
  /-- The same for the brackets and braces around the innermost ones, and for the text around
  them. -/
  outerKeys : List (Option KeyStart) := []

namespace Layout

/-- The place is inside brackets or braces. -/
def inFlow (s : Layout) : Bool := !s.outerKeys.isEmpty

/-- The least column of what belongs to the innermost collection that is open by indentation, but
is no element or key of it. -/
def inner (s : Layout) : Nat :=
  match s.indents with
  | [] => 0
  | column :: _ => column + 1

/-- Appends a token. -/
def push (s : Layout) (token : Token) : Layout :=
  { s with tokens := token :: s.tokens }

/-- Moves on. -/
def moveTo (s : Layout) (p : Cursor) : Layout :=
  { s with cursor := p }

/-- Sets whether a key may start here. -/
def allowKey (s : Layout) (allowed : Bool) : Layout :=
  { s with keyAllowed := allowed }

/-- Reads an indicator of one character. -/
def indicator (s : Layout) (token : Token) : Layout :=
  (s.push token).moveTo (s.cursor.skip 1)

/-! ## Indentation -/

/-- Opens a collection at a column if that is further to the right than the innermost one. Its token
is put behind the first `before` tokens. -/
def openBlock (s : Layout) (column before : Nat) (token : Token) : Layout :=
  if s.inFlow || column < s.inner then s
  else
    let after := s.tokens.length - before
    { s with
      indents := column :: s.indents
      tokens := s.tokens.take after ++ token :: s.tokens.drop after }

/-- Closes the collections that are further to the right than a column. -/
def closeBlocks (s : Layout) (column : Nat) : Layout :=
  if s.inFlow then s
  else
    let closed := s.indents.takeWhile (column < ·)
    { s with
      indents := s.indents.drop closed.length
      tokens := List.replicate closed.length .blockEnd ++ s.tokens }

/-- Closes all collections. -/
def closeAll (s : Layout) : Layout :=
  if s.inFlow then s
  else
    { s with
      indents := [], tokens := List.replicate s.indents.length .blockEnd ++ s.tokens }

/-! ## Keys -/

/-- Gives up a possible key. -/
def forget? : Option KeyStart → Option (Option KeyStart)
  | some k => if k.required then none else some none
  | none => some none

/-- Gives up the possible key inside the innermost brackets. -/
def forgetKey? (s : Layout) : Option Layout := do
  let key ← forget? s.key
  return { s with key }

/-- The possible key is on an earlier line or too long. -/
def isStale (p : Cursor) (k : KeyStart) : Bool :=
  k.start.line < p.line || p.left + maxKeyLength < k.start.left

/-- Gives up a possible key if that is on an earlier line or too long. -/
def refresh? (p : Cursor) (key : Option KeyStart) : Option (Option KeyStart) :=
  if key.any (isStale p) then forget? key else some key

/-- Gives up all possible keys that are on earlier lines or too long. -/
def refreshKeys? (s : Layout) : Option Layout := do
  let key ← refresh? s.cursor s.key
  let outerKeys ← s.outerKeys.mapM (refresh? s.cursor)
  return { s with key, outerKeys }

/-- Notes that the node that starts here may be a key. At the column of an open collection outside
brackets it must be one. -/
def noteKey? (s : Layout) : Option Layout :=
  if s.keyAllowed then do
    let s ← s.forgetKey?
    let required := !s.inFlow && s.indents.head? == some s.cursor.column
    return { s with key := some { required, before := s.tokens.length, start := s.cursor } }
  else some s

/-! ## Between tokens -/

/-- Moves over a byte order mark at the start of a line. -/
def skipByteOrderMark (p : Cursor) : Cursor :=
  if p.column == 0 && p.rest.head? == some '\uFEFF' then p.skip 1 else p

/-- Moves to the next token. Outside brackets a key may start on each new line, and where one may
start no tab may stand. -/
def skipToToken : Nat → Layout → Layout
  | 0, s => s
  | bound + 1, s =>
    let p := skipByteOrderMark s.cursor
    let (_, p) := p.span fun c => c == ' ' || (c == '\t' && (s.inFlow || !s.keyAllowed))
    let p := p.skipComment
    match p.rest with
    | c :: _ =>
      if isBreak c then
        skipToToken bound ((s.moveTo p.skipBreak).allowKey (s.keyAllowed || !s.inFlow))
      else s.moveTo p
    | [] => s.moveTo p

/-! ## Directives -/

/-- Reads a number of at most nine digits. -/
def versionNumber? (p : Cursor) : Option (Nat × Cursor) :=
  let (digits, p) := p.span Char.isDigit
  if digits.isEmpty ∨ 9 < digits.length then none
  else some (digits.foldl (fun n c => n * 10 + (c.toNat - '0'.toNat)) 0, p)

/-- Reads the version of the language. -/
def versionDirective? (p : Cursor) : Option (Token × Cursor) := do
  let (major, p) ← versionNumber? p.skipBlanks
  if p.rest.head? != some '.' then none
  let (minor, p) ← versionNumber? (p.skip 1)
  return (.version major minor, p)

/-- A character of a tag. Commas and brackets belong to tags in full and to handles only. -/
def isTagChar (full : Bool) (c : Char) : Bool :=
  isNameChar c ||
  [';', '/', '?', ':', '@', '&', '=', '+', '$', '.', '!', '~', '*', '\'', '(', ')'].contains c ||
  (full && [',', '[', ']'].contains c)

/-- How many bytes a character has whose first byte in UTF-8 is given. -/
def utf8Width? (first : Nat) : Option Nat :=
  if first < 0x80 then some 1
  else if 0xC0 ≤ first ∧ first < 0xE0 then some 2
  else if 0xE0 ≤ first ∧ first < 0xF0 then some 3
  else if 0xF0 ≤ first ∧ first < 0xF8 then some 4
  else none

/-- The characters of a tag at the front of a text. Bytes may be given by two hexadecimal digits
behind a `%`; they stand for themselves here, but must be as many as the first one tells. So many
of them are still awaited. -/
def tagChars? (full : Bool) (awaited : Nat) : List Char → Option (List Char)
  | '%' :: high :: low :: rest => do
    let byte ← (Percent.byte? high low).map UInt8.toNat
    let awaited ←
      if awaited = 0 then (utf8Width? byte).map (· - 1)
      else if 0x80 ≤ byte ∧ byte < 0xC0 then some (awaited - 1)
      else none
    return '%' :: high :: low :: (← tagChars? full awaited rest)
  | c :: rest =>
    if awaited ≠ 0 ∨ c = '%' then none
    else if isTagChar full c then (tagChars? full awaited rest).map (c :: ·)
    else some []
  | [] => if awaited = 0 then some [] else none

/-- Reads the characters of a tag. -/
def tagText? (full : Bool) (p : Cursor) : Option (List Char × Cursor) := do
  let text ← tagChars? full 0 p.rest
  return (text, p.skip text.length)

/-- Reads an exclamation mark, a name and, if there is one, a second exclamation mark. -/
def tagHandle? (p : Cursor) : Option (List Char × Cursor) :=
  match p.rest with
  | '!' :: _ =>
    let (name, p) := (p.skip 1).span isNameChar
    match p.rest with
    | '!' :: _ => some ('!' :: name ++ ['!'], p.skip 1)
    | _ => some ('!' :: name, p)
  | _ => none

/-- Whether a text is a handle with two exclamation marks. -/
def isFullHandle (handle : List Char) : Bool :=
  2 ≤ handle.length && handle.getLast? == some '!'

/-- Reads a handle and what it stands for. -/
def handleDirective? (p : Cursor) : Option (Token × Cursor) := do
  let (name, p) ← tagHandle? p.skipBlanks
  if !isFullHandle name && name != ['!'] then none
  if !p.rest.head?.any isBlank then none
  let (meaning, p) ← tagText? true p.skipBlanks
  if meaning.isEmpty || !endsWord p.rest then none
  return (.handle name meaning, p)

/-- Reads a directive, which takes a whole line. -/
def directive? (p : Cursor) : Option (Token × Cursor) := do
  let (name, p) := (p.skip 1).span isNameChar
  if !endsWord p.rest then none
  let (token, p) ←
    if name = ['Y', 'A', 'M', 'L'] then versionDirective? p
    else if name = ['T', 'A', 'G'] then handleDirective? p
    else none
  return (token, ← p.endLine?)

/-! ## Properties of nodes -/

/-- The characters that may stand right behind a name. -/
def nameEnds : List Char := ['?', ':', ',', ']', '\x7d', '%', '@', '\x60']

/-- Reads the name of a node behind its indicator. -/
def name? (p : Cursor) : Option (String × Cursor) :=
  let (name, p) := (p.skip 1).span isNameChar
  let ends := endsWord p.rest || p.rest.head?.any nameEnds.contains
  if name.isEmpty || !ends then none else some (String.ofList name, p)

/-- Reads a tag in full, behind `!<`. -/
def fullTag? (p : Cursor) : Option (Token × Cursor) := do
  let (text, p) ← tagText? true (p.skip 2)
  if text.isEmpty || p.rest.head? != some '>' then none
  return (.tag [] text, p.skip 1)

/-- Reads a tag with a handle. Where there is no second exclamation mark the handle is the first
one, and a lone exclamation mark is a tag of its own. -/
def shortTag? (p : Cursor) : Option (Token × Cursor) := do
  let (handle, p) ← tagHandle? p
  let (text, p) ← tagText? false p
  if isFullHandle handle then
    if text.isEmpty then none else return (.tag handle text, p)
  else
    let suffix := handle.drop 1 ++ text
    return (if suffix.isEmpty then .tag [] ['!'] else .tag ['!'] suffix, p)

/-- Reads a tag. -/
def tag? (s : Layout) : Option (Token × Cursor) := do
  let (token, p) ←
    if ['!', '<'].isPrefixOf s.cursor.rest then fullTag? s.cursor else shortTag? s.cursor
  if endsWord p.rest || (s.inFlow && p.rest.head? == some ',') then return (token, p) else none

/-! ## Tokens -/

/-- Reads a mark of the start or the end of a document. -/
def documentMark? (s : Layout) (token : Token) : Option Layout := do
  let s ← s.closeAll.forgetKey?
  return ((s.push token).moveTo (s.cursor.skip 3)).allowKey false

/-- Reads an opening bracket or brace. -/
def openFlow? (s : Layout) (token : Token) : Option Layout := do
  let s ← s.noteKey?
  let outerKeys := s.key :: s.outerKeys
  return { s.indicator token with key := none, outerKeys, keyAllowed := true }

/-- Reads a closing bracket or brace. -/
def closeFlow? (s : Layout) (token : Token) : Option Layout := do
  let s ← s.forgetKey?
  let s := (s.indicator token).allowKey false
  match s.outerKeys with
  | [] => return s
  | key :: outerKeys => return { s with key, outerKeys }

/-- Reads a comma. -/
def comma? (s : Layout) : Option Layout := do
  let s ← s.forgetKey?
  return (s.indicator .comma).allowKey true

/-- Opens a collection here, outside brackets, where a key may start. -/
def openBlockHere? (s : Layout) (token : Token) : Option Layout :=
  if s.inFlow then some s
  else if s.keyAllowed then some (s.openBlock s.cursor.column s.tokens.length token)
  else none

/-- Reads a dash. -/
def dash? (s : Layout) : Option Layout := do
  let s ← (← s.openBlockHere? .sequenceStart).forgetKey?
  return (s.indicator .dash).allowKey true

/-- Reads a question mark. -/
def questionMark? (s : Layout) : Option Layout := do
  let s ← (← s.openBlockHere? .mappingStart).forgetKey?
  return (s.indicator .key).allowKey (!s.inFlow)

/-- Announces the key that started at a place. -/
def announceKey (s : Layout) (k : KeyStart) : Layout :=
  let after := s.tokens.length - k.before
  let tokens := s.tokens.take after ++ Token.key :: s.tokens.drop after
  { s with tokens, key := none }.openBlock k.start.column k.before .mappingStart

/-- Reads a colon. -/
def colon? (s : Layout) : Option Layout :=
  match s.key with
  | some k => some (((s.announceKey k).indicator .value).allowKey false)
  | none => do
    let s ← s.openBlockHere? .mappingStart
    return (s.indicator .value).allowKey (!s.inFlow)

/-- Appends a token that may be a key or start one, and moves behind it. -/
def node? (s : Layout) (read : Option (Token × Cursor)) : Option Layout := do
  let s ← s.noteKey?
  let (token, p) ← read
  return ((s.push token).moveTo p).allowKey false

/-- Reads a scalar in quotes. -/
def quoted? (s : Layout) (quote : Char) : Option Layout :=
  s.node? ((s.cursor.quoted? quote).map fun (text, p) => (.scalar text false, p))

/-- Reads a plain scalar. A key may start behind it if the end of a line was passed. -/
def plain? (s : Layout) : Option Layout := do
  let plain ← s.cursor.plain? s.inFlow s.inner
  let s ← s.node? (some (.scalar (String.ofList plain.content) true, plain.cursor))
  return s.allowKey plain.passedBreak

/-- Reads a block scalar. -/
def block? (s : Layout) (folded : Bool) : Option Layout := do
  let s ← s.forgetKey?
  let (text, p) ← s.cursor.block? folded s.inner
  return ((s.push (.scalar text false)).moveTo p).allowKey true

/-- Whether a plain scalar can start with a character, given what follows it. -/
def startsPlain (inFlow : Bool) (c : Char) (rest : List Char) : Bool :=
  if c == '-' then !rest.head?.any isBlank
  else if c == '?' || c == ':' then !inFlow && !endsWord rest
  else
    !(isBlank c || isFlowIndicator c ||
      ['#', '&', '*', '!', '|', '>', '\'', '"', '%', '@', '\x60'].contains c)

/-- Reads the token that starts with a character, given what follows it. -/
def readToken? (s : Layout) (c : Char) (rest : List Char) : Option Layout :=
  let p := s.cursor
  let alone := endsWord rest
  if p.column == 0 && c == '%' then do
    let s ← s.closeAll.forgetKey?
    let (token, p) ← directive? p
    return ((s.push token).moveTo p).allowKey false
  else if p.atDocumentMark then s.documentMark? (if c == '-' then .documentStart else .documentEnd)
  else if c == '[' then s.openFlow? .openBracket
  else if c == '\x7b' then s.openFlow? .openBrace
  else if c == ']' then s.closeFlow? .closeBracket
  else if c == '\x7d' then s.closeFlow? .closeBrace
  else if c == ',' then s.comma?
  else if c == '-' && alone then s.dash?
  else if c == '?' && (s.inFlow || alone) then s.questionMark?
  else if c == ':' && (s.inFlow || alone) then s.colon?
  else if c == '*' then s.node? ((name? p).map fun (name, p) => (.alias name, p))
  else if c == '&' then s.node? ((name? p).map fun (name, p) => (.anchor name, p))
  else if c == '!' then s.node? s.tag?
  else if (c == '|' || c == '>') && !s.inFlow then s.block? (c == '>')
  else if c == '\'' || c == '"' then s.quoted? c
  else if startsPlain s.inFlow c rest then s.plain?
  else none

/-- Reads all tokens up to the end of the text. -/
def readTokens : Nat → Layout → Option (List Token)
  | 0, _ => none
  | bound + 1, s => do
    let s ← (s.skipToToken (s.cursor.left + 1)).refreshKeys?
    let s := s.closeBlocks s.cursor.column
    match s.cursor.rest with
    | [] =>
      let s ← s.closeAll.forgetKey?
      return s.tokens.reverse
    | c :: rest => readTokens bound (← s.readToken? c rest)

end Layout

/-- The tokens of a text, if it is well formed. -/
def tokens? (text : String) : Option (List Token) :=
  let letters := text.toList
  if letters.all isAllowed then
    Layout.readTokens (letters.length + 1) { cursor := { rest := letters } }
  else none

end JsonSchema.Yaml
