import JsonSchema.Regex.Cost
import JsonSchema.Regex.NamedClass
/-!
# Reading regular expressions

The text of an expression is read from left to right under settings that the expression itself can
change: whether case matters, whether line ends count, whether characters beyond ASCII are classed,
and whether blanks and comments may stand between the parts. A setting that is changed inside a
group lasts to the end of that group.

References to groups and conditions on what stands around a match are no part of the language.
Readers with a `bound` take at most so many steps, and the length of the text is enough.
-/

namespace JsonSchema.Regex

open Unicode

/-! ## Settings -/

/-- The settings under which a part of an expression is read. -/
structure Settings where
  /-- Characters stand for all their case variants. -/
  ignoreCase : Bool
  /-- `^` and `$` match at lines. -/
  multiLine : Bool
  /-- `.` takes line ends, too. -/
  dotAll : Bool
  /-- Classes and variants go beyond ASCII. -/
  unicode : Bool
  /-- Lines may end with `\r`. -/
  crlf : Bool
  /-- Blanks and comments between the parts do not count. -/
  verbose : Bool
deriving DecidableEq, Repr

/-- The settings at the start. -/
def Settings.standard : Settings :=
  { ignoreCase := false, multiLine := false, dotAll := false, unicode := true, crlf := false
    verbose := false }

/-- The letters of the settings. One of them has no influence on what is found. -/
def settingLetters : List Char := ['i', 'm', 's', 'u', 'R', 'x', 'U']

/-- Changes the setting with the given letter. -/
def Settings.change (s : Settings) (letter : Char) (on : Bool) : Settings :=
  match letter with
  | 'i' => { s with ignoreCase := on }
  | 'm' => { s with multiLine := on }
  | 's' => { s with dotAll := on }
  | 'u' => { s with unicode := on }
  | 'R' => { s with crlf := on }
  | 'x' => { s with verbose := on }
  | _ => s

/-- Reads settings up to a `:` or `)`. Each letter occurs once, and letters after a `-` are switched
off. Gives the changed settings, whether there was any letter, and the text from the end mark on. -/
def readSettings (s : Settings) (seen : List Char) (off dangling : Bool) :
    List Char → Option (Settings × Bool × List Char)
  | [] => none
  | c :: rest =>
    if c = ':' ∨ c = ')' then if dangling then none else some (s, !seen.isEmpty, c :: rest)
    else if c = '-' then if off then none else readSettings s seen true true rest
    else if settingLetters.contains c ∧ ¬seen.contains c then
      readSettings (s.change c !off) (c :: seen) off false rest
    else none

/-! ## Blanks -/

/-- Drops blanks and comments, which start with `#` and end with the line. -/
def dropComments (inComment : Bool) : List Char → List Char
  | [] => []
  | c :: rest =>
    if inComment then dropComments (c != '\n') rest
    else if whitespace.contains c then dropComments false rest
    else if c = '#' then dropComments true rest
    else c :: rest

/-- Drops what does not count under the settings. -/
def Settings.skip (s : Settings) (cs : List Char) : List Char :=
  if s.verbose then dropComments false cs else cs

/-- The character after the next one, blanks aside. -/
def Settings.peek (s : Settings) (cs : List Char) : Option Char :=
  let rest := cs.drop 1
  if s.verbose then
    match rest.dropWhile whitespace.contains with
    | '#' :: comment => (comment.dropWhile whitespace.contains).head?
    | rest => rest.head?
  else rest.head?

/-! ## Escapes -/

/-- What a single item of an expression or a class stands for. -/
inductive Atom where
  /-- A character. `byte` tells that it was given as a byte of two hexadecimal digits. -/
  | literal (c : Char) (byte : Bool)
  /-- A set of characters. -/
  | set (set : CodeSet)
  /-- A condition. -/
  | look (condition : Condition)

/-- The character with this code point, if there is one. -/
def character? (n : Nat) : Option Char :=
  if n.isValidChar then some (Char.ofNat n) else none

/-- The value of a hexadecimal digit. -/
def hexadecimal? (c : Char) : Option Nat :=
  if '0' ≤ c ∧ c ≤ '9' then some (c.toNat - '0'.toNat)
  else if 'a' ≤ c ∧ c ≤ 'f' then some (c.toNat - 'a'.toNat + 10)
  else if 'A' ≤ c ∧ c ≤ 'F' then some (c.toNat - 'A'.toNat + 10)
  else none

/-- Reads a fixed number of hexadecimal digits. -/
def readHex (s : Settings) : Nat → Nat → List Char → Option (Nat × List Char)
  | 0, value, cs => some (value, cs)
  | _ + 1, _, [] => none
  | count + 1, value, c :: rest => do
    let d ← hexadecimal? c
    readHex s count (value * 16 + d) (s.skip rest)

/-- Reads up to the closing brace. -/
def readBraced (s : Settings) : Nat → List Char → List Char → Option (List Char × List Char)
  | 0, _, _ => none
  | bound + 1, done, cs =>
    match s.skip cs with
    | [] => none
    | '\x7d' :: rest => some (done.reverse, rest)
    | c :: rest => readBraced s bound (c :: done) rest

/-- Reads a character given by its code point: `digits` hexadecimal digits, or any number of them
in braces. -/
def readCodePoint (s : Settings) (digits : Nat) (cs : List Char) : Option (Atom × List Char) :=
  match s.skip cs with
  | '\x7b' :: rest => do
    let (inside, rest) ← readBraced s (rest.length + 1) [] rest
    let values ← inside.mapM hexadecimal?
    let c ← if values.isEmpty then none else character? (values.foldl (fun n d => n * 16 + d) 0)
    return (.literal c false, rest)
  | cs => do
    let (n, rest) ← readHex s digits 0 cs
    let c ← character? n
    return (.literal c (digits == 2), rest)

/-- Adds case variants, if case is ignored. -/
def Settings.fold (s : Settings) (set : CodeSet) : CodeSet :=
  if s.ignoreCase then if s.unicode then set.withVariants else set.withAsciiVariants else set

/-- The characters not in the set. Without Unicode these would not all be characters. -/
def Settings.negate? (s : Settings) (negated : Bool) (set : CodeSet) : Option CodeSet :=
  if negated then if s.unicode then some set.complement else none else some set

/-- Reads the class after `\p` or `\P`. -/
def readUnicodeClass (s : Settings) (negated : Bool) (cs : List Char) :
    Option (Atom × List Char) := do
  let (set, rest) ← match s.skip cs with
    | [] => none
    | '\x7b' :: rest => do
      let (inside, rest) ← readBraced s (rest.length + 1) [] rest
      let set ← bracedSet? inside
      some (set, rest)
    | '\\' :: _ => none
    | c :: rest => (namedSet? [c]).map fun set => (set, rest)
  if s.unicode then
    let set ← s.negate? negated (s.fold set)
    return (.set set, rest)
  else none

/-- The class of digits, blanks or word characters, for `d`, `s` and `w`. -/
def Settings.letterClass (s : Settings) (letter : Char) : CodeSet :=
  if letter = 'd' then if s.unicode then digits else .range 0x30 0x39
  else if letter = 's' then if s.unicode then whitespace else ⟨[(0x9, 0xD), (0x20, 0x20)]⟩
  else if s.unicode then wordCharacters else asciiWord

/-- The letters that may stand in the braces after `\b`. -/
def isEdgeLetter (c : Char) : Bool :=
  ('a' ≤ c && c ≤ 'z') || ('A' ≤ c && c ≤ 'Z') || c == '-'

/-- The edge of words that is called so. -/
def edgeNamed? (name : List Char) : Option WordEdge :=
  [("start", WordEdge.begins), ("end", .ends), ("start-half", .beginsHere),
    ("end-half", .endsHere)].lookup (String.ofList name)

/-- Reads what follows `\b`: the name of an edge in braces, or nothing. Braces that start with no
letter belong to a repetition. -/
def readEdge (s : Settings) (cs : List Char) : Option (Atom × List Char) :=
  match cs with
  | '\x7b' :: rest =>
    match s.skip rest with
    | [] => none
    | c :: _ =>
      if isEdgeLetter c then do
        let (name, rest) ← readBraced s (rest.length + 1) [] rest
        let kind ← edgeNamed? name
        return (.look (.word kind s.unicode), rest)
      else some (.look (.word .edge s.unicode), cs)
  | _ => some (.look (.word .edge s.unicode), cs)

/-- Characters that an escape turns into themselves: those of ASCII that are neither letters nor
digits nor angle brackets. -/
def isEscapable (c : Char) : Bool :=
  c.toNat < 0x80 && !c.isAlphanum && c != '<' && c != '>'

/-- The control characters that have a letter. -/
def controlEscapes : List (Char × Char) :=
  [('a', '\x07'), ('f', '\x0c'), ('t', '\t'), ('n', '\n'), ('r', '\r'), ('v', '\x0b')]

/-- Reads what follows a backslash. -/
def readEscape (s : Settings) : List Char → Option (Atom × List Char)
  | [] => none
  | c :: rest =>
    if c = 'x' then readCodePoint s 2 rest
    else if c = 'u' then readCodePoint s 4 rest
    else if c = 'U' then readCodePoint s 8 rest
    else if c = 'p' ∨ c = 'P' then readUnicodeClass s (c == 'P') rest
    else if c ∈ ['d', 's', 'w'] then some (.set (s.letterClass c), rest)
    else if c ∈ ['D', 'S', 'W'] then do
      let set ← s.negate? true (s.letterClass c.toLower)
      return (.set set, rest)
    else if isEscapable c then some (.literal c false, rest)
    else if c = 'A' then some (.look .textStart, rest)
    else if c = 'z' then some (.look .textEnd, rest)
    else if c = 'b' then readEdge s rest
    else if c = 'B' then some (.look (.word .noEdge s.unicode), rest)
    else if c = '<' then some (.look (.word .begins s.unicode), rest)
    else if c = '>' then some (.look (.word .ends s.unicode), rest)
    else (controlEscapes.lookup c).map fun d => (.literal d false, rest)

/-! ## Classes in brackets -/

/-- The operators between the parts of a class. -/
inductive SetOperator where
  /-- What both have. -/
  | both
  /-- What only the first has. -/
  | butNot
  /-- What exactly one has. -/
  | onlyOne
deriving DecidableEq, Repr

/-- The set that an operator makes of two. -/
def SetOperator.apply : SetOperator → CodeSet → CodeSet → CodeSet
  | both => CodeSet.inter
  | butNot => CodeSet.difference
  | onlyOne => CodeSet.symmetricDifference

/-- A set together with how deep its text is nested. -/
structure SetPart where
  /-- The set. -/
  set : CodeSet
  /-- The depth of nesting. -/
  depth : Nat

/-- The union of the items of a class. -/
def SetPart.join (items : List SetPart) : SetPart :=
  let depth := (items.map SetPart.depth).foldl max 0
  { set := .unions (items.map SetPart.set), depth := if 2 ≤ items.length then depth + 1 else depth }

/-- Applies an operator that waits for its right side. -/
def SetPart.complete (s : Settings) (waiting : Option (SetOperator × SetPart)) (right : SetPart) :
    SetPart :=
  match waiting with
  | none => right
  | some (op, left) =>
    { set := op.apply (s.fold left.set) (s.fold right.set)
      depth := max left.depth right.depth + 1 }

/-- The set of one character. -/
def literalSet? (s : Settings) (c : Char) : Option CodeSet :=
  if s.unicode || c.toNat < 0x80 then some (.range c.toNat c.toNat) else none

/-- Reads a character or an escape inside a class. -/
def readSetAtom (s : Settings) : List Char → Option (Atom × List Char)
  | [] => none
  | '\\' :: rest => readEscape s rest
  | c :: rest => some (.literal c false, rest)

/-- Reads an item of a class that is no class in brackets: a character, a range of characters or an
escape that stands for a set. -/
def readSetRange (s : Settings) (cs : List Char) : Option (SetPart × List Char) := do
  let (first, rest) ← readSetAtom s cs
  let rest := s.skip rest
  let single : Option (SetPart × List Char) :=
    match first with
    | .literal c _ => (literalSet? s c).map fun set => ({ set, depth := 0 }, rest)
    | .set set => some ({ set, depth := 0 }, rest)
    | .look _ => none
  match rest with
  | [] => none
  | '-' :: afterDash =>
    if s.peek rest = some ']' ∨ s.peek rest = some '-' then single
    else
      let (last, rest) ← readSetAtom s (s.skip afterDash)
      match first, last with
      | .literal a _, .literal b _ =>
        let _ ← literalSet? s a
        let _ ← literalSet? s b
        if a ≤ b then some ({ set := .range a.toNat b.toNat, depth := 0 }, rest) else none
      | _, _ => none
  | _ => single

/-- Reads a class of ASCII after its first bracket, such as `:alpha:]` or `:^alpha:]`. -/
def readAsciiClass? (s : Settings) (cs : List Char) : Option (Option CodeSet × List Char) :=
  match cs with
  | ':' :: rest => do
    let (negated, rest) := match rest with
      | '^' :: rest => (true, rest)
      | _ => (false, rest)
    match rest.span (· != ':') with
    | (name, ':' :: ']' :: rest) =>
      let set ← asciiClass? name
      return (s.negate? negated (s.fold set), rest)
    | _ => none
  | _ => none

/-- Reads the hyphens and the bracket that may start a class and stand for themselves. -/
def readSetStart (s : Settings) (any : Bool) : Nat → List Char → List SetPart × List Char
  | 0, cs => ([], cs)
  | bound + 1, cs =>
    match cs with
    | '-' :: rest =>
      let (items, rest) := readSetStart s true bound (s.skip rest)
      ({ set := .range 0x2D 0x2D, depth := 0 } :: items, rest)
    | ']' :: rest =>
      if any then ([], cs) else ([{ set := .range 0x5D 0x5D, depth := 0 }], s.skip rest)
    | _ => ([], cs)

/-- Reads the rest of a class up to its bracket. `nested` reads a class after its first bracket. -/
def readSetItems (s : Settings) (nested : List Char → Option (SetPart × List Char)) :
    Nat → Option (SetOperator × SetPart) → List SetPart → List Char →
      Option (SetPart × List Char)
  | 0, _, _, _ => none
  | bound + 1, waiting, items, cs =>
    let operate (op : SetOperator) (rest : List Char) :=
      readSetItems s nested bound (some (op, SetPart.complete s waiting (.join items))) [] rest
    match s.skip cs with
    | [] => none
    | ']' :: rest => some (SetPart.complete s waiting (.join items), rest)
    | '[' :: rest =>
      match readAsciiClass? s rest with
      | some (set, rest) => do
        let set ← set
        readSetItems s nested bound waiting ({ set, depth := 0 } :: items) rest
      | none => do
        let (item, rest) ← nested rest
        readSetItems s nested bound waiting (item :: items) rest
    | '&' :: '&' :: rest => operate .both rest
    | '-' :: '-' :: rest => operate .butNot rest
    | '~' :: '~' :: rest => operate .onlyOne rest
    | cs => do
      let (item, rest) ← readSetRange s cs
      readSetItems s nested bound waiting (item :: items) rest

/-- Reads a class after its first bracket. -/
def readSet (s : Settings) : Nat → List Char → Option (SetPart × List Char)
  | 0, _ => none
  | bound + 1, cs => do
    let cs := s.skip cs
    let (negated, cs) := match cs with
      | '^' :: rest => (true, s.skip rest)
      | _ => (false, cs)
    let (start, cs) := readSetStart s false (cs.length + 1) cs
    let (part, rest) ← readSetItems s (readSet s bound) (cs.length + 1) none start cs
    let set ← s.negate? negated (s.fold part.set)
    return ({ set, depth := part.depth + 1 }, rest)

/-! ## Repetitions -/

/-- Reads decimal digits, which blanks may surround. -/
def readDigits (s : Settings) : Nat → List Char → List Char → List Char × List Char
  | 0, done, cs => (done.reverse, cs)
  | _ + 1, done, [] => (done.reverse, [])
  | bound + 1, done, c :: rest =>
    if c.isDigit then readDigits s bound (c :: done) (s.skip rest) else (done.reverse, c :: rest)

/-- Drops blanks behind a number. -/
def skipAfterNumber (s : Settings) : Nat → List Char → List Char
  | 0, cs => cs
  | _ + 1, [] => []
  | bound + 1, c :: rest =>
    if whitespace.contains c then skipAfterNumber s bound (s.skip rest) else c :: rest

/-- Reads a number of at most 32 bits. -/
def readNumber (s : Settings) (cs : List Char) : Option (Nat × List Char) :=
  let cs := cs.dropWhile whitespace.contains
  let (digits, rest) := readDigits s (cs.length + 1) [] cs
  let n := digits.foldl (fun n c => n * 10 + (c.toNat - '0'.toNat)) 0
  if digits.isEmpty ∨ Nat.pow 2 32 ≤ n then none
  else some (n, skipAfterNumber s (rest.length + 1) rest)

/-- Drops the question mark that prefers few repetitions, which is of no influence here. -/
def dropLazy : List Char → List Char
  | '?' :: rest => rest
  | cs => cs

/-- Reads the bounds of a repetition after the brace. -/
def readBounds (s : Settings) (cs : List Char) : Option (Nat × Option Nat × List Char) := do
  let (least, rest) ← readNumber s (s.skip cs)
  match rest with
  | '\x7d' :: rest => return (least, some least, dropLazy (s.skip rest))
  | ',' :: rest =>
    match s.skip rest with
    | '\x7d' :: rest => return (least, none, dropLazy (s.skip rest))
    | rest =>
      let (most, rest) ← readNumber s rest
      match rest with
      | '\x7d' :: rest =>
        if least ≤ most then return (least, some most, dropLazy (s.skip rest)) else none
      | _ => none
  | _ => none

/-! ## Expressions -/

/-- An expression together with how deep its text is nested. -/
structure Part where
  /-- The expression. -/
  expr : Expr
  /-- The depth of nesting. -/
  depth : Nat

/-- The greatest depth of nesting. -/
def maxDepth : Nat := 250

/-- Joins parts by a binary operation. A single part stays as it is. -/
def Part.join (operation : Expr → Expr → Expr) (parts : List Part) : Part :=
  let depth := (parts.map Part.depth).foldl max 0
  { expr := joinRight operation (parts.map Part.expr)
    depth := if 2 ≤ parts.length then depth + 1 else depth }

/-- The expression for one item. A byte beyond ASCII is no character. -/
def Settings.atomExpr? (s : Settings) : Atom → Option Expr
  | .literal c byte =>
    if !s.unicode && byte && 0x80 ≤ c.toNat then none
    else some (.one (s.fold (.range c.toNat c.toNat)))
  | .set set => some (.one set)
  | .look condition => some (.look condition)

/-- What the period takes. Without Unicode it would take parts of characters. -/
def Settings.dot? (s : Settings) : Option CodeSet :=
  if !s.unicode then none
  else if s.dotAll then some .all
  else if s.crlf then some (CodeSet.complement ⟨[(0x0A, 0x0A), (0x0D, 0x0D)]⟩)
  else some (CodeSet.range 0x0A 0x0A).complement

/-- A character that may start the name of a group, or go on with it. -/
def isNameChar (first : Bool) (c : Char) : Bool :=
  c == '_' || alphabetic.contains c ||
    (!first && (['.', '[', ']'].contains c ||
      ((["nd", "nl", "no"].map listedCategory).any (·.contains c))))

/-- Reads the name of a group up to `>`. -/
def readName (cs : List Char) : Option (List Char × List Char) :=
  match cs.span (· != '>') with
  | (first :: more, '>' :: rest) =>
    if isNameChar true first && more.all (isNameChar false) then some (first :: more, rest)
    else none
  | _ => none

/-- What an opening parenthesis starts. -/
inductive Opening where
  /-- A group, with its name if it has one, which is read under the settings. -/
  | group (recorded : Bool) (name : Option (List Char)) (settings : Settings)
  /-- A change of the settings. -/
  | change (settings : Settings)

/-- Reads what follows an opening parenthesis. -/
def readOpening (s : Settings) (cs : List Char) : Option (Opening × List Char) :=
  match s.skip cs with
  | '?' :: '=' :: _ => none
  | '?' :: '!' :: _ => none
  | '?' :: '<' :: '=' :: _ => none
  | '?' :: '<' :: '!' :: _ => none
  | '?' :: 'P' :: '<' :: rest => do
    let (name, rest) ← readName rest
    return (.group true (some name) s, rest)
  | '?' :: '<' :: rest => do
    let (name, rest) ← readName rest
    return (.group true (some name) s, rest)
  | '?' :: rest => do
    let (changed, any, rest) ← readSettings s [] false false rest
    match rest with
    | ':' :: rest => return (.group false none changed, rest)
    | ')' :: rest => if any then return (.change changed, rest) else none
    | _ => none
  | rest => some (.group true none s, rest)

/-- A part of a sequence that is being read. A change of settings stands in the sequence, too, but
cannot be repeated. -/
structure Item where
  /-- The part. -/
  part : Part
  /-- Whether it can be repeated. -/
  repeatable : Bool

/-- A body that has been read, up to the parenthesis that closes it or the end of the text. -/
structure Body where
  /-- What the body stands for. -/
  part : Part
  /-- The names of groups that have occurred. -/
  names : List (List Char)
  /-- The text from the parenthesis on. -/
  rest : List Char

/-- Repeats the last item of a sequence. -/
def repeatLast (least : Nat) (most : Option Nat) : List Item → Option (List Item)
  | [] => none
  | item :: before =>
    if item.repeatable then
      let part : Part :=
        { expr := .repeated item.part.expr least most, depth := item.part.depth + 1 }
      some ({ part, repeatable := true } :: before)
    else none

/-- Joins the items of a sequence, which are in reverse. -/
def sequence (items : List Item) : Part := .join .seq (items.reverse.map Item.part)

/-- Reads the body of a group or of the whole expression. `branches` are the alternatives already
read and `items` the parts of the current one, both in reverse. -/
def readBody : Nat → Settings → List (List Char) → List Part → List Item → List Char → Option Body
  | 0, _, _, _, _, _ => none
  | bound + 1, s, names, branches, items, cs =>
    let finish (rest : List Char) : Option Body :=
      some { part := .join .either ((sequence items :: branches).reverse), names, rest }
    let add (part : Part) (rest : List Char) : Option Body :=
      readBody bound s names branches ({ part, repeatable := true } :: items) rest
    let again (least : Nat) (most : Option Nat) (rest : List Char) : Option Body := do
      let items ← repeatLast least most items
      readBody bound s names branches items rest
    match s.skip cs with
    | [] => finish []
    | ')' :: rest => finish (')' :: rest)
    | '|' :: rest => readBody bound s names (sequence items :: branches) [] rest
    | '(' :: rest => do
      let (opening, rest) ← readOpening s rest
      match opening with
      | .change s =>
        let item : Item := { part := { expr := .empty, depth := 0 }, repeatable := false }
        readBody bound s names branches (item :: items) rest
      | .group recorded name inner =>
        if name.any names.contains then none
        else
          let body ← readBody bound inner (name.toList ++ names) [] [] rest
          match body.rest with
          | ')' :: rest =>
            let part : Part :=
              { expr := .group recorded body.part.expr, depth := body.part.depth + 1 }
            readBody bound s body.names branches ({ part, repeatable := true } :: items) rest
          | _ => none
    | '[' :: rest => do
      let (part, rest) ← readSet s (rest.length + 1) rest
      add { expr := .one part.set, depth := part.depth } rest
    | '?' :: rest => again 0 (some 1) (dropLazy rest)
    | '*' :: rest => again 0 none (dropLazy rest)
    | '+' :: rest => again 1 none (dropLazy rest)
    | '\x7b' :: rest => do
      let (least, most, rest) ← readBounds s rest
      again least most rest
    | '\\' :: rest => do
      let (atom, rest) ← readEscape s rest
      let expr ← s.atomExpr? atom
      add { expr, depth := 0 } rest
    | '.' :: rest => do
      let set ← s.dot?
      add { expr := .one set, depth := 0 } rest
    | '^' :: rest =>
      add { expr := .look (if s.multiLine then .lineStart s.crlf else .textStart), depth := 0 } rest
    | '$' :: rest =>
      add { expr := .look (if s.multiLine then .lineEnd s.crlf else .textEnd), depth := 0 } rest
    | c :: rest => do
      let expr ← s.atomExpr? (.literal c false)
      add { expr, depth := 0 } rest

/-- The expression that a text stands for, if it is one, is not nested too deep and neither of its
automata takes too many bytes. -/
def Expr.ofText? (text : String) : Option Expr := do
  let cs := text.toList
  let body ← readBody (cs.length + 1) .standard [] [] [] cs
  if body.rest.isEmpty && body.part.depth ≤ maxDepth && body.part.expr.fits then
    some body.part.expr
  else none

end JsonSchema.Regex
