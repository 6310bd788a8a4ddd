import JsonSchema.Json.Value
/-!
# JSON pointers

A pointer is the list of the names and indices on the way to a place in a document. Its text puts
a `/` before each of them and writes `~0` for `~` and `~1` for `/`, so that different pointers
have different texts.
-/

namespace JsonSchema

/-- A pointer into a JSON document. -/
structure Pointer where
  /-- The names and indices on the way, unescaped. -/
  tokens : List String
deriving DecidableEq, Repr

/-- Why a text is no pointer. -/
inductive PointerError where
  /-- The text is not empty and does not start with `/`. -/
  | missingLeadingSlash (text : String)
  /-- Some `~` is followed by neither `0` nor `1`. -/
  | invalidEscape (text : String)
deriving DecidableEq, Repr

/-- What is wrong with the text. -/
def PointerError.message : PointerError → String
  | missingLeadingSlash text => s!"JSON pointer '{text}' must be empty or start with '/'"
  | invalidEscape text => s!"JSON pointer '{text}' contains an invalid '~' escape"

namespace Pointer

/-- The pointer to the whole document. -/
def root : Pointer := ⟨[]⟩

/-- The pointer addresses the whole document. -/
def isRoot (p : Pointer) : Bool := p.tokens.isEmpty

/-! ## Text -/

/-- One character of a token as it stands in the text. -/
def escapeChar (c : Char) : List Char :=
  if c = '~' then ['~', '0'] else if c = '/' then ['~', '1'] else [c]

/-- A token as it stands in the text. -/
def escape (token : List Char) : List Char :=
  token.flatMap escapeChar

/-- The token that an escaped token stands for. -/
def unescape? : List Char → Option (List Char)
  | [] => some []
  | c :: rest =>
    if c = '~' then
      match rest with
      | '0' :: rest => (unescape? rest).map ('~' :: ·)
      | '1' :: rest => (unescape? rest).map ('/' :: ·)
      | _ => none
    else (unescape? rest).map (c :: ·)

/-- Cuts a text at every `/`. There is always a first piece, which may be empty. -/
def pieces : List Char → List (List Char)
  | [] => [[]]
  | c :: rest =>
    if c = '/' then [] :: pieces rest
    else
      match pieces rest with
      | [] => [[c]]
      | piece :: more => (c :: piece) :: more

/-- The text of the tokens. -/
def render (tokens : List String) : List Char :=
  tokens.flatMap fun token => '/' :: escape token.toList

/-- The canonical text of a pointer. -/
def text (p : Pointer) : String := String.ofList (render p.tokens)

/-- Reads the text of a pointer. -/
def parse (text : String) : Except PointerError Pointer :=
  match text.toList with
  | [] => .ok root
  | c :: rest =>
    if c = '/' then
      match (pieces rest).mapM unescape? with
      | some tokens => .ok ⟨tokens.map String.ofList⟩
      | none => .error (.invalidEscape text)
    else .error (.missingLeadingSlash text)

/-! ## Addressing -/

/-- The index that a token spells: digits without a needless leading zero. -/
def index? (token : List Char) : Option Nat :=
  match token with
  | [] => none
  | c :: rest =>
    if c = '0' then if rest.isEmpty then some 0 else none
    else if (c :: rest).all Char.isDigit then
      some ((c :: rest).foldl (fun n c => n * 10 + (c.toNat - '0'.toNat)) 0)
    else none

/-- The part of a value that one token leads to: the member of that name, or the element at the
index that the token spells. -/
def step (v : Value) (token : String) : Option Value :=
  match v with
  | .object members => Members.get? members token
  | .array items => (index? token.toList).bind fun i => items[i]?
  | _ => none

/-- The value at the end of the way, if the document has one there. -/
def walk (tokens : List String) (document : Value) : Option Value :=
  tokens.foldlM step document

/-- Writes `replacement` for every `~` that is followed by `digit`, and drops the digit. -/
def substitute (digit replacement : Char) : List Char → List Char
  | [] => []
  | '~' :: d :: rest =>
    if d = digit then replacement :: substitute digit replacement rest
    else '~' :: substitute digit replacement (d :: rest)
  | c :: rest => c :: substitute digit replacement rest

/-- The value that pointer text addresses. The text is cut at every `/`, and in each piece first
`~1` and then `~0` is replaced; whether the escapes are right is not checked. -/
def atText (document : Value) (text : List Char) : Option Value :=
  match text with
  | [] => some document
  | c :: rest =>
    if c = '/' then
      walk ((pieces rest).map fun piece =>
        String.ofList (substitute '0' '~' (substitute '1' '/' piece))) document
    else none

/-- The value that the pointer addresses in a document, if there is one. -/
def resolve (p : Pointer) (document : Value) : Option Value :=
  atText document (render p.tokens)

end Pointer

end JsonSchema
