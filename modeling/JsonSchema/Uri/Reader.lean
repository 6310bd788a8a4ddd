import JsonSchema.Uri.Authority
/-!
# Reading URIs and references

A text with a scheme is a URI of its own, except that the schemes of the web and `file` may leave
out the slashes and then refer to the base if it has the same scheme. A text without a scheme is a
reference relative to the base.
-/

namespace JsonSchema.Uri

/-! ## Preparing the text -/

/-- Control characters and blanks, which do not count at either end of a text. -/
def isEdge (c : Char) : Bool := c.toNat ≤ 0x20

/-- Drops what does not count: controls and blanks at the ends, tabs and line ends everywhere. -/
def significant (cs : List Char) : List Char :=
  (((cs.dropWhile isEdge).reverse.dropWhile isEdge).reverse).filter fun c =>
    !(c == '\t' || c == '\n' || c == '\r')

/-- A character of a scheme after its first. -/
def isSchemeChar (c : Char) : Bool :=
  isLetter c || c.isDigit || c == '+' || c == '-' || c == '.'

/-- The scheme in lower case, and what follows its colon, if the text starts with a scheme. -/
def splitScheme? (cs : List Char) : Option (List Char × List Char) :=
  match cs with
  | [] => none
  | first :: _ =>
    if isLetter first then
      match cs.span isSchemeChar with
      | (scheme, ':' :: rest) => some (scheme.map Char.toLower, rest)
      | _ => none
    else none

/-! ## The end of a URI -/

/-- Adds the query, if the text goes on with one. -/
def withQuery (kind : SchemeClass) (p : Parts) (cs : List Char) : Parts :=
  match cs with
  | '?' :: query => { p with query := some (Percent.encode (Percent.inQuery kind.isSpecial) query) }
  | _ => { p with query := none }

/-- Adds a path that goes on with `cs`, and the query. -/
def withPath (kind : SchemeClass) (p : Parts) (cs : List Char) : Parts :=
  let (path, hasHost, rest) := extendPath kind true p.path cs
  withQuery kind { p with path, authority := if hasHost then p.authority else some [] } rest

/-- Adds the path that follows an authority. In the schemes of the web it is never empty. -/
def withPathAfterAuthority (kind : SchemeClass) (p : Parts) (cs : List Char) : Parts :=
  if kind.isSpecial then
    match cs with
    | '/' :: rest => withPath kind { p with path := ['/'] } rest
    | '\\' :: rest => withPath kind { p with path := ['/'] } rest
    | _ => withPath kind { p with path := ['/'] } cs
  else
    match cs with
    | [] => withPath kind { p with path := [] } []
    | '/' :: _ => withPath kind { p with path := [] } cs
    | '?' :: _ => withQuery kind { p with path := [] } cs
    | _ => withPath kind { p with path := ['/'] } cs

/-- The parts of a URI whose authority starts with `cs`. -/
def fromAuthority (scheme cs : List Char) : Except UriFault Parts := do
  let (authority, rest) ← readAuthority scheme cs
  return withPathAfterAuthority (.ofScheme scheme)
    { scheme, authority := some authority, path := [], query := none } rest

/-- A slash of either kind. -/
def isAnySlash (c : Char) : Bool := c == '/' || c == '\\'

/-! ## Relative references -/

/-- The parts that a reference names relative to the parts of a base with a hierarchical path,
outside the scheme `file`. -/
def relativeTo (base : Parts) (cs : List Char) : Except UriFault Parts :=
  let kind := SchemeClass.ofScheme base.scheme
  match cs with
  | [] => .ok base
  | '?' :: _ => .ok (withQuery kind base cs)
  | c :: rest =>
    if isAnySlash c then
      let (slashes, afterSlashes) := cs.span isAnySlash
      if 2 ≤ slashes.length then
        fromAuthority base.scheme (if ['/', '/'].isPrefixOf cs then cs.drop 2 else afterSlashes)
      else .ok (withPath kind { base with path := ['/'] } rest)
    else
      let path := popSegment kind base.path
      .ok (withPath kind { base with path := if path.isEmpty then ['/'] else path } cs)

/-! ## Files -/

/-- The first segment of a path. -/
def firstSegment (path : List Char) : List Char :=
  (path.drop 1).takeWhile (· != '/')

/-- The parts of a `file` URI without a host. -/
def localFile (path cs : List Char) : Parts :=
  withPath .file { scheme := "file".toList, authority := some [], path, query := none } cs

/-- Reads a `file` URI after two slashes. A drive letter in place of the host starts the path, and
`localhost` is no host. -/
def fileWithHost (cs : List Char) : Except UriFault Parts := do
  let (host, rest) := cs.span (!endsSegment ·)
  if isDrive host then return localFile ['/'] cs
  else if host.isEmpty then return localFile ['/'] rest
  else
    let written ← networkHost host
    if written = "localhost".toList then return localFile ['/'] rest
    else
      return withPathAfterAuthority .file
        { scheme := "file".toList, authority := some written, path := [], query := none } rest

/-- Reads a `file` URI after one slash, which is the head of `cs`. The drive or else the host of
the base is kept, unless a drive follows. -/
def fileFromRoot (base : Option Parts) (cs : List Char) : Parts :=
  match base with
  | none => localFile [] cs
  | some base =>
    if startsWithDrive (cs.drop 1) then localFile [] cs
    else if isNormalDrive (firstSegment base.path) then
      localFile ('/' :: firstSegment base.path) cs
    else
      let (path, _, rest) := extendPath .file false [] cs
      withQuery .file { base with path } rest

/-- Reads what follows `file:`, or a reference relative to a `file` URI. -/
def readFile (base : Option Parts) (cs : List Char) : Except UriFault Parts :=
  match cs with
  | a :: b :: rest =>
    if isAnySlash a && isAnySlash b then fileWithHost rest
    else if isAnySlash a then .ok (fileFromRoot base cs)
    else .ok (relative cs)
  | [a] => .ok (if isAnySlash a then fileFromRoot base cs else relative cs)
  | [] => .ok (relative cs)
where
  /-- Reads a reference that does not start with a slash. -/
  relative (cs : List Char) : Parts :=
    match base, cs with
    | none, _ => localFile ['/'] cs
    | some base, [] => base
    | some base, '?' :: _ => withQuery .file base cs
    | some base, _ =>
      if startsWithDrive cs then localFile ['/'] cs
      else
        let path :=
          if isNormalDrive base.path then base.path else popSegment .file base.path
        withPath .file { base with path } cs

/-! ## Any text -/

/-- Reads what follows the colon of a scheme. -/
def readAfterScheme (base : Option Parts) (scheme cs : List Char) : Except UriFault Parts :=
  let sameScheme := base.filter fun b => b.scheme == scheme
  match SchemeClass.ofScheme scheme with
  | .file => readFile sameScheme cs
  | .web =>
    let (slashes, rest) := cs.span isAnySlash
    match sameScheme with
    | some base => if slashes.length < 2 then relativeTo base cs else fromAuthority scheme rest
    | none => fromAuthority scheme rest
  | .other =>
    match cs with
    | '/' :: '/' :: rest => fromAuthority scheme rest
    | '/' :: rest =>
      .ok (withPath .other { scheme, authority := none, path := ['/'], query := none } rest)
    | _ =>
      let (path, rest) := splitBefore ['?'] cs
      let path := Percent.encode Percent.isControl path
      .ok (withQuery .other { scheme, authority := none, path, query := none } rest)

/-- Reads a text without fragment. `fragmentFollows` tells whether it had one. -/
def readParts (base : Option Parts) (cs : List Char) (fragmentFollows : Bool) :
    Except UriFault Parts :=
  match splitScheme? cs with
  | some (scheme, rest) => readAfterScheme base scheme rest
  | none =>
    match base with
    | none => .error .noBase
    | some base =>
      if cs.isEmpty && fragmentFollows then .ok base
      else if base.isOpaque then .error .opaqueBase
      else if SchemeClass.ofScheme base.scheme = .file then readFile (some base) cs
      else relativeTo base cs

/-- Reads a text, relative to a base if there is one, and gives the fragment behind the `#`, if
there is one. -/
def read (base : Option Uri) (text : String) : Except UriFault (Uri × Option (List Char)) := do
  let (cs, tail) := splitBefore ['#'] (significant text.toList)
  let p ← readParts (base.map parts) cs (!tail.isEmpty)
  return (ofParts p, if tail.isEmpty then none else some (tail.drop 1))

end JsonSchema.Uri
