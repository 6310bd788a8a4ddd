import JsonSchema.Text.Percent
/-!
# URIs

A URI is kept as its normalised text, without a fragment. Its parts can be read off the text again:
the scheme ends at the first colon, an authority is introduced by `//`, and a query by `?`.
-/

namespace JsonSchema

/-- A URI in normal form, without a fragment. -/
structure Uri where
  /-- The text. -/
  text : String
  /-- There is a text. -/
  text_ne : text.toList ≠ []
  /-- There is no fragment. -/
  no_fragment : '#' ∉ text.toList
deriving DecidableEq

/-- Why a text is no URI. -/
inductive UriFault where
  /-- A host is needed, and there is none. -/
  | emptyHost
  /-- The host is no host name. -/
  | hostName
  /-- The host of a scheme outside the web holds a delimiter. -/
  | hostCharacter
  /-- The port is no number of 16 bits. -/
  | port
  /-- The host looks like an IPv4 address and is none. -/
  | ipv4
  /-- The host in brackets is no IPv6 address. -/
  | ipv6
  /-- The text is a relative reference, and there is nothing that it is relative to. -/
  | noBase
  /-- The text is a relative reference, and the base has no hierarchical path. -/
  | opaqueBase
deriving DecidableEq, Repr

/-- What is wrong with the text. -/
def UriFault.message : UriFault → String
  | emptyHost => "empty host"
  | hostName => "invalid international domain name"
  | hostCharacter => "invalid domain character"
  | port => "invalid port number"
  | ipv4 => "invalid IPv4 address"
  | ipv6 => "invalid IPv6 address"
  | noBase => "relative URL without a base"
  | opaqueBase => "relative URL with a cannot-be-a-base base"

namespace Uri

/-- The parts of a URI. -/
structure Parts where
  /-- The scheme. -/
  scheme : List Char
  /-- The user, host and port, if there are any. -/
  authority : Option (List Char)
  /-- The path. Without an authority it is opaque unless it starts with a slash. -/
  path : List Char
  /-- The query. -/
  query : Option (List Char)
deriving DecidableEq, Repr

namespace Parts

/-- The path is no sequence of segments, so nothing can be relative to it. -/
def isOpaque (p : Parts) : Bool :=
  p.authority.isNone && p.path.head? != some '/'

/-- The path as it is written. Blanks at the very end of a URI with an opaque path are left out. -/
def writtenPath (p : Parts) : List Char :=
  if p.isOpaque && p.query.isNone then (p.path.reverse.dropWhile (· == ' ')).reverse else p.path

/-- The text after the scheme. A path that starts with two slashes is set off by `/.` where there
is no authority in front of it. -/
def letters (p : Parts) : List Char :=
  (match p.authority with
    | some authority => ['/', '/'] ++ authority
    | none => if ['/', '/'].isPrefixOf p.path then ['/', '.'] else []) ++
  p.writtenPath ++
  (match p.query with
    | some query => '?' :: query
    | none => [])

end Parts

/-- The URI with the given parts. -/
def ofParts (p : Parts) : Uri where
  text := String.ofList (Percent.encode (· == '#') (p.scheme ++ ':' :: p.letters))
  text_ne := by
    simp [Percent.encode, Percent.encodeChar]
  no_fragment := by
    rw [String.toList_ofList]
    exact Percent.hash_not_mem_encode rfl _

/-- Splits a text in front of the first character that is one of `stops`. -/
def splitBefore (stops : List Char) (cs : List Char) : List Char × List Char :=
  cs.span fun c => !stops.contains c

/-- The parts that follow the colon behind `scheme`. -/
def partsAfter (scheme rest : List Char) : Parts :=
  let (hierarchy, tail) := splitBefore ['?'] rest
  let query := match tail with
    | [] => none
    | _ :: query => some query
  match hierarchy with
  | '/' :: '/' :: rest =>
    let (authority, path) := splitBefore ['/'] rest
    { scheme, authority := some authority, path, query }
  | '/' :: '.' :: '/' :: '/' :: rest =>
    { scheme, authority := none, path := '/' :: '/' :: rest, query }
  | path => { scheme, authority := none, path, query }

/-- The parts of a URI. -/
def parts (uri : Uri) : Parts :=
  let (scheme, rest) := splitBefore [':'] uri.text.toList
  partsAfter scheme (rest.drop 1)

end Uri

end JsonSchema
