import JsonSchema.Text.Percent
/-!
# Hierarchical paths

A hierarchical path is built segment by segment. Segments `.` and `..`, also in percent-encoded
spelling, are worked off at once, so the finished path has none. In a `file` URI a first segment
such as `C:` names a drive: it is kept when `..` would remove it, and `C|` is written `C:`.
-/

namespace JsonSchema.Uri

/-- The two classes of schemes that have rules of their own, and all others. -/
inductive SchemeClass where
  /-- The scheme `file`. -/
  | file
  /-- A scheme of the web, such as `http`: it always has a host. -/
  | web
  /-- Any other scheme. -/
  | other
deriving DecidableEq, Repr

namespace SchemeClass

/-- The class of a scheme. -/
def ofScheme (scheme : List Char) : SchemeClass :=
  if scheme = "file".toList then file
  else if scheme ∈ ["http", "https", "ws", "wss", "ftp"].map String.toList then web
  else other

/-- Schemes of the web and `file` take a backslash for a slash. -/
def isSpecial : SchemeClass → Bool
  | other => false
  | _ => true

/-- Whether the character separates path segments. -/
def isSlash (scheme : SchemeClass) (c : Char) : Bool :=
  c == '/' || (scheme.isSpecial && c == '\\')

end SchemeClass

/-! ## Drive letters -/

/-- An ASCII letter. -/
def isLetter (c : Char) : Bool :=
  ('a' ≤ c ∧ c ≤ 'z') ∨ ('A' ≤ c ∧ c ≤ 'Z')

/-- A character that ends a segment in any scheme. -/
def endsSegment (c : Char) : Bool :=
  c ∈ ['/', '\\', '?', '#']

/-- The text starts with a segment that names a drive, such as `C:` or `C|`. -/
def startsWithDrive : List Char → Bool
  | [a, b] => isLetter a && (b == ':' || b == '|')
  | a :: b :: c :: _ => isLetter a && (b == ':' || b == '|') && endsSegment c
  | _ => false

/-- The whole text names a drive. -/
def isDrive : List Char → Bool
  | [a, b] => isLetter a && (b == ':' || b == '|')
  | _ => false

/-- The whole text names a drive in its normal form, such as `C:`. -/
def isNormalDrive : List Char → Bool
  | [a, b] => isLetter a && b == ':'
  | _ => false

/-! ## Taking segments off -/

/-- The part of a path up to and including its last slash. -/
def upToLastSlash (path : List Char) : List Char :=
  (path.reverse.dropWhile (· != '/')).reverse

/-- The part of a path after its last slash. -/
def afterLastSlash (path : List Char) : List Char :=
  (path.reverse.takeWhile (· != '/')).reverse

/-- Takes the last segment off, unless it names a drive. -/
def popSegment (scheme : SchemeClass) (path : List Char) : List Char :=
  if path.isEmpty then path
  else if scheme = .file ∧ isNormalDrive (afterLastSlash path) then path
  else upToLastSlash path

/-- The slash at the end may go: it is not the first one, and what stands before it is no drive. -/
def isRemovableSlash (path : List Char) : Bool :=
  let front := path.dropLast
  front.contains '/' && !startsWithDrive (afterLastSlash front ++ path.drop front.length)

/-- Goes up by one segment: the path ends with the slash behind the segment to be taken off. -/
def goUp (scheme : SchemeClass) (path : List Char) : List Char :=
  let path :=
    if path.getLast? = some '/' ∧ isRemovableSlash path then path.dropLast else path
  if scheme = .file ∧ isNormalDrive path then path else popSegment scheme path

/-- Appends a slash unless there is one. -/
def withSlash (path : List Char) : List Char :=
  if path.getLast? = some '/' then path else path ++ ['/']

/-! ## Putting segments on -/

/-- A segment that stands for the place itself. -/
def isSingleDot (segment : List Char) : Bool :=
  segment ∈ [".", "%2e", "%2E"].map String.toList

/-- A segment that stands for the place above. -/
def isDoubleDot (segment : List Char) : Bool :=
  segment ∈ ["..", "%2e%2e", "%2e%2E", "%2E%2e", "%2E%2E", "%2e.", "%2E.", ".%2e", ".%2E"].map
    String.toList

/-- A path under construction. -/
structure PathState where
  /-- The text of the path so far. -/
  path : List Char
  /-- Where the segment that is being read starts. -/
  start : Nat
  /-- Whether the URI keeps its host: a drive letter takes it away. -/
  hasHost : Bool

/-- Appends one character to the segment. A drive is closed by a slash first. -/
def PathState.putChar (scheme : SchemeClass) (s : PathState) (c : Char) : PathState :=
  let s :=
    if scheme = .file ∧ isNormalDrive (s.path.drop 1) then
      { s with path := s.path ++ ['/'], start := s.start + 1 }
    else s
  { s with path := s.path ++ Percent.encodeChar Percent.inPath c }

/-- Ends the segment. `slash` tells whether a slash follows. -/
def PathState.endSegment (scheme : SchemeClass) (s : PathState) (slash : Bool) : PathState :=
  let segment := s.path.drop s.start
  let before := s.path.take s.start
  let s :=
    if isDoubleDot segment then
      let path := goUp scheme before
      { s with path := if slash then withSlash path else path }
    else if isSingleDot segment then { s with path := withSlash before }
    else if scheme = .file ∧ s.start = 1 ∧ isDrive segment then
      let drive := segment.take 1 ++ [':']
      { s with path := before ++ drive ++ (if slash then ['/'] else []), hasHost := false }
    else { s with path := if slash then s.path ++ ['/'] else s.path }
  { s with start := s.path.length }

/-- Adds the rest of a path, up to a `?` or `#`, and gives what comes after it. -/
def PathState.extend (scheme : SchemeClass) (s : PathState) : List Char → PathState × List Char
  | [] => (s.endSegment scheme false, [])
  | c :: rest =>
    if scheme.isSlash c then PathState.extend scheme (s.endSegment scheme true) rest
    else if c = '?' ∨ c = '#' then (s.endSegment scheme false, c :: rest)
    else PathState.extend scheme (s.putChar scheme c) rest

/-- Adds the rest of a path to `path`. A `file` path has exactly one slash at the front. Gives the
path, whether the host stays, and what comes after the path. -/
def extendPath (scheme : SchemeClass) (hasHost : Bool) (path cs : List Char) :
    List Char × Bool × List Char :=
  let (s, rest) := PathState.extend scheme { path, start := path.length, hasHost } cs
  let path := if scheme = .file then '/' :: s.path.dropWhile (· == '/') else s.path
  (path, s.hasHost, rest)

end JsonSchema.Uri
