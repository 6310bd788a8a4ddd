import JsonSchema.Uri.Basic
import JsonSchema.Uri.HostName
import JsonSchema.Uri.Path
/-!
# Authorities

The part of a URI between `//` and the path: a user name and a password, which end at the last `@`,
a host, and a port.
-/

namespace JsonSchema.Uri

/-! ## User and password -/

/-- A character that ends the authority. -/
def endsAuthority (scheme : SchemeClass) (c : Char) : Bool :=
  c == '?' || scheme.isSlash c

/-- Splits the user name and password off, if there is an `@` in the authority. -/
def splitUserInfo (scheme : SchemeClass) (cs : List Char) : Option (List Char) × List Char :=
  let authority := cs.takeWhile (!endsAuthority scheme ·)
  let host := (authority.reverse.takeWhile (· != '@')).reverse
  if host.length < authority.length then
    let info := authority.take (authority.length - host.length - 1)
    (some info, cs.drop (info.length + 1))
  else (none, cs)

/-- The user name and password as they are written. An empty password is left out, and so is the
whole if nothing remains. -/
def writtenUserInfo (info : List Char) : List Char :=
  let (user, tail) := splitBefore [':'] info
  let written :=
    match tail with
    | [] => Percent.encode Percent.inUserInfo user
    | [_] => Percent.encode Percent.inUserInfo user
    | _ :: password =>
      Percent.encode Percent.inUserInfo user ++ ':' :: Percent.encode Percent.inUserInfo password
  if written.isEmpty then [] else written ++ ['@']

/-! ## Host -/

/-- Splits the host off. It ends at a colon outside of brackets or with the authority. -/
def splitHost (scheme : SchemeClass) (inBrackets : Bool) : List Char → List Char × List Char
  | [] => ([], [])
  | c :: rest =>
    if (c == ':' && !inBrackets) || endsAuthority scheme c then ([], c :: rest)
    else
      let (host, after) :=
        splitHost scheme (if c = '[' then true else if c = ']' then false else inBrackets) rest
      (c :: host, after)

/-- The address that a host in brackets spells, if the bracket is closed. -/
def bracketedHost (inside : List Char) : Except UriFault (List Char) :=
  match inside.reverse with
  | ']' :: address =>
    match Ipv6.parse? address.reverse with
    | some groups => .ok ('[' :: Ipv6.text groups ++ [']'])
    | none => .error .ipv6
  | _ => .error .ipv6

/-- A host name or address as it is written, for the schemes of the web and for `file`. -/
def networkHost (host : List Char) : Except UriFault (List Char) :=
  match host with
  | '[' :: inside => bracketedHost inside
  | _ =>
    match Percent.decodeText? host with
    | none => .error .hostName
    | some name =>
      match asciiName? name.toList with
      | none => .error .hostName
      | some [] => .error .emptyHost
      | some name =>
        if Ipv4.endsInNumber name then
          match Ipv4.parse? name with
          | some address => .ok (Ipv4.text address)
          | none => .error .ipv4
        else .ok name

/-- Delimiters that no host may hold. -/
def isForbiddenInHost (c : Char) : Bool :=
  c == '\x00' || "\t\n\r #/:<>?@[\\]^|".toList.contains c

/-- A host as it is written, for all other schemes. -/
def opaqueHost (host : List Char) : Except UriFault (List Char) :=
  match host with
  | '[' :: inside => bracketedHost inside
  | _ =>
    if host.any isForbiddenInHost then .error .hostCharacter
    else .ok (Percent.encode Percent.isControl host)

/-- A host as it is written. Only outside the web it may be empty, and then no port follows. -/
def writtenHost (scheme : SchemeClass) (host : List Char) (port : Bool) :
    Except UriFault (List Char) :=
  if scheme = .other then do
    let host ← opaqueHost host
    if host.isEmpty && port then .error .emptyHost else .ok host
  else if host.isEmpty then .error .emptyHost
  else networkHost host

/-! ## Port -/

/-- The port that a scheme uses where none is given. -/
def defaultPort? (scheme : List Char) : Option Nat :=
  if (["http", "ws"].map String.toList).contains scheme then some 80
  else if (["https", "wss"].map String.toList).contains scheme then some 443
  else if scheme = "ftp".toList then some 21
  else none

/-- A port as it is written, with its colon. The usual port of the scheme is left out. -/
def writtenPort (scheme digits : List Char) (number : Nat) : List Char :=
  if digits.isEmpty || defaultPort? scheme = some number then [] else ':' :: decimal number

/-- Reads the port after the colon: the port as it is written, and what follows. -/
def readPort (scheme cs : List Char) : Except UriFault (List Char × List Char) :=
  let (digits, rest) := cs.span Char.isDigit
  let number := digits.foldl (fun n c => n * 10 + (c.toNat - '0'.toNat)) 0
  let ended := match rest with
    | [] => true
    | c :: _ => endsSegment c
  if number ≤ 65535 && ended then .ok (writtenPort scheme digits number, rest) else .error .port

/-! ## Authority -/

/-- Reads the authority after `//`: the authority as it is written, and what follows. -/
def readAuthority (scheme cs : List Char) : Except UriFault (List Char × List Char) := do
  let kind := SchemeClass.ofScheme scheme
  let (info, cs) := splitUserInfo kind cs
  let lacksHost := match cs with
    | c :: _ => endsAuthority kind c
    | [] => false
  if info = some [] && lacksHost then .error .emptyHost
  let user := writtenUserInfo (info.getD [])
  let (host, rest) := splitHost kind false cs
  let (hasPort, afterColon) := match rest with
    | ':' :: rest => (true, rest)
    | _ => (false, rest)
  let host ← writtenHost kind host hasPort
  let (port, rest) ← if hasPort then readPort scheme afterColon else .ok ([], rest)
  if host.isEmpty && !user.isEmpty then .error .emptyHost
  return (user ++ host ++ port, rest)

end JsonSchema.Uri
