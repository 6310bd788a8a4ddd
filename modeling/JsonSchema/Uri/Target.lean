import JsonSchema.Pointer
import JsonSchema.Uri.Reader
/-!
# Bases and targets

A document is known by its base: the URI that its `$id` gives, or none. A place in it has a key,
which is the text of the base and, behind a `#`, the text of the pointer. A `$ref` is a URI or a
relative reference whose fragment is a pointer in percent encoding; it leads to a target, that is,
to a base and a pointer.
-/

namespace JsonSchema

/-- What identifies a document. -/
inductive BaseUri where
  /-- The document has no URI. -/
  | anonymous
  /-- The URI of the document. -/
  | named (uri : Uri)
deriving DecidableEq

/-- Why a text is no base or leads to no target. -/
inductive UriError where
  /-- The text is no URI. -/
  | invalid (text : String) (fault : UriFault)
  /-- The URI of a document is relative. -/
  | notAbsolute (text : String)
  /-- The URI of a document has a fragment. -/
  | unexpectedFragment (text : String)
  /-- A relative reference stands in a document without URI. -/
  | noBase (text : String)
  /-- The fragment is not encoded in UTF-8. -/
  | fragmentEncoding (text : String)
  /-- The fragment is no pointer. -/
  | fragmentPointer (text : String) (cause : PointerError)
deriving DecidableEq, Repr

/-- What is wrong with the text. -/
def UriError.message : UriError → String
  | invalid text fault => s!"invalid URI '{text}': {fault.message}"
  | notAbsolute text => s!"'{text}' is not an absolute URI"
  | unexpectedFragment text => s!"'{text}' must not contain a fragment"
  | noBase text => s!"relative reference '{text}' has no base URI to resolve against"
  | fragmentEncoding text => s!"fragment of '{text}' is not valid UTF-8 after percent-decoding"
  | fragmentPointer text cause =>
    s!"fragment of '{text}' is not a JSON pointer: {cause.message}"

/-- A place in a document. -/
structure Target where
  /-- The document. -/
  base : BaseUri
  /-- The place in it. -/
  pointer : Pointer
deriving DecidableEq

namespace BaseUri

/-- The base that the `$id` of a document gives. It must be absolute, and only an empty fragment
is allowed. -/
def ofId (id : String) : Except UriError BaseUri :=
  match Uri.read none id with
  | .error .noBase => .error (.notAbsolute id)
  | .error fault => .error (.invalid id fault)
  | .ok (uri, fragment) =>
    if fragment.getD [] = [] then .ok (.named uri) else .error (.unexpectedFragment id)

/-- The document has no URI. -/
def isAnonymous : BaseUri → Bool
  | anonymous => true
  | named _ => false

/-- The text of the URI, which is empty if there is none. -/
def text : BaseUri → String
  | anonymous => ""
  | named uri => uri.text

/-- The URI, if there is one. -/
def uri? : BaseUri → Option Uri
  | anonymous => none
  | named uri => some uri

/-- The key of the schema at a place in the document. -/
def key (base : BaseUri) (pointer : Pointer) : String :=
  if pointer.isRoot then base.text else base.text ++ "#" ++ pointer.text

end BaseUri

/-- The pointer that a fragment of `text` encodes. -/
def fragmentPointer (fragment : List Char) (text : String) : Except UriError Pointer :=
  match Percent.decodeText? fragment with
  | none => .error (.fragmentEncoding text)
  | some decoded =>
    match Pointer.parse decoded with
    | .ok pointer => .ok pointer
    | .error cause => .error (.fragmentPointer text cause)

/-- Where a reference in a document leads. A mere fragment stays in the document. -/
def BaseUri.resolve (base : BaseUri) (reference : String) : Except UriError Target :=
  match reference.toList with
  | '#' :: fragment => do
    let pointer ← fragmentPointer fragment reference
    return { base, pointer }
  | _ =>
    match Uri.read base.uri? reference with
    | .error .noBase => .error (.noBase reference)
    | .error fault => .error (.invalid reference fault)
    | .ok (uri, fragment) => do
      let pointer ← fragmentPointer (fragment.getD []) reference
      return { base := .named uri, pointer }

namespace Target

/-- The target that a selector names: a URI, or nothing for the document without URI, and possibly
a fragment. -/
def ofSelector (text : String) : Except UriError Target := do
  let (front, tail) := Uri.splitBefore ['#'] text.toList
  let base ← if front.isEmpty then .ok .anonymous else BaseUri.ofId (String.ofList front)
  let pointer ← fragmentPointer (tail.drop 1) text
  return { base, pointer }

/-- The key of the target. -/
def key (target : Target) : String := target.base.key target.pointer

/-- The place that some further tokens lead to. -/
def below (target : Target) (tokens : List String) : Target :=
  { target with pointer := ⟨target.pointer.tokens ++ tokens⟩ }

end Target

end JsonSchema
