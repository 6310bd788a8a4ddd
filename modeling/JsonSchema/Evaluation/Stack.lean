import JsonSchema.Pointer
/-!
# Where an evaluation is

An evaluation keeps track of its place in the instance and of its place in the schemas. The latter
is a stack of frames: there is one for the schema that was asked for and one for each reference
that is being followed. A frame names a document and the way into it.
-/

namespace JsonSchema

/-- A violation of a keyword, by its place in the instance and in the schemas. -/
structure Violation where
  /-- The place of the offending value in the instance. -/
  instancePath : Pointer
  /-- The place of the keyword in its document. -/
  schemaPath : Pointer
  /-- The URI of the document, which is empty for a document without URI. -/
  schemaUri : String
deriving DecidableEq, Repr

/-- A violation in words. -/
def Violation.text (v : Violation) : String :=
  let place := if v.instancePath.isRoot then "(root)" else v.instancePath.text
  s!"{place} violates {v.schemaUri}#{v.schemaPath.text}"

/-- A place in a document. -/
structure Frame where
  /-- The URI of the document. -/
  uri : String
  /-- The way from the root of the document. -/
  tokens : List String
deriving DecidableEq, Repr

/-- The places of an evaluation. -/
structure EvalStack where
  /-- The way from the root of the instance. -/
  instancePath : List String
  /-- The frames, the current one first. -/
  frames : List Frame
deriving DecidableEq, Repr

namespace EvalStack

/-- The stack before an evaluation. -/
def empty : EvalStack := { instancePath := [], frames := [] }

/-- The number of frames. -/
def depth (s : EvalStack) : Nat := s.frames.length

/-- Goes down in the instance. -/
def pushInstance (s : EvalStack) (token : String) : EvalStack :=
  { s with instancePath := s.instancePath ++ [token] }

/-- Goes up in the instance. -/
def popInstance (s : EvalStack) : EvalStack :=
  { s with instancePath := s.instancePath.dropLast }

/-- Starts a frame. -/
def pushFrame (s : EvalStack) (frame : Frame) : EvalStack :=
  { s with frames := frame :: s.frames }

/-- Ends a frame. -/
def popFrame (s : EvalStack) : EvalStack :=
  { s with frames := s.frames.tail }

/-- Goes down in the document of the current frame. Nothing is done if there is none, which an
evaluation asserts not to happen. -/
def pushToken (s : EvalStack) (token : String) : EvalStack :=
  match s.frames with
  | [] => s
  | frame :: rest => { s with frames := { frame with tokens := frame.tokens ++ [token] } :: rest }

/-- Goes up in the document of the current frame. -/
def popToken (s : EvalStack) : EvalStack :=
  match s.frames with
  | [] => s
  | frame :: rest => { s with frames := { frame with tokens := frame.tokens.dropLast } :: rest }

/-- A violation at the current places. -/
def violation (s : EvalStack) : Violation :=
  match s.frames with
  | [] => { instancePath := ⟨s.instancePath⟩, schemaPath := .root, schemaUri := "" }
  | frame :: _ =>
    { instancePath := ⟨s.instancePath⟩, schemaPath := ⟨frame.tokens⟩, schemaUri := frame.uri }

end EvalStack

end JsonSchema
