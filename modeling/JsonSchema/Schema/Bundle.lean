import JsonSchema.Schema.Compile
/-!
# Bundles of documents

Several documents are compiled into one registry, and their references are linked. A reference may
lead to a place in a document that has not been compiled, such as one below `definitions`; the
schema there is compiled when the reference is met, and linking starts over. References to
documents that are not at hand, and to places that do not exist, are gathered and reported together.

Each URI belongs to one document. The same document may be given twice.
-/

namespace JsonSchema

/-- Compiled documents with all their references linked. -/
structure Bundle where
  /-- The compiled schemas. -/
  registry : Registry
  /-- The documents, in the order in which they were given. -/
  roots : List Root

namespace Bundle

/-! ## Compiling the documents -/

/-- The documents compiled so far. -/
structure Roots where
  /-- The compiled schemas. -/
  registry : Registry
  /-- The roots, in the order of the documents. -/
  roots : List Root
  /-- The document of each URI. -/
  documents : Members Value

/-- Compiles one more document. -/
def Roots.add (s : Roots) (document : Value) : Except SchemaError Roots :=
  match (compileRoot document).run s.registry with
  | (.error e, _) => .error e
  | (.ok root, registry) =>
    let name := root.base.text
    let roots := s.roots ++ [root]
    match s.documents.get? name with
    | none => .ok { registry, roots, documents := s.documents ++ [(name, document)] }
    | some owner =>
      if owner.same document then .ok { s with registry, roots }
      else .error (.malformed (name ++ "#") .duplicateDocument)

/-- Compiles all documents. -/
def compileRoots (documents : List Value) : Except SchemaError Roots :=
  documents.foldlM Roots.add { registry := .empty, roots := [], documents := [] }

/-! ## Linking -/

/-- The state of linking. -/
structure Linking where
  /-- The compiled schemas. -/
  registry : Registry
  /-- The keys of the targets that have been dealt with. -/
  attempted : List String
  /-- What is missing, in the order in which it was noticed. -/
  undefined : List String
  /-- Whether the current pass has compiled anything. -/
  progressed : Bool

/-- Notes that something is missing, unless it has been noted. -/
def Linking.note (s : Linking) (uri : String) : Linking :=
  if s.undefined.contains uri then s else { s with undefined := s.undefined ++ [uri] }

/-- Deals with a target that has no node: compiles the schema there, or notes what is missing. -/
def Linking.attempt (documents : Members Value) (s : Linking) (target : Target) :
    Except SchemaError Linking :=
  if s.attempted.contains target.key then .ok s
  else
    let s := { s with attempted := target.key :: s.attempted }
    match documents.get? target.base.text with
    | none => .ok (s.note target.base.text)
    | some document =>
      match target.pointer.resolve document with
      | none => .ok (s.note target.key)
      | some v =>
        match (compileAt target v).run s.registry with
        | (.error e, _) => .error e
        | (.ok _, registry) => .ok { s with registry, progressed := true }

/-- Links again and again until nothing is open or nothing more can be compiled, but at most as
often as the first argument says. -/
def Linking.passes (documents : Members Value) : Nat → Linking → Except SchemaError Linking
  | 0, s => .ok s
  | bound + 1, s => do
    let (opened, registry) := s.registry.link
    if opened.isEmpty then return { s with registry }
    else
      let s ← opened.foldlM (Linking.attempt documents) { s with registry, progressed := false }
      if s.progressed then passes documents bound s else return s

/-- The number of places in all documents. Every pass that is followed by another one compiles the
schema at one of them for the first time. -/
def placeCount (documents : Members Value) : Nat :=
  documents.foldr (fun (_, document) count => document.places + count) 0

/-- Compiles documents and links their references. -/
def ofDocuments (documents : List Value) : Except SchemaError Bundle := do
  let s ← compileRoots documents
  let linked ← Linking.passes s.documents (placeCount s.documents + 1)
    { registry := s.registry, attempted := [], undefined := [], progressed := false }
  if linked.undefined.isEmpty then return { registry := linked.registry, roots := s.roots }
  else throw (.unresolved linked.undefined)

end Bundle

end JsonSchema
