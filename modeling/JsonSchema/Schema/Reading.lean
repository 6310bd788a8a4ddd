import JsonSchema.Schema.Error
import JsonSchema.Schema.Node

/-!
# Readings

To read the keywords of a schema, the schemas inside it have to be compiled on the way. A reading
says when: it ends with what has been read, or with an error, or it needs the sub-schema at a
place and goes on with the index of its node. What a reading needs does not depend on a registry.
-/

namespace JsonSchema

/-- The reading of a part of a schema. -/
inductive Reading (α : Type) where
  /-- Everything has been read. -/
  | done (a : α)
  /-- The schema is malformed. -/
  | failed (e : SchemaError)
  /-- The schema `v` at `place` is needed. -/
  | needs (place : Target) (v : Value) (next : Nat → Reading α)

namespace Reading

/-- One reading after another. -/
def bind {α β : Type} (m : Reading α) (f : α → Reading β) : Reading β :=
  match m with
  | done a => f a
  | failed e => failed e
  | needs place v next => needs place v fun index => (next index).bind f

instance : Monad Reading where
  pure := done
  bind := bind

instance : MonadLift (Except SchemaError) Reading where
  monadLift
    | .ok a => done a
    | .error e => failed e

/-- The index of the schema `v` at `place`. -/
def sub (place : Target) (v : Value) : Reading Nat := needs place v done

/-- Carries out a reading. `compile` compiles the schema at a place. -/
def run {m : Type → Type} [Monad m] [MonadExceptOf SchemaError m]
    (compile : Target → Value → m Nat) {α : Type} : Reading α → m α
  | done a => pure a
  | failed e => throw e
  | needs place v next => do
    let index ← compile place v
    (next index).run compile

end Reading

end JsonSchema
