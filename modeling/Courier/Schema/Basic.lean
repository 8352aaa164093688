import Courier.Bytes

/-!
# Courier — schemas of transmitted values

A schema says of what a value is made. Both written forms of a value, binary and JSON, follow from
its schema, for writing and for reading, so that a law about the forms is one induction on schemas.

* `Schema α` — the ways to describe values of `α`;
* `Fields α` — the fields of a record, as a product;
* `Cases α` — the alternatives of a choice, as a sum;
* `Bijection` — how a type of the domain is a product or a sum.
-/

namespace Courier

/-- Two types whose values correspond one to one. -/
structure Bijection (α β : Type) where
  forth : α → β
  back : β → α
  back_forth : ∀ a, back (forth a) = a
  forth_back : ∀ b, forth (back b) = b

mutual

/-- What a value is made of. -/
inductive Schema : Type → Type 1 where
  | word8 : Schema UInt8
  | word16 : Schema UInt16
  /-- A number of 64 bits, under the name by which a refusal calls it. -/
  | word64 (name : String) : Schema UInt64
  | flag : Schema Bool
  | text : Schema String
  /-- Any number of bytes. -/
  | octets : Schema Bytes
  /-- `n` bytes. -/
  | block (n : Nat) : Schema (Block n)
  /-- `n` bytes, written as Base64 text in either form. -/
  | base64 (n : Nat) : Schema (Block n)
  | optional {α : Type} (s : Schema α) : Schema (Option α)
  /-- A record. A lenient one may be given by fewer fields, also as a list. -/
  | record {α β : Type} (name : String) (lenient : Bool) (fields : Fields β)
      (view : Bijection α β) : Schema α
  /-- One of several alternatives, each with a value. -/
  | choice {α β : Type} (cases : Cases β) (view : Bijection α β) : Schema α
  /-- One of several names. -/
  | label {α : Type} (names : List String) (view : Bijection α (Fin names.length)) : Schema α

/-- The fields of a record, in order: the name and schema of each, and the value that stands for a
field that is not given, if there is one. -/
inductive Fields : Type → Type 1 where
  | nil : Fields Unit
  | cons {α β : Type} (name : String) (s : Schema α) (absent : Option α) (rest : Fields β) :
      Fields (α × β)

/-- The alternatives of a choice, in order. -/
inductive Cases : Type → Type 1 where
  | nil : Cases Empty
  | cons {α β : Type} (name : String) (s : Schema α) (rest : Cases β) : Cases (α ⊕ β)

end

namespace Fields

/-- A field that has to be given. -/
def required {α β : Type} (name : String) (s : Schema α) (rest : Fields β) : Fields (α × β) :=
  .cons name s none rest

/-- A field that may be absent. -/
def optional {α β : Type} (name : String) (s : Schema α) (rest : Fields β) :
    Fields (Option α × β) :=
  .cons name (.optional s) (some none) rest

/-- A field with a value of its own when it is not given. -/
def withDefault {α β : Type} (name : String) (s : Schema α) (value : α) (rest : Fields β) :
    Fields (α × β) :=
  .cons name s (some value) rest

/-- The number of fields. -/
def size : {β : Type} → Fields β → Nat
  | _, .nil => 0
  | _, .cons _ _ _ rest => rest.size + 1

end Fields

namespace Cases

/-- The names of the alternatives. -/
def names : {β : Type} → Cases β → List String
  | _, .nil => []
  | _, .cons name _ rest => name :: rest.names

end Cases

end Courier
