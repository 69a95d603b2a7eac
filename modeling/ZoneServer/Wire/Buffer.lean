import ZoneServer.Octets
import ZoneServer.Wire.Error

/-!
# Writing into a buffer

A `Buffer` has 512 cells, as many as a message over UDP may have octets, and a place up to which it is
written. An `Encoder` writes at that place. An encoder that fails leaves the buffer as it then is, with
what it had written before it failed. The primitive encoders write all of their octets or none.

A field whose value is known only later is reserved first and replaced afterwards; `lengthPrefixed`
does this for a payload that is preceded by its length.
-/

namespace ZoneServer

/-- The most octets a message over UDP may have. -/
def maxMessageSize : Nat := 512

/-- A buffer that is written from the front. -/
structure Buffer where
  /-- The contents, written or not. -/
  cells : Octets
  /-- How many octets have been written. -/
  position : Nat
  deriving DecidableEq, Repr, Inhabited

namespace Buffer

/-- The buffer before anything is written; its cells are zero. -/
def empty : Buffer := ⟨List.replicate maxMessageSize 0, 0⟩

/-- Replaces the cells from an offset on. -/
def store (b : Buffer) (offset : Nat) (os : Octets) : Buffer :=
  { b with cells := b.cells.take offset ++ os ++ b.cells.drop (offset + os.length) }

/-- What has been written. -/
def contents (b : Buffer) : Octets := b.cells.take b.position

end Buffer

/-- Writes into a buffer, or fails and leaves what was written until then. -/
abbrev Encoder (α : Type) := EStateM EncodeError Buffer α

namespace Encoder

/-- The octets that an encoder writes into an empty buffer. -/
def encode (e : Encoder Unit) : Except EncodeError Octets :=
  match e Buffer.empty with
  | .ok _ b => .ok b.contents
  | .error cause _ => .error cause

/-- Goes on if a check has succeeded. -/
def check (c : Except EncodeError Unit) : Encoder Unit := fun b =>
  match c with
  | .ok _ => .ok () b
  | .error cause => .error cause b

/-- Skips `n` cells, to be filled in later, and says where they start. -/
def reserve (n : Nat) : Encoder Nat := fun b =>
  if b.position + n ≤ maxMessageSize then
    .ok b.position { b with position := b.position + n }
  else .error .bufferFull b

/-- Writes octets. -/
def octets (os : Octets) : Encoder Unit := fun b =>
  if b.position + os.length ≤ maxMessageSize then
    .ok () { b.store b.position os with position := b.position + os.length }
  else .error .bufferFull b

/-- Writes one octet. -/
def uint8 (n : UInt8) : Encoder Unit := octets (Octets.ofNat 1 n.toNat)

/-- Writes a number in two octets. -/
def uint16 (n : UInt16) : Encoder Unit := octets (Octets.ofNat 2 n.toNat)

/-- Writes a number in four octets. -/
def uint32 (n : UInt32) : Encoder Unit := octets (Octets.ofNat 4 n.toNat)

/-- Replaces two octets that have been written or reserved; the place stays. -/
def patch (n : UInt16) (offset : Nat) : Encoder Unit := fun b =>
  if offset + 2 ≤ b.position then .ok () (b.store offset (Octets.ofNat 2 n.toNat))
  else .error (.unreservedOffset offset) b

/-- Writes a payload preceded by the number of its octets, in two octets. -/
def lengthPrefixed (payload : Encoder Unit) : Encoder Unit := do
  let start ← reserve 2
  payload
  let b ← get
  patch (UInt16.ofNat (b.position - start - 2)) start

/-- Does what an encoder does, and passes over its failure. -/
def attempt {α : Type} (e : Encoder α) : Encoder Unit := fun b =>
  match e b with
  | .ok _ b' => .ok () b'
  | .error _ b' => .ok () b'

/-- Writes items one after another, up to the first that fails. -/
def each {α : Type} (item : α → Encoder Unit) : List α → Encoder Unit
  | [] => pure ()
  | a :: rest => do
    item a
    each item rest

end Encoder

end ZoneServer
