import ZoneServer.Text.Quoted

/-!
# What can go wrong on the wire

Reading a datagram and writing one fail for different reasons, so each has its own type of causes.
The wording of a cause is a function on the type and is used nowhere but at the edge.
-/

namespace ZoneServer

/-- Why a datagram could not be read. -/
inductive DecodeError where
  /-- The datagram ends before the item does. -/
  | truncated
  /-- A label holds an octet that is not ASCII, or its length octet has a reserved form. -/
  | invalidLabel
  /-- A compression pointer does not point backwards, or leads round in a circle. -/
  | invalidPointer
  /-- A name takes more octets than a name may. -/
  | nameTooLong
  /-- The stated length of a record's data is not the length of the data. -/
  | recordLength
  deriving DecidableEq, Repr, Inhabited

/-- The wording of a cause. -/
def DecodeError.message : DecodeError → String
  | .truncated => "read past the end of the datagram"
  | .invalidLabel => "invalid label"
  | .invalidPointer => "invalid compression pointer"
  | .nameTooLong => "domain name longer than 255 octets"
  | .recordLength => "record data length does not match its payload"

/-- Why a message could not be written. -/
inductive EncodeError where
  /-- The message takes more octets than the buffer has. -/
  | bufferFull
  /-- The text is no IPv4 address. -/
  | invalidAddress (text : String)
  /-- The label is empty, too long or not ASCII. -/
  | invalidLabel (label : List Char)
  /-- A name takes more octets than a name may. -/
  | nameTooLong
  /-- Two octets were to be replaced that have not been written yet. -/
  | unreservedOffset (offset : Nat)
  deriving DecidableEq, Repr, Inhabited

/-- The wording of a cause. -/
def EncodeError.message : EncodeError → String
  | .bufferFull => "message does not fit in the output buffer"
  | .invalidAddress text => "invalid IPv4 address: " ++ text
  | .invalidLabel label => "invalid label: " ++ Text.quoted label
  | .nameTooLong => "domain name longer than 255 octets"
  | .unreservedOffset offset => "offset " ++ toString offset ++ " was never reserved"

end ZoneServer
