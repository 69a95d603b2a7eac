import ZoneServer.Octets
import ZoneServer.Wire.Error

/-!
# Domain names

A name is a sequence of labels, and the root is the name without any. A name is made from any text
whatever, so a label may be empty, too long or not ASCII; only a name whose labels are all valid and
which is short enough can be written into a message, and `Name.check` says what stands in the way.

Names are compared without regard to the case of ASCII letters; that is what `==` means here, while
`=` is equality label by label and character by character.
-/

namespace ZoneServer

/-- The most octets a label may have. -/
def maxLabelLength : Nat := 63

/-- The most octets a name may take in a message, length octets and terminator included. -/
def maxNameLength : Nat := 255

/-- One part of a name, as its characters. -/
abbrev Label := List Char

namespace Label

/-- How many octets a label has when it is encoded as UTF-8. -/
def octetLength (label : Label) : Nat := (String.ofList label).utf8ByteSize

/-- Whether a label has only ASCII characters. -/
def isAscii (label : Label) : Bool := label.all fun c => c.toNat < 128

/-- Whether a label may stand in a message: 1 to 63 octets, all ASCII. -/
def isValid (label : Label) : Bool :=
  !label.isEmpty && decide (label.octetLength ≤ maxLabelLength) && label.isAscii

/-- The octets of an ASCII label. -/
def octets (label : Label) : Octets := label.map fun c => UInt8.ofNat c.toNat

/-- The label that ASCII octets spell. -/
def ofOctets (os : Octets) : Label := os.map fun o => Char.ofNat o.toNat

/-- The label with its ASCII letters in lower case. -/
def folded (label : Label) : Label := label.map Char.toLower

end Label

/-- A domain name, as its labels from the leaf to the root. -/
structure Name where
  /-- The labels; the root has none. -/
  labels : List Label
  deriving Repr, Inhabited

namespace Name

/-- The name of the root of all names. -/
def root : Name := ⟨[]⟩

/-- Whether a name is the root. -/
def isRoot (name : Name) : Bool := name.labels.isEmpty

/-- A text without its trailing dot, if it has one. -/
def withoutTrailingDot (text : List Char) : List Char :=
  if text.getLast? = some '.' then text.dropLast else text

/-- The name that a text spells: its labels are the parts between the dots, a trailing dot apart. -/
def ofString (text : String) : Name :=
  match withoutTrailingDot text.toList with
  | [] => root
  | spelled => ⟨spelled.splitOn '.'⟩

/-- The text of a name: its labels with dots between them, or a single dot for the root. -/
def text (name : Name) : String :=
  if name.isRoot then "." else String.ofList (List.intercalate ['.'] name.labels)

instance : ToString Name := ⟨text⟩

/-- How many octets a name takes in a message: its labels, a length octet for each and a terminator. -/
def encodedLength (name : Name) : Nat := name.labels.foldr (fun label n => label.octetLength + 1 + n) 1

/-- The labels with their ASCII letters in lower case. -/
def folded (name : Name) : List Label := name.labels.map Label.folded

/-- Names are the same if they differ in nothing but the case of ASCII letters. -/
instance : BEq Name := ⟨fun a b => a.folded == b.folded⟩

/-- Whether a name may be written: the first label that is not valid is an error, and so is a name of
valid labels that is too long. -/
def check (name : Name) : Except EncodeError Unit :=
  match name.labels.find? (!·.isValid) with
  | some label => .error (.invalidLabel label)
  | none => if name.encodedLength ≤ maxNameLength then .ok () else .error .nameTooLong

end Name

end ZoneServer
