/-!
# Types and classes of records

Records and questions carry a type and a class as numbers. Four types are known by name.
-/

namespace ZoneServer

/-- The number of a type of records. -/
abbrev TypeCode := UInt16

namespace TypeCode

/-- Host addresses. -/
def address : TypeCode := 1

/-- Canonical names of aliases. -/
def canonicalName : TypeCode := 5

/-- Pointers to other names. -/
def pointer : TypeCode := 12

/-- Mail exchanges. -/
def mailExchange : TypeCode := 15

/-- The type that a mnemonic stands for, in upper or lower case. -/
def ofMnemonic? (mnemonic : String) : Option TypeCode :=
  match String.ofList (mnemonic.toList.map Char.toUpper) with
  | "A" => some address
  | "CNAME" => some canonicalName
  | "PTR" => some pointer
  | "MX" => some mailExchange
  | _ => none

end TypeCode

/-- The class of the internet, which is the class of everything made here. -/
def internetClass : UInt16 := 1

end ZoneServer
