import Mathlib.Data.Rat.Defs

/-!
# What the application takes from Foundation

The JSON values `JSONSerialization` yields, the casts the application applies to them, and
the string operations with which it builds a query. The functions of Foundation that depend
on tables of Unicode or on the grammar of URLs are the fields of `Foundation`.
-/

namespace OpenLibrary

/-- The bytes of a `Data`. -/
abbrev Data := List UInt8

/-- The least value of the 64-bit type `Int`. -/
def intMin : Int := -9223372036854775808

/-- The greatest value of the 64-bit type `Int`. -/
def intMax : Int := 9223372036854775807

/-- A JSON value as `JSONSerialization` yields it; a number is the value of its
`NSNumber`. -/
inductive Json where
  | null
  | bool (b : Bool)
  | number (q : Rat)
  | string (s : String)
  | array (values : List Json)
  | object (fields : List (String × Json))

/-- A dictionary `[String:Any]`. -/
abbrev JsonObject := List (String × Json)

namespace Json

/-- The cast to `Int`: a number bridges when it is exactly an `Int`, and a boolean as `0` or
`1`. -/
def asInt? : Json → Option Int
  | number q => if q.den = 1 ∧ intMin ≤ q.num ∧ q.num ≤ intMax then some q.num else none
  | bool b => some (if b then 1 else 0)
  | _ => none

/-- The cast to `String`. -/
def asString? : Json → Option String
  | string s => some s
  | _ => none

/-- The cast to `[String]`. -/
def asStrings? : Json → Option (List String)
  | array values => values.mapM asString?
  | _ => none

/-- The cast to `[String:Any]`. -/
def asObject? : Json → Option JsonObject
  | object fields => some fields
  | _ => none

/-- The cast to `[[String:Any]]`. -/
def asObjects? : Json → Option (List JsonObject)
  | array values => values.mapM asObject?
  | _ => none

end Json

/-- What a data task of `requesBookInfo` hands to its handler: no data, data that
`JSONSerialization` does not read, or data it reads as a value. -/
inductive InfoData where
  | noData
  | notJson
  | json (value : Json)

/-- The functions of Foundation the application calls that are not modelled. -/
structure Foundation where
  /-- `lowercased()` of a string. -/
  lowercased : String → String
  /-- `URL(string:)` of a string is not `nil`. -/
  isURL : String → Bool

/-- Foundation on texts of lowercase letters and digits: lowercasing leaves them alone, and a
URL is made with them. -/
def Foundation.onPlainText : Foundation where
  lowercased := id
  isURL _ := true

/-- The members of `CharacterSet.whitespacesAndNewlines`. -/
def isWhitespaceOrNewline (c : Char) : Bool :=
  (0x09 ≤ c.toNat && c.toNat ≤ 0x0D) || c.toNat == 0x20 || c.toNat == 0x85 ||
    c.toNat == 0xA0 || c.toNat == 0x1680 || (0x2000 ≤ c.toNat && c.toNat ≤ 0x200A) ||
    c.toNat == 0x2028 || c.toNat == 0x2029 || c.toNat == 0x202F || c.toNat == 0x205F ||
    c.toNat == 0x3000

/-- `replacingOccurrences(of: " ", with: "+")`. -/
def replaceSpaces (s : String) : String :=
  String.ofList (s.toList.map (fun c => if c = ' ' then '+' else c))

/-- `trimmingCharacters(in: .whitespacesAndNewlines)`. -/
def trimWhitespace (s : String) : String :=
  String.ofList
    (((s.toList.dropWhile isWhitespaceOrNewline).reverse.dropWhile isWhitespaceOrNewline).reverse)

end OpenLibrary
