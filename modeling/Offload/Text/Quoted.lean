import Offload.Text.Hidden

/-!
# Quoted text and records

Inspection texts quote strings, and write values as records of named fields.
-/

namespace Offload.Text

/-- A number in lower-case hexadecimal digits, without leading zeros. -/
def hex (n : Nat) : String :=
  String.ofList (Nat.toDigits 16 n)

/-- A number in at least `width` hexadecimal digits. -/
def paddedHex (width n : Nat) : String :=
  let digits := Nat.toDigits 16 n
  String.ofList (List.replicate (width - digits.length) '0' ++ digits)

def escapeChar : Char → String
  | '\x00' => "\\0"
  | '\t' => "\\t"
  | '\n' => "\\n"
  | '\r' => "\\r"
  | '"' => "\\\""
  | '\\' => "\\\\"
  | c => if isHidden c then "\\u\x7b" ++ hex c.toNat ++ "\x7d" else c.toString

/-- A string in double quotes, with what cannot be shown escaped. -/
def quoted (s : String) : String :=
  "\"" ++ String.join (s.toList.map escapeChar) ++ "\""

/-- Items in brackets. -/
def listing (items : List String) : String :=
  "[" ++ ", ".intercalate items ++ "]"

/-- Named fields in braces; `partially` tells that some fields are left out. -/
def record (name : String) (fields : List (String × String)) (partially : Bool) : String :=
  let shown := fields.map fun (field, value) => field ++ ": " ++ value
  let items := if partially then shown ++ [".."] else shown
  if items.isEmpty then name else name ++ " \x7b " ++ ", ".intercalate items ++ " \x7d"

end Offload.Text
