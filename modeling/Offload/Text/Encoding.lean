/-!
# UTF-8

Texts as lists of bytes. Bytes that encode no text can be shown as one nevertheless: every part that
encodes nothing has a character of its own.
-/

namespace Offload.Text

def toBytes (s : String) : List UInt8 :=
  s.toUTF8.data.toList

/-- The text that bytes encode, if they encode one. -/
def ofBytes? (bytes : List UInt8) : Option String :=
  String.fromUTF8? ⟨bytes.toArray⟩

/-- Least and largest values of the bytes that have to follow a byte in the code of a character. -/
def followers (first : Nat) : List (Nat × Nat) :=
  let any := (0x80, 0xBF)
  if first < 0xC2 then []
  else if first < 0xE0 then [any]
  else if first = 0xE0 then [(0xA0, 0xBF), any]
  else if first = 0xED then [(0x80, 0x9F), any]
  else if first < 0xF0 then [any, any]
  else if first = 0xF0 then [(0x90, 0xBF), any, any]
  else if first < 0xF4 then [any, any, any]
  else if first = 0xF4 then [(0x80, 0x8F), any, any]
  else []

/-- The bytes in front that are within the bounds for their places. -/
def takeWithin : List (Nat × Nat) → List UInt8 → List UInt8
  | (low, high) :: bounds, b :: rest =>
    if low ≤ b.toNat ∧ b.toNat ≤ high then b :: takeWithin bounds rest else []
  | _, _ => []

/-- Stands for bytes that encode nothing. -/
def replacement : String := "\uFFFD"

/-- The text that bytes encode, with a replacement for every code that is not complete and for every
byte that starts none. -/
def ofBytes : List UInt8 → String
  | [] => ""
  | first :: rest =>
    let more := takeWithin (followers first.toNat) rest
    (ofBytes? (first :: more)).getD replacement ++ ofBytes (rest.drop more.length)
termination_by bytes => bytes.length
decreasing_by simp only [List.length_drop, List.length_cons]; omega

end Offload.Text
