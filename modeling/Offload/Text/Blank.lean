/-!
# White space and words

Characters with the Unicode property `White_Space`, the words between them, and lines.
-/

namespace Offload.Text

/-- Ranges of code points with the property `White_Space`. -/
def blankRanges : List (Nat × Nat) :=
  [(0x09, 0x0D), (0x20, 0x20), (0x85, 0x85), (0xA0, 0xA0), (0x1680, 0x1680), (0x2000, 0x200A),
   (0x2028, 0x2029), (0x202F, 0x202F), (0x205F, 0x205F), (0x3000, 0x3000)]

def isBlank (c : Char) : Bool :=
  blankRanges.any fun (low, high) => low ≤ c.toNat && c.toNat ≤ high

/-- A finished word, unless it is empty. -/
def flush (reversed : List Char) : List (List Char) :=
  if reversed.isEmpty then [] else [reversed.reverse]

/-- Words of a text whose last word so far is `pending`, read backwards. -/
def wordsAfter (pending : List Char) : List Char → List (List Char)
  | [] => flush pending
  | c :: rest =>
    if isBlank c then flush pending ++ wordsAfter [] rest else wordsAfter (c :: pending) rest

/-- Maximal runs of characters that are not white space. -/
def words (text : List Char) : List (List Char) :=
  wordsAfter [] text

/-- A line without the carriage return that may come before its line feed. -/
def dropReturn (reversed : List Char) : List Char :=
  match reversed with
  | '\r' :: rest => rest.reverse
  | _ => reversed.reverse

/-- Lines of a text whose last line so far is `pending`, read backwards. -/
def linesAfter (pending : List Char) : List Char → List (List Char)
  | [] => flush pending
  | c :: rest =>
    if c = '\n' then dropReturn pending :: linesAfter [] rest else linesAfter (c :: pending) rest

/-- Lines that end in a line feed, with or without a carriage return before it; the line feed of
the last one may be missing. -/
def lines (text : List Char) : List (List Char) :=
  linesAfter [] text

/-- The text before its first line end, or all of it. -/
def firstLine (text : String) : String :=
  match lines text.toList with
  | [] => ""
  | line :: _ => String.ofList line

end Offload.Text
