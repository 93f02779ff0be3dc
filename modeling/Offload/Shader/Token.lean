import Offload.Shader.Literal
import Offload.Shader.Names

/-!
# Tokens of shaders

Words, numbers and marks. Comments up to the end of a line and nested comments in brackets separate
tokens like white space does.
-/

namespace Offload.Shader

inductive Token where
  | word (text : String)
  | number (value : Literal)
  | mark (text : String)
  deriving DecidableEq, Repr

def Token.text : Token → String
  | .word text | .mark text => text
  | .number _ => "number"

/-- Characters that end a line. -/
def isLineEnd (c : Char) : Bool :=
  (0x0A ≤ c.toNat && c.toNat ≤ 0x0D) || c.toNat == 0x85 || c.toNat == 0x2028 || c.toNat == 0x2029

/-- Characters with the Unicode property `Pattern_White_Space`. -/
def isBlank (c : Char) : Bool :=
  isLineEnd c || c == ' ' || c == '\t' || c.toNat == 0x200E || c.toNat == 0x200F

/-- Where a scan for comments stands; a comment in brackets has a depth. -/
inductive CommentState where
  | code
  | line
  | block (depth : Nat)
  deriving DecidableEq, Repr

/-- Puts a space in the place of every comment. A comment that is not closed goes up to the end. -/
def uncommentFrom : CommentState → List Char → List Char
  | .block depth, '*' :: '/' :: rest =>
    match depth with
    | 0 => ' ' :: uncommentFrom .code rest
    | depth + 1 => uncommentFrom (.block depth) rest
  | .block depth, '/' :: '*' :: rest => uncommentFrom (.block (depth + 1)) rest
  | .block depth, _ :: rest => uncommentFrom (.block depth) rest
  | .line, c :: rest =>
    if isLineEnd c then c :: uncommentFrom .code rest else uncommentFrom .line rest
  | .code, '/' :: '/' :: rest => uncommentFrom .line rest
  | .code, '/' :: '*' :: rest => uncommentFrom (.block 0) rest
  | .code, c :: rest => c :: uncommentFrom .code rest
  | _, [] => []

/-- Marks of two characters. Angle brackets stay single, since they also enclose type arguments. -/
def pairs : List String :=
  ["->", "&&", "||", "==", "!=", "<=", ">=", "+=", "-=", "*=", "/=", "%=", "&=", "|=", "^=",
   "++", "--"]

/-- The mark that a text starts with, and what follows it. -/
def scanMark (c : Char) (rest : List Char) : String × List Char :=
  match rest with
  | [] => (c.toString, [])
  | d :: after =>
    let pair := String.ofList [c, d]
    if pairs.contains pair then (pair, after) else (c.toString, rest)

/-- Whether a number starts with `c` before `rest`. -/
def startsNumber (c : Char) (rest : List Char) : Bool :=
  c.isDigit || (c == '.' && (rest.head?.map Char.isDigit).getD false)

/-- Tokens of a text without comments, if its numbers are well formed. Each takes at least one
character off the text, so there are no more of them than its length allows. -/
def tokensWith : Nat → List Char → Option (List Token)
  | _, [] => some []
  | 0, _ :: _ => none
  | fuel + 1, c :: rest =>
    if isBlank c then tokensWith fuel rest
    else if startsNumber c rest then do
      let (value, rest) ← Literal.scan (c :: rest)
      return .number value :: (← tokensWith fuel rest)
    else if isWordStart c then do
      let word := c :: rest.takeWhile isWordPart
      return .word (String.ofList word) :: (← tokensWith fuel (rest.dropWhile isWordPart))
    else do
      let (text, rest) := scanMark c rest
      return .mark text :: (← tokensWith fuel rest)

/-- Tokens of a text, if its numbers are well formed. -/
def tokens? (text : List Char) : Option (List Token) :=
  let code := uncommentFrom .code text
  tokensWith code.length code

end Offload.Shader
