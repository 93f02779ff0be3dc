import Offload.Source.Diagnostic
import Offload.Text.Blank
import Offload.Text.Identifier

/-!
# Tokens of kernel sources

Words of ASCII letters, digits and underscores, and single characters for all else that is not
white space.
-/

namespace Offload.Source

inductive Token where
  | word (text : List Char)
  | mark (char : Char)
  deriving DecidableEq, Repr

/-- The token of a word read backwards, unless it is empty. -/
def flushWord (line : Nat) (reversed : List Char) : List (Located Token) :=
  if reversed.isEmpty then [] else [⟨line, .word reversed.reverse⟩]

/-- Tokens of a text that starts on `line` inside the word `pending`, read backwards. -/
def tokensAfter (line : Nat) (pending : List Char) : List Char → List (Located Token)
  | [] => flushWord line pending
  | c :: rest =>
    if Text.isWordChar c then tokensAfter line (c :: pending) rest
    else
      flushWord line pending ++
        if c = '\n' then tokensAfter (line + 1) [] rest
        else if Text.isBlank c then tokensAfter line [] rest
        else ⟨line, .mark c⟩ :: tokensAfter line [] rest

/-- Tokens of a text without comments. -/
def tokens (text : List Char) : List (Located Token) :=
  tokensAfter 1 [] text

end Offload.Source
