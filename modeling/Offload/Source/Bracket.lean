import Offload.Source.Token

/-!
# Brackets

Whether the brackets of a token list nest, and the first place where they do not.
-/

namespace Offload.Source

/-- The bracket that `c` closes. -/
def opener? : Char → Option Char
  | ')' => some '('
  | ']' => some '['
  | '}' => some '{'
  | _ => none

def isOpener (c : Char) : Bool :=
  c == '(' || c == '[' || c == '{'

/-- The diagnostic for tokens read inside the brackets `opened`, innermost first. -/
def bracketProblem? (opened : List (Located Char)) : List (Located Token) → Option Diagnostic
  | [] => opened.head?.map fun o => ⟨o.line, .neverClosed o.value⟩
  | ⟨_, .word _⟩ :: rest => bracketProblem? opened rest
  | ⟨line, .mark c⟩ :: rest =>
    if isOpener c then bracketProblem? (⟨line, c⟩ :: opened) rest
    else
      match opener? c with
      | none => bracketProblem? opened rest
      | some expected =>
        match opened with
        | [] => some ⟨line, .unmatched c⟩
        | o :: outer =>
          if o.value = expected then bracketProblem? outer rest
          else some ⟨line, .mismatched c o.value o.line⟩

end Offload.Source
