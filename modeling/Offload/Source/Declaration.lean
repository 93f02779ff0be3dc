import Offload.Source.Token

/-!
# Kernel declarations

A kernel is declared by four tokens in a row: `__kernel` or `kernel`, `void`, its name, and an
opening parenthesis.
-/

namespace Offload.Source

def isKernelWord (word : List Char) : Bool :=
  word == "__kernel".toList || word == "kernel".toList

/-- The declaration that `tokens` begin with, on the line of its first token. -/
def declaration? : List (Located Token) → Option (Located String)
  | ⟨line, .word qualifier⟩ :: ⟨_, .word type⟩ :: ⟨_, .word name⟩ :: ⟨_, .mark '('⟩ :: _ =>
    if isKernelWord qualifier && type == "void".toList then some ⟨line, String.ofList name⟩
    else none
  | _ => none

/-- Every declaration, in order. -/
def declarations : List (Located Token) → List (Located String)
  | [] => []
  | t :: rest => (declaration? (t :: rest)).toList ++ declarations rest

end Offload.Source
