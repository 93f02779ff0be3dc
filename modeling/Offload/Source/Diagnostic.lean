/-!
# Build diagnostics

What the kernel linker finds wrong with a source text, line by line, and the log it writes.
-/

namespace Offload.Source

/-- Something on a line of a source text. -/
structure Located (α : Type) where
  line : Nat
  value : α
  deriving DecidableEq, Repr

/-- What is wrong. -/
inductive Problem where
  | unterminatedComment
  | mismatched (closer opener : Char) (openedOn : Nat)
  | unmatched (closer : Char)
  | neverClosed (opener : Char)
  | noKernels
  | undefinedKernel (name : String)
  | repeatedKernel (name : String)
  deriving DecidableEq, Repr

namespace Problem

/-- Only a repeated declaration leaves a program that can be used. -/
def isWarning : Problem → Bool
  | .repeatedKernel _ => true
  | _ => false

def text : Problem → String
  | .unterminatedComment => "unterminated comment"
  | .mismatched closer opener openedOn =>
    s!"'{closer}' does not close '{opener}' opened on line {openedOn}"
  | .unmatched closer => s!"unmatched '{closer}'"
  | .neverClosed opener => s!"'{opener}' is never closed"
  | .noKernels => "no kernel functions declared"
  | .undefinedKernel name => s!"undefined kernel '{name}'"
  | .repeatedKernel name => s!"kernel '{name}' declared more than once"

end Problem

abbrev Diagnostic : Type := Located Problem

def Diagnostic.render (d : Diagnostic) : String :=
  let severity := if d.value.isWarning then "warning" else "error"
  s!"{d.line}: {severity}: {d.value.text}"

/-- Diagnostics of one build. -/
structure BuildLog where
  errors : List Diagnostic := []
  warnings : List Diagnostic := []

namespace BuildLog

/-- One diagnostic a line, errors first. -/
def render (log : BuildLog) : String :=
  "\n".intercalate ((log.errors ++ log.warnings).map Diagnostic.render)

/-- Applies the flags on warnings: `-w` drops them, `-Werror` counts those left as errors. -/
def applyFlags (log : BuildLog) (flags : List String) : BuildLog :=
  let warnings := if flags.contains "-w" then [] else log.warnings
  if flags.contains "-Werror" then ⟨log.errors ++ warnings, []⟩ else ⟨log.errors, warnings⟩

end BuildLog

end Offload.Source
