import Offload.BuildOptions
import Offload.Source.Bracket
import Offload.Source.Comment
import Offload.Source.Declaration

/-!
# Linking kernel sources

Declared kernels are linked by name to the implementations a context offers. A source links if
nothing in it is wrong; the build log says what is.
-/

namespace Offload.Source

variable {κ : Type}

/-- Kernels linked so far, and what was found wrong on the way. -/
structure Linked (κ : Type) where
  kernels : List (String × κ) := []
  log : BuildLog := {}

namespace Linked

def error (l : Linked κ) (d : Diagnostic) : Linked κ :=
  { l with log.errors := l.log.errors ++ [d] }

def warning (l : Linked κ) (d : Diagnostic) : Linked κ :=
  { l with log.warnings := l.log.warnings ++ [d] }

/-- Links one declaration. The first of a name counts; a later one is worth a warning. -/
def declare (find? : String → Option κ) (l : Linked κ) (d : Located String) : Linked κ :=
  if (l.kernels.lookup d.value).isSome then
    l.warning ⟨d.line, .repeatedKernel d.value⟩
  else
    match find? d.value with
    | some kernel => { l with kernels := l.kernels ++ [(d.value, kernel)] }
    | none => l.error ⟨d.line, .undefinedKernel d.value⟩

end Linked

/-- What is wrong with a text before any name is looked up. -/
def surfaceErrors (text : List Char) : List Diagnostic :=
  let stripped := uncomment text
  (stripped.unclosed?.map fun line => ⟨line, .unterminatedComment⟩).toList ++
    (bracketProblem? [] (tokens stripped.text)).toList

/-- Kernels declared by a text. -/
def declared (text : List Char) : List (Located String) :=
  declarations (tokens (uncomment text).text)

/-- Links every declaration of a text; the flags decide what becomes of warnings. -/
def link (find? : String → Option κ) (flags : List String) (text : List Char) : Linked κ :=
  let surface := surfaceErrors text
  let declared := declared text
  let start := if declared.isEmpty && surface.isEmpty then [⟨1, .noKernels⟩] else surface
  let linked := declared.foldl (Linked.declare find?) { log.errors := start }
  { linked with log := linked.log.applyFlags flags }

end Offload.Source
