import Offload.Text.Blank
import Offload.Text.Identifier

/-!
# Build options

Macro definitions and compiler flags of one build. They are read from an options text such as
`-D TILE=16 -cl-mad-enable` and written back to one.
-/

namespace Offload

/-- A macro definition; one without a value only makes the name known. -/
structure Define where
  name : String
  value? : Option String
  deriving DecidableEq, Repr

def Define.render (d : Define) : String :=
  match d.value? with
  | some value => s!"-D {d.name}={value}"
  | none => s!"-D {d.name}"

/-- Options of one build. -/
structure BuildOptions where
  defines : List Define := []
  flags : List String := []
  /-- Also load the program's binary into a module. -/
  fastPath : Bool := false
  /-- Report build logs as warnings. -/
  verbose : Bool := false
  deriving DecidableEq, Repr

/-- Why an options text is refused. -/
inductive OptionsError where
  | missingMacro
  | macroName (name : String)
  | unrecognized (option : String)
  deriving DecidableEq, Repr

def OptionsError.message : OptionsError → String
  | .missingMacro => "'-D' must be followed by a macro name"
  | .macroName name => s!"invalid macro name '{name}'"
  | .unrecognized option => s!"unrecognized build option '{option}'"

namespace BuildOptions

/-- Flags that are known by their whole text. -/
def knownFlags : List String :=
  ["-cl-fast-relaxed-math", "-cl-mad-enable", "-cl-opt-disable", "-w", "-Werror"]

/-- What the flag that chooses a language standard begins with. -/
def standardFlag : List Char := "-cl-std=".toList

def isFlag (word : List Char) : Bool :=
  standardFlag.isPrefixOf word || knownFlags.contains (String.ofList word)

def define (o : BuildOptions) (name value : String) : BuildOptions :=
  { o with defines := o.defines ++ [⟨name, some value⟩] }

def withFastPath (o : BuildOptions) (on : Bool) : BuildOptions :=
  { o with fastPath := on }

@[simp] theorem withFastPath_self (o : BuildOptions) : o.withFastPath o.fastPath = o := rfl

def withVerbose (o : BuildOptions) (on : Bool) : BuildOptions :=
  { o with verbose := on }

/-- A definition as it is written after `-D`: the first `=` ends the name. -/
def readDefine (text : List Char) : Except OptionsError Define :=
  let name := text.takeWhile (· != '=')
  if Text.isIdentifier name then
    match text.dropWhile (· != '=') with
    | [] => .ok ⟨String.ofList name, none⟩
    | _ :: value => .ok ⟨String.ofList name, some (String.ofList value)⟩
  else
    .error (.macroName (String.ofList name))

def addDefine (o : BuildOptions) (text : List Char) : Except OptionsError BuildOptions := do
  let d ← readDefine text
  return { o with defines := o.defines ++ [d] }

/-- Adds what the words of an options text say. -/
def addWords (o : BuildOptions) : List (List Char) → Except OptionsError BuildOptions
  | [] => .ok o
  | [['-', 'D']] => .error .missingMacro
  | ['-', 'D'] :: text :: rest => do addWords (← o.addDefine text) rest
  | ('-' :: 'D' :: text) :: rest => do addWords (← o.addDefine text) rest
  | word :: rest =>
    if isFlag word then
      addWords { o with flags := o.flags ++ [String.ofList word] } rest
    else
      .error (.unrecognized (String.ofList word))

def parse (text : String) : Except OptionsError BuildOptions :=
  addWords {} (Text.words text.toList)

/-- Value of a macro: the last definition counts, and one without a value gives no text. -/
def defineValue? (o : BuildOptions) (name : String) : Option String :=
  (o.defines.reverse.find? (·.name == name)).map (·.value?.getD "")

/-- The options text a compiler would be given: definitions first, then flags. -/
def render (o : BuildOptions) : String :=
  " ".intercalate (o.defines.map (·.render) ++ o.flags)

end BuildOptions

end Offload
