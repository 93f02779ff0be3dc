import Offload.BuildOptions

/-!
# Build requests

Build options put together from an options text and what is added to it.
-/

namespace Offload

/-- An options text, and what is set beside it. -/
structure BuildRequest where
  text? : Option String := none
  defines : List (String × String) := []
  fastPath? : Option Bool := none
  verbose? : Option Bool := none

namespace BuildRequest

def options (r : BuildRequest) : Except OptionsError BuildOptions := do
  let parsed ← match r.text? with
    | some text => BuildOptions.parse text
    | none => .ok {}
  let defined := r.defines.foldl (fun o (name, value) => o.define name value) parsed
  let routed := defined.withFastPath (r.fastPath?.getD defined.fastPath)
  return routed.withVerbose (r.verbose?.getD routed.verbose)

end BuildRequest

end Offload
