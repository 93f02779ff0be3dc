import Offload.Program

/-!
# Program caches

Programs by name and build options. A program that is there is not built again, whatever source is
given for it; a failed build leaves nothing.
-/

namespace Offload

/-- What a cache knows a program by. -/
structure ProgramKey where
  name : String
  options : BuildOptions
  deriving DecidableEq

/-- Programs built so far. -/
structure ProgramCache (T : Carriers) where
  entries : List (ProgramKey × Program T) := []

namespace ProgramCache

variable {T : Carriers} (b : Backend T)

def find? (c : ProgramCache T) (key : ProgramKey) : Option (Program T) :=
  c.entries.lookup key

def size (c : ProgramCache T) : Nat := c.entries.length

def insert (c : ProgramCache T) (key : ProgramKey) (p : Program T) : ProgramCache T :=
  ⟨c.entries ++ [(key, p)]⟩

/-- The program known by `name` and `options`, built from `source` if there is none yet, and the
cache after that. -/
def getOrBuild (c : ProgramCache T) (context : T.Context) (device : T.Device)
    (name source : String) (options : BuildOptions) :
    Action (Machine T) Error (Program T × ProgramCache T) := fun m =>
  match c.find? ⟨name, options⟩ with
  | some p =>
    let (p, m) := p.clone m
    (.ok (p, c), m)
  | none =>
    match Program.compile b context device name source options m with
    | (.ok p, m) =>
      let (kept, m) := p.clone m
      (.ok (p, c.insert ⟨name, options⟩ kept), m)
    | (.fault e, m) => (.fault e, m)
    | (.unwound p, m) => (.unwound p, m)

/-- Drops every program. -/
def clear (c : ProgramCache T) (m : Machine T) : ProgramCache T × Machine T :=
  ({}, c.entries.foldl (fun m entry => entry.2.drop m) m)

def inspect (c : ProgramCache T) : String :=
  Text.record "KernelFactory" [("runtime", Text.quoted b.name), ("programs", toString c.size)]
    false

end ProgramCache

end Offload
