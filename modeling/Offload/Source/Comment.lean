import Offload.Source.Diagnostic

/-!
# Comments

A comment up to the end of its line vanishes; one in brackets becomes a space. The line ends inside
comments stay, so that lines keep their numbers.
-/

namespace Offload.Source

/-- Where a scan for comments stands. -/
inductive CommentState where
  | code
  | lineComment
  /-- In a comment opened on line `openedOn`; `star` tells whether the last character was `*`. -/
  | blockComment (openedOn : Nat) (star : Bool)
  deriving DecidableEq, Repr

/-- Text without comments. -/
structure Uncommented where
  text : List Char
  /-- Line on which a comment opens that is not closed. -/
  unclosed? : Option Nat
  deriving DecidableEq, Repr

namespace Uncommented

def push (c : Char) (u : Uncommented) : Uncommented := { u with text := c :: u.text }

end Uncommented

/-- Removes the comments of the text that starts on `line` in `state`. -/
def uncommentFrom (state : CommentState) (line : Nat) : List Char → Uncommented
  | [] =>
    match state with
    | .blockComment openedOn _ => ⟨[' '], some openedOn⟩
    | _ => ⟨[], none⟩
  | c :: rest =>
    let line' := if c = '\n' then line + 1 else line
    match state with
    | .lineComment =>
      if c = '\n' then .push '\n' (uncommentFrom .code line' rest)
      else uncommentFrom .lineComment line' rest
    | .blockComment openedOn star =>
      if star && c == '/' then .push ' ' (uncommentFrom .code line' rest)
      else
        let after := uncommentFrom (.blockComment openedOn (c == '*')) line' rest
        if c = '\n' then .push '\n' after else after
    | .code =>
      match c, rest with
      | '/', '/' :: rest => uncommentFrom .lineComment line' rest
      | '/', '*' :: rest => uncommentFrom (.blockComment line false) line' rest
      | c, rest => .push c (uncommentFrom .code line' rest)

/-- Removes the comments of a whole text. -/
def uncomment (text : List Char) : Uncommented :=
  uncommentFrom .code 1 text

end Offload.Source
