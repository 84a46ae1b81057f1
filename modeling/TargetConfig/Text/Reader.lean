/-! # Reading from the front of a text

A reader takes something from the front of a text and gives it with what is left. The two loops
here apply a reader again and again. An item that takes nothing is refused, so a loop always ends,
and no bound on the number of rounds is needed.
-/

namespace TargetConfig.Text

/-- Takes a value from the front of a text and gives it with the rest, or refuses the text. -/
abbrev Reader (α : Type) := List Char → Option (α × List Char)

namespace Reader

variable {α : Type}

/-- Reads items until nothing is left. -/
def untilEnd (item : Reader α) (s : List Char) : Option (List α) :=
  if s.isEmpty then some []
  else match item s with
    | none => none
    | some (a, rest) =>
      if rest.length < s.length then (untilEnd item rest).map (a :: ·) else none
termination_by s.length

/-- Reads items with commas between them, up to and with the closing character. `skip` passes over
what may stand around an item; it never puts characters back. If `trailing` holds, a comma may
also stand after the last item. -/
def items (skip : List Char → List Char) (close : Char) (trailing : Bool) (item : Reader α)
    (s : List Char) : Option (List α × List Char) :=
  match item (skip s) with
  | none => none
  | some (a, rest) =>
    match skip rest with
    | [] => none
    | c :: rest' =>
      if c = close then some ([a], rest')
      else if c = ',' then
        match skip rest' with
        | [] => none
        | d :: after =>
          if trailing && d = close then some ([a], after)
          else if rest'.length < s.length then
            (items skip close trailing item rest').map fun r => (a :: r.1, r.2)
          else none
      else none
termination_by s.length

/-- Reads a bracketed list after its opening character: nothing, or items with commas. -/
def list (skip : List Char → List Char) (close : Char) (trailing : Bool) (item : Reader α) :
    Reader (List α) := fun s =>
  match skip s with
  | [] => none
  | c :: rest => if c = close then some ([], rest) else items skip close trailing item s

end Reader

end TargetConfig.Text
