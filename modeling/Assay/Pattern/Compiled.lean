import Assay.Fault
import Assay.Pattern.Search

/-! # Compiled patterns

Patterns made from their text: the program that matches, and the value that stands for the pattern
with the flags that its text sets. A text that is no pattern is a fault.
-/

namespace Assay

namespace Pattern

def fault (source : List Nat) : Problem → Fault
  | .malformed m => .badPattern (Text.quotedCodes source) m
  | .repetitionTooLarge => .repetitionTooLarge
  | .tooManyDigits n => .tooManyDigits n
  | .flagsIncompatible => .flagsIncompatible
  | .tooWide => .patternTooWide

/-- The outline of a pattern and the program that it makes. -/
def compile [Edition] (source : List Nat) (f : Flags) : Except Fault (Outline × Program) :=
  match (do let o ← Outline.read source f; pure (o, ← o.program)) with
  | .ok compiled => .ok compiled
  | .error p => .error (fault source p)

def Outline.captureNames (o : Outline) : List (Option String) :=
  (List.range (o.widths.length - 1)).map fun i =>
    (o.names.find? fun n => n.2 == i + 1).map Prod.fst

end Pattern

def Data.ofPattern [Pattern.Edition] (source : String) (ignoreCase : Bool) : Except Fault Data := do
  let (o, _) ← Pattern.compile (source.toList.map Char.toNat) { ignoreCase }
  pure (.pattern source o.flags o.captureNames)

end Assay
