import Assay.Fault

/-! # Computations that leave a trace

A computation that records events in order and ends with a value or with a fault. What was
recorded before a fault is kept.
-/

namespace Assay

structure Traced (ε α : Type) where
  events : List ε
  result : Except Fault α

namespace Traced

variable {ε α β : Type}

def ok (a : α) : Traced ε α := ⟨[], .ok a⟩

def fail (f : Fault) : Traced ε α := ⟨[], .error f⟩

def emit (e : ε) : Traced ε Unit := ⟨[e], .ok ()⟩

def ofExcept (r : Except Fault α) : Traced ε α := ⟨[], r⟩

def bind (x : Traced ε α) (f : α → Traced ε β) : Traced ε β :=
  match x.result with
  | .ok a => let y := f a; ⟨x.events ++ y.events, y.result⟩
  | .error e => ⟨x.events, .error e⟩

instance : Monad (Traced ε) where
  pure := ok
  bind := bind

instance : MonadLift (Except Fault) (Traced ε) := ⟨ofExcept⟩

instance : MonadExceptOf Fault (Traced ε) where
  throw := fail
  tryCatch x handle :=
    match x.result with
    | .ok _ => x
    | .error e => let y := handle e; ⟨x.events ++ y.events, y.result⟩

def mark (m : Option ε) : Traced ε Unit := ⟨m.toList, .ok ()⟩

end Traced

/-- A computation that records which of the functions handed in were called. -/
abbrev Run := Traced String

end Assay
