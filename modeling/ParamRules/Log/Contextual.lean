import ParamRules.Recorded

/-!
Computations around which correlation fields are bound. A block binds fields for its body, and puts
the fields that it has hidden back when the body ends, with a result or with a fault. Fields that
are refused open no block, and its body does not run.

`Run` is what a program does with blocks: it logs, fails, opens blocks, catches the fault of a part
of it, and does one thing after the other.
-/

namespace ParamRules

/-- A computation where correlation fields are bound: what it records and what comes of it, and the
fields that are bound after it. -/
def Contextual (α : Type) : Type := Correlation → Recorded α × Correlation

namespace Contextual

variable {α β : Type}

/-- The second step on the result of the first, where the first left what is bound. -/
def bind (x : Contextual α) (f : α → Contextual β) : Contextual β := fun bound =>
  let (first, between) := x bound
  match first.result with
  | .ok a =>
    let (second, after) := f a between
    (⟨first.records ++ second.records, second.result⟩, after)
  | .error fault => (⟨first.records, .error fault⟩, between)

instance : Monad Contextual where
  pure a := fun bound => (pure a, bound)
  bind := bind

/-- A computation that binds nothing. What it logs carries the fields that are bound. -/
instance : MonadLift Recorded Contextual where
  monadLift x := fun bound => (x.within bound, bound)

def scope (fields : List (String × Value)) (body : Contextual α) : Contextual α := fun bound =>
  match Correlation.ofFields fields with
  | .error fault => (.fail fault, bound)
  | .ok texts =>
    let (opened, inside) := bound.enter texts
    let (recorded, after) := body inside
    (recorded, .leave opened after)

/-- A part of a program whose fault is caught. -/
def attempt (body : Contextual Unit) : Contextual Unit := fun bound =>
  let (recorded, after) := body bound
  (⟨recorded.records, .ok ()⟩, after)

end Contextual

/-- A run with blocks that are nested. -/
inductive Run where
  | done
  | log (logger : String) (level : EventLevel) (name : String) (fields : List (String × Value))
  | fail (fault : Fault)
  | scope (fields : List (String × Value)) (body : Run)
  | attempt (body : Run)
  | andThen (first second : Run)

def Run.exec : Run → Contextual Unit
  | .done => pure ()
  | .log logger level name fields => liftM (Recorded.log logger level name fields)
  | .fail fault => liftM (Recorded.fail fault : Recorded Unit)
  | .scope fields body => .scope fields body.exec
  | .attempt body => .attempt body.exec
  | .andThen first second => do
    first.exec
    second.exec

end ParamRules
