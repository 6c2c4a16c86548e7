import ParamRules.Log.Event

/-!
Recorded computations: a result or a fault, together with what was recorded on the way. Records are
kept when a computation fails. `records_bind` says that what two steps record stands in their order.
-/

namespace ParamRules

inductive Stage where
  | validating | failed
deriving Repr, DecidableEq

structure Notice where
  stage : Stage
  value : Value
  dataType : DataType
  constraints : List Constraint
  member : String
  shown : Value
  outcomes : List Outcome

inductive Record where
  | event (e : Event)
  | notice (n : Notice)

def Record.event? : Record → Option Event
  | .event e => some e
  | .notice _ => none

def Record.notice? : Record → Option Notice
  | .notice n => some n
  | .event _ => none

/-- A result or a fault, with what was recorded. -/
structure Recorded (α : Type) where
  records : List Record
  result : Except Fault α

namespace Recorded

variable {α β : Type}

def ofExcept (r : Except Fault α) : Recorded α := ⟨[], r⟩

def bind (x : Recorded α) (f : α → Recorded β) : Recorded β :=
  match x.result with
  | .ok a => ⟨x.records ++ (f a).records, (f a).result⟩
  | .error e => ⟨x.records, .error e⟩

instance : Monad Recorded where
  pure a := ofExcept (.ok a)
  bind := bind

instance : MonadLift (Except Fault) Recorded where
  monadLift := ofExcept

def fail (e : Fault) : Recorded α := ofExcept (.error e)

def log (logger : String) (level : EventLevel) (name : String) (fields : List (String × Value)) :
    Recorded Unit :=
  ⟨[.event ⟨logger, level, name, fields, []⟩], .ok ()⟩

def notify (n : Notice) : Recorded Unit :=
  ⟨[.notice n], .ok ()⟩

/-- The computation with correlation fields around all events that it records. -/
def within (context : Correlation) (x : Recorded α) : Recorded α :=
  ⟨x.records.map fun r =>
    match r with
    | .event e => .event (e.within context)
    | .notice n => .notice n, x.result⟩

def events (x : Recorded α) : List Event :=
  x.records.filterMap Record.event?

def notices (x : Recorded α) : List Notice :=
  x.records.filterMap Record.notice?

@[simp] theorem records_pure (a : α) : (pure a : Recorded α).records = [] := rfl

@[simp] theorem result_pure (a : α) : (pure a : Recorded α).result = .ok a := rfl

theorem records_bind {x : Recorded α} {f : α → Recorded β} {a : α} (h : x.result = .ok a) :
    (x >>= f).records = x.records ++ (f a).records := by
  simp [Bind.bind, bind, h]

theorem result_bind {x : Recorded α} {f : α → Recorded β} {a : α} (h : x.result = .ok a) :
    (x >>= f).result = (f a).result := by
  simp [Bind.bind, bind, h]

/-- Leaving out what was recorded keeps the order of steps. -/
theorem result_bind_eq (x : Recorded α) (f : α → Recorded β) :
    (x >>= f).result = x.result >>= fun a => (f a).result := by
  cases h : x.result <;> simp [Bind.bind, bind, Except.bind, h]

theorem bind_of_error {x : Recorded α} {f : α → Recorded β} {e : Fault}
    (h : x.result = .error e) : (x >>= f) = ⟨x.records, .error e⟩ := by
  simp [Bind.bind, bind, h]

end Recorded

end ParamRules
