import ParamRules.Fault

/-!
Correlation fields: values that are added to all events in a scope. A scope binds texts when it is
entered; what is bound around all scopes may be any values. When a scope is left, its fields are
dropped and those that it had hidden come back; `lookup_leave` says that all is then as it was
before.
-/

namespace ParamRules

/-- The fields that are bound, each once. -/
abbrev Correlation := List (String × Value)

namespace Correlation

/-- Bindings over others, which they hide. -/
def bind (outer inner : Correlation) : Correlation :=
  outer.filter (fun o => (inner.lookup o.1).isNone) ++ inner

/-- A field of a scope: a text that is not blank, without white space around it. -/
def field (name : String) (v : Value) : Except Fault (String × Value) :=
  match v.text? with
  | some s =>
    if Text.isAllBlank s then .error (.plain (.emptyCorrelation name))
    else .ok (name, .text (Text.trim s))
  | none => .error (.plain (.emptyCorrelation name))

def ofFields (fields : List (String × Value)) : Except Fault Correlation :=
  fields.mapM fun (name, v) => field name v

/-- A scope that has been entered: its fields, and those that they hide. -/
structure Scope where
  fields : Correlation
  hidden : Correlation

def enter (bound fields : Correlation) : Scope × Correlation :=
  (⟨fields, bound.filter fun b => (fields.lookup b.1).isSome⟩, bind bound fields)

def leave (s : Scope) (bound : Correlation) : Correlation :=
  bind (bound.filter fun b => (s.fields.lookup b.1).isNone) s.hidden

theorem lookup_filter (p : String → Bool) (c : Correlation) (name : String) :
    (c.filter fun b => p b.1).lookup name = if p name then c.lookup name else none := by
  induction c with
  | nil => simp
  | cons b r ih => grind

theorem lookup_append (c d : Correlation) (name : String) :
    (c ++ d).lookup name = (c.lookup name).or (d.lookup name) := by
  induction c with
  | nil => simp
  | cons b r ih => grind

theorem lookup_bind (outer inner : Correlation) (name : String) :
    (bind outer inner).lookup name = (inner.lookup name).or (outer.lookup name) := by
  rw [bind, lookup_append, lookup_filter fun n => (inner.lookup n).isNone]
  cases inner.lookup name <;> simp

/-- What is bound when a scope is left is what was bound when it was entered. -/
theorem lookup_leave (bound fields : Correlation) (name : String) :
    (leave (enter bound fields).1 (enter bound fields).2).lookup name = bound.lookup name := by
  simp only [leave, enter]
  rw [lookup_bind, lookup_filter fun n => (fields.lookup n).isSome,
    lookup_filter fun n => (fields.lookup n).isNone, lookup_bind]
  cases fields.lookup name <;> simp

end Correlation

end ParamRules
