import ParamRules.Proofs.Scan.Outline
import ParamRules.Proofs.Validator
import ParamRules.Setting

/-!
# What the library logs

The parser, the factory and the validator log events about constraints, members and data types, and
bind no correlation fields themselves.  So none of their events hides what a catalog binds around
them (`logsOwn_validate`).
-/

namespace ParamRules

open Text

/-- Whether an event carries no correlation fields of its own, and has no field that would hide one
which a catalog binds. -/
structure Event.IsOwn (e : Event) : Prop where
  context : e.context = []
  fields : ∀ f ∈ e.fields, f.1 ≠ "catalog" ∧ f.1 ≠ "setting"

namespace Recorded

variable {α β : Type} {x : Recorded α} {f : α → Recorded β}

/-- Whether all events of a computation are of this sort. -/
def LogsOwn (x : Recorded α) : Prop :=
  ∀ e ∈ x.events, e.IsOwn

theorem events_bind_of_ok {a : α} (h : x.result = .ok a) :
    (x >>= f).events = x.events ++ (f a).events := by
  rw [events, records_bind h, List.filterMap_append]
  rfl

theorem LogsOwn.bind (hx : x.LogsOwn) (hf : ∀ a, (f a).LogsOwn) : (x >>= f).LogsOwn := by
  cases hresult : x.result with
  | error fault =>
      rw [bind_of_error hresult]
      exact hx
  | ok a =>
      unfold LogsOwn
      rw [events_bind_of_ok hresult, List.forall_mem_append]
      exact ⟨hx, hf a⟩

theorem logsOwn_pure (a : α) : (pure a : Recorded α).LogsOwn :=
  List.forall_mem_nil _

theorem logsOwn_fail (fault : Fault) : (fail fault : Recorded α).LogsOwn :=
  List.forall_mem_nil _

theorem logsOwn_lift (r : Except Fault α) : (liftM r : Recorded α).LogsOwn :=
  List.forall_mem_nil _

theorem logsOwn_notify (n : Notice) : (notify n).LogsOwn :=
  List.forall_mem_nil _

theorem logsOwn_log {fields : List (String × Value)} (logger : String) (level : EventLevel)
    (name : String) (h : ∀ f ∈ fields, f.1 ≠ "catalog" ∧ f.1 ≠ "setting") :
    (log logger level name fields).LogsOwn :=
  List.forall_mem_singleton.mpr ⟨rfl, h⟩

end Recorded

open Recorded

/-! ## The factory and the parser -/

theorem Factory.logsOwn_record (logger name : String) (t : DataType)
    (resolution : Factory.Resolution) : (resolution.record logger name t).LogsOwn := by
  cases resolution with
  | built c => exact logsOwn_pure ()
  | answered h c => exact logsOwn_log _ _ _ (by simp [eventFields])
  | notDefined | unknown => exact logsOwn_log _ _ _ (by simp [eventFields])

theorem Factory.logsOwn_find (f : Factory) (name : String) (t : DataType) :
    (f.find name t).LogsOwn := by
  unfold find findIn
  split_ifs
  · exact logsOwn_fail _
  · exact logsOwn_fail _
  · split
    · exact logsOwn_fail _
    · exact (logsOwn_record _ _ _ _).bind fun _ => logsOwn_lift _

namespace Parser

variable {p : Parser} {t : DataType}

theorem logsOwn_create (p : Parser) (t : DataType) (position : Nat) (name : String)
    (parameters : List String) : (p.create t position name parameters).LogsOwn := by
  have hfind : (p.findAt t position name).LogsOwn := p.factory.logsOwn_find name t
  refine hfind.bind fun c => ?_
  split
  · exact logsOwn_pure _
  · split_ifs
    · exact (logsOwn_log _ _ _ (by simp [Factory.eventFields])).bind fun _ => logsOwn_fail _
    · exact logsOwn_fail _

theorem logsOwn_scan {α : Type} {complete : Nat → String → List String → Recorded α}
    (h : ∀ position name parameters, (complete position name parameters).LogsOwn)
    (position : Nat) (region : Constraint.Region) (s : List Char) :
    (scan complete position region s).LogsOwn := by
  rw [Constraint.scan_eq_fulfil]
  generalize (Constraint.Outline.ofRegion position region s).completed = ks
  induction ks with
  | nil =>
      unfold Constraint.fulfil
      split
      · exact logsOwn_pure _
      · exact logsOwn_fail _
  | cons k ks ih => exact (h _ _ _).bind fun a => ih.bind fun rest => logsOwn_pure _

theorem logsOwn_parse (p : Parser) (text : String) (t : DataType) : (p.parse text t).LogsOwn := by
  unfold parse
  split_ifs
  · exact logsOwn_fail _
  · exact logsOwn_pure _
  · refine (logsOwn_scan (p.logsOwn_create t) _ _ _).bind fun cs => ?_
    exact (logsOwn_log _ _ _ (by simp)).bind fun _ => logsOwn_pure cs

end Parser

/-! ## The validator and settings -/

namespace Validator

theorem logsOwn_notifyAll (n : Notice) (observers : List Observer) :
    (notifyAll n observers).LogsOwn := by
  induction observers with
  | nil => exact logsOwn_pure ()
  | cons o observers ih =>
      unfold notifyAll
      split_ifs
      · refine (logsOwn_notify n).bind fun _ => ?_
        split
        · exact ih
        · exact logsOwn_fail _
      · exact ih

theorem logsOwn_resolve (v : Validator) (input : ConstraintsInput) (t : DataType) :
    (v.resolve input t).LogsOwn := by
  cases input with
  | absent => exact logsOwn_pure _
  | text s => exact v.parser.logsOwn_parse s t
  | items items => exact logsOwn_lift _
  | other typeName => exact logsOwn_fail _

theorem logsOwn_results (v : Validator) (value : Value) (t : DataType) (input : ConstraintsInput)
    (member : String) (shown : Value) : (v.results value t input member shown).LogsOwn := by
  rw [results_eq]
  refine (logsOwn_resolve v input t).bind fun cs => ?_
  refine (logsOwn_notifyAll _ _).bind fun _ => (logsOwn_lift _).bind fun outcomes => ?_
  split_ifs
  · refine (logsOwn_log _ _ _ (by simp)).bind fun _ => ?_
    exact (logsOwn_notifyAll _ _).bind fun _ => logsOwn_pure outcomes
  · exact logsOwn_pure outcomes

end Validator

namespace Setting

theorem logsOwn_parsedConstraints (s : Setting) : s.parsedConstraints.LogsOwn :=
  s.activeParser.logsOwn_parse s.constraints s.dataType

theorem logsOwn_nativeValue (r : Registry) (s : Setting) : (s.nativeValue r).LogsOwn := by
  unfold nativeValue
  split
  · exact logsOwn_pure _
  · refine s.logsOwn_parsedConstraints.bind fun cs => ?_
    split <;> exact logsOwn_lift _

/-- What is logged while the value of a setting is checked hides nothing that a catalog binds. -/
theorem logsOwn_validate (v : Validator) (s : Setting) : (s.validate v).LogsOwn :=
  (s.logsOwn_nativeValue v.registry).bind fun native =>
    s.logsOwn_parsedConstraints.bind fun cs =>
      v.logsOwn_results native s.dataType (.items (cs.map .constraint)) s.name
        (.text s.effectiveDisplayName)

end Setting

end ParamRules
