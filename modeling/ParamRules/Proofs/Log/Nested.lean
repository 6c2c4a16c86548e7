import ParamRules.Log.Contextual
import ParamRules.Proofs.Result

/-!
# Blocks that are nested

What is bound is a mapping: two lists of fields are the same when they have the same value under
every name.  A block binds its fields over what is there and restores what it has hidden, whatever
its body binds and restores in between (`same_leave`).  So a run leaves what it found, and what an
event in it carries is told by the blocks that are open there and by what is bound around the run
(`exec_nested`).
-/

namespace ParamRules

open Text Result

/-- The fields of a block as they are given. -/
abbrev Fields := List (String × Value)

namespace Correlation

/-- Whether two lists of fields are the same mapping. -/
def Same (c d : Correlation) : Prop :=
  ∀ name, c.lookup name = d.lookup name

variable {bound after texts c d e : Correlation} {fields : Fields} {name : String} {v : Value}

theorem Same.refl (c : Correlation) : Same c c := fun _ => rfl

theorem Same.trans (h : Same c d) (h' : Same d e) : Same c e := fun name =>
  (h name).trans (h' name)

/-- What is bound after a block is what was bound before it, if its body leaves what it found. -/
theorem same_leave (h : Same after (bound.bind texts)) :
    Same (leave (bound.enter texts).1 after) bound := by
  intro name
  have hafter := h name
  rw [lookup_bind] at hafter
  simp only [leave, enter]
  rw [lookup_bind, lookup_filter fun n => (texts.lookup n).isSome,
    lookup_filter fun n => (texts.lookup n).isNone, hafter]
  cases texts.lookup name <;> simp

/-! ## The fields of a block -/

/-- Whether a value is taken for a field: a text that is not blank. -/
def isFilled (v : Value) : Bool :=
  v.text?.any fun s => !isAllBlank s

/-- The name of the first field that is refused. -/
def refused? (fields : Fields) : Option String :=
  (fields.find? fun f => !isFilled f.2).map (·.1)

/-- A field as it is bound: its text without the white space around it. -/
def trimmed (v : Value) : Value :=
  .text (trim (v.text?.getD ""))

/-- What is bound where blocks are open, the innermost first: each name has its value in the
innermost block that has the name, and the value from around all blocks where none has it. -/
def visible (ambient : Correlation) : List Fields → String → Option Value
  | [], name => ambient.lookup name
  | fields :: opened, name => ((fields.lookup name).map trimmed).or (visible ambient opened name)

theorem field_of_isFilled (h : isFilled v = true) : field name v = .ok (name, trimmed v) := by
  unfold isFilled at h
  unfold field trimmed
  cases hv : v.text? with
  | none => simp [hv] at h
  | some s =>
      have hblank : isAllBlank s = false := by simpa [hv] using h
      simp [hblank]

theorem field_of_not_isFilled (h : isFilled v = false) :
    field name v = .error (.plain (.emptyCorrelation name)) := by
  unfold isFilled at h
  unfold field
  cases hv : v.text? with
  | none => rfl
  | some s =>
      have hblank : isAllBlank s = true := by simpa [hv] using h
      simp [hblank]

/-- The fields are trimmed one by one, up to the first that is refused. -/
theorem ofFields_eq (fields : Fields) :
    ofFields fields =
      match refused? fields with
      | some name => .error (.plain (.emptyCorrelation name))
      | none => .ok (fields.map fun f => (f.1, trimmed f.2)) := by
  induction fields with
  | nil => rfl
  | cons f fields ih =>
      obtain ⟨name, v⟩ := f
      have hcons : ofFields ((name, v) :: fields) =
          field name v >>= fun t => (t :: ·) <$> ofFields fields := by
        rw [ofFields, List.mapM_cons]
        rfl
      rw [hcons, ih]
      cases hv : isFilled v with
      | false =>
          have hfirst : refused? ((name, v) :: fields) = some name := by simp [refused?, hv]
          rw [field_of_not_isFilled hv, hfirst]
          rfl
      | true =>
          rw [field_of_isFilled hv]
          have hrest : refused? ((name, v) :: fields) = refused? fields := by
            simp [refused?, hv]
          rw [hrest]
          cases refused? fields <;> rfl

theorem lookup_map_trimmed (fields : Fields) (name : String) :
    (fields.map fun f => (f.1, trimmed f.2)).lookup name = (fields.lookup name).map trimmed := by
  induction fields with
  | nil => rfl
  | cons f fields ih =>
      rw [List.map_cons, List.lookup_cons, List.lookup_cons, ih]
      cases name == f.1 <;> rfl

end Correlation

open Correlation

/-! ## Steps -/

namespace Contextual

variable {α β : Type} {x : Contextual α} {f : α → Contextual β} {bound : Correlation}
  {fields : Fields} {fault : Fault} {texts : Correlation}

theorem bind_of_ok {a : α} (h : (x bound).1.result = .ok a) :
    (x >>= f) bound =
      (⟨(x bound).1.records ++ (f a (x bound).2).1.records, (f a (x bound).2).1.result⟩,
        (f a (x bound).2).2) := by
  change Contextual.bind x f bound = _
  simp only [Contextual.bind, h]

theorem bind_of_error (h : (x bound).1.result = .error fault) :
    (x >>= f) bound = (⟨(x bound).1.records, .error fault⟩, (x bound).2) := by
  change Contextual.bind x f bound = _
  simp only [Contextual.bind, h]

theorem bind_pure_eq (x : Contextual α) (g : α → β) (bound : Correlation) :
    (x >>= fun a => pure (g a)) bound =
      (⟨(x bound).1.records, g <$> (x bound).1.result⟩, (x bound).2) := by
  cases h : (x bound).1.result with
  | error fault =>
      rw [bind_of_error h]
      rfl
  | ok a =>
      have hpure : ((pure (g a) : Contextual β) (x bound).2).1.records = [] := rfl
      rw [bind_of_ok h, hpure, List.append_nil]
      rfl

theorem scope_of_refused (h : ofFields fields = .error fault) (body : Contextual α) :
    scope fields body bound = (.fail fault, bound) := by
  simp only [scope, h]

theorem scope_of_ok (h : ofFields fields = .ok texts) (body : Contextual α) :
    scope fields body bound =
      ((body (bound.bind texts)).1, leave (bound.enter texts).1 (body (bound.bind texts)).2) := by
  simp only [scope, h]
  rfl

end Contextual

namespace Run

/-! ## What a run does -/

/-- What comes of a run: nothing that is bound has a part in it, but a block whose fields are
refused fails. -/
def result : Run → Except Fault Unit
  | .done | .log .. | .attempt _ => .ok ()
  | .fail fault => .error fault
  | .scope fields body =>
    match refused? fields with
    | some name => .error (.plain (.emptyCorrelation name))
    | none => body.result
  | .andThen first second =>
    match first.result with
    | .ok () => second.result
    | .error fault => .error fault

/-- The events that a run logs where blocks are open, each with the fields of the blocks that are
open when it is logged, the innermost first. -/
def logged (opened : List Fields) : Run → List (Event × List Fields)
  | .done | .fail _ => []
  | .log logger level name fields => [(⟨logger, level, name, fields, []⟩, opened)]
  | .scope fields body =>
    match refused? fields with
    | some _ => []
    | none => body.logged (fields :: opened)
  | .attempt body => body.logged opened
  | .andThen first second =>
    match first.result with
    | .ok () => first.logged opened ++ second.logged opened
    | .error _ => first.logged opened

/-- Whether an event is one that is logged under open blocks, and carries what is bound there. -/
def Carries (ambient : Correlation) (e : Event) (p : Event × List Fields) : Prop :=
  { e with context := [] } = p.1 ∧ ∀ name, e.context.lookup name = visible ambient p.2 name

theorem events_append {α β : Type} (x : Recorded α) (y : Recorded β) :
    (⟨x.records ++ y.records, y.result⟩ : Recorded β).events = x.events ++ y.events := by
  simp [Recorded.events]

/-- A run where blocks are open, and what they bind over what is around them is bound. -/
theorem exec_nested (ambient : Correlation) (run : Run) {opened : List Fields}
    {bound : Correlation} (hbound : ∀ name, bound.lookup name = visible ambient opened name) :
    (run.exec bound).1.result = run.result ∧
      List.Forall₂ (Carries ambient) (run.exec bound).1.events (run.logged opened) ∧
      Same (run.exec bound).2 bound := by
  induction run generalizing opened bound with
  | done => exact ⟨rfl, .nil, .refl bound⟩
  | fail fault => exact ⟨rfl, .nil, .refl bound⟩
  | log logger level name fields =>
      refine ⟨rfl, .cons ⟨rfl, fun n => ?_⟩ .nil, .refl bound⟩
      rw [← hbound n]
      exact lookup_bind bound [] n
  | scope fields body ih =>
      have hfields := ofFields_eq fields
      unfold exec result logged
      cases hrefused : refused? fields with
      | some name =>
          rw [hrefused] at hfields
          rw [Contextual.scope_of_refused hfields]
          exact ⟨rfl, .nil, .refl bound⟩
      | none =>
          rw [hrefused] at hfields
          rw [Contextual.scope_of_ok hfields]
          have hinside : ∀ name, (bound.bind (fields.map fun f => (f.1, trimmed f.2))).lookup name =
              visible ambient (fields :: opened) name := by
            intro name
            rw [lookup_bind, lookup_map_trimmed, hbound name]
            rfl
          obtain ⟨hresult, hevents, hsame⟩ := ih hinside
          exact ⟨hresult, hevents, same_leave hsame⟩
  | attempt body ih =>
      obtain ⟨-, hevents, hsame⟩ := ih hbound
      exact ⟨rfl, hevents, hsame⟩
  | andThen first second ihfirst ihsecond =>
      obtain ⟨hfirst, hevents, hsame⟩ := ihfirst hbound
      have hbetween : ∀ name, (first.exec bound).2.lookup name = visible ambient opened name :=
        fun name => (hsame name).trans (hbound name)
      obtain ⟨hsecond, hevents', hsame'⟩ := ihsecond hbetween
      unfold exec result logged
      cases hres : first.result with
      | error fault =>
          rw [Contextual.bind_of_error (hfirst.trans hres)]
          exact ⟨rfl, hevents, hsame⟩
      | ok _ =>
          rw [Contextual.bind_of_ok (hfirst.trans hres)]
          refine ⟨hsecond, ?_, hsame'.trans hsame⟩
          rw [events_append]
          exact List.rel_append hevents hevents'

end Run

end ParamRules
