import ParamRules.Constraint.Build
import ParamRules.Proofs.Constraint.Checks
import ParamRules.Proofs.Conversion.Lexical

/-!
# Constraints that can be made

A constraint is built from arguments or from an enumeration, and configured any number of times.
What it holds on to all the way is that its bound or step can be written, and that a constraint with
a name of its own ignores its parameters (`Reachable.isSound`).
-/

namespace ParamRules

open Result Conversion

/-- Whether all arguments are values that can be built. -/
structure Arguments.IsProper (a : Arguments) : Prop where
  placed : ∀ v ∈ a.placed, v.IsProper
  named : ∀ p ∈ a.named, p.2.IsProper

theorem Arguments.IsProper.get {a : Arguments} (h : a.IsProper) (place : Nat) (name : String) :
    (a.get place name).IsProper := by
  unfold Arguments.get Arguments.get?
  cases hplaced : a.placed[place]? with
  | some v => exact h.placed v (List.mem_of_getElem? hplaced)
  | none =>
      cases hnamed : a.named.lookup name with
      | none => exact trivial
      | some v =>
          obtain ⟨before, after, heq, -⟩ := List.lookup_eq_some_iff.mp hnamed
          exact h.named (name, v) (heq ▸ by simp)

/-- Whether a bound is one of its data type. Of decimals that is more than can be read, since the
exponent may be positive. -/
def Bound.IsHeld : Bound → Prop
  | .amount (.decimal d) => d.isFinite = true
  | b => b.IsReadable

namespace Bound

variable {b : Bound}

theorem IsReadable.isHeld (h : b.IsReadable) : b.IsHeld := by
  cases b with
  | amount a =>
      cases a with
      | integer t n => exact h
      | decimal d => exact Decimal.isFinite_of_isPlain h
  | _ => exact h

theorem isHeld_of_coerced {v : Value} (hv : v.IsProper) (h : Coerced b.dataType v b.value) :
    b.IsHeld := by
  cases b with
  | amount a =>
      cases a with
      | integer t n =>
          cases h with
          | integer _ hholds => exact hholds
          | text ht => simp [dataType, Amount.dataType] at ht
      | decimal d =>
          cases h with
          | decimal hfinite => exact hfinite
          | whole => exact rfl
          | text ht => simp [dataType, Amount.dataType] at ht
  | moment m =>
      cases h with
      | moment hoffset => exact ⟨hv, hoffset⟩
      | text ht => simp [dataType] at ht
  | duration d =>
      cases h with
      | duration => exact hv
      | text ht => simp [dataType] at ht
  | version a =>
      cases h with
      | version => exact hv
      | text ht => simp [dataType] at ht

/-- What has the form of an ordered type is the value of a bound. -/
theorem exists_of_coerced {t : DataType} {v w : Value} (ht : t.isOrdered = true)
    (h : Coerced t v w) : ∃ b : Bound, b.dataType = t ∧ b.value = w := by
  cases h with
  | @integer type _ n => exact ⟨.amount (.integer type n), rfl, rfl⟩
  | @decimal d => exact ⟨.amount (.decimal d), rfl, rfl⟩
  | @whole _ n => exact ⟨.amount (.decimal (.ofInt n)), rfl, rfl⟩
  | @moment m => exact ⟨.moment m, rfl, rfl⟩
  | duration d => exact ⟨.duration d, rfl, rfl⟩
  | version a => exact ⟨.version a, rfl, rfl⟩
  | text ht' => rcases ht' with rfl | rfl | rfl <;> cases ht
  | _ => cases ht

/-- A bound is in the form of its data type. -/
theorem coerced_of_isHeld (h : b.IsHeld) : Coerced b.dataType b.value b.value := by
  cases b with
  | amount a =>
      cases a with
      | integer t n => exact .integer rfl h
      | decimal d => exact .decimal h
  | moment m => exact .moment h.2
  | duration d => exact .duration d
  | version a => exact .version a

/-- Bounds are of types that have values, but not of enumerations. -/
theorem dataType_ne (b : Bound) : b.dataType ≠ .none ∧ b.dataType ≠ .enumeration := by
  cases b with
  | amount a => cases a <;> exact ⟨nofun, nofun⟩
  | _ => exact ⟨nofun, nofun⟩

end Bound

namespace Conversion

variable {t : DataType} {b : Bound}

theorem holds_least (t : IntegerType) : t.holds t.least = true := by
  cases t <;> decide

theorem holds_greatest (t : IntegerType) : t.holds t.greatest = true := by
  cases t <;> decide

theorem isHeld_of_least? (h : least? t = some b) : b.dataType = t ∧ b.IsHeld := by
  cases t with
  | integer t =>
      cases h
      exact ⟨rfl, holds_least t⟩
  | decimal =>
      cases h
      exact ⟨rfl, rfl⟩
  | dateTimeOffset =>
      cases h
      exact ⟨rfl, by decide, by decide⟩
  | timeSpan =>
      cases h
      exact ⟨rfl, show Duration.ofMicros? Duration.min.micros = some Duration.min by decide⟩
  | version =>
      cases h
      exact ⟨rfl, show Version.min.IsValid by unfold Version.IsValid; decide⟩
  | _ => cases h

theorem isHeld_of_greatest? (h : greatest? t = some b) : b.dataType = t ∧ b.IsHeld := by
  cases t with
  | integer t =>
      cases h
      exact ⟨rfl, holds_greatest t⟩
  | decimal =>
      cases h
      exact ⟨rfl, rfl⟩
  | dateTimeOffset =>
      cases h
      exact ⟨rfl, by decide, by decide⟩
  | timeSpan =>
      cases h
      exact ⟨rfl, show Duration.ofMicros? Duration.max.micros = some Duration.max by decide⟩
  | version =>
      cases h
      exact ⟨rfl, show Version.max.IsValid by unfold Version.IsValid; decide⟩
  | _ => cases h

end Conversion

namespace Constraint

variable {c d : Constraint} {t : DataType} {ps : List String}

/-- Whether what a constraint holds is of a form that its kind allows. -/
def IsSound : Constraint → Prop
  | .minValue b | .maxValue b => b.IsHeld
  | .step size => (Bound.amount size).IsHeld
  | .custom rule kept => (∃ name, rule = plainRule name) ∧ kept = []
  | _ => True

/-! ## Built constraints -/

/-- Whether a builder gives sound constraints for arguments that can be built. -/
def BuildsSound (build : Arguments → Except Fault Constraint) : Prop :=
  ∀ a c, a.IsProper → build a = .ok c → c.IsSound

theorem buildsSound_ok {make : Arguments → Constraint} (h : ∀ a, (make a).IsSound) :
    BuildsSound fun a => .ok (make a) := by
  intro a d _ hd
  cases hd
  exact h a

theorem buildsSound_map {α : Type} {make : α → Constraint} {read : Arguments → Except Fault α}
    (h : ∀ x, (make x).IsSound) : BuildsSound fun a => make <$> read a := by
  intro a d _ hd
  obtain ⟨x, -, rfl⟩ := map_eq_ok_iff.mp hd
  exact h x

theorem isHeld_of_boundArgument {name boundName : String} {extreme? : DataType → Option Bound}
    {a : Arguments} {b : Bound}
    (hextreme : ∀ {t b}, extreme? t = some b → b.dataType = t ∧ b.IsHeld)
    (ha : a.IsProper) (h : boundArgument name extreme? a boundName = .ok b) : b.IsHeld := by
  obtain ⟨t, -, h⟩ := bind_eq_ok_iff.mp h
  simp only at h
  split at h
  · rename_i e _ he
    simp only [bind, Except.bind, pure, Except.pure] at h
    split at h <;> cases h
    rename_i hb
    obtain ⟨rfl, hvalue⟩ := boundOf?_eq_some_iff.mp hb
    obtain ⟨htype, hheld⟩ := hextreme he
    -- Both are what the value is as a bound of the data type.
    have hboundOf : boundOf? b.dataType b.value = some e :=
      boundOf?_eq_some_iff.mpr ⟨htype, hvalue.symm⟩
    rw [boundOf?_eq_some_iff.mpr ⟨rfl, rfl⟩] at hboundOf
    rw [Option.some.inj hboundOf]
    exact hheld
  · split at h
    · rename_i w hw
      simp only [bind, Except.bind, pure, Except.pure] at h
      split at h <;> cases h
      rename_i hb
      obtain ⟨rfl, rfl⟩ := boundOf?_eq_some_iff.mp hb
      have hcoerced := coerced_of_coerce b.dataType_ne.2 hw
      exact Bound.isHeld_of_coerced (ha.get 1 boundName) hcoerced
    · split_ifs at h <;> cases h

theorem isHeld_of_stepArgument {a : Arguments} {size : Amount} (ha : a.IsProper)
    (h : stepArgument a = .ok size) : (Bound.amount size).IsHeld := by
  obtain ⟨t, -, h⟩ := bind_eq_ok_iff.mp h
  obtain ⟨v, hv, h⟩ := bind_eq_ok_iff.mp h
  obtain ⟨rfl, rfl⟩ : size.dataType = t ∧ size.value = v := by
    split at h
    · rename_i size' hsize
      cases h
      exact amountOf?_eq_some_iff.mp hsize
    · cases h
  have hnumber : size.dataType ≠ .enumeration := (Bound.amount size).dataType_ne.2
  unfold valueArgument at hv
  split at hv
  · rename_i w hw
    cases hv
    refine Bound.isHeld_of_coerced (b := .amount size) ?_ (coerced_of_coerce hnumber hw)
    split
    · exact trivial
    · exact ha.get 1 "step_size"
  · split_ifs at hv

theorem isSound_of_namedArgument {v : Value} (h : namedArgument v = .ok c) : c.IsSound := by
  unfold namedArgument at h
  split at h
  · cases h
  · rename_i name _
    split_ifs at h
    cases h
    exact ⟨⟨name, rfl⟩, rfl⟩

theorem builders_sound : ∀ entry ∈ builders, BuildsSound entry.2 := by
  have hminimum :
      BuildsSound fun a => .minValue <$> boundArgument "MinValue" least? a "minimum" := by
    intro a d ha hd
    obtain ⟨b, hb, rfl⟩ := map_eq_ok_iff.mp hd
    exact isHeld_of_boundArgument isHeld_of_least? ha hb
  have hmaximum :
      BuildsSound fun a => .maxValue <$> boundArgument "MaxValue" greatest? a "maximum" := by
    intro a d ha hd
    obtain ⟨b, hb, rfl⟩ := map_eq_ok_iff.mp hd
    exact isHeld_of_boundArgument isHeld_of_greatest? ha hb
  have hstep : BuildsSound fun a => .step <$> stepArgument a := by
    intro a d ha hd
    obtain ⟨size, hsize, rfl⟩ := map_eq_ok_iff.mp hd
    exact isHeld_of_stepArgument ha hsize
  have hnamed : BuildsSound fun a => namedArgument (a.get 0 "name") :=
    fun a d _ hd => isSound_of_namedArgument hd
  have hempty : ∀ entry ∈ ([] : List (String × (Arguments → Except Fault Constraint))),
      BuildsSound entry.2 := List.forall_mem_nil _
  simp only [builders, List.forall_mem_cons]
  refine ⟨?_, ?_, ?_, ?_, ?_, ?_, ?_, ?_, hminimum, hmaximum, hstep, ?_, ?_, ?_, ?_, ?_, ?_, ?_, ?_,
    ?_, ?_, ?_, ?_, ?_, ?_, hnamed, hempty⟩
  all_goals first
    | exact buildsSound_ok fun _ => by trivial
    | exact buildsSound_map fun _ => by trivial

theorem mem_of_builder? {kind : String} {build : Arguments → Except Fault Constraint}
    (h : builder? kind = some build) : (kind, build) ∈ builders := by
  obtain ⟨before, after, heq, -⟩ := List.lookup_eq_some_iff.mp h
  rw [heq]
  exact List.mem_append_right before List.mem_cons_self

theorem isSound_of_ofEnumeration {v : Value} (h : ofEnumeration v = .ok c) : c.IsSound := by
  unfold ofEnumeration at h
  split at h
  · simp only at h
    split_ifs at h
    split at h <;> cases h
    exact trivial
  · cases h

/-! ## Configured constraints -/

/-- Configuring keeps what a constraint holds in the form that its kind allows. -/
theorem isSound_of_configure (hc : c.IsSound) (h : c.configure t ps = .ok d) : d.IsSound := by
  unfold configure at h
  split_ifs at h
  cases c with
  | null | encrypted | readOnly | lowercase | uppercase | password | host | endpoint | fileName
  | path =>
      cases h
      exact trivial
  | database e k d' =>
      simp only at h
      split at h <;> cases h <;> exact trivial
  | charSet set =>
      obtain ⟨p, -, h⟩ := bind_eq_ok_iff.mp h
      split at h <;> cases h
      exact trivial
  | minValue b | maxValue b =>
      obtain ⟨read, hread, rfl⟩ := map_eq_ok_iff.mp h
      exact (bound_of_readBound hread).2.isHeld
  | step size =>
      obtain ⟨read, hread, rfl⟩ := map_eq_ok_iff.mp h
      obtain ⟨p, -, -, hamount⟩ := readAmount_eq_ok_iff.mp hread
      have hreadable : (Bound.amount read).IsReadable := isReadable_of_read hamount
      exact hreadable.isHeld
  | custom rule kept =>
      obtain ⟨⟨name, rfl⟩, -⟩ := hc
      cases h
      exact ⟨⟨name, rfl⟩, rfl⟩
  | _ =>
      obtain ⟨a, -, rfl⟩ := map_eq_ok_iff.mp h
      exact trivial

/-- A constraint that can be made: built from arguments or from an enumeration, and configured any
number of times. -/
inductive Reachable : Constraint → Prop where
  | built {kind : String} {build : Arguments → Except Fault Constraint} {a : Arguments}
      {c : Constraint} (hbuild : builder? kind = some build) (ha : a.IsProper)
      (h : build a = .ok c) : Reachable c
  | enumerated {v : Value} {c : Constraint} (h : ofEnumeration v = .ok c) : Reachable c
  | configured {c d : Constraint} {t : DataType} {ps : List String} (hc : Reachable c)
      (h : c.configure t ps = .ok d) : Reachable d

theorem Reachable.isSound (h : Reachable c) : c.IsSound := by
  induction h with
  | built hbuild ha h =>
      exact builders_sound _ (mem_of_builder? hbuild) _ _ ha h
  | enumerated h => exact isSound_of_ofEnumeration h
  | configured _ h ih => exact isSound_of_configure ih h

end Constraint

end ParamRules
