import ParamRules.Proofs.Constraint.Refusals
import ParamRules.Proofs.Factory
import ParamRules.Proofs.Parser.WellFormed

/-!
# The faults of parsing

A parser without handlers means all its faults to be faults of syntax at an offset inside the text.
Three sorts of completed constraints get out of this envelope: one whose name is nothing but white
space, which the scan lets through and the factory refuses as an argument, and the two overflows of
parameters.  `parse_enveloped_iff` says that these are all, and that the first such constraint that
the parser comes to decides what it fails with.
-/

namespace ParamRules

open Text Result Constraint

/-- Whether a code says that a constraint is refused: its name, or its parameters. -/
def ErrorCode.isRefusal : ErrorCode → Bool
  | .unknownConstraintName | .constraintNotDefinedForType | .parametersInvalid => true
  | _ => false

/-- Whether a fault is one of syntax at an offset. -/
def Fault.StandsAt (fault : Fault) (position : Int) : Prop :=
  ∃ problem code cause, fault = .mk (.syntaxFault problem position code) cause

/-- Whether a fault refuses a constraint that ends at an offset. -/
def Fault.RefusesAt (fault : Fault) (position : Int) : Prop :=
  ∃ problem cause, problem.code.isRefusal = true ∧ fault = .atPosition problem position cause

/-- Callers that take faults of syntax take all faults that stand somewhere. -/
theorem Fault.mem_lineage_of_standsAt {fault : Fault} {position : Int}
    (h : fault.StandsAt position) : FaultKind.syntaxFault ∈ fault.kind.lineage := by
  obtain ⟨problem, code, cause, rfl⟩ := h
  cases problem <;> simp [kind, reason, Reason.kind, FaultKind.lineage]

namespace Parser

/-- Whether parsing a text has a result, or a fault of syntax inside the text. -/
def Enveloped {α : Type} (s : String) (result : Except Fault α) : Prop :=
  FailsWith (fun fault => ∃ position : Int, fault.StandsAt position ∧
    0 ≤ position ∧ position < s.length) result

/-- The faults of a completed constraint that are none of syntax. -/
inductive Escapes : DataType → String → List String → Fault → Prop where
  /-- The name is white space. -/
  | blankName {t : DataType} {name : String} {ps : List String} (h : isAllBlank name = true) :
      Escapes t name ps (.argument "name" .empty)
  /-- The parameters overflow. -/
  | overflow {t : DataType} {name : String} {ps : List String} {fault : Fault}
      (h : Overflows t name ps fault) : Escapes t name ps fault

variable {p : Parser} {t : DataType} {s name : String} {ps : List String} {fault : Fault}

theorem not_standsAt_of_escapes (h : Escapes t name ps fault) (position : Int) :
    ¬ fault.StandsAt position := by
  rintro ⟨problem, code, cause, rfl⟩
  cases h with
  | overflow h =>
      cases h with
      | duration _ h =>
          obtain ⟨-, -, h⟩ := h
          cases h
      | repeats h =>
          obtain ⟨_, _, _, -, -, -, -, h⟩ := h
          cases h

/-! ## One constraint -/

theorem failsWith_findAt (hp : p.factory.handlers = []) (ht : t ≠ .none) (position : Nat) :
    FailsWith (fun fault => fault.RefusesAt position ∨ Escapes t name ps fault)
      (p.findAt t position name).result := by
  simp only [findAt, Factory.result_find hp ht]
  by_cases hblank : isAllBlank name = true
  · rw [if_pos hblank]
    exact failsWith_error.mpr (.inr (.blankName hblank))
  · rw [if_neg hblank]
    cases Factory.knownFor name t with
    | some c => exact failsWith_ok c
    | none =>
        simp only
        split_ifs
        · exact failsWith_error.mpr (.inl ⟨.notDefinedForType name t, none, rfl, rfl⟩)
        · exact failsWith_error.mpr (.inl ⟨.unknownName name t, none, rfl, rfl⟩)

/-- A constraint is created, or is refused at its closing bracket, or escapes. -/
theorem refusesAt_create (hp : p.factory.handlers = []) (ht : t ≠ .none) (position : Nat) :
    FailsWith (fun fault => fault.RefusesAt position ∨ Escapes t name ps fault)
      (p.create t position name ps).result := by
  rw [result_create]
  cases hfind : (p.findAt t position name).result with
  | error fault => exact failsWith_error.mpr (failsWith_findAt hp ht position fault hfind)
  | ok found =>
      obtain ⟨-, hknown⟩ := (Factory.find_eq_ok_iff hp ht).mp ((findAt_eq_ok_iff position).mp hfind)
      obtain ⟨hname, hcustom⟩ := Factory.knownFor_eq_some hknown
      simp only
      cases hconfigure : found.configure t ps with
      | ok c => exact failsWith_ok c
      | error fault =>
          simp only
          split_ifs with hrefusal
          · exact failsWith_error.mpr (.inl ⟨.parametersInvalid found.name, some fault, rfl, rfl⟩)
          · refine failsWith_error.mpr (.inr (.overflow ?_))
            rw [← hname]
            exact (failsWith_configure hcustom fault hconfigure).resolve_left hrefusal

end Parser

end ParamRules
