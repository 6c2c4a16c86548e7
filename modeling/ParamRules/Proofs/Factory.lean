import ParamRules.Parser
import ParamRules.Proofs.Constraint.Configured
import ParamRules.Proofs.Scan.Grammar

/-!
# What a factory without handlers finds

Without handlers a name is looked up in the table of known constraints alone.  The constraint that
is found has the name that was asked for and is of one of the library's own kinds, and it depends on
the name and the data type only, not on where in a text the name stands.
-/

namespace ParamRules

open Text Result Constraint

namespace Factory

variable {f : Factory} {builders : Builders} {name : String} {t : DataType} {c : Constraint}

/-- The constraint that a name is known for. -/
def knownFor (name : String) (t : DataType) : Option Constraint :=
  (known.lookup name).bind (· t)

/-- Whether a builder gives constraints of one name, none of them custom. -/
def Builds (name : String) (build : DataType → Option Constraint) : Prop :=
  ∀ t c, build t = some c → c.name = name ∧ c.isCustom = false

theorem builds_forAll (h : c.name = name ∧ c.isCustom = false) :
    Builds name (known.forAll c) := by
  rintro t d hd
  cases hd
  exact h

theorem builds_forTypes {holds : DataType → Bool} (h : c.name = name ∧ c.isCustom = false) :
    Builds name (known.forTypes holds c) := by
  intro t d hd
  unfold known.forTypes at hd
  split_ifs at hd
  cases hd
  exact h

theorem builds_map {α : Type} {values : DataType → Option α} {make : α → Constraint}
    (h : ∀ a, (make a).name = name ∧ (make a).isCustom = false) :
    Builds name fun t => (values t).map make := by
  intro t d hd
  obtain ⟨a, -, rfl⟩ := Option.map_eq_some_iff.mp hd
  exact h a

theorem builds_regex :
    Builds "Regex" fun t => if t = .string then known.anyText?.map .regex else none := by
  intro t d hd
  simp only at hd
  split_ifs at hd
  obtain ⟨e, -, rfl⟩ := Option.map_eq_some_iff.mp hd
  exact ⟨rfl, rfl⟩

theorem builds_type :
    Builds "Type" fun t =>
      match t with
      | .enumeration => some (.enumType "")
      | .xml => some (.typeName "")
      | _ => none := by
  intro t d hd
  simp only at hd
  split at hd <;> cases hd <;> exact ⟨rfl, rfl⟩

/-- Every builder gives constraints of the name that it stands under. -/
theorem known_builds : ∀ entry ∈ known, Builds entry.1 entry.2 := by
  simp only [known, List.forall_mem_cons]
  have hnil : ∀ entry ∈ ([] : List (String × (DataType → Option Constraint))),
      Builds entry.1 entry.2 := List.forall_mem_nil _
  exact ⟨builds_forTypes ⟨rfl, rfl⟩, builds_forTypes ⟨rfl, rfl⟩, builds_forAll ⟨rfl, rfl⟩,
    builds_forTypes ⟨rfl, rfl⟩, builds_forAll ⟨rfl, rfl⟩, builds_forAll ⟨rfl, rfl⟩,
    builds_forTypes ⟨rfl, rfl⟩, builds_forTypes ⟨rfl, rfl⟩, builds_forTypes ⟨rfl, rfl⟩,
    builds_forTypes ⟨rfl, rfl⟩, builds_forTypes ⟨rfl, rfl⟩, builds_forTypes ⟨rfl, rfl⟩,
    builds_forTypes ⟨rfl, rfl⟩, builds_map fun _ => ⟨rfl, rfl⟩, builds_forTypes ⟨rfl, rfl⟩,
    builds_map fun _ => ⟨rfl, rfl⟩, builds_forAll ⟨rfl, rfl⟩, builds_forTypes ⟨rfl, rfl⟩,
    builds_forTypes ⟨rfl, rfl⟩, builds_forAll ⟨rfl, rfl⟩, builds_regex,
    builds_map fun _ => ⟨rfl, rfl⟩, builds_type, builds_forTypes ⟨rfl, rfl⟩, hnil⟩

theorem knownFor_eq_some (h : knownFor name t = some c) : c.name = name ∧ c.isCustom = false := by
  obtain ⟨build, hlookup, hbuild⟩ := Option.bind_eq_some_iff.mp h
  obtain ⟨before, after, heq, -⟩ := List.lookup_eq_some_iff.mp hlookup
  exact known_builds (name, build) (heq ▸ by simp) t c hbuild

/-- The constraint that a table of builders gives. -/
def builtBy (builders : Builders) (name : String) (t : DataType) : Option Constraint :=
  (builders.lookup name).bind (· t)

theorem resolve_of_some {m : Type → Type} [Monad m] {ask : Handler → m (Option Constraint)}
    (hbuilt : builtBy builders name t = some c) (handlers : List Handler) :
    resolve builders ask handlers name t = pure (.built c) := by
  rw [builtBy] at hbuilt
  rw [resolve, hbuilt]

/-- The handlers are asked where no builder gives a constraint. -/
theorem resolve_of_none {m : Type → Type} [Monad m] {ask : Handler → m (Option Constraint)}
    (hbuilt : builtBy builders name t = none) (handlers : List Handler) :
    resolve builders ask handlers name t = (do
      match ← askHandlers ask handlers with
      | some (h, c) => pure (.answered h c)
      | none => pure (if builders.any (·.1 = name) then .notDefined else .unknown)) := by
  unfold builtBy at hbuilt
  unfold resolve
  generalize (builders.lookup name).bind (· t) = given at hbuilt ⊢
  subst hbuilt
  rfl

theorem result_findIn (builders : Builders) (f : Factory) (name : String) (t : DataType) :
    (f.findIn builders name t).result =
      if isAllBlank name then .error (.argument "name" .empty)
      else if t = .none then .error .noDataType
      else
        match resolve builders (·.answer name t) f.handlers name t with
        | .error refusal => .error (.plain (.custom refusal))
        | .ok resolution => resolution.result name t := by
  unfold findIn
  split_ifs
  · rfl
  · rfl
  · cases resolve builders (·.answer name t) f.handlers name t with
    | error refusal => rfl
    | ok resolution => cases resolution <;> rfl

/-- The result of a factory without handlers. -/
theorem result_find (hf : f.handlers = []) (ht : t ≠ .none) :
    (f.find name t).result =
      if isAllBlank name then .error (.argument "name" .empty)
      else
        match knownFor name t with
        | some c => .ok c
        | none =>
          if isKnown name then .error (.atPosition (.notDefinedForType name t) (-1) none)
          else .error (.atPosition (.unknownName name t) (-1) none) := by
  have hresolve : resolve known (·.answer name t) f.handlers name t =
      match knownFor name t with
      | some c => .ok (.built c)
      | none => .ok (if isKnown name then .notDefined else .unknown) := by
    cases hknown : knownFor name t with
    | some c => exact resolve_of_some hknown _
    | none =>
        rw [resolve_of_none hknown, hf]
        rfl
  rw [find, result_findIn, hresolve, if_neg ht]
  by_cases hblank : isAllBlank name = true
  · rw [if_pos hblank, if_pos hblank]
  · rw [if_neg hblank, if_neg hblank]
    cases knownFor name t with
    | some c => rfl
    | none => cases isKnown name <;> rfl

theorem find_eq_ok_iff (hf : f.handlers = []) (ht : t ≠ .none) :
    (f.find name t).result = .ok c ↔ isAllBlank name = false ∧ knownFor name t = some c := by
  rw [result_find hf ht]
  by_cases hblank : isAllBlank name = true
  · simp [hblank]
  · rw [if_neg hblank]
    cases knownFor name t with
    | some d => simp [hblank]
    | none =>
        simp only
        split_ifs <;> simp

/-- A known name is found by every factory, whatever its handlers. -/
theorem find_of_knownFor (f : Factory) (ht : t ≠ .none) (hblank : isAllBlank name = false)
    (h : knownFor name t = some c) : (f.find name t).result = .ok c := by
  rw [find, result_findIn, hblank, if_neg ht, resolve_of_some h]
  rfl

end Factory

namespace Parser

variable {p : Parser} {t : DataType} {name : String} {ps : List String} {c : Constraint}

theorem result_create (p : Parser) (t : DataType) (position : Nat) (name : String)
    (ps : List String) :
    (p.create t position name ps).result =
      match (p.findAt t position name).result with
      | .error fault => .error fault
      | .ok found =>
        match found.configure t ps with
        | .ok c => .ok c
        | .error fault =>
          if fault.kind.isValueOrType then
            .error (.atPosition (.parametersInvalid found.name) position (some fault))
          else .error fault := by
  rw [create]
  cases hfind : (p.findAt t position name).result with
  | error fault => rw [Recorded.bind_of_error hfind]
  | ok found =>
      rw [Recorded.result_bind hfind]
      simp only
      cases found.configure t ps with
      | ok c => rfl
      | error fault =>
          simp only
          split_ifs <;> rfl

theorem findAt_eq_ok_iff (position : Nat) :
    (p.findAt t position name).result = .ok c ↔ (p.factory.find name t).result = .ok c := by
  simp only [findAt]
  cases (p.factory.find name t).result <;> simp [Except.mapError]

/-- What is created is what the factory finds, configured. -/
theorem create_eq_ok_iff {position : Nat} :
    (p.create t position name ps).result = .ok c ↔
      ∃ found, (p.factory.find name t).result = .ok found ∧ found.configure t ps = .ok c := by
  simp only [← findAt_eq_ok_iff position]
  rw [result_create]
  cases (p.findAt t position name).result with
  | error fault => simp
  | ok found =>
      simp only [Except.ok.injEq, exists_eq_left']
      cases found.configure t ps with
      | ok d => rfl
      | error fault =>
          simp only
          split_ifs <;> simp

/-- A created constraint has the name that it is written with, and its own parameters create it
again, wherever they stand. -/
theorem create_parameters (hp : p.factory.handlers = []) (ht : t ≠ .none) {position : Nat}
    (h : (p.create t position name ps).result = .ok c) :
    c.name = name ∧ c.isCustom = false ∧
      ∀ position', (p.create t position' c.name c.parameters).result = .ok c := by
  obtain ⟨found, hfound, hc⟩ := create_eq_ok_iff.mp h
  obtain ⟨-, hknown⟩ := (Factory.find_eq_ok_iff hp ht).mp hfound
  obtain ⟨hname, hcustom⟩ := Factory.knownFor_eq_some hknown
  obtain ⟨hsame, hkind⟩ := name_of_configure hc
  refine ⟨hsame.trans hname, hkind.trans hcustom, fun position' => ?_⟩
  rw [hsame, hname]
  exact create_eq_ok_iff.mpr ⟨found, hfound, configure_parameters hcustom hc⟩

end Parser

end ParamRules
