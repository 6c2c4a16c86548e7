import ParamRules.Parser
import Mathlib

/-!
# What a scan finds in a text

A scan reads characters and hands complete constraints on, and the two can be told apart.  The
*outline* of a text is what the characters alone decide: the constraints that are completed, each
with the offset of its closing bracket, and the fault of syntax that ends the scan.  Handing the
completed constraints on, in order and before the fault, gives the scan back (`scan_eq_fulfil`),
so all that is said about parsing below is said about outlines and about single constraints.
-/

namespace ParamRules.Constraint

/-- A completed constraint: the offset of its closing bracket, its name and its parameters. -/
structure Completed where
  position : Nat
  name : String
  parameters : List String
deriving Repr, DecidableEq

/-- The name and the parameters, without the offset. -/
def Completed.reading (k : Completed) : String × List String :=
  (k.name, k.parameters)

/-- The completed constraints of a text, and the fault that ends its scan with its offset. -/
structure Outline where
  completed : List Completed
  fault : Option (SyntaxProblem × Int)
deriving Repr, DecidableEq

namespace Outline

/-- The outline with one more constraint before the others. -/
def cons (k : Completed) (o : Outline) : Outline :=
  { o with completed := k :: o.completed }

/-- The outline of a text whose first character stands at an offset, from a region on. -/
def ofRegion : Nat → Region → List Char → Outline
  | _, .outside, [] => ⟨[], none⟩
  | position, _, [] => ⟨[], some (.incomplete, (position - 1 : Int))⟩
  | position, region, c :: r =>
    match region.step c with
    | .error problem => ⟨[], some (problem, (position : Int))⟩
    | .ok (.move next) => ofRegion (position + 1) next r
    | .ok (.complete name parameters) =>
      (ofRegion (position + 1) .outside r).cons ⟨position, name, parameters⟩

/-- The outline of a text.  That of a blank text is empty. -/
def ofText (s : String) : Outline :=
  if Text.isAllBlank s then ⟨[], none⟩ else ofRegion 0 .outside s.toList

@[simp] theorem completed_cons (k : Completed) (o : Outline) :
    (o.cons k).completed = k :: o.completed := rfl

@[simp] theorem fault_cons (k : Completed) (o : Outline) : (o.cons k).fault = o.fault := rfl

@[simp] theorem ofRegion_outside_nil (position : Nat) :
    ofRegion position .outside [] = ⟨[], none⟩ := rfl

theorem ofRegion_nil {region : Region} (h : region ≠ .outside) (position : Nat) :
    ofRegion position region [] = ⟨[], some (.incomplete, (position - 1 : Int))⟩ := by
  cases region <;> first | rfl | exact absurd rfl h

variable {position : Nat} {region next : Region} {c : Char} {r : List Char}

theorem ofRegion_of_error {problem : SyntaxProblem} (h : region.step c = .error problem) :
    ofRegion position region (c :: r) = ⟨[], some (problem, (position : Int))⟩ := by
  simp [ofRegion, h]

theorem ofRegion_of_move (h : region.step c = .ok (.move next)) :
    ofRegion position region (c :: r) = ofRegion (position + 1) next r := by
  rw [ofRegion, h]

theorem ofRegion_of_complete {name : String} {parameters : List String}
    (h : region.step c = .ok (.complete name parameters)) :
    ofRegion position region (c :: r) =
      (ofRegion (position + 1) .outside r).cons ⟨position, name, parameters⟩ := by
  rw [ofRegion, h]

/-- The step on the first character decides which of three forms an outline has. -/
theorem ofRegion_cons_cases (position : Nat) (region : Region) (c : Char) (r : List Char) :
    (∃ problem, region.step c = .error problem ∧
      ofRegion position region (c :: r) = ⟨[], some (problem, (position : Int))⟩) ∨
    (∃ next, region.step c = .ok (.move next) ∧
      ofRegion position region (c :: r) = ofRegion (position + 1) next r) ∨
    (∃ name parameters, region.step c = .ok (.complete name parameters) ∧
      ofRegion position region (c :: r) =
        (ofRegion (position + 1) .outside r).cons ⟨position, name, parameters⟩) := by
  cases h : region.step c with
  | error problem => exact .inl ⟨problem, rfl, ofRegion_of_error h⟩
  | ok step =>
      cases step with
      | move next => exact .inr (.inl ⟨next, rfl, ofRegion_of_move h⟩)
      | complete name parameters =>
          exact .inr (.inr ⟨name, parameters, rfl, ofRegion_of_complete h⟩)

/-! ## Offsets -/

end Outline

/-! ## Handing constraints on -/

variable {α : Type}

/-- Hands constraints on one after the other, and ends in the fault where there is one. -/
def fulfil (complete : Nat → String → List String → Recorded α)
    (fault : Option (SyntaxProblem × Int)) : List Completed → Recorded (List α)
  | [] =>
    match fault with
    | none => pure []
    | some (problem, position) => .fail (.atPosition problem position none)
  | k :: ks => do
    let a ← complete k.position k.name k.parameters
    let rest ← fulfil complete fault ks
    return a :: rest

theorem scan_eq_fulfil (complete : Nat → String → List String → Recorded α) (position : Nat)
    (region : Region) (s : List Char) :
    Parser.scan complete position region s =
      fulfil complete (Outline.ofRegion position region s).fault
        (Outline.ofRegion position region s).completed := by
  induction s generalizing position region with
  | nil => cases region <;> rfl
  | cons c r ih =>
      -- Both sides take the same step, and only the scan hands a completed constraint on.
      rw [Parser.scan.eq_def]
      rcases Outline.ofRegion_cons_cases position region c r with
        ⟨p, hstep, heq⟩ | ⟨next, hstep, heq⟩ | ⟨name, parameters, hstep, heq⟩
      · rw [heq]
        simp only [hstep]
        rfl
      · rw [heq]
        simp only [hstep, ih]
      · rw [heq]
        simp only [hstep, ih]
        rfl

variable {complete : Nat → String → List String → Recorded α}
  {fault : Option (SyntaxProblem × Int)}

theorem result_fulfil_cons (k : Completed) (ks : List Completed) :
    (fulfil complete fault (k :: ks)).result =
      match (complete k.position k.name k.parameters).result with
      | .error e => .error e
      | .ok a => (fulfil complete fault ks).result.map (a :: ·) := by
  rw [fulfil]
  cases hk : (complete k.position k.name k.parameters).result with
  | error e => rw [Recorded.bind_of_error hk]
  | ok a =>
      rw [Recorded.result_bind hk]
      cases hks : (fulfil complete fault ks).result with
      | error e => rw [Recorded.bind_of_error hks]; rfl
      | ok as => rw [Recorded.result_bind hks]; rfl

theorem result_fulfil_ok {ks : List Completed} {as : List α} :
    (fulfil complete fault ks).result = .ok as ↔
      fault = none ∧
        List.Forall₂ (fun k a => (complete k.position k.name k.parameters).result = .ok a)
          ks as := by
  induction ks generalizing as with
  | nil =>
      cases fault with
      | none => simp [fulfil, eq_comm]
      | some f => simp [fulfil, Recorded.fail, Recorded.ofExcept]
  | cons k ks ih =>
      rw [result_fulfil_cons, List.forall₂_cons_left_iff]
      cases hk : (complete k.position k.name k.parameters).result with
      | error e => simp
      | ok a =>
          cases hks : (fulfil complete fault ks).result with
          | error e =>
              refine ⟨nofun, ?_⟩
              rintro ⟨hfault, b, bs, -, hbs, -⟩
              rw [ih.mpr ⟨hfault, hbs⟩] at hks
              cases hks
          | ok bs =>
              obtain ⟨hfault, hbs⟩ := ih.mp hks
              constructor
              · intro h
                exact ⟨hfault, a, bs, rfl, hbs, (Except.ok.inj h).symm⟩
              · rintro ⟨-, b, bs', hb, hbs', rfl⟩
                rw [ih.mpr ⟨hfault, hbs'⟩] at hks
                rw [Except.ok.inj hb, Except.ok.inj hks]
                rfl

/-- Handing on fails at the first constraint that is refused, or at the end in the fault. -/
theorem result_fulfil_error {ks : List Completed} {e : Fault} :
    (fulfil complete fault ks).result = .error e ↔
      (∃ before k after, ks = before ++ k :: after ∧
        (∀ b ∈ before, ∃ a, (complete b.position b.name b.parameters).result = .ok a) ∧
        (complete k.position k.name k.parameters).result = .error e) ∨
      ((∀ k ∈ ks, ∃ a, (complete k.position k.name k.parameters).result = .ok a) ∧
        ∃ problem position, fault = some (problem, position) ∧
          e = .atPosition problem position none) := by
  induction ks with
  | nil =>
      cases fault with
      | none => simp [fulfil]
      | some f =>
          obtain ⟨problem, position⟩ := f
          simp [fulfil, Recorded.fail, Recorded.ofExcept, eq_comm]
  | cons k ks ih =>
      rw [result_fulfil_cons]
      simp only [List.cons_eq_append_iff]
      cases hk : (complete k.position k.name k.parameters).result with
      | error e' =>
          constructor
          · intro h
            obtain rfl := Except.error.inj h
            exact .inl ⟨[], k, ks, .inl ⟨rfl, rfl⟩, nofun, hk⟩
          · rintro (⟨before, k', after, ⟨rfl, h⟩ | ⟨tail, rfl, -⟩, hbefore, hk'⟩ | ⟨hall, -⟩)
            · obtain ⟨rfl, rfl⟩ := List.cons.inj h
              exact congrArg _ (Except.error.inj (hk.symm.trans hk'))
            · obtain ⟨a, ha⟩ := hbefore k List.mem_cons_self
              cases hk.symm.trans ha
            · obtain ⟨a, ha⟩ := hall k List.mem_cons_self
              cases hk.symm.trans ha
      | ok a =>
          have hmap : ((fulfil complete fault ks).result.map (a :: ·) = .error e) ↔
              (fulfil complete fault ks).result = .error e := by
            cases (fulfil complete fault ks).result <;> simp [Except.map]
          rw [hmap, ih]
          constructor
          · rintro (⟨before, k', after, rfl, hbefore, hk'⟩ | ⟨hall, hfault⟩)
            · refine .inl ⟨k :: before, k', after, .inr ⟨before, rfl, rfl⟩, ?_, hk'⟩
              exact List.forall_mem_cons.mpr ⟨⟨a, hk⟩, hbefore⟩
            · exact .inr ⟨List.forall_mem_cons.mpr ⟨⟨a, hk⟩, hall⟩, hfault⟩
          · rintro (⟨before, k', after, ⟨rfl, h⟩ | ⟨tail, rfl, rfl⟩, hbefore, hk'⟩ |
              ⟨hall, hfault⟩)
            · obtain ⟨rfl, rfl⟩ := List.cons.inj h
              cases hk.symm.trans hk'
            · exact .inl ⟨tail, k', after, rfl, (List.forall_mem_cons.mp hbefore).2, hk'⟩
            · exact .inr ⟨(List.forall_mem_cons.mp hall).2, hfault⟩

end ParamRules.Constraint
