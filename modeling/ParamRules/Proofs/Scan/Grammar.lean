import ParamRules.Proofs.Scan.Outline

/-!
# The bracket grammar

The texts of constraints as a grammar, with the names and parameters that a text stands for.  The
scan and the grammar say the same: a text is scanned without a fault exactly when it is well
formed, and the completed constraints are then its reading.

A well formed text may have spaces between constraints and around parameters, and one comma after
the last parameter.  Among quotes every character stands for itself, but for a quote, which is
written twice.
-/

namespace ParamRules.Constraint

/-- Characters that a name may hold. -/
def IsNameCharacter (c : Char) : Prop :=
  c ≠ ' ' ∧ c ≠ '\'' ∧ c ≠ '[' ∧ c ≠ ']' ∧ c ≠ '(' ∧ c ≠ ')'

/-- Characters that a parameter without quotes may hold. -/
def IsPlainCharacter (c : Char) : Prop :=
  c ≠ ' ' ∧ c ≠ ',' ∧ c ≠ '\'' ∧ c ≠ '[' ∧ c ≠ ']' ∧ c ≠ '(' ∧ c ≠ ')'

/-- One or more characters of a name. -/
def IsName (name : List Char) : Prop :=
  name ≠ [] ∧ ∀ c ∈ name, IsNameCharacter c

instance (c : Char) : Decidable (IsNameCharacter c) :=
  inferInstanceAs (Decidable (_ ∧ _))

instance (name : List Char) : Decidable (IsName name) :=
  @instDecidableAnd _ _ _ (List.decidableBAll IsNameCharacter name)

theorem isNameCharacter_of_not_delimiter {c : Char}
    (h : ¬ (c = ' ' || c = '\'' || c = '[' || c = ')') = true) (hclose : c ≠ ']')
    (hopen : c ≠ '(') :
    IsNameCharacter c := by
  simp only [Bool.or_eq_true, decide_eq_true_eq, not_or] at h
  obtain ⟨⟨⟨hspace, hquote⟩, hbracket⟩, hparenthesis⟩ := h
  exact ⟨hspace, hquote, hbracket, hclose, hopen, hparenthesis⟩

/-- So many spaces. -/
def spaces (n : Nat) : List Char := List.replicate n ' '

namespace Grammar

/-- What stands between quotes, and the text that it stands for. -/
inductive Quoted : List Char → List Char → Prop where
  | nil : Quoted [] []
  | character {c : Char} {w v : List Char} :
      c ≠ '\'' → Quoted w v → Quoted (c :: w) (c :: v)
  | quote {w v : List Char} : Quoted w v → Quoted ('\'' :: '\'' :: w) ('\'' :: v)

/-- A written parameter and its text. -/
inductive Parameter : List Char → List Char → Prop where
  | quoted {w v : List Char} : Quoted w v → Parameter ('\'' :: w ++ ['\'']) v
  | plain {w : List Char} : w ≠ [] → (∀ c ∈ w, IsPlainCharacter c) → Parameter w w

/-- Parameters after the first one, each after a comma, and a comma that may follow them. -/
inductive Further : List Char → List (List Char) → Prop where
  | none : Further [] []
  | trailing (n : Nat) : Further (',' :: spaces n) []
  | more (m n : Nat) {w v r : List Char} {vs : List (List Char)} :
      Parameter w v → Further r vs →
      Further (',' :: (spaces m ++ w ++ spaces n ++ r)) (v :: vs)

/-- What stands between parentheses. -/
inductive Parameters : List Char → List (List Char) → Prop where
  | none (n : Nat) : Parameters (spaces n) []
  | some (m n : Nat) {w v r : List Char} {vs : List (List Char)} :
      Parameter w v → Further r vs → Parameters (spaces m ++ w ++ spaces n ++ r) (v :: vs)

/-- A written constraint with its name and its parameters. -/
inductive Written : List Char → List Char → List (List Char) → Prop where
  | bare {name : List Char} : IsName name → Written ('[' :: (name ++ [']'])) name []
  | listed {name w : List Char} {parameters : List (List Char)} :
      IsName name → Parameters w parameters →
      Written ('[' :: (name ++ '(' :: (w ++ [')', ']']))) name parameters

/-- Spaces and constraints, with what the constraints say. -/
inductive Sequence : List Char → List (String × List String) → Prop where
  | nil : Sequence [] []
  | space {s : List Char} {readings : List (String × List String)} :
      Sequence s readings → Sequence (' ' :: s) readings
  | constraint {w s name : List Char} {parameters : List (List Char)}
      {readings : List (String × List String)} :
      Written w name parameters → Sequence s readings →
      Sequence (w ++ s)
        ((String.ofList name, parameters.map String.ofList) :: readings)

end Grammar

open Grammar

/-- The reading of a text: names with their parameters, in order. -/
inductive Reads : String → List (String × List String) → Prop where
  | blank {s : String} : Text.isAllBlank s = true → Reads s []
  | sequence {s : String} {readings : List (String × List String)} :
      Sequence s.toList readings → Reads s readings

/-- Whether a text is blank, or spaces and constraints. -/
def WellFormed (s : String) : Prop :=
  Text.isAllBlank s = true ∨ ∃ readings, Sequence s.toList readings

theorem wellFormed_iff_reads {s : String} : WellFormed s ↔ ∃ readings, Reads s readings := by
  constructor
  · rintro (h | ⟨readings, h⟩)
    · exact ⟨[], .blank h⟩
    · exact ⟨readings, .sequence h⟩
  · rintro ⟨readings, h | h⟩
    · exact .inl h
    · exact .inr ⟨readings, h⟩

@[simp] theorem spaces_zero : spaces 0 = [] := rfl

theorem spaces_succ (n : Nat) : spaces (n + 1) = ' ' :: spaces n := rfl

@[simp] theorem length_spaces (n : Nat) : (spaces n).length = n := by
  simp [spaces]

/-! ## Every well formed text is scanned

Each part of the grammar takes the scan from one region to another, whatever text follows.
-/

namespace Outline

variable {position : Nat} {name read s : List Char} {parameters : List (List Char)}

theorem ofRegion_spaces {region : Region} (h : region.step ' ' = .ok (.move region)) (n : Nat)
    (position : Nat) (s : List Char) :
    ofRegion position region (spaces n ++ s) = ofRegion (position + n) region s := by
  induction n generalizing position with
  | zero => rfl
  | succ n ih =>
      rw [spaces_succ, List.cons_append, ofRegion_of_move h, ih]
      congr 1
      omega

theorem step_inName {c : Char} (hc : IsNameCharacter c) (read : List Char) :
    Region.step (.inName read) c = .ok (.move (.inName (c :: read))) := by
  obtain ⟨h₁, h₂, h₃, h₄, h₅, h₆⟩ := hc
  simp [Region.step, h₁, h₂, h₃, h₄, h₅, h₆]

theorem ofRegion_name {w : List Char} (hw : ∀ c ∈ w, IsNameCharacter c) (position : Nat)
    (read s : List Char) :
    ofRegion position (.inName read) (w ++ s) =
      ofRegion (position + w.length) (.inName (w.reverse ++ read)) s := by
  induction w generalizing position read with
  | nil => rfl
  | cons c w ih =>
      obtain ⟨hc, hw⟩ := List.forall_mem_cons.mp hw
      rw [List.cons_append, ofRegion_of_move (step_inName hc read), ih hw]
      simp [Nat.add_comm, Nat.add_left_comm]

theorem step_inPlain {c : Char} (hc : IsPlainCharacter c) (name : List Char)
    (parameters : List (List Char)) (read : List Char) :
    Region.step (.inPlain name parameters read) c =
      .ok (.move (.inPlain name parameters (c :: read))) := by
  obtain ⟨h₁, h₂, h₃, h₄, h₅, h₆, h₇⟩ := hc
  simp [Region.step, h₁, h₂, h₃, h₄, h₅, h₆, h₇]

theorem step_inParameters_plain {c : Char} (hc : IsPlainCharacter c) (name : List Char)
    (parameters : List (List Char)) :
    Region.step (.inParameters name parameters) c =
      .ok (.move (.inPlain name parameters [c])) := by
  obtain ⟨h₁, h₂, h₃, h₄, h₅, h₆, h₇⟩ := hc
  simp [Region.step, h₁, h₂, h₃, h₄, h₅, h₆, h₇]

theorem ofRegion_plain {w : List Char} (hw : ∀ c ∈ w, IsPlainCharacter c) (position : Nat)
    (name : List Char) (parameters : List (List Char)) (read s : List Char) :
    ofRegion position (.inPlain name parameters read) (w ++ s) =
      ofRegion (position + w.length) (.inPlain name parameters (w.reverse ++ read)) s := by
  induction w generalizing position read with
  | nil => rfl
  | cons c w ih =>
      obtain ⟨hc, hw⟩ := List.forall_mem_cons.mp hw
      rw [List.cons_append, ofRegion_of_move (step_inPlain hc name parameters read), ih hw]
      simp [Nat.add_comm, Nat.add_left_comm]

theorem ofRegion_quoted {w v : List Char} (hw : Quoted w v) (position : Nat)
    (name : List Char) (parameters : List (List Char)) (read s : List Char) :
    ofRegion position (.inQuotes name parameters read) (w ++ '\'' :: s) =
      ofRegion (position + w.length + 1) (.afterQuote name parameters (v.reverse ++ read)) s := by
  induction hw generalizing position read with
  | nil => rw [List.nil_append, ofRegion_of_move rfl]; rfl
  | character hc _ ih =>
      rename_i c w v _
      have hstep : Region.step (.inQuotes name parameters read) c =
          .ok (.move (.inQuotes name parameters (c :: read))) := by
        simp [Region.step, hc]
      rw [List.cons_append, ofRegion_of_move hstep, ih]
      simp [Nat.add_comm, Nat.add_left_comm]
  | quote _ ih =>
      rw [List.cons_append, List.cons_append, ofRegion_of_move rfl, ofRegion_of_move rfl, ih]
      simp [Nat.add_comm, Nat.add_left_comm]

/-- Characters that may follow a parameter. -/
def EndsParameter (c : Char) : Prop :=
  c = ' ' ∨ c = ',' ∨ c = ')'

/-- Before a character that may follow a parameter, a finished parameter is one to the scan,
whether it is quoted or not. -/
theorem ofRegion_parameter {w v : List Char} (hw : Parameter w v) {d : Char}
    (hd : EndsParameter d) (position : Nat) (name : List Char) (parameters : List (List Char))
    (s : List Char) :
    ofRegion position (.inParameters name parameters) (w ++ d :: s) =
      ofRegion (position + w.length) (.afterParameter name (v.reverse :: parameters)) (d :: s) := by
  cases hw with
  | quoted hquoted =>
      rename_i w
      have hend : ∀ position, ofRegion position (.afterQuote name parameters v.reverse) (d :: s) =
          ofRegion position (.afterParameter name (v.reverse :: parameters)) (d :: s) := by
        intro position
        rw [ofRegion, ofRegion]
        rcases hd with rfl | rfl | rfl <;> rfl
      rw [List.append_assoc, List.cons_append, ofRegion_of_move rfl, List.singleton_append,
        ofRegion_quoted hquoted, List.append_nil, hend]
      simp [Nat.add_comm, Nat.add_left_comm]
  | plain hne hplain =>
      obtain ⟨c, w', rfl⟩ := List.exists_cons_of_ne_nil hne
      obtain ⟨hc, hplain⟩ := List.forall_mem_cons.mp hplain
      have hend : ∀ position read,
          ofRegion position (.inPlain name parameters read) (d :: s) =
          ofRegion position (.afterParameter name (read :: parameters)) (d :: s) := by
        intro position read
        rw [ofRegion, ofRegion]
        rcases hd with rfl | rfl | rfl <;> rfl
      rw [List.cons_append, ofRegion_of_move (step_inParameters_plain hc name parameters),
        ofRegion_plain hplain, hend]
      simp [Nat.add_comm, Nat.add_left_comm]

/-- What follows a parameter begins with a character that may follow it. -/
theorem exists_endsParameter {r : List Char} {vs : List (List Char)} (hr : Further r vs) (n : Nat)
    (s : List Char) : ∃ d s', EndsParameter d ∧ spaces n ++ (r ++ ')' :: s) = d :: s' := by
  cases n with
  | succ n => exact ⟨' ', _, .inl rfl, rfl⟩
  | zero =>
      cases hr with
      | none => exact ⟨')', s, .inr (.inr rfl), rfl⟩
      | trailing => exact ⟨',', _, .inr (.inl rfl), rfl⟩
      | more => exact ⟨',', _, .inr (.inl rfl), rfl⟩

/-- A parameter with the spaces around it. -/
theorem ofRegion_parameter_spaces {w v r : List Char} {vs : List (List Char)}
    (hw : Parameter w v) (hr : Further r vs) (m n position : Nat) (name : List Char)
    (parameters : List (List Char)) (s : List Char) :
    ofRegion position (.inParameters name parameters)
        (spaces m ++ w ++ spaces n ++ r ++ ')' :: s) =
      ofRegion (position + m + w.length + n) (.afterParameter name (v.reverse :: parameters))
        (r ++ ')' :: s) := by
  obtain ⟨d, s', hd, heq⟩ := exists_endsParameter hr n s
  calc
    _ = ofRegion position (.inParameters name parameters)
          (spaces m ++ (w ++ d :: s')) := by simp [← heq]
    _ = ofRegion (position + m + w.length) (.afterParameter name (v.reverse :: parameters))
          (d :: s') := by rw [ofRegion_spaces rfl, ofRegion_parameter hw hd]
    _ = _ := by rw [← heq, ofRegion_spaces rfl]

/-- Values as the regions keep them: the last one first, and each of them last character first. -/
def kept (vs : List (List Char)) : List (List Char) :=
  vs.reverse.map List.reverse

theorem kept_cons_append (v : List Char) (vs parameters : List (List Char)) :
    kept (v :: vs) ++ parameters = kept vs ++ v.reverse :: parameters := by
  simp [kept]

theorem ofRegion_further {r : List Char} {vs : List (List Char)} (hr : Further r vs)
    (position : Nat) (name : List Char) (parameters : List (List Char)) (s : List Char) :
    ofRegion position (.afterParameter name parameters) (r ++ ')' :: s) =
      ofRegion (position + r.length + 1) (.afterParameters name (kept vs ++ parameters)) s := by
  induction hr generalizing position parameters with
  | none => rw [List.nil_append, ofRegion_of_move rfl]; rfl
  | trailing n =>
      rw [List.cons_append, ofRegion_of_move rfl, ofRegion_spaces rfl, ofRegion_of_move rfl]
      simp [kept, Nat.add_comm, Nat.add_left_comm]
  | more m n hw hr ih =>
      rw [List.cons_append, ofRegion_of_move rfl, ofRegion_parameter_spaces hw hr, ih,
        kept_cons_append]
      simp only [List.length_cons, List.length_append, length_spaces]
      congr 1
      omega

theorem ofRegion_parameters {w : List Char} {vs : List (List Char)} (hw : Parameters w vs)
    (position : Nat) (name s : List Char) :
    ofRegion position (.inParameters name []) (w ++ ')' :: s) =
      ofRegion (position + w.length + 1) (.afterParameters name (kept vs)) s := by
  cases hw with
  | none n =>
      rw [ofRegion_spaces rfl, ofRegion_of_move rfl]
      simp [kept]
  | some m n hparameter hr =>
      rw [ofRegion_parameter_spaces hparameter hr, ofRegion_further hr,
        ← kept_cons_append, List.append_nil]
      simp only [List.length_append, length_spaces]
      congr 1
      omega

theorem step_inName_close (read : List Char) (h : read ≠ []) :
    Region.step (.inName read) ']' =
      .ok (.complete (String.ofList read.reverse) []) := by
  simp [Region.step, Constraint.completed, readText, h]

theorem step_inName_open (read : List Char) (h : read ≠ []) :
    Region.step (.inName read) '(' = .ok (.move (.inParameters read [])) := by
  simp [Region.step, h]

/-- A written constraint is completed at its last character. -/
theorem ofRegion_written {w : List Char} {name : List Char} {parameters : List (List Char)}
    (hw : Written w name parameters) (position : Nat) (s : List Char) :
    ofRegion position .outside (w ++ s) =
      (ofRegion (position + w.length) .outside s).cons
        ⟨position + w.length - 1, String.ofList name, parameters.map String.ofList⟩ := by
  cases hw with
  | bare hname =>
      rw [List.cons_append, ofRegion_of_move rfl, List.append_assoc, ofRegion_name hname.2,
        List.singleton_append, ofRegion_of_complete (step_inName_close _ (by simp [hname.1]))]
      simp [Nat.add_comm, Nat.add_left_comm]
  | listed hname hparameters =>
      rename_i w
      have hclose : Region.step (.afterParameters name.reverse (kept parameters)) ']' =
          .ok (.complete (String.ofList name) (parameters.map String.ofList)) := by
        simp [Region.step, Constraint.completed, readText, kept, Function.comp_def]
      have hsplit : '[' :: (name ++ '(' :: (w ++ [')', ']'])) ++ s =
          '[' :: (name ++ '(' :: (w ++ ')' :: ']' :: s)) := by simp
      rw [hsplit, ofRegion_of_move rfl, ofRegion_name hname.2,
        ofRegion_of_move (step_inName_open _ (by simp [hname.1])), List.append_nil,
        ofRegion_parameters hparameters, ofRegion_of_complete hclose]
      simp only [List.length_cons, List.length_append, List.length_nil]
      congr 2 <;> omega

/-- A sequence is scanned without a fault, and to its reading. -/
theorem of_sequence {s : List Char} {readings : List (String × List String)}
    (hs : Sequence s readings) (position : Nat) :
    (ofRegion position .outside s).fault = none ∧
      (ofRegion position .outside s).completed.map Completed.reading = readings := by
  induction hs generalizing position with
  | nil => exact ⟨rfl, rfl⟩
  | space _ ih => rw [ofRegion_of_move rfl]; exact ih _
  | constraint hw _ ih =>
      rw [ofRegion_written hw, fault_cons, completed_cons, List.map_cons, (ih _).2]
      exact ⟨(ih _).1, rfl⟩

end Outline

end ParamRules.Constraint
