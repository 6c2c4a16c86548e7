import ParamRules.Proofs.Scan.Reading

/-!
# What the beginning of a text decides

A scan reads from left to right and never looks ahead, so what it has found in the beginning of a
text it finds in every text that begins alike.  `Reaches` is that part of a scan: the constraints
that a beginning completes, and the region that it ends in.  Every region can be closed, so the
beginnings of texts of the grammar are exactly the texts that a scan gets through
(`viable_iff_reaches`), and the first character that it does not get through is the first one that
no text of the grammar has there.
-/

namespace ParamRules

/-- Whether a code is that of a character which cannot stand where it stands. -/
def ErrorCode.isLexical : ErrorCode → Bool
  | .dataOutsideConstraint | .invalidCharacterInName | .emptyConstraint
  | .invalidCharacterInParameters | .unmaskedDelimiter | .invalidCharacterAfterParameter
  | .invalidCharacterAfterParameters => true
  | _ => false

namespace Constraint

open Grammar Outline

/-- The scan of a text from a region on, whose first character stands at an offset, completes
constraints and gets to a region. -/
inductive Reaches : Nat → Region → List Char → List Completed → Region → Prop where
  | nil (position : Nat) (region : Region) : Reaches position region [] [] region
  | move {position : Nat} {region next last : Region} {c : Char} {s : List Char}
      {ks : List Completed} :
      region.step c = .ok (.move next) → Reaches (position + 1) next s ks last →
      Reaches position region (c :: s) ks last
  | complete {position : Nat} {region last : Region} {c : Char} {s : List Char}
      {name : String} {parameters : List String} {ks : List Completed} :
      region.step c = .ok (.complete name parameters) →
      Reaches (position + 1) .outside s ks last →
      Reaches position region (c :: s) (⟨position, name, parameters⟩ :: ks) last

/-- So many characters from the beginning of a text. -/
def front (n : Nat) (s : String) : String :=
  String.ofList (s.toList.take n)

/-- Whether a text begins a well formed text that is not blank. -/
def Viable (s : String) : Prop :=
  ∃ r, Text.isAllBlank (s ++ r) = false ∧ WellFormed (s ++ r)

/-- Characters that end what a region has begun, or a constraint where nothing has begun. -/
def closing : Region → List Char
  | .outside => ['[', 'x', ']']
  | .inName _ => ['x', ']']
  | .inQuotes .. => ['\'', ')', ']']
  | .afterParameters .. => [']']
  | .inParameters .. | .inPlain .. | .afterQuote .. | .afterParameter .. => [')', ']']

@[simp] theorem toList_front (n : Nat) (s : String) : (front n s).toList = s.toList.take n :=
  String.toList_ofList

variable {position n : Nat} {region next last : Region} {a b s : List Char} {c : Char}
  {ks ls : List Completed} {problem : SyntaxProblem} {text : String}

/-! ## One step -/

theorem eq_bracket_of_step {name : String} {parameters : List String}
    (h : region.step c = .ok (.complete name parameters)) : c = ']' := by
  -- Only the regions that a closing bracket ends complete a constraint.
  cases region with
  | inName read =>
      simp only [Region.step] at h
      split_ifs at h with hbad hclose
      all_goals first | exact hclose | cases h
  | afterParameters name parameters =>
      simp only [Region.step] at h
      split_ifs at h with hclose
      exact hclose
  | outside | inParameters | inPlain | inQuotes | afterQuote | afterParameter =>
      simp only [Region.step, Region.stepAfter] at h
      split_ifs at h <;> cases h

theorem isLexical_of_step (h : region.step c = .error problem) :
    problem.code.isLexical = true := by
  cases region <;> simp only [Region.step, Region.stepAfter] at h <;> split_ifs at h <;>
    cases h <;> rfl

/-! ## Getting through a text -/

theorem Reaches.append (h : Reaches position region a ks next)
    (h' : Reaches (position + a.length) next b ls last) :
    Reaches position region (a ++ b) (ks ++ ls) last := by
  induction h with
  | nil position region => exact h'
  | move hstep _ ih =>
      refine .move hstep (ih ?_)
      rwa [List.length_cons, ← Nat.add_assoc, Nat.add_right_comm] at h'
  | complete hstep _ ih =>
      refine .complete hstep (ih ?_)
      rwa [List.length_cons, ← Nat.add_assoc, Nat.add_right_comm] at h'

/-- Past a beginning the outline of a text is that of the rest, from the region that the beginning
ends in. -/
theorem Reaches.ofRegion_append (h : Reaches position region a ks next) (b : List Char) :
    (ofRegion position region (a ++ b)).completed =
        ks ++ (ofRegion (position + a.length) next b).completed ∧
      (ofRegion position region (a ++ b)).fault =
        (ofRegion (position + a.length) next b).fault := by
  induction h with
  | nil position region => exact ⟨rfl, rfl⟩
  | move hstep _ ih =>
      rw [List.cons_append, ofRegion_of_move hstep, List.length_cons, ← Nat.add_assoc,
        Nat.add_right_comm]
      exact ih
  | complete hstep _ ih =>
      rw [List.cons_append, ofRegion_of_complete hstep, List.length_cons, ← Nat.add_assoc,
        Nat.add_right_comm, completed_cons, fault_cons, ih.1, ih.2]
      exact ⟨rfl, rfl⟩

/-- A scan gets through a text, or stops at the first character that its region refuses. -/
theorem reaches_or_stops (position : Nat) (region : Region) (s : List Char) :
    (∃ ks next, Reaches position region s ks next) ∨
      ∃ a c b ks next problem, s = a ++ c :: b ∧ Reaches position region a ks next ∧
        next.step c = .error problem := by
  induction s generalizing position region with
  | nil => exact .inl ⟨[], region, .nil position region⟩
  | cons c s ih =>
      cases hstep : region.step c with
      | error problem => exact .inr ⟨[], c, s, [], region, problem, rfl, .nil _ _, hstep⟩
      | ok step =>
          cases step with
          | move next =>
              rcases ih (position + 1) next with
                ⟨ks, last, h⟩ | ⟨a, d, b, ks, last, problem, rfl, h, hlast⟩
              · exact .inl ⟨ks, last, .move hstep h⟩
              · exact .inr ⟨c :: a, d, b, ks, last, problem, rfl, .move hstep h, hlast⟩
          | complete name parameters =>
              rcases ih (position + 1) .outside with
                ⟨ks, last, h⟩ | ⟨a, d, b, ks, last, problem, rfl, h, hlast⟩
              · exact .inl ⟨_ :: ks, last, .complete hstep h⟩
              · exact .inr
                  ⟨c :: a, d, b, _ :: ks, last, problem, rfl, .complete hstep h, hlast⟩

/-- A text that a scan gets through has a fault exactly when something is left to be closed. -/
theorem Reaches.fault_eq (h : Reaches position region s ks next) :
    (ofRegion position region s).fault =
      if next = .outside then none
      else some (.incomplete, ((position + s.length : Nat) - 1 : Int)) := by
  have hrest := (h.ofRegion_append []).2
  rw [List.append_nil] at hrest
  rw [hrest]
  split_ifs with hnext
  · rw [hnext, ofRegion_outside_nil]
  · rw [ofRegion_nil hnext]

/-- A scan that stops has the fault of the character that it stops at, whatever follows. -/
theorem Reaches.ofRegion_of_stop (h : Reaches position region a ks next)
    (hstop : next.step c = .error problem) (b : List Char) :
    (ofRegion position region (a ++ c :: b)).completed = ks ∧
      (ofRegion position region (a ++ c :: b)).fault =
        some (problem, ((position + a.length : Nat) : Int)) := by
  obtain ⟨hcompleted, hfault⟩ := h.ofRegion_append (c :: b)
  rw [hcompleted, hfault, ofRegion_of_error hstop]
  exact ⟨List.append_nil ks, rfl⟩

/-- Each completed constraint ends at a closing bracket, and the text up to there completes the
constraints up to it. -/
theorem reaches_of_completed {before after : List Completed} {k : Completed}
    (h : (ofRegion position region s).completed = before ++ k :: after) :
    ∃ a b, s = a ++ ']' :: b ∧ k.position = position + a.length ∧
      Reaches position region (a ++ [']']) (before ++ [k]) .outside := by
  induction s generalizing position region before with
  | nil =>
      have hnil : (ofRegion position region []).completed = [] := by cases region <;> rfl
      simp [hnil] at h
  | cons c s ih =>
      rcases ofRegion_cons_cases position region c s with
        ⟨problem, -, heq⟩ | ⟨next, hstep, heq⟩ | ⟨name, parameters, hstep, heq⟩
      · simp [heq] at h
      · rw [heq] at h
        obtain ⟨a, b, rfl, hposition, hreaches⟩ := ih h
        refine ⟨c :: a, b, rfl, ?_, .move hstep hreaches⟩
        rw [hposition, List.length_cons]
        omega
      · rw [heq, completed_cons] at h
        cases before with
        | nil =>
            obtain ⟨rfl, -⟩ := List.cons.inj h
            obtain rfl := eq_bracket_of_step hstep
            exact ⟨[], s, rfl, rfl, .complete hstep (.nil _ _)⟩
        | cons k' before =>
            obtain ⟨rfl, hrest⟩ := List.cons.inj h
            obtain ⟨a, b, rfl, hposition, hreaches⟩ := ih hrest
            refine ⟨c :: a, b, rfl, ?_, .complete hstep hreaches⟩
            rw [hposition, List.length_cons]
            omega

/-! ## Viable texts -/

/-- Every region can be closed. -/
theorem reaches_closing (position : Nat) (region : Region) :
    ∃ ks, Reaches position region (closing region) ks .outside := by
  cases region with
  | outside => exact ⟨_, .move rfl (.move rfl (.complete rfl (.nil _ _)))⟩
  | inName read => exact ⟨_, .move rfl (.complete rfl (.nil _ _))⟩
  | inQuotes name parameters read =>
      exact ⟨_, .move rfl (.move rfl (.complete rfl (.nil _ _)))⟩
  | afterParameters name parameters => exact ⟨_, .complete rfl (.nil _ _)⟩
  | inParameters name parameters => exact ⟨_, .move rfl (.complete rfl (.nil _ _))⟩
  | inPlain name parameters read => exact ⟨_, .move rfl (.complete rfl (.nil _ _))⟩
  | afterQuote name parameters read => exact ⟨_, .move rfl (.complete rfl (.nil _ _))⟩
  | afterParameter name parameters => exact ⟨_, .move rfl (.complete rfl (.nil _ _))⟩

theorem isAllBlank_of_bracket (h : ']' ∈ text.toList) : Text.isAllBlank text = false :=
  List.all_eq_false.mpr ⟨']', h, by decide +kernel⟩

theorem bracket_mem_closing (region : Region) : ']' ∈ closing region := by
  cases region <;> simp [closing]

theorem ofText_of_not_blank (h : Text.isAllBlank text = false) :
    ofText text = ofRegion 0 .outside text.toList := by
  rw [ofText, h]
  rfl

theorem wellFormed_iff_fault (h : Text.isAllBlank text = false) :
    WellFormed text ↔ (ofRegion 0 .outside text.toList).fault = none := by
  rw [← fault_ofText_eq_none_iff, ofText_of_not_blank h]

theorem not_viable_of_stop (htext : text.toList = a ++ c :: b)
    (h : Reaches 0 .outside a ks next) (hstop : next.step c = .error problem) :
    ¬ Viable text := by
  rintro ⟨r, hblank, hwell⟩
  rw [wellFormed_iff_fault hblank, String.toList_append, htext, List.append_assoc,
    List.cons_append, (h.ofRegion_of_stop hstop _).2] at hwell
  cases hwell

/-- The viable texts are those that a scan gets through. -/
theorem viable_iff_reaches :
    Viable text ↔ ∃ ks next, Reaches 0 .outside text.toList ks next := by
  constructor
  · intro hviable
    rcases reaches_or_stops 0 .outside text.toList with
      h | ⟨a, c, b, ks, next, problem, htext, h, hstop⟩
    · exact h
    · exact absurd hviable (not_viable_of_stop htext h hstop)
  · rintro ⟨ks, next, h⟩
    obtain ⟨ls, hclosing⟩ := reaches_closing (0 + text.toList.length) next
    have htext : (text ++ String.ofList (closing next)).toList = text.toList ++ closing next := by
      rw [String.toList_append, String.toList_ofList]
    have hblank : Text.isAllBlank (text ++ String.ofList (closing next)) = false :=
      isAllBlank_of_bracket (htext ▸ List.mem_append_right _ (bracket_mem_closing next))
    refine ⟨_, hblank, (wellFormed_iff_fault hblank).mpr ?_⟩
    rw [htext, (h.append hclosing).fault_eq, if_pos rfl]

theorem ofText_of_stop (hblank : Text.isAllBlank text = false) (htext : text.toList = a ++ c :: b)
    (h : Reaches 0 .outside a ks next) (hstop : next.step c = .error problem) :
    ofText text = ⟨ks, some (problem, (a.length : Int))⟩ := by
  obtain ⟨hcompleted, hfault⟩ := h.ofRegion_of_stop hstop b
  rw [ofText_of_not_blank hblank, htext, ← hcompleted, ← Nat.zero_add a.length, ← hfault]

/-! ## Texts that begin alike -/

theorem front_of_toList (h : text.toList = a ++ b) : front a.length text = String.ofList a := by
  rw [front, h, List.take_left]

theorem front_succ_of_toList (h : text.toList = a ++ c :: b) :
    front (a.length + 1) text = String.ofList (a ++ [c]) := by
  have hsplit : text.toList = (a ++ [c]) ++ b := by rw [h, List.append_assoc, List.singleton_append]
  have hlength : (a ++ [c]).length = a.length + 1 := List.length_append
  rw [← hlength, front_of_toList hsplit]

/-- A text that begins like another one up to a character has that character in the same place. -/
theorem exists_toList_of_front_eq {text' : String} (h : text.toList = a ++ c :: b)
    (hfront : front (a.length + 1) text' = front (a.length + 1) text) :
    ∃ b', text'.toList = a ++ c :: b' := by
  have htake : text'.toList.take (a.length + 1) = a ++ [c] := by
    rw [← toList_front, hfront, front_succ_of_toList h, String.toList_ofList]
  refine ⟨text'.toList.drop (a.length + 1), ?_⟩
  calc text'.toList
      = text'.toList.take (a.length + 1) ++ text'.toList.drop (a.length + 1) :=
        (List.take_append_drop _ _).symm
    _ = a ++ c :: text'.toList.drop (a.length + 1) := by
        rw [htake, List.append_assoc, List.singleton_append]

end Constraint

end ParamRules
