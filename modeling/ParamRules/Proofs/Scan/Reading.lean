import ParamRules.Proofs.Scan.Grammar

/-!
# Scanning reads the grammar

What is scanned without a fault is well formed.  The region that a scan has reached says what the
rest of the text still owes: the end of a name, of a parameter, of the parameters.  `Finishes` puts
that down in the words of the grammar, and one step backwards over a character keeps it
(`finishes_of_move`, `finishes_of_complete`).
-/

namespace ParamRules.Constraint

open Grammar Outline

variable {name read s : List Char} {parameters : List (List Char)} {c : Char} {next : Region}
  {readings : List (String × List String)}

/-! ## What a text still owes -/

/-- The closing bracket of a constraint, and what follows the constraint. -/
def Ends (name : List Char) (vs : List (List Char)) (s : List Char)
    (readings : List (String × List String)) : Prop :=
  ∃ r rest, s = ']' :: r ∧ Sequence r rest ∧
    readings = (String.ofList name, vs.map String.ofList) :: rest

/-- What follows a parameter of a constraint. -/
def Continues (name : List Char) (vs : List (List Char)) (s : List Char)
    (readings : List (String × List String)) : Prop :=
  ∃ n r us t, s = spaces n ++ (r ++ ')' :: t) ∧ Further r us ∧ Ends name (vs ++ us) t readings

/-- The rest of a quoted parameter of which a part is read, and what follows it. -/
def ContinuesQuoted (name : List Char) (vs : List (List Char)) (read s : List Char)
    (readings : List (String × List String)) : Prop :=
  ∃ w v t, s = w ++ '\'' :: t ∧ Quoted w v ∧ Continues name (vs ++ [read ++ v]) t readings

/-- What the text after a region has to be, when the scan is to end in a reading. -/
def Finishes : Region → List Char → List (String × List String) → Prop
  | .outside, s, readings => Sequence s readings
  | .inName read, s, readings => (∀ c ∈ read, IsNameCharacter c) →
      ∃ w t name parameters rest, s = w ++ t ∧
        Written ('[' :: (read.reverse ++ w)) name parameters ∧ Sequence t rest ∧
        readings = (String.ofList name, parameters.map String.ofList) :: rest
  | .inParameters name parameters, s, readings =>
      ∃ w vs t, s = w ++ ')' :: t ∧ Parameters w vs ∧
        Ends name.reverse (kept parameters ++ vs) t readings
  | .inPlain name parameters read, s, readings =>
      ∃ w t, s = w ++ t ∧ (∀ c ∈ w, IsPlainCharacter c) ∧
        Continues name.reverse (kept parameters ++ [read.reverse ++ w]) t readings
  | .inQuotes name parameters read, s, readings =>
      ContinuesQuoted name.reverse (kept parameters) read.reverse s readings
  | .afterQuote name parameters read, s, readings =>
      (∃ t, s = '\'' :: t ∧
        ContinuesQuoted name.reverse (kept parameters) ('\'' :: read).reverse t readings) ∨
      Continues name.reverse (kept parameters ++ [read.reverse]) s readings
  | .afterParameter name parameters, s, readings =>
      Continues name.reverse (kept parameters) s readings
  | .afterParameters name parameters, s, readings =>
      Ends name.reverse (kept parameters) s readings

/-! ## One step backwards -/

theorem Grammar.Further.of_parameters {w : List Char} {vs : List (List Char)}
    (h : Parameters w vs) : Further (',' :: w) vs := by
  cases h with
  | none n => exact .trailing n
  | some m n hw hr => exact .more m n hw hr

theorem Grammar.Parameters.space {w : List Char} {vs : List (List Char)} (h : Parameters w vs) :
    Parameters (' ' :: w) vs := by
  cases h with
  | none n => exact .none (n + 1)
  | some m n hw hr => exact .some (m + 1) n hw hr

theorem Continues.space {vs : List (List Char)} (h : Continues name vs s readings) :
    Continues name vs (' ' :: s) readings := by
  obtain ⟨n, r, us, t, rfl, hr, hends⟩ := h
  exact ⟨n + 1, r, us, t, rfl, hr, hends⟩

theorem kept_cons (v : List Char) (parameters : List (List Char)) :
    kept (v :: parameters) = kept parameters ++ [v.reverse] := by
  simp [kept]

theorem continues_of_stepAfter
    (h : Region.stepAfter name parameters c = .ok (.move next)) (hs : Finishes next s readings) :
    Continues name.reverse (kept parameters) (c :: s) readings := by
  unfold Region.stepAfter at h
  split_ifs at h with hspace hcomma hclose
  · cases h
    exact hspace ▸ Continues.space hs
  · cases h
    obtain ⟨w, vs, t, rfl, hw, hends⟩ := hs
    exact ⟨0, ',' :: w, vs, t, by simp [hcomma], .of_parameters hw, hends⟩
  · cases h
    exact ⟨0, [], [], s, by simp [hclose], .none, by rwa [List.append_nil]⟩

/-- A written parameter and what follows it are parameters and the end of the constraint. -/
theorem finishes_of_parameter {w v t : List Char} (hw : Parameter w v)
    (ht : Continues name.reverse (kept parameters ++ [v]) t readings) :
    Finishes (.inParameters name parameters) (w ++ t) readings := by
  obtain ⟨n, r, us, t, rfl, hr, hends⟩ := ht
  refine ⟨_, v :: us, t, ?_, .some 0 n hw hr, ?_⟩
  · simp
  · simpa using hends

theorem finishes_inName (h : (Region.inName read).step c = .ok (.move next))
    (hs : Finishes next s readings) : Finishes (.inName read) (c :: s) readings := by
  intro hread
  simp only [Region.step, Constraint.completed] at h
  split_ifs at h with hbad hclose hempty hopen hempty
  · cases h
  · cases h
    obtain ⟨w, vs, t, rfl, hw, r, rest, rfl, hr, rfl⟩ := hs
    refine ⟨'(' :: (w ++ [')', ']']), r, read.reverse, vs, rest, by simp [hopen], ?_, hr, rfl⟩
    refine .listed ⟨by simpa using hempty, ?_⟩ hw
    simpa using hread
  · cases h
    have hc : IsNameCharacter c := isNameCharacter_of_not_delimiter hbad hclose hopen
    obtain ⟨w, t, name, parameters, rest, rfl, hw, ht, rfl⟩ :=
      hs (List.forall_mem_cons.mpr ⟨hc, hread⟩)
    exact ⟨c :: w, t, name, parameters, rest, rfl, by simpa using hw, ht, rfl⟩

theorem finishes_inParameters (h : (Region.inParameters name parameters).step c = .ok (.move next))
    (hs : Finishes next s readings) :
    Finishes (.inParameters name parameters) (c :: s) readings := by
  simp only [Region.step] at h
  split_ifs at h with hspace hbad hclose hquote
  · cases h
    obtain ⟨w, vs, t, rfl, hw, hends⟩ := hs
    exact ⟨' ' :: w, vs, t, by simp [hspace], .space hw, hends⟩
  · cases h
    exact ⟨[], [], s, by simp [hclose], .none 0, by rwa [List.append_nil]⟩
  · cases h
    obtain ⟨w, v, t, rfl, hw, ht⟩ := hs
    have := finishes_of_parameter (.quoted hw) ht
    simpa [hquote] using this
  · cases h
    obtain ⟨w, t, rfl, hw, ht⟩ := hs
    have hc : IsPlainCharacter c := by
      simp only [Bool.or_eq_true, decide_eq_true_eq, not_or] at hbad
      exact ⟨hspace, hbad.1.1.1, hquote, hbad.1.1.2, hbad.1.2, hbad.2, hclose⟩
    exact finishes_of_parameter
      (.plain (List.cons_ne_nil c w) (List.forall_mem_cons.mpr ⟨hc, hw⟩)) ht

theorem finishes_inPlain (h : (Region.inPlain name parameters read).step c = .ok (.move next))
    (hs : Finishes next s readings) :
    Finishes (.inPlain name parameters read) (c :: s) readings := by
  simp only [Region.step] at h
  split_ifs at h with hends hbad
  · have := continues_of_stepAfter h hs
    exact ⟨[], c :: s, rfl, List.forall_mem_nil _, by rwa [List.append_nil, ← kept_cons]⟩
  · cases h
    obtain ⟨w, t, rfl, hw, ht⟩ := hs
    have hc : IsPlainCharacter c := by
      simp only [Bool.or_eq_true, decide_eq_true_eq, not_or] at hends hbad
      exact ⟨hends.1.1, hends.1.2, hbad.2, hbad.1.1.1, hbad.1.1.2, hbad.1.2, hends.2⟩
    exact ⟨c :: w, t, rfl, List.forall_mem_cons.mpr ⟨hc, hw⟩, by simpa using ht⟩

theorem finishes_inQuotes (h : (Region.inQuotes name parameters read).step c = .ok (.move next))
    (hs : Finishes next s readings) :
    Finishes (.inQuotes name parameters read) (c :: s) readings := by
  simp only [Region.step] at h
  split_ifs at h with hquote
  · cases h
    subst hquote
    -- The quote is the first one of a pair, or ends the parameter.
    rcases hs with ⟨t, rfl, w, v, t', rfl, hw, ht⟩ | hs
    · exact ⟨'\'' :: '\'' :: w, '\'' :: v, t', rfl, .quote hw, by simpa using ht⟩
    · exact ⟨[], [], s, rfl, .nil, by rwa [List.append_nil]⟩
  · cases h
    obtain ⟨w, v, t, rfl, hw, ht⟩ := hs
    exact ⟨c :: w, c :: v, t, rfl, .character hquote hw, by simpa using ht⟩

/-- What the text after a character owes, with the character before it is what was owed there. -/
theorem finishes_of_move {region : Region} (h : region.step c = .ok (.move next))
    (hs : Finishes next s readings) : Finishes region (c :: s) readings := by
  cases region with
  | outside =>
      simp only [Region.step] at h
      split_ifs at h with hspace hopen
      · cases h
        exact hspace ▸ Sequence.space hs
      · cases h
        obtain ⟨w, t, name, parameters, rest, rfl, hw, ht, rfl⟩ := hs (by simp)
        exact hopen ▸ Sequence.constraint (w := '[' :: w) hw ht
  | inName read => exact finishes_inName h hs
  | inParameters name parameters => exact finishes_inParameters h hs
  | inPlain name parameters read => exact finishes_inPlain h hs
  | inQuotes name parameters read => exact finishes_inQuotes h hs
  | afterQuote name parameters read =>
      simp only [Region.step] at h
      split_ifs at h with hquote
      · cases h
        exact .inl ⟨s, by rw [hquote], hquote ▸ hs⟩
      · exact .inr (by rw [← kept_cons]; exact continues_of_stepAfter h hs)
  | afterParameter name parameters => exact continues_of_stepAfter h hs
  | afterParameters name parameters =>
      simp only [Region.step] at h
      split_ifs at h with hclose
      cases h

theorem finishes_of_complete {region : Region} {name : String} {parameters : List String}
    (h : region.step c = .ok (.complete name parameters)) (hs : Sequence s readings) :
    Finishes region (c :: s) ((name, parameters) :: readings) := by
  cases region with
  | outside =>
      simp only [Region.step] at h
      split_ifs at h <;> cases h
  | inName read =>
      intro hread
      simp only [Region.step] at h
      split_ifs at h with hbad hclose hempty hopen hempty <;> cases h
      refine ⟨[']'], s, read.reverse, [], readings, by simp [hclose], ?_, hs, rfl⟩
      refine .bare ⟨by simpa using hempty, ?_⟩
      simpa using hread
  | inParameters name parameters =>
      simp only [Region.step] at h
      split_ifs at h <;> cases h
  | inPlain name parameters read =>
      simp only [Region.step, Region.stepAfter] at h
      split_ifs at h <;> cases h
  | inQuotes name parameters read =>
      simp only [Region.step] at h
      split_ifs at h <;> cases h
  | afterQuote name parameters read =>
      simp only [Region.step, Region.stepAfter] at h
      split_ifs at h <;> cases h
  | afterParameter name parameters =>
      simp only [Region.step, Region.stepAfter] at h
      split_ifs at h <;> cases h
  | afterParameters name parameters =>
      simp only [Region.step] at h
      split_ifs at h with hclose
      cases h
      exact ⟨s, readings, by rw [hclose], hs, by simp [kept, readText, Function.comp_def]⟩

/-- A scan without a fault has read what the text owed. -/
theorem finishes_of_fault_eq_none {position : Nat} {region : Region} {s : List Char}
    (h : (ofRegion position region s).fault = none) :
    Finishes region s ((ofRegion position region s).completed.map Completed.reading) := by
  induction s generalizing position region with
  | nil =>
      -- A text that ends in any other region is incomplete, so nothing is owed.
      by_cases hregion : region = .outside
      · subst hregion
        exact .nil
      · simp [ofRegion_nil hregion] at h
  | cons c r ih =>
      rcases ofRegion_cons_cases position region c r with
        ⟨problem, -, heq⟩ | ⟨next, hstep, heq⟩ | ⟨name, parameters, hstep, heq⟩
      · simp [heq] at h
      · rw [heq] at h ⊢
        exact finishes_of_move hstep (ih h)
      · rw [heq] at h ⊢
        exact finishes_of_complete hstep (ih h)

/-! ## Texts -/

theorem fault_ofText_eq_none_iff {s : String} : (ofText s).fault = none ↔ WellFormed s := by
  unfold ofText WellFormed
  split_ifs with hblank
  · simp [hblank]
  · constructor
    · intro h
      exact .inr ⟨_, finishes_of_fault_eq_none h⟩
    · rintro (h | ⟨readings, h⟩)
      · contradiction
      · exact (of_sequence h 0).1

/-- A blank sequence has no constraints, since each of them begins with a bracket. -/
theorem Grammar.Sequence.eq_nil_of_blank {s : List Char} (h : Sequence s readings)
    (hs : s.all Text.isBlank = true) : readings = [] := by
  induction h with
  | nil => rfl
  | space _ ih =>
      rw [List.all_cons, Bool.and_eq_true] at hs
      exact ih hs.2
  | constraint hw _ _ => cases hw <;> simp [Text.isBlank] at hs

theorem completed_ofText_of_reads {s : String} (h : Reads s readings) :
    (ofText s).completed.map Completed.reading = readings := by
  unfold ofText
  cases h with
  | blank hblank => rw [if_pos hblank]; rfl
  | sequence hs =>
      split_ifs with hblank
      · exact (Sequence.eq_nil_of_blank hs hblank).symm
      · exact (of_sequence hs 0).2

end ParamRules.Constraint
