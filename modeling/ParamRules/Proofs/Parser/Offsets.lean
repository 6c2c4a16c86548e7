import ParamRules.Proofs.Parser.Envelope
import ParamRules.Proofs.Scan.Prefix

/-!
# Offsets of faults

A fault of syntax stands at the first character that decides it.  What cannot stand where it stands
is reported there: the text before it can be continued to a text of the grammar, and with it no
longer.  A constraint that is refused is reported at the bracket that closes it, and a text that
ends too early at its last character.  What comes after a reported character has no influence on
the report, so that all texts which begin alike up to it fail alike.
-/

namespace ParamRules.Parser

open Text Result Constraint

/-- Whether parsing a text fails with a fault of syntax of a code at an offset. -/
def FailsAt (p : Parser) (t : DataType) (s : String) (code : ErrorCode) (position : Int) : Prop :=
  ∃ problem cause, (p.parse s t).result = .error (.mk (.syntaxFault problem position code) cause)

/-- Whether so many characters of a text decide what becomes of it: every text that begins with
them, and is not blank, is parsed alike. -/
def DecidedBy (p : Parser) (t : DataType) (s : String) (n : Nat) : Prop :=
  ∀ s', isAllBlank s' = false → front n s' = front n s →
    (p.parse s' t).result = (p.parse s t).result

variable {p : Parser} {t : DataType} {s : String} {code : ErrorCode} {position : Int}

/-- A fault of syntax is the refusal of the first constraint that is not accepted, or the fault
that the scan ends in. -/
theorem failsAt_cases (hp : p.factory.handlers = []) (ht : t ≠ .none)
    (h : p.FailsAt t s code position) :
    (code.isRefusal = true ∧ ∃ before k after,
      (Outline.ofText s).completed = before ++ k :: after ∧ (∀ b ∈ before, p.Accepts t b) ∧
        ¬ p.Accepts t k ∧ position = k.position) ∨
      ((∀ k ∈ (Outline.ofText s).completed, p.Accepts t k) ∧
        ∃ problem, (Outline.ofText s).fault = some (problem, position) ∧ code = problem.code) := by
  obtain ⟨problem, cause, hfault⟩ := h
  rw [result_parse p ht] at hfault
  rcases result_fulfil_error.mp hfault with
    ⟨before, k, after, hcompleted, hbefore, hk⟩ | ⟨haccepts, problem', position', hsyntax, heq⟩
  · rcases refusesAt_create hp ht k.position _ hk with ⟨problem', cause', hrefusal, heq⟩ | hescapes
    · obtain ⟨⟨rfl, rfl, rfl⟩, rfl⟩ := by simpa [Fault.atPosition] using heq
      refine .inl ⟨hrefusal, before, k, after, hcompleted, hbefore, ?_, rfl⟩
      rintro ⟨c, hc⟩
      cases hk.symm.trans hc
    · exact absurd ⟨problem, code, cause, rfl⟩ (not_standsAt_of_escapes hescapes position)
  · obtain ⟨⟨rfl, rfl, rfl⟩, rfl⟩ := by simpa [Fault.atPosition] using heq
    exact .inr ⟨haccepts, problem, hsyntax, rfl⟩

/-- A scan never ends in the refusal of a constraint. -/
theorem isRefusal_of_fault {problem : SyntaxProblem} (hs : isAllBlank s = false)
    (h : (Outline.ofText s).fault = some (problem, position)) : problem.code.isRefusal = false := by
  rcases reaches_or_stops 0 .outside s.toList with
    ⟨ks, next, hreaches⟩ | ⟨a, c, b, ks, next, problem', htext, hreaches, hstop⟩
  · rw [ofText_of_not_blank hs, hreaches.fault_eq] at h
    split_ifs at h
    obtain ⟨rfl, -⟩ := Prod.mk.inj (Option.some.inj h)
    rfl
  · rw [ofText_of_stop hs htext hreaches hstop] at h
    obtain ⟨rfl, -⟩ := Prod.mk.inj (Option.some.inj h)
    have hlexical := isLexical_of_step hstop
    cases hcode : problem'.code <;> rw [hcode] at hlexical <;> first | rfl | cases hlexical

/-- A character that cannot stand where it stands. -/
theorem offset_of_lexical (hp : p.factory.handlers = []) (ht : t ≠ .none)
    (hs : isAllBlank s = false) (hcode : code.isLexical = true) (h : p.FailsAt t s code position) :
    ∃ n : Nat, position = n ∧ n < s.length ∧ Viable (front n s) ∧ ¬ Viable (front (n + 1) s) ∧
      p.DecidedBy t s (n + 1) := by
  rcases failsAt_cases hp ht h with ⟨hrefusal, -⟩ | ⟨-, problem, hfault, rfl⟩
  · cases code <;> cases hcode <;> cases hrefusal
  rcases reaches_or_stops 0 .outside s.toList with
    ⟨ks, next, hreaches⟩ | ⟨a, c, b, ks, next, problem', htext, hreaches, hstop⟩
  · -- A scan that gets through the text can only miss its end.
    rw [ofText_of_not_blank hs, hreaches.fault_eq] at hfault
    split_ifs at hfault
    obtain ⟨rfl, -⟩ := Prod.mk.inj (Option.some.inj hfault)
    cases hcode
  · have hposition : position = a.length := by
      rw [ofText_of_stop hs htext hreaches hstop] at hfault
      exact (Prod.mk.inj (Option.some.inj hfault)).2.symm
    refine ⟨a.length, hposition, ?_, ?_, ?_, ?_⟩
    · have hlength : s.length = a.length + (b.length + 1) := by
        rw [← String.length_toList, htext, List.length_append, List.length_cons]
      omega
    · rw [front_of_toList htext, viable_iff_reaches, String.toList_ofList]
      exact ⟨ks, next, hreaches⟩
    · rw [front_succ_of_toList htext]
      exact not_viable_of_stop String.toList_ofList hreaches hstop
    · intro s' hs' hfront
      obtain ⟨b', htext'⟩ := exists_toList_of_front_eq htext hfront
      rw [result_parse p ht, result_parse p ht, ofText_of_stop hs htext hreaches hstop,
        ofText_of_stop hs' htext' hreaches hstop]

/-- A text that ends too early. -/
theorem failsAt_incomplete_iff (hp : p.factory.handlers = []) (ht : t ≠ .none)
    (hs : isAllBlank s = false) :
    p.FailsAt t s .constraintIncomplete position ↔
      Viable s ∧ ¬ WellFormed s ∧ (∀ k ∈ (Outline.ofText s).completed, p.Accepts t k) ∧
        position = s.length - 1 := by
  constructor
  · intro h
    rcases failsAt_cases hp ht h with ⟨hrefusal, -⟩ | ⟨haccepts, problem, hfault, hcode⟩
    · cases hrefusal
    have hill : ¬ WellFormed s := by
      rw [← fault_ofText_eq_none_iff, hfault]
      nofun
    rcases reaches_or_stops 0 .outside s.toList with
      ⟨ks, next, hreaches⟩ | ⟨a, c, b, ks, next, problem', htext, hreaches, hstop⟩
    · refine ⟨viable_iff_reaches.mpr ⟨ks, next, hreaches⟩, hill, haccepts, ?_⟩
      rw [ofText_of_not_blank hs, hreaches.fault_eq] at hfault
      split_ifs at hfault
      obtain ⟨-, rfl⟩ := Prod.mk.inj (Option.some.inj hfault)
      rw [Nat.zero_add, String.length_toList]
    · rw [ofText_of_stop hs htext hreaches hstop] at hfault
      obtain ⟨rfl, -⟩ := Prod.mk.inj (Option.some.inj hfault)
      have hlexical := isLexical_of_step hstop
      rw [← hcode] at hlexical
      cases hlexical
  · rintro ⟨hviable, hill, haccepts, rfl⟩
    obtain ⟨ks, next, hreaches⟩ := viable_iff_reaches.mp hviable
    have hfault := hreaches.fault_eq
    rw [← ofText_of_not_blank hs] at hfault
    split_ifs at hfault with hnext
    · exact absurd (fault_ofText_eq_none_iff.mp hfault) hill
    · rw [Nat.zero_add, String.length_toList] at hfault
      refine ⟨.incomplete, none, ?_⟩
      rw [result_parse p ht]
      exact result_fulfil_error.mpr (.inr ⟨haccepts, _, _, hfault, rfl⟩)

/-- A text whose beginning completes a constraint that is refused is parsed like every text that
begins alike up to the closing bracket. -/
theorem decidedBy_of_refused {a b : List Char} {before : List Completed} {k : Completed}
    (ht : t ≠ .none) (hs : isAllBlank s = false) (htext : s.toList = a ++ ']' :: b)
    (hreaches : Reaches 0 .outside (a ++ [']']) (before ++ [k]) .outside)
    (hbefore : ∀ b ∈ before, p.Accepts t b) (hk : ¬ p.Accepts t k) :
    p.DecidedBy t s (a.length + 1) := by
  obtain ⟨fault, hfault⟩ : ∃ fault,
      (p.create t k.position k.name k.parameters).result = .error fault := by
    cases hcreate : (p.create t k.position k.name k.parameters).result with
    | error fault => exact ⟨fault, rfl⟩
    | ok c => exact absurd ⟨c, hcreate⟩ hk
  -- Any text that begins so fails with the fault of the constraint.
  have hparse : ∀ s' b', isAllBlank s' = false → s'.toList = a ++ ']' :: b' →
      (p.parse s' t).result = .error fault := by
    intro s' b' hs' htext'
    have hsplit : s'.toList = (a ++ [']']) ++ b' := by
      rw [htext', List.append_assoc, List.singleton_append]
    have hcompleted := (hreaches.ofRegion_append b').1
    rw [← hsplit, ← ofText_of_not_blank hs', List.append_assoc, List.singleton_append] at hcompleted
    rw [result_parse p ht]
    exact result_fulfil_error.mpr (.inl ⟨before, k, _, hcompleted, hbefore, hfault⟩)
  intro s' hs' hfront
  obtain ⟨b', htext'⟩ := exists_toList_of_front_eq htext hfront
  rw [hparse s' b' hs' htext', hparse s b hs htext]

/-- A constraint that is refused. -/
theorem offset_of_refusal (hp : p.factory.handlers = []) (ht : t ≠ .none)
    (hs : isAllBlank s = false) (hcode : code.isRefusal = true) (h : p.FailsAt t s code position) :
    ∃ (n : Nat) (before : List Completed) (k : Completed) (after : List Completed),
      position = n ∧ s.toList[n]? = some ']' ∧ k.position = n ∧
      (Outline.ofText s).completed = before ++ k :: after ∧
      (∀ b ∈ before, p.Accepts t b) ∧ ¬ p.Accepts t k ∧ WellFormed (front (n + 1) s) ∧
      p.DecidedBy t s (n + 1) := by
  rcases failsAt_cases hp ht h with
    ⟨-, before, k, after, hcompleted, hbefore, hk, hposition⟩ | ⟨-, problem, hfault, rfl⟩
  · have hregion := hcompleted
    rw [ofText_of_not_blank hs] at hregion
    obtain ⟨a, b, htext, hk', hreaches⟩ := reaches_of_completed hregion
    rw [Nat.zero_add] at hk'
    refine ⟨a.length, before, k, after, by rw [hposition, hk'], ?_, hk', hcompleted, hbefore, hk,
      ?_, decidedBy_of_refused ht hs htext hreaches hbefore hk⟩
    · rw [htext, List.getElem?_append_right (Nat.le_refl _), Nat.sub_self]
      rfl
    · have hblank : isAllBlank (String.ofList (a ++ [']'])) = false :=
        isAllBlank_of_bracket (by simp)
      rw [front_succ_of_toList htext, wellFormed_iff_fault hblank, String.toList_ofList,
        hreaches.fault_eq, if_pos rfl]
  · rw [isRefusal_of_fault hs hfault] at hcode
    cases hcode

/-- Offsets are exact, in texts that are not blank: a character is reported that no text of the
grammar has there after the text before it, an end that comes too early at the last character, and a
constraint that is refused at its closing bracket.  But for the end, the text up to the offset
decides. -/
theorem parse_offsets (hp : p.factory.handlers = []) (ht : t ≠ .none)
    (hs : isAllBlank s = false) :
    (∀ code position, code.isLexical = true → p.FailsAt t s code position →
      ∃ n : Nat, position = n ∧ n < s.length ∧ Viable (front n s) ∧
        ¬ Viable (front (n + 1) s) ∧ p.DecidedBy t s (n + 1)) ∧
    (∀ position, p.FailsAt t s .constraintIncomplete position ↔
      Viable s ∧ ¬ WellFormed s ∧ (∀ k ∈ (Outline.ofText s).completed, p.Accepts t k) ∧
        position = s.length - 1) ∧
    ∀ code position, code.isRefusal = true → p.FailsAt t s code position →
      ∃ (n : Nat) (before : List Completed) (k : Completed) (after : List Completed),
        position = n ∧ s.toList[n]? = some ']' ∧ k.position = n ∧
        (Outline.ofText s).completed = before ++ k :: after ∧
        (∀ b ∈ before, p.Accepts t b) ∧ ¬ p.Accepts t k ∧ WellFormed (front (n + 1) s) ∧
        p.DecidedBy t s (n + 1) :=
  ⟨fun _ _ => offset_of_lexical hp ht hs, fun _ => failsAt_incomplete_iff hp ht hs,
    fun _ _ => offset_of_refusal hp ht hs⟩

/-- A character after a constraint that is accepted. -/
theorem parse_offsets_data_outside :
    standard.factory.handlers = [] ∧ DataType.string ≠ .none ∧ isAllBlank "[Null]x" = false ∧
      standard.FailsAt .string "[Null]x" .dataOutsideConstraint 6 ∧
      ∃ n : Nat, (6 : Int) = n ∧ n < "[Null]x".length ∧ Viable (front n "[Null]x") ∧
        ¬ Viable (front (n + 1) "[Null]x") ∧ standard.DecidedBy .string "[Null]x" (n + 1) := by
  have hs : isAllBlank "[Null]x" = false := by decide +kernel
  have hfails : standard.FailsAt .string "[Null]x" .dataOutsideConstraint 6 :=
    ⟨.dataOutside 'x', none, rfl⟩
  exact ⟨rfl, by decide, hs, hfails,
    (parse_offsets (p := standard) rfl (by decide) hs).1 _ _ rfl hfails⟩

end ParamRules.Parser
