import ParamRules.Proofs.Scan.Reading

/-!
# Parsing is reading

Parsing hands the completed constraints of the outline of a text to the factory.  With the two
directions between outlines and the grammar, a text whose constraints are all accepted is parsed
exactly when it is well formed, and the constraints that come out are those of its reading.
-/

namespace ParamRules.Parser

open Constraint

/-- Whether the factory knows a completed constraint and the constraint takes its parameters. -/
def Accepts (p : Parser) (t : DataType) (k : Completed) : Prop :=
  ∃ c, (p.create t k.position k.name k.parameters).result = .ok c

variable {p : Parser} {t : DataType} {s : String}

theorem result_parse (p : Parser) (ht : t ≠ .none) (s : String) :
    (p.parse s t).result =
      (fulfil (p.create t) (Outline.ofText s).fault (Outline.ofText s).completed).result := by
  unfold parse Outline.ofText
  rw [if_neg ht]
  split_ifs with hblank
  · rfl
  · rw [scan_eq_fulfil]
    cases h : (fulfil (p.create t) (Outline.ofRegion 0 .outside s.toList).fault
        (Outline.ofRegion 0 .outside s.toList).completed).result with
    | error e => rw [Recorded.bind_of_error h]
    | ok cs => rw [Recorded.result_bind h]; rfl

theorem parse_none (p : Parser) (s : String) :
    (p.parse s .none).result = .error .noDataType := rfl

theorem ne_none_of_parse_ok {cs : List Constraint} (h : (p.parse s t).result = .ok cs) :
    t ≠ .none := by
  rintro rfl
  rw [parse_none] at h
  cases h

/-- What is parsed has no fault of syntax, and each constraint is what the parser creates. -/
theorem parse_ok_iff (ht : t ≠ .none) {cs : List Constraint} :
    (p.parse s t).result = .ok cs ↔
      (Outline.ofText s).fault = none ∧
        List.Forall₂ (fun k c => (p.create t k.position k.name k.parameters).result = .ok c)
          (Outline.ofText s).completed cs := by
  rw [result_parse p ht, result_fulfil_ok]

theorem exists_forall₂_of_accepts {ks : List Completed} (h : ∀ k ∈ ks, p.Accepts t k) :
    ∃ cs, List.Forall₂
      (fun k c => (p.create t k.position k.name k.parameters).result = .ok c) ks cs := by
  induction ks with
  | nil => exact ⟨[], .nil⟩
  | cons k ks ih =>
      obtain ⟨hk, hks⟩ := List.forall_mem_cons.mp h
      obtain ⟨c, hc⟩ := hk
      obtain ⟨cs, hcs⟩ := ih hks
      exact ⟨c :: cs, .cons hc hcs⟩

/-- A text whose completed constraints are all accepted is parsed exactly when it is well formed,
and then the completed constraints are its reading, each of them created in its place. -/
theorem parse_iff_wellFormed (p : Parser) (ht : t ≠ .none) (s : String)
    (haccepts : ∀ k ∈ (Outline.ofText s).completed, p.Accepts t k) :
    ((∃ cs, (p.parse s t).result = .ok cs) ↔ WellFormed s) ∧
      ∀ readings, Reads s readings →
        (Outline.ofText s).completed.map Completed.reading = readings ∧
        ∃ cs, (p.parse s t).result = .ok cs ∧
          List.Forall₂ (fun k c => (p.create t k.position k.name k.parameters).result = .ok c)
            (Outline.ofText s).completed cs := by
  obtain ⟨cs, hcs⟩ := exists_forall₂_of_accepts haccepts
  have hparse : WellFormed s → (p.parse s t).result = .ok cs := fun h =>
    (parse_ok_iff ht).mpr ⟨fault_ofText_eq_none_iff.mpr h, hcs⟩
  refine ⟨⟨?_, fun h => ⟨cs, hparse h⟩⟩, fun readings h => ?_⟩
  · rintro ⟨cs', h⟩
    exact fault_ofText_eq_none_iff.mp ((parse_ok_iff ht).mp h).1
  · exact ⟨completed_ofText_of_reads h, cs, hparse (wellFormed_iff_reads.mpr ⟨readings, h⟩), hcs⟩

theorem parse_iff_wellFormed_two_constraints :
    (∀ k ∈ (Outline.ofText "[MinLength( '3' , )] [Null()]").completed,
      Parser.standard.Accepts .string k) ∧
    ((∃ cs, (Parser.standard.parse "[MinLength( '3' , )] [Null()]" .string).result = .ok cs) ↔
      WellFormed "[MinLength( '3' , )] [Null()]") := by
  have haccepts : ∀ k ∈ (Outline.ofText "[MinLength( '3' , )] [Null()]").completed,
      Parser.standard.Accepts .string k := by
    have houtline : (Outline.ofText "[MinLength( '3' , )] [Null()]").completed =
        [⟨19, "MinLength", ["3"]⟩, ⟨28, "Null", []⟩] := by decide +kernel
    rw [houtline]
    simp only [List.forall_mem_cons, List.not_mem_nil, false_implies, implies_true, and_true]
    exact ⟨⟨.minLength 3, rfl⟩, ⟨.null, rfl⟩⟩
  exact ⟨haccepts, (parse_iff_wellFormed .standard (by decide) _ haccepts).1⟩

end ParamRules.Parser
