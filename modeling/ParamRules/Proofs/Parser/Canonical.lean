import ParamRules.Proofs.Factory
import ParamRules.Proofs.Parser.WellFormed
import ParamRules.Proofs.Scan.Rendering

/-!
# The canonical text is stable

Parsed constraints are written in the order in which they are stored, and what is written is parsed
again to the same constraints in that order.  The text that comes out of a second round is
therefore the text that went in.
-/

namespace ParamRules.Parser

open Constraint

variable {p : Parser} {t : DataType} {s : String} {cs : List Constraint}

/-- What a parser without handlers parses, every parser parses to the same constraints. -/
theorem parse_of_parse (hp : p.factory.handlers = []) (h : (p.parse s t).result = .ok cs)
    (q : Parser) : (q.parse s t).result = .ok cs := by
  have ht := ne_none_of_parse_ok h
  obtain ⟨hfault, hcreated⟩ := (parse_ok_iff ht).mp h
  refine (parse_ok_iff ht).mpr ⟨hfault, hcreated.imp fun k c hc => ?_⟩
  obtain ⟨found, hfound, hconfigured⟩ := create_eq_ok_iff.mp hc
  obtain ⟨hblank, hknown⟩ := (Factory.find_eq_ok_iff hp ht).mp hfound
  exact create_eq_ok_iff.mpr
    ⟨found, q.factory.find_of_knownFor ht hblank hknown, hconfigured⟩

theorem isName_name {c : Constraint} (h : c.isCustom = false) : IsName c.name.toList := by
  cases c with
  | custom rule kept => cases h
  | _ =>
      simp only [Constraint.name]
      decide +kernel

/-- A parsed constraint is created by its own name and parameters, wherever they stand. -/
theorem create_of_mem_parse (hp : p.factory.handlers = []) (h : (p.parse s t).result = .ok cs)
    {c : Constraint} (hc : c ∈ cs) :
    c.isCustom = false ∧
      ∀ position, (p.create t position c.name c.parameters).result = .ok c := by
  have ht := ne_none_of_parse_ok h
  obtain ⟨-, hcreated⟩ := (parse_ok_iff ht).mp h
  obtain ⟨k, -, hk⟩ := Result.exists_of_forall₂ hcreated hc
  exact (create_parameters hp ht hk).2

theorem forall₂_create_of_map_reading {ks : List Completed}
    (hread : ks.map Completed.reading = cs.map Constraint.reading)
    (hcs : ∀ c ∈ cs, ∀ position,
      (p.create t position c.name c.parameters).result = .ok c) :
    List.Forall₂ (fun k c => (p.create t k.position k.name k.parameters).result = .ok c)
      ks cs := by
  induction ks generalizing cs with
  | nil =>
      obtain rfl := List.map_eq_nil_iff.mp hread.symm
      exact .nil
  | cons k ks ih =>
      obtain ⟨c, cs, rfl, hc, hrest⟩ := List.map_eq_cons_iff.mp hread.symm
      obtain ⟨hk, hcs⟩ := List.forall_mem_cons.mp hcs
      refine .cons ?_ (ih hrest.symm hcs)
      obtain ⟨hname, hparameters⟩ := Prod.mk.inj hc
      rw [← hname, ← hparameters]
      exact hk k.position

/-- The canonical text is parsed to the constraints in the order in which they are stored. -/
theorem parse_canonical (hp : p.factory.handlers = []) (h : (p.parse s t).result = .ok cs) :
    (p.parse (concat cs) t).result = .ok (stored cs) := by
  have ht := ne_none_of_parse_ok h
  have hreads : Reads (concat cs) ((stored cs).map Constraint.reading) :=
    reads_concat fun c hc => isName_name (create_of_mem_parse hp h hc).1
  refine (parse_ok_iff ht).mpr ⟨?_, ?_⟩
  · exact fault_ofText_eq_none_iff.mpr (wellFormed_iff_reads.mpr ⟨_, hreads⟩)
  · refine forall₂_create_of_map_reading (completed_ofText_of_reads hreads) fun c hc => ?_
    exact (create_of_mem_parse hp h (mem_stored.mp hc)).2

/-- What is parsed is parsed again from its canonical text, in the order in which it is stored, and
has the same canonical text. -/
theorem parse_concat (hp : p.factory.handlers = []) (h : (p.parse s t).result = .ok cs) :
    (p.parse (concat cs) t).result = .ok (stored cs) ∧ concat (stored cs) = concat cs :=
  ⟨parse_canonical hp h, concat_stored cs⟩

theorem parse_concat_reordered :
    (Parser.standard.parse "[MinLength( '03' , )][Encrypted] [Null()]" .string).result =
        .ok [.minLength 3, .encrypted, .null] ∧
      (Parser.standard.parse (concat [.minLength 3, .encrypted, .null]) .string).result =
          .ok (stored [.minLength 3, .encrypted, .null]) ∧
        concat (stored [.minLength 3, .encrypted, .null]) =
          concat [.minLength 3, .encrypted, .null] := by
  have h : (Parser.standard.parse "[MinLength( '03' , )][Encrypted] [Null()]" .string).result =
      .ok [.minLength 3, .encrypted, .null] := by rfl
  exact ⟨h, parse_concat rfl h⟩

end ParamRules.Parser
