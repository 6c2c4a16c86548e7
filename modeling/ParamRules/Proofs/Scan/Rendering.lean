import ParamRules.Proofs.Constraint.Stored
import ParamRules.Proofs.Scan.Reading

/-!
# Written constraints are read

What a constraint writes is a constraint of the grammar with its name and its parameters, whatever
texts the parameters are: a parameter that a reader could take apart is quoted, and among quotes
only a quote has to be written twice.  Constraints written one after the other are a sequence.
-/

namespace ParamRules.Constraint

open Grammar

/-- What a constraint writes, as characters. -/
def rendered (reading : String × List String) : List Char :=
  writtenChars reading.1.toList (reading.2.map String.toList)

theorem quoted_doubleQuotes (s : List Char) : Quoted (doubleQuotes s) s := by
  induction s with
  | nil => exact .nil
  | cons c s ih =>
      rw [doubleQuotes, List.flatMap_cons, ← doubleQuotes]
      by_cases hc : c = '\''
      · rw [if_pos hc, hc]
        exact .quote ih
      · rw [if_neg hc]
        exact .character hc ih

theorem isPlainCharacter_of_isMasked {c : Char} (h : isMasked c = false) : IsPlainCharacter c := by
  simp only [isMasked, Bool.or_eq_false_iff, decide_eq_false_iff_not] at h
  obtain ⟨⟨⟨⟨⟨⟨hspace, hopen⟩, hclose⟩, hleft⟩, hright⟩, hcomma⟩, hquote⟩ := h
  exact ⟨hspace, hcomma, hquote, hopen, hclose, hleft, hright⟩

theorem parameter_maskChars (s : List Char) : Parameter (maskChars s) s := by
  unfold maskChars
  split_ifs with h
  · exact .quoted (quoted_doubleQuotes s)
  · simp only [Bool.or_eq_true, List.isEmpty_iff, List.any_eq_true, not_or, not_exists,
      not_and, Bool.not_eq_true] at h
    exact .plain h.1 fun c hc => isPlainCharacter_of_isMasked (h.2 c hc)

/-- What is written after the first parameter. -/
theorem further_writtenParameters (p : List Char) (ps : List (List Char)) :
    ∃ r, writtenParameters (p :: ps) = maskChars p ++ r ∧ Further r ps := by
  induction ps generalizing p with
  | nil => exact ⟨[], by rw [writtenParameters, List.append_nil], .none⟩
  | cons q ps ih =>
      obtain ⟨r, heq, hr⟩ := ih q
      refine ⟨',' :: (maskChars q ++ r), by rw [writtenParameters, heq]; simp, ?_⟩
      simpa using Further.more 0 0 (parameter_maskChars q) hr

theorem parameters_writtenParameters (ps : List (List Char)) :
    Parameters (writtenParameters ps) ps := by
  cases ps with
  | nil => exact .none 0
  | cons p ps =>
      obtain ⟨r, heq, hr⟩ := further_writtenParameters p ps
      rw [heq]
      simpa using Parameters.some 0 0 (parameter_maskChars p) hr

theorem written_writtenChars {name : List Char} (hname : IsName name) (ps : List (List Char)) :
    Written (writtenChars name ps) name ps := by
  unfold writtenChars
  split
  · simpa using Written.bare hname
  · simpa using Written.listed hname (parameters_writtenParameters _)

/-- Constraints that are written one after the other are read one after the other. -/
theorem sequence_flatMap_rendered {readings : List (String × List String)}
    (h : ∀ reading ∈ readings, IsName reading.1.toList) :
    Sequence (readings.flatMap rendered) readings := by
  induction readings with
  | nil => exact .nil
  | cons reading readings ih =>
      obtain ⟨hname, hreadings⟩ := List.forall_mem_cons.mp h
      have := Sequence.constraint (written_writtenChars hname (reading.2.map String.toList))
        (ih hreadings)
      simpa [rendered, Function.comp_def] using this

/-! ## The canonical text -/

/-- The name and the parameters that a constraint is written with. -/
def reading (c : Constraint) : String × List String :=
  (c.name, c.parameters)

theorem toList_concat (cs : List Constraint) :
    (concat cs).toList = ((stored cs).map reading).flatMap rendered := by
  rw [concat, String.toList_join, List.flatMap_map, List.flatMap_map]
  congr 1
  funext c
  exact String.toList_ofList

/-- The canonical text of constraints is read as their names and parameters. -/
theorem reads_concat {cs : List Constraint} (h : ∀ c ∈ cs, IsName c.name.toList) :
    Reads (concat cs) ((stored cs).map reading) := by
  refine .sequence ?_
  rw [toList_concat]
  refine sequence_flatMap_rendered fun r hr => ?_
  obtain ⟨c, hc, rfl⟩ := List.mem_map.mp hr
  exact h c (mem_stored.mp hc)

end ParamRules.Constraint
