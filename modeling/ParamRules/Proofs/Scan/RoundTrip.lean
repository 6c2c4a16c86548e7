import ParamRules.Proofs.Scan.Rendering

/-!
# Scanning undoes writing

Constraints that are written one after the other, with any number of spaces around them, are scanned
to the names and parameters that they were written with (`scan_spaced`).  Only the characters of a
name matter for that: a parameter may be any text, since what a reader could take apart is quoted.
As the scan is a function of the text, two lists that are written alike are the same list.

The pairs here are names with parameters.  `text_eq_written` ties them to constraints, and a rule of
a kind of its own has any name and any parameters.
-/

namespace ParamRules.Constraint

open Grammar

/-- The written form of a constraint with a name and parameters. -/
def written (reading : String × List String) : String :=
  String.ofList (rendered reading)

theorem text_eq_written (c : Constraint) : c.text = written c.reading := rfl

/-- Written constraints, each after so many spaces, and spaces at the end. -/
def spaced (pieces : List (Nat × String × List String)) (last : Nat) : String :=
  String.ofList
    (pieces.flatMap (fun piece => spaces piece.1 ++ (written piece.2).toList) ++ spaces last)

/-- Keeps a completed constraint as it was read. -/
def keep (_ : Nat) (name : String) (parameters : List String) :
    Recorded (String × List String) :=
  pure (name, parameters)

variable {s : List Char} {readings readings' : List (String × List String)}
  {pieces pieces' : List (Nat × String × List String)} {last last' : Nat}

/-! ## What is kept -/

theorem fulfil_keep (ks : List Completed) :
    fulfil keep none ks = pure (ks.map Completed.reading) := by
  induction ks with
  | nil => rfl
  | cons k ks ih =>
      rw [fulfil, ih]
      rfl

/-- A sequence of the grammar is scanned to its reading. -/
theorem scan_of_sequence (h : Sequence s readings) (position : Nat) :
    Parser.scan keep position .outside s = pure readings := by
  obtain ⟨hfault, hcompleted⟩ := Outline.of_sequence h position
  rw [scan_eq_fulfil, hfault, fulfil_keep, hcompleted]

theorem Grammar.Sequence.reading_unique (h : Sequence s readings) (h' : Sequence s readings') :
    readings = readings' := by
  rw [← (Outline.of_sequence h 0).2, (Outline.of_sequence h' 0).2]

/-! ## Spaces around constraints -/

theorem Grammar.Sequence.spaces_append (h : Sequence s readings) (n : Nat) :
    Sequence (spaces n ++ s) readings := by
  induction n with
  | zero => exact h
  | succ n ih => exact .space ih

theorem sequence_spaces (n : Nat) : Sequence (spaces n) [] := by
  simpa using Sequence.nil.spaces_append n

theorem Grammar.Sequence.rendered_append {reading : String × List String}
    (hname : IsName reading.1.toList) (h : Sequence s readings) :
    Sequence (rendered reading ++ s) (reading :: readings) := by
  have hwritten := written_writtenChars hname (reading.2.map String.toList)
  simpa [rendered, Function.comp_def] using Sequence.constraint hwritten h

/-- Written constraints with spaces around them are a sequence of the grammar. -/
theorem sequence_spaced (h : ∀ piece ∈ pieces, IsName piece.2.1.toList) (last : Nat) :
    Sequence (spaced pieces last).toList (pieces.map Prod.snd) := by
  rw [spaced, String.toList_ofList]
  induction pieces with
  | nil => exact sequence_spaces last
  | cons piece pieces ih =>
      obtain ⟨hpiece, hpieces⟩ := List.forall_mem_cons.mp h
      have hrest := ((ih hpieces).rendered_append hpiece).spaces_append piece.1
      simpa [written] using hrest

theorem spaced_eq_join (readings : List (String × List String)) :
    spaced (readings.map fun reading => (0, reading)) 0 = String.join (readings.map written) := by
  apply String.toList_inj.mp
  rw [spaced, String.toList_ofList, String.toList_join]
  simp [List.flatMap_map]

/-- Constraints that are written alike are the same, name by name and parameter by parameter. -/
theorem readings_eq_of_spaced_eq (h : ∀ piece ∈ pieces, IsName piece.2.1.toList)
    (h' : ∀ piece ∈ pieces', IsName piece.2.1.toList)
    (heq : spaced pieces last = spaced pieces' last') :
    pieces.map Prod.snd = pieces'.map Prod.snd := by
  have hsequence := sequence_spaced h last
  rw [heq] at hsequence
  exact hsequence.reading_unique (sequence_spaced h' last')

theorem map_reading_eq_of_join_eq {cs ds : List Constraint}
    (hcs : ∀ c ∈ cs, IsName c.name.toList) (hds : ∀ d ∈ ds, IsName d.name.toList)
    (heq : String.join (cs.map text) = String.join (ds.map text)) :
    cs.map Constraint.reading = ds.map Constraint.reading := by
  have hjoin : ∀ bs : List Constraint, String.join (bs.map text) =
      spaced ((bs.map Constraint.reading).map fun reading => (0, reading)) 0 := by
    intro bs
    rw [spaced_eq_join, List.map_map]
    rfl
  have hnames : ∀ bs : List Constraint, (∀ b ∈ bs, IsName b.name.toList) →
      ∀ piece ∈ (bs.map Constraint.reading).map (fun reading => (0, reading)),
        IsName piece.2.1.toList := by
    intro bs hbs piece hpiece
    rw [List.map_map, List.mem_map] at hpiece
    obtain ⟨b, hb, rfl⟩ := hpiece
    exact hbs b hb
  rw [hjoin, hjoin] at heq
  simpa [Function.comp_def] using readings_eq_of_spaced_eq (hnames cs hcs) (hnames ds hds) heq

/-- Names with parameters are given back by the scan of what is written of them, whatever spaces
stand between, and the whole text completes nothing else.  So no two lists of constraints, and no
two constraints, are written alike unless their names and parameters are the same. -/
theorem scan_spaced (h : ∀ piece ∈ pieces, IsName piece.2.1.toList) (last : Nat) :
    Parser.scan keep 0 .outside (spaced pieces last).toList = pure (pieces.map Prod.snd) ∧
      (Outline.ofText (spaced pieces last)).fault = none ∧
      (Outline.ofText (spaced pieces last)).completed.map Completed.reading =
        pieces.map Prod.snd ∧
      (∀ pieces' last', (∀ piece ∈ pieces', IsName piece.2.1.toList) →
        spaced pieces last = spaced pieces' last' →
          pieces.map Prod.snd = pieces'.map Prod.snd) ∧
      (∀ cs ds : List Constraint, (∀ c ∈ cs, IsName c.name.toList) →
        (∀ d ∈ ds, IsName d.name.toList) →
          String.join (cs.map text) = String.join (ds.map text) →
            cs.map Constraint.reading = ds.map Constraint.reading) ∧
      ∀ c d : Constraint, IsName c.name.toList → IsName d.name.toList → c.text = d.text →
        c.name = d.name ∧ c.parameters = d.parameters := by
  have hsequence := sequence_spaced h last
  have hreads : Reads (spaced pieces last) (pieces.map Prod.snd) := .sequence hsequence
  refine ⟨scan_of_sequence hsequence 0, ?_, completed_ofText_of_reads hreads, ?_, ?_, ?_⟩
  · exact fault_ofText_eq_none_iff.mpr (wellFormed_iff_reads.mpr ⟨_, hreads⟩)
  · intro pieces' last' h' heq
    exact readings_eq_of_spaced_eq h h' heq
  · intro cs ds hcs hds heq
    exact map_reading_eq_of_join_eq hcs hds heq
  · intro c d hc hd heq
    have hone : [c].map Constraint.reading = [d].map Constraint.reading :=
      map_reading_eq_of_join_eq (List.forall_mem_singleton.mpr hc)
        (List.forall_mem_singleton.mpr hd) (by simp [heq])
    exact Prod.mk.inj (List.singleton_inj.mp hone)

/-- Quotes at both ends of a parameter, an empty parameter, spaces, a line break and delimiters. -/
theorem scan_spaced_delimiters :
    (∀ piece ∈ [(2, "A,b", ["''x'", "", " \n"]), (0, "Null", []), (3, "Regex", ["[a)(,]"])],
      IsName piece.2.1.toList) ∧
    (Outline.ofText (spaced [(2, "A,b", ["''x'", "", " \n"]), (0, "Null", []),
        (3, "Regex", ["[a)(,]"])] 1)).completed.map Completed.reading =
      [("A,b", ["''x'", "", " \n"]), ("Null", []), ("Regex", ["[a)(,]"])] := by
  have h : ∀ piece ∈ [(2, "A,b", ["''x'", "", " \n"]), (0, "Null", []), (3, "Regex", ["[a)(,]"])],
      IsName piece.2.1.toList := by decide +kernel
  exact ⟨h, (scan_spaced h 1).2.2.1⟩

end ParamRules.Constraint
