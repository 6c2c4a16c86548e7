import ParamRules.Proofs.Parser.Envelope
import ParamRules.Proofs.Scan.Prefix

/-!
# Texts one after the other

A scan that gets through a text with all constraints closed is back where it began, with nothing
kept.  What follows is therefore scanned as if it stood alone, and only its offsets move by the
length of the text before it.  So the constraints of two texts, one after the other, are those of
the first and then those of the second, and a fault in the second is found where it stands
(`parse_append`).

A text of white space has no constraints, whatever white space it is, and beside another text only
spaces have none.  The texts that can stand beside others are therefore those of spaces alone and
those that are not blank.
-/

namespace ParamRules

open Text

/-- A fault of syntax so many characters further on.  Other faults have no offset. -/
def Fault.moved (n : Nat) : Fault → Fault
  | .mk (.syntaxFault problem position code) cause =>
    .mk (.syntaxFault problem (n + position) code) cause
  | fault => fault

namespace Constraint

/-- A completed constraint so many characters further on. -/
def Completed.moved (n : Nat) (k : Completed) : Completed :=
  { k with position := n + k.position }

/-- The outline of a text so many characters further on. -/
def Outline.moved (n : Nat) (o : Outline) : Outline :=
  ⟨o.completed.map (.moved n), o.fault.map fun f => (f.1, n + f.2)⟩

/-- Whether a text can stand beside others: it is made of spaces, if of anything, or not blank. -/
def IsSeamless (s : String) : Prop :=
  (∀ c ∈ s.toList, c = ' ') ∨ isAllBlank s = false

variable {s u : String} {n position : Nat} {region next : Region}

/-! ## Outlines -/

theorem Outline.ofRegion_moved (n position : Nat) (region : Region) (s : List Char) :
    ofRegion (n + position) region s = (ofRegion position region s).moved n := by
  induction s generalizing position region with
  | nil =>
      by_cases hregion : region = .outside
      · subst hregion
        rfl
      · rw [ofRegion_nil hregion, ofRegion_nil hregion]
        simp only [moved, List.map_nil, Option.map_some]
        push_cast
        rw [add_sub_assoc]
  | cons c s ih =>
      rcases ofRegion_cons_cases position region c s with
        ⟨problem, hstep, heq⟩ | ⟨next, hstep, heq⟩ | ⟨name, parameters, hstep, heq⟩
      · rw [heq, ofRegion_of_error hstep]
        simp [moved]
      · rw [heq, ofRegion_of_move hstep, Nat.add_assoc, ih]
      · rw [heq, ofRegion_of_complete hstep, Nat.add_assoc, ih]
        rfl

theorem ofRegion_of_spaces {s : List Char} (h : ∀ c ∈ s, c = ' ') (position : Nat) :
    Outline.ofRegion position .outside s = ⟨[], none⟩ := by
  induction s generalizing position with
  | nil => rfl
  | cons c s ih =>
      obtain ⟨rfl, hs⟩ := List.forall_mem_cons.mp h
      rw [Outline.ofRegion_of_move rfl, ih hs]

theorem isAllBlank_of_spaces (h : ∀ c ∈ s.toList, c = ' ') : isAllBlank s = true := by
  apply List.all_eq_true.mpr
  intro c hc
  rw [h c hc]
  decide +kernel

/-- The scan of such a text needs no look at the whole of it first. -/
theorem ofText_of_isSeamless (h : IsSeamless s) :
    Outline.ofText s = Outline.ofRegion 0 .outside s.toList := by
  rcases h with hspaces | hblank
  · rw [ofRegion_of_spaces hspaces, Outline.ofText, isAllBlank_of_spaces hspaces, if_pos rfl]
  · exact ofText_of_not_blank hblank

theorem IsSeamless.append (hs : IsSeamless s) (hu : IsSeamless u) : IsSeamless (s ++ u) := by
  have hall : isAllBlank (s ++ u) = (isAllBlank s && isAllBlank u) := by
    rw [isAllBlank, String.toList_append, List.all_append]
    rfl
  rcases hs with hs | hs
  · rcases hu with hu | hu
    · refine .inl fun c hc => ?_
      rw [String.toList_append] at hc
      exact (List.mem_append.mp hc).elim (hs c) (hu c)
    · exact .inr (by rw [hall, hu, Bool.and_false])
  · exact .inr (by rw [hall, hs, Bool.false_and])

/-- A text that is scanned without a fault is left with all constraints closed. -/
theorem reaches_of_fault_eq_none (hs : IsSeamless s) (h : (Outline.ofText s).fault = none) :
    Reaches 0 .outside s.toList (Outline.ofText s).completed .outside := by
  rw [ofText_of_isSeamless hs] at h ⊢
  rcases reaches_or_stops 0 .outside s.toList with
    ⟨ks, next, hreaches⟩ | ⟨a, c, b, ks, next, problem, htext, hreaches, hstop⟩
  · have hfault := hreaches.fault_eq
    rw [h] at hfault
    split_ifs at hfault with hnext
    subst hnext
    have hcompleted := (hreaches.ofRegion_append []).1
    rw [List.append_nil, Outline.ofRegion_outside_nil, List.append_nil] at hcompleted
    rwa [hcompleted]
  · rw [htext, (hreaches.ofRegion_of_stop hstop b).2] at h
    cases h

/-- Behind a text without a fault, another text has its outline further on. -/
theorem ofText_append (hs : IsSeamless s) (hu : IsSeamless u)
    (h : (Outline.ofText s).fault = none) :
    (Outline.ofText (s ++ u)).completed =
        (Outline.ofText s).completed ++ ((Outline.ofText u).moved s.length).completed ∧
      (Outline.ofText (s ++ u)).fault = ((Outline.ofText u).moved s.length).fault := by
  have hrest := (reaches_of_fault_eq_none hs h).ofRegion_append u.toList
  have hmoved := Outline.ofRegion_moved s.length 0 .outside u.toList
  rw [Nat.zero_add, String.length_toList, ← Nat.add_zero s.length, hmoved,
    ← ofText_of_isSeamless hu, ← String.toList_append,
    ← ofText_of_isSeamless (hs.append hu)] at hrest
  exact hrest

end Constraint

/-! ## Constraints further on -/

theorem Fault.moved_eq_self {fault : Fault} (h : ∀ position, ¬ fault.StandsAt position) (n : Nat) :
    fault.moved n = fault := by
  obtain ⟨reason, cause⟩ := fault
  cases reason with
  | syntaxFault problem position code => exact absurd ⟨problem, code, cause, rfl⟩ (h position)
  | _ => rfl

theorem Fault.isValueOrType_of_standsAt {fault : Fault} {position : Int}
    (h : fault.StandsAt position) : fault.kind.isValueOrType = true := by
  obtain ⟨problem, code, cause, rfl⟩ := h
  cases problem <;> rfl

namespace Parser

open Constraint

variable {p : Parser} {t : DataType} {s u : String} {cs : List Constraint}

theorem findAt_moved (p : Parser) (t : DataType) (n position : Nat) (name : String) :
    (p.findAt t (n + position) name).result =
      (p.findAt t position name).result.mapError (·.moved n) := by
  simp only [findAt, Factory.find, Factory.result_findIn]
  split_ifs
  · rfl
  · rfl
  · cases Factory.resolve Factory.known (·.answer name t) p.factory.handlers name t with
    | error refusal =>
        obtain ⟨kind, text⟩ := refusal
        cases kind <;> rfl
    | ok resolution => cases resolution <;> rfl

theorem create_moved (p : Parser) (t : DataType) (n position : Nat) (name : String)
    (ps : List String) :
    (p.create t (n + position) name ps).result =
      (p.create t position name ps).result.mapError (·.moved n) := by
  rw [result_create, result_create, findAt_moved]
  cases (p.findAt t position name).result with
  | error fault => rfl
  | ok found =>
      simp only [Except.mapError]
      cases found.configure t ps with
      | ok c => rfl
      | error fault =>
          simp only
          split_ifs with hkind
          · rfl
          · -- Only a fault without an offset gets out as it is.
            have hself : fault.moved n = fault := fault.moved_eq_self
              (fun _ hstands => hkind (Fault.isValueOrType_of_standsAt hstands)) n
            simp only [hself]

theorem fulfil_moved (p : Parser) (t : DataType) (n : Nat) (fault : Option (SyntaxProblem × Int))
    (ks : List Completed) :
    (fulfil (p.create t) (fault.map fun f => (f.1, n + f.2)) (ks.map (.moved n))).result =
      (fulfil (p.create t) fault ks).result.mapError (·.moved n) := by
  induction ks with
  | nil => cases fault <;> rfl
  | cons k ks ih =>
      have hk : (p.create t (k.moved n).position (k.moved n).name (k.moved n).parameters).result =
          (p.create t k.position k.name k.parameters).result.mapError (·.moved n) :=
        p.create_moved t n k.position k.name k.parameters
      rw [List.map_cons, result_fulfil_cons, result_fulfil_cons, hk, ih]
      cases (p.create t k.position k.name k.parameters).result with
      | error e => rfl
      | ok c => cases (fulfil (p.create t) fault ks).result <;> rfl

/-- Constraints that are all accepted stand before what becomes of the others. -/
theorem fulfil_append {complete : Nat → String → List String → Recorded Constraint}
    {ks : List Completed}
    (h : List.Forall₂ (fun k c => (complete k.position k.name k.parameters).result = .ok c) ks cs)
    (fault : Option (SyntaxProblem × Int)) (ls : List Completed) :
    (fulfil complete fault (ks ++ ls)).result =
      (fulfil complete fault ls).result.map (cs ++ ·) := by
  induction h with
  | nil => cases hls : (fulfil complete fault ls).result <;> simp [hls, Except.map]
  | cons hk _ ih =>
      rw [List.cons_append, result_fulfil_cons, hk, ih]
      cases (fulfil complete fault ls).result <;> rfl

/-- What becomes of a text behind another one that is parsed. -/
theorem result_parse_append (ht : t ≠ .none) (hs : IsSeamless s) (hu : IsSeamless u)
    (h : (p.parse s t).result = .ok cs) :
    (p.parse (s ++ u) t).result =
      ((p.parse u t).result.mapError (·.moved s.length)).map (cs ++ ·) := by
  obtain ⟨hfault, hcreated⟩ := (parse_ok_iff ht).mp h
  obtain ⟨hcompleted, hrest⟩ := ofText_append hs hu hfault
  calc (p.parse (s ++ u) t).result
      = (fulfil (p.create t) ((Outline.ofText u).moved s.length).fault
          ((Outline.ofText s).completed ++
            ((Outline.ofText u).moved s.length).completed)).result := by
        rw [result_parse p ht, hcompleted, hrest]
    _ = (fulfil (p.create t) ((Outline.ofText u).moved s.length).fault
          ((Outline.ofText u).moved s.length).completed).result.map (cs ++ ·) :=
        fulfil_append hcreated _ _
    _ = ((p.parse u t).result.mapError (·.moved s.length)).map (cs ++ ·) := by
        rw [result_parse p ht, ← fulfil_moved]
        rfl

/-- Two texts one after the other, the first of which is parsed: the constraints of the second
follow those of the first, a fault of syntax in the second is found so much further on, and every
other fault stays what it is. -/
theorem parse_append (ht : t ≠ .none) (hs : IsSeamless s) (hu : IsSeamless u)
    (h : (p.parse s t).result = .ok cs) :
    (∀ ds, (p.parse u t).result = .ok ds → (p.parse (s ++ u) t).result = .ok (cs ++ ds)) ∧
    (∀ problem position code cause,
      (p.parse u t).result = .error (.mk (.syntaxFault problem position code) cause) →
        (p.parse (s ++ u) t).result =
          .error (.mk (.syntaxFault problem (s.length + position) code) cause)) ∧
    ∀ fault : Fault, (∀ position, ¬ fault.StandsAt position) →
      (p.parse u t).result = .error fault → (p.parse (s ++ u) t).result = .error fault := by
  have happend := result_parse_append ht hs hu h
  refine ⟨fun ds hds => ?_, fun problem position code cause hfault => ?_,
    fun fault hstands hfault => ?_⟩
  · rw [happend, hds]
    rfl
  · rw [happend, hfault]
    rfl
  · rw [happend, hfault, ← fault.moved_eq_self hstands s.length]
    simp only [Except.mapError, Except.map, fault.moved_eq_self hstands]

/-- A handler that knows one name. -/
def vault : Handler :=
  ⟨"vault", fun name _ => .ok (if name = "Secret" then some .password else none)⟩

/-- A name that nobody knows behind one that the handler knows. -/
theorem parse_append_unknown :
    DataType.int32 ≠ .none ∧ IsSeamless "[Secret] " ∧ IsSeamless " [Frob]" ∧
      ((ofHandlers [vault]).parse "[Secret] " .int32).result = .ok [.password] ∧
      ((ofHandlers [vault]).parse " [Frob]" .int32).result =
        .error (.atPosition (.unknownName "Frob" .int32) 6 none) ∧
      ((ofHandlers [vault]).parse ("[Secret] " ++ " [Frob]") .int32).result =
        .error (.atPosition (.unknownName "Frob" .int32) ("[Secret] ".length + 6) none) := by
  have ht : DataType.int32 ≠ .none := by decide
  have hs : IsSeamless "[Secret] " := .inr (by decide +kernel)
  have hu : IsSeamless " [Frob]" := .inr (by decide +kernel)
  have hsecret : ((ofHandlers [vault]).parse "[Secret] " .int32).result = .ok [.password] := rfl
  have hfrob : ((ofHandlers [vault]).parse " [Frob]" .int32).result =
      .error (.atPosition (.unknownName "Frob" .int32) 6 none) := rfl
  exact ⟨ht, hs, hu, hsecret, hfrob, (parse_append ht hs hu hsecret).2.1 _ _ _ _ hfrob⟩

end Parser

end ParamRules
