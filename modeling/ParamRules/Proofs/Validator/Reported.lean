import ParamRules.Proofs.Validator.Envelope

/-!
# What validation reports

Whatever reports a failure, the report is built in one place, from the constraint that is broken,
the member, a code and the rest of a message.  So a report is about the member that was validated,
and its message starts with the name to show, once the codes of all kinds of constraints are known
not to be that of success.

One report is built aside from the others, the one that a value is missing, and it finds the name to
show in its own way: a display name that is blank is not replaced by the name of the member.
-/

namespace ParamRules

open Text Result

namespace Constraint

variable {r : Registry} {c : Constraint} {t : DataType} {v : Value} {found : List Failing}
  {code : ErrorCode} {member name : String}

/-! ## Codes of what fails -/

/-- Whether nothing that fails has the code of success. -/
def AreFailures (found : List Failing) : Prop :=
  ∀ f ∈ found, f.1 ≠ .success

@[simp] theorem areFailures_nil : AreFailures [] := nofun

@[simp] theorem areFailures_cons {message : String} :
    AreFailures ((code, message) :: found) ↔ code ≠ .success ∧ AreFailures found :=
  List.forall_mem_cons

theorem areFailures_failsUnless (hcode : code ≠ .success) (holds : Bool) (message : String) :
    AreFailures (failsUnless holds code message) := by
  cases holds <;> simp [failsUnless, hcode]

theorem areFailures_barredFailings (hcode : code ≠ .success) (isBarred : Char → Bool)
    (place s : String) : AreFailures (barredFailings isBarred code place s) := by
  unfold barredFailings
  split_ifs <;> simp [hcode]

theorem areFailures_endpointFailings {s : String} (h : endpointFailings s = .ok found) :
    AreFailures found := by
  unfold endpointFailings at h
  split_ifs at h with hblank
  · cases h
    simp
  · -- With a port or without one, what the host fails comes last.
    have hhost : ∀ message, AreFailures
        (if Network.isHost (Network.Endpoint.split s.toList).host then []
          else [(.hostNameInvalid, message)]) := by
      intro message
      split_ifs <;> simp
    simp only at h
    split at h
    · cases h
      exact hhost _
    · split at h <;> cases h
      · exact hhost _
      · exact areFailures_cons.mpr ⟨by decide, hhost _⟩

theorem areFailures_numberFailings {declared : List Literal} {mask : Option Int} {raw : Literal}
    (h : numberFailings declared mask raw = .ok found) : AreFailures found := by
  unfold numberFailings at h
  split at h
  · cases h
    exact areFailures_failsUnless (by decide) _ _
  · split_ifs at h <;> cases h <;> simp

theorem areFailures_memberFailings {e : Enumeration} (h : memberFailings e v = .ok found) :
    AreFailures found := by
  unfold memberFailings memberFailingsIn at h
  split at h
  · split_ifs at h
    · exact areFailures_numberFailings h
    · cases h
      simp
  · split at h
    · exact areFailures_numberFailings h
    · cases h
      simp [notEnumerationValue]

theorem areFailures_listedFailings {l : ValueList} (h : listedFailings l v = .ok found) :
    AreFailures found := by
  unfold listedFailings listedFailingsIn at h
  split at h
  · exact areFailures_numberFailings h
  · cases h
    simp [notEnumerationValue]

theorem areFailures_textFailings {s : String} (h : c.textFailings s = .ok found) :
    AreFailures found := by
  cases c with
  | endpoint => exact areFailures_endpointFailings h
  | charSet | lowercase | uppercase | regex | host =>
      cases h
      exact areFailures_failsUnless (by decide) _ _
  | fileName | path =>
      cases h
      exact areFailures_barredFailings (by decide) _ _ _
  | _ =>
      cases h
      exact areFailures_nil

theorem areFailures_boundFailings {bound : Bound} {wrong : Ordering} {failing : Failing}
    (hcode : failing.1 ≠ .success) (h : c.boundFailings t bound v wrong failing = .ok found) :
    AreFailures found := by
  obtain ⟨w, -, h⟩ := bind_eq_ok_iff.mp h
  split at h <;> cases h
  exact areFailures_failsUnless hcode _ _

/-- Whatever a value fails under a constraint of any kind, the code is not that of success. -/
theorem areFailures_failings (h : c.failings r t v = .ok found) : AreFailures found := by
  cases c with
  | length | minLength | maxLength | allowedScheme =>
      obtain ⟨w, -, h⟩ := bind_eq_ok_iff.mp h
      cases h
      exact areFailures_failsUnless (by decide) _ _
  | minValue | maxValue => exact areFailures_boundFailings (by decide) h
  | charSet | lowercase | uppercase | password | regex | host | endpoint | fileName | path =>
      obtain ⟨w, -, h⟩ := bind_eq_ok_iff.mp h
      exact areFailures_textFailings h
  | enumType =>
      obtain ⟨entity, -, h⟩ := bind_eq_ok_iff.mp h
      split at h
      · exact areFailures_memberFailings h
      · cases h
        exact areFailures_nil
  | values list =>
      cases list with
      | none => cases h
      | some l => exact areFailures_listedFailings h
  | _ =>
      cases h
      exact areFailures_nil

end Constraint

/-! ## Reports of one constraint -/

/-- The name that messages are about: the one to show, unless it is absent or blank. -/
def effectiveName (member : String) : Option String → String
  | none => member
  | some shown => if isAllBlank shown then member else shown

namespace Outcome

/-- Whether an outcome reports that a member breaks one of some constraints. -/
structure Reports (o : Outcome) (member : String) (broken : Constraint → Prop) : Prop where
  code : o.code ≠ .success
  members : o.memberNames = [trim member]
  constraint : ∃ c, o.constraint = some c ∧ broken c

/-- Whether the message of an outcome starts with a name and a space. -/
def IsAbout (o : Outcome) (name : String) : Prop :=
  ∃ rest, o.message = name ++ " " ++ rest

theorem Reports.mono {o : Outcome} {member : String} {P Q : Constraint → Prop}
    (h : o.Reports member P) (hPQ : ∀ c, P c → Q c) : o.Reports member Q := by
  obtain ⟨c, hc, hbroken⟩ := h.constraint
  exact ⟨h.code, h.members, c, hc, hPQ c hbroken⟩

theorem reports_failure {c : Constraint} {code : ErrorCode} {P : Constraint → Prop}
    (hcode : code ≠ .success) (hc : P c) (member message : String) :
    (failure c member code message).Reports member P :=
  ⟨hcode, rfl, c, rfl, hc⟩

theorem isAbout_failure (c : Constraint) (member name : String) (code : ErrorCode)
    (rest : String) : (failure c member code (name ++ " " ++ rest)).IsAbout name :=
  ⟨rest, rfl⟩

end Outcome

namespace Constraint

variable {r : Registry} {c : Constraint} {t : DataType} {v : Value} {member name : String}
  {outcomes : List Outcome}

/-- A check reports failures of its own constraint, about the name that is shown. -/
theorem reports_of_check (h : c.check r t v member name = .ok outcomes) :
    ∀ o ∈ outcomes, o.Reports member (· = c) ∧ o.IsAbout name := by
  intro o ho
  unfold check at h
  split at h
  · cases h
    cases ho
  · cases h
  · split_ifs at h
    obtain ⟨found, hfound, heq⟩ := bind_eq_ok_iff.mp h
    cases heq
    obtain ⟨f, hf, rfl⟩ := List.mem_map.mp ho
    have hcode : f.1 ≠ .success := areFailures_failings hfound f hf
    exact ⟨Outcome.reports_failure (P := (· = c)) hcode rfl _ _,
      Outcome.isAbout_failure _ _ _ _ _⟩

theorem shownName_elim (member : String) (shown : Option String) :
    shownName member (shown.elim .null .text) = .ok (effectiveName member shown) := by
  cases shown with
  | none => rfl
  | some s => rfl

end Constraint

/-! ## Reports of a validation -/

namespace Validator

open Constraint

variable {v : Validator} {r : Registry} {t : DataType} {value : Value} {member name : String}
  {shown : Value} {cs : List Constraint} {outcomes : List Outcome}

/-- All checks give what each of them gives alone, one after the other. -/
theorem checkAll_eq_mapM (h : shownName member shown = .ok name) (cs : List Constraint) :
    checkAll r t value member shown cs =
      List.flatten <$> cs.mapM fun c => c.check r t value member name := by
  induction cs with
  | nil => rfl
  | cons c cs ih =>
      rw [checkAll_cons h, ih, List.mapM_cons]
      cases c.check r t value member name with
      | error e => rfl
      | ok found =>
          cases cs.mapM fun c => c.check r t value member name <;> rfl

/-- What validation returns is what the checks found, whatever the observers do. -/
theorem failures_of_judged (h : (v.judged value t member shown cs).result = .ok outcomes) :
    failures v.registry t value member shown cs = .ok outcomes := by
  rw [judged, Recorded.result_bind_eq] at h
  obtain ⟨-, -, h⟩ := bind_eq_ok_iff.mp h
  rw [Recorded.result_bind_eq] at h
  obtain ⟨found, hfound, h⟩ := bind_eq_ok_iff.mp h
  have heq : found = outcomes := by
    split_ifs at h
    · simp only [Recorded.result_bind_eq, bind_eq_ok_iff] at h
      obtain ⟨-, -, -, -, h⟩ := h
      exact Except.ok.inj h
    · exact Except.ok.inj h
  subst heq
  exact hfound

/-- A validation that returns has a data type, a name and constraints. -/
theorem resultsWith_eq_ok {type place : Value} {input : ConstraintsInput}
    (h : (v.resultsWith value type input place shown).result = .ok outcomes) :
    ∃ t member cs, Argument.dataType type = .ok t ∧
      Argument.nameText "member_name" place = .ok member ∧
      (v.resolve input t).result = .ok cs ∧
      failures v.registry t value member (shownOr member shown) cs = .ok outcomes := by
  rw [resultsWith, Recorded.result_bind_eq] at h
  obtain ⟨t, ht, h⟩ := bind_eq_ok_iff.mp h
  rw [Recorded.result_bind_eq] at h
  obtain ⟨member, hmember, h⟩ := bind_eq_ok_iff.mp h
  rw [results_eq, Recorded.result_bind_eq] at h
  obtain ⟨cs, hcs, h⟩ := bind_eq_ok_iff.mp h
  exact ⟨t, member, cs, ht, hmember, hcs, failures_of_judged h⟩

theorem shownName_shownOr (member : String) (display : Option String) :
    shownName member (shownOr member (display.elim .null .text)) =
      .ok (effectiveName member display) := by
  cases display with
  | none => exact shownName_member member
  | some s => rfl

/-- A missing value is reported about the display name, or about the member where there is none. -/
theorem isAbout_nullOutcome (member : String) (display : Option String) :
    (nullOutcome member (shownOr member (display.elim .null .text))).IsAbout
      (display.getD member) := by
  refine ⟨"must not be null", ?_⟩
  rw [String.append_assoc]
  cases display with
  | none => rfl
  | some s => rfl

/-- What is reported where the value is missing. -/
theorem reports_of_null {display : Option String}
    (h : failures r t .null member (shownOr member (display.elim .null .text)) cs =
      .ok outcomes) :
    (∀ o ∈ outcomes, o.Reports member (· = .null)) ∧
      ((∀ o ∈ outcomes, o.IsAbout (effectiveName member display)) ∨
        ∃ s, display = some s ∧ isAllBlank s = true ∧
          outcomes.map (·.message) = [s ++ " must not be null"]) := by
  obtain rfl := Except.ok.inj h
  have habout := isAbout_nullOutcome member display
  split_ifs
  · exact ⟨List.forall_mem_nil _, .inl (List.forall_mem_nil _)⟩
  · rw [List.forall_mem_singleton, List.forall_mem_singleton]
    refine ⟨Outcome.reports_failure (P := (· = .null)) (by decide) rfl _ _, ?_⟩
    cases display with
    | none => exact .inl habout
    | some s =>
        cases hblank : isAllBlank s with
        | false => exact .inl (by simpa [effectiveName, hblank] using habout)
        | true => exact .inr ⟨s, rfl, hblank, rfl⟩

/-- What is reported about a value: what each constraint reports alone. -/
theorem reports_of_ne_null {display : Option String} (hvalue : value ≠ .null)
    (h : failures r t value member (shownOr member (display.elim .null .text)) cs =
      .ok outcomes) :
    (∀ o ∈ outcomes, o.Reports member (· ∈ cs) ∧ o.IsAbout (effectiveName member display)) ∧
      ∃ reports, (cs.mapM fun c =>
          c.check r t value member (effectiveName member display)) = .ok reports ∧
        outcomes = reports.flatten := by
  rw [failures_of_ne_null hvalue, checkAll_eq_mapM (shownName_shownOr member display)] at h
  obtain ⟨reports, hfound, rfl⟩ := map_eq_ok_iff.mp h
  refine ⟨fun o ho => ?_, reports, hfound, rfl⟩
  obtain ⟨found, hmem, ho⟩ := List.mem_flatten.mp ho
  obtain ⟨c, hc, hcfound⟩ := exists_of_forall₂ (mapM_eq_ok_iff.mp hfound) hmem
  obtain ⟨hreports, habout⟩ := reports_of_check hcfound o ho
  exact ⟨hreports.mono fun d hd => hd ▸ hc, habout⟩

/-- What validation reports.  Each report has the code of a failure, the member alone, and one of
the constraints or, for a missing value, the one that would allow it.  Its message starts with the
name to show, unless the value is missing and the display name is blank: then that name stands in
the message as it is.  The reports of a value are those of each constraint alone, in their order. -/
theorem resultsWith_reports {type place : Value} {input : ConstraintsInput}
    {display : Option String}
    (h : (v.resultsWith value type input place (display.elim .null .text)).result =
      .ok outcomes) :
    ∃ t member cs, Argument.dataType type = .ok t ∧ place.text? = some member ∧
      (v.resolve input t).result = .ok cs ∧
      (∀ o ∈ outcomes, o.Reports member fun c => c ∈ cs ∨ value = .null ∧ c = .null) ∧
      ((∀ o ∈ outcomes, o.IsAbout (effectiveName member display)) ∨
        value = .null ∧ ∃ s, display = some s ∧ isAllBlank s = true ∧
          outcomes.map (·.message) = [s ++ " must not be null"]) ∧
      (value ≠ .null → ∃ reports,
        (cs.mapM fun c =>
          c.checkWith v.registry type value place (display.elim .null .text)) = .ok reports ∧
        outcomes = reports.flatten) := by
  obtain ⟨t, member, cs, ht, hmember, hcs, hfailures⟩ := resultsWith_eq_ok h
  refine ⟨t, member, cs, ht, (Argument.nameText_eq_ok_iff.mp hmember).1, hcs, ?_⟩
  by_cases hvalue : value = .null
  · subst hvalue
    obtain ⟨hreports, habout⟩ := reports_of_null hfailures
    exact ⟨fun o ho => (hreports o ho).mono fun c hc => .inr ⟨rfl, hc⟩,
      habout.imp_right fun hblank => ⟨rfl, hblank⟩, absurd rfl⟩
  · obtain ⟨hall, reports, hfound, hflatten⟩ := reports_of_ne_null hvalue hfailures
    have hcheck : ∀ c : Constraint,
        c.checkWith v.registry type value place (display.elim .null .text) =
          c.check v.registry t value member (effectiveName member display) := by
      intro c
      simp only [checkWith, ht, hmember, shownName_elim, bind, Except.bind]
    refine ⟨fun o ho => (hall o ho).1.mono fun c hc => .inl hc, .inl fun o ho => (hall o ho).2,
      fun _ => ⟨reports, ?_, hflatten⟩⟩
    simpa only [hcheck] using hfound

theorem resultsWith_reports_twice :
    ∃ outcomes, ((standard .empty).resultsWith (.text "ab") (.ofDataType .string)
        (.text "[MinLength(3)][Uppercase]") (.text " m ") (.text "Name")).result =
          .ok outcomes ∧ outcomes.length = 2 ∧
      (∀ o ∈ outcomes, o.memberNames = ["m"]) ∧ ∀ o ∈ outcomes, o.IsAbout "Name" := by
  have hresult : ((standard .empty).resultsWith (.text "ab") (.ofDataType .string)
      (.text "[MinLength(3)][Uppercase]") (.text " m ") ((some "Name").elim .null .text)).result =
        .ok [.failure (.minLength 3) " m " .tooShort "Name must have a length of at least 3",
          .failure .uppercase " m " .notUppercase
            "Name must not contain lower-case characters"] := by
    rfl
  obtain ⟨t, member, cs, -, hmember, -, hreports, habout, -⟩ :=
    resultsWith_reports hresult
  have hname : effectiveName " m " (some "Name") = "Name" := by decide +kernel
  have htrim : trim " m " = "m" := by decide +kernel
  obtain rfl : " m " = member := Option.some.inj hmember
  rw [hname] at habout
  refine ⟨_, hresult, rfl, fun o ho => ?_, ?_⟩
  · rw [(hreports o ho).members, htrim]
  · exact habout.resolve_right nofun

/-- A missing value is reported under a blank name where the name of the member is due. -/
theorem not_isAbout_blank :
    ¬ ∀ (v : Validator) (value type : Value) (input : ConstraintsInput) (member : String)
      (display : Option String) (outcomes : List Outcome),
      (v.resultsWith value type input (.text member) (display.elim .null .text)).result =
        .ok outcomes → ∀ o ∈ outcomes, o.IsAbout (effectiveName member display) := by
  intro h
  have hresult : ((standard .empty).resultsWith .null (.ofDataType .string) .absent (.text "m")
      (.text "")).result = .ok [nullOutcome "m" (.text "")] := by
    rfl
  have hname : effectiveName "m" (some "") = "m" := by decide +kernel
  obtain ⟨rest, hrest⟩ := h (standard .empty) .null (.ofDataType .string) .absent "m" (some "") _
    hresult _ List.mem_cons_self
  have hfirst := congrArg (fun s => s.toList.head?) hrest
  rw [hname] at hfirst
  simp [nullOutcome, Outcome.failure, Value.display, String.toList_append] at hfirst

end Validator

end ParamRules
