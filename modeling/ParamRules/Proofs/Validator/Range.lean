import ParamRules.Proofs.Constraint.Equality
import ParamRules.Proofs.Constraint.Represents
import ParamRules.Proofs.Conversion.Order
import ParamRules.Proofs.Scan.Rendering
import ParamRules.Proofs.Validator.Envelope

/-!
# Values between two bounds

A least and a greatest value are written as texts between quotes, and the value that is checked is
read from a text too.  Scanning gives back the two texts, whatever characters they hold, each is
read as a bound of the data type, and comparison decides the order of what they denote.  So the
failures of the value are those that the three texts mean (`resultsWith_range`).
-/

namespace ParamRules

open Text Conversion

/-! ## The text of two bounds -/

namespace Constraint

open Grammar

/-- A text between quotes, with the quotes in it written twice. -/
def quoteText (s : String) : String :=
  String.ofList ('\'' :: doubleQuotes s.toList ++ ['\''])

/-- The constraints that confine values to those between two bounds, as a text. -/
def rangeText (least greatest : String) : String :=
  "[MinValue(" ++ quoteText least ++ ")][MaxValue(" ++ quoteText greatest ++ ")]"

/-- A constraint with one parameter between quotes. -/
theorem written_quoteText {name : List Char} (hname : IsName name) (s : String) :
    Written ('[' :: (name ++ '(' :: ((quoteText s).toList ++ [')', ']']))) name [s.toList] := by
  have hparameter : Parameter (quoteText s).toList s.toList := by
    rw [quoteText, String.toList_ofList]
    exact .quoted (quoted_doubleQuotes s.toList)
  have hparameters : Parameters (quoteText s).toList [s.toList] := by
    simpa using Parameters.some 0 0 hparameter .none
  exact .listed hname hparameters

theorem reads_rangeText (least greatest : String) :
    Reads (rangeText least greatest) [("MinValue", [least]), ("MaxValue", [greatest])] := by
  have hmin : IsName "MinValue".toList := by decide
  have hmax : IsName "MaxValue".toList := by decide
  have hleast := written_quoteText hmin least
  have hgreatest := written_quoteText hmax greatest
  have hsequence := Sequence.constraint hleast (Sequence.constraint hgreatest .nil)
  apply Reads.sequence
  simpa [rangeText] using hsequence

end Constraint

open Constraint

/-! ## Two bounds are parsed -/

theorem Bound.isOrdered_dataType (b : Bound) : b.dataType.isOrdered = true := by
  cases b with
  | amount a => cases a <;> rfl
  | _ => rfl

namespace Parser

variable {p : Parser} {t : DataType} {a b name : String} {least greatest bound : Bound}
  {found c : Constraint}

/-- Every data type with bounds knows both kinds of bound. -/
theorem exists_knownFor (ht : t.isOrdered = true) :
    (∃ bound, Factory.knownFor "MinValue" t = some (.minValue bound)) ∧
      ∃ bound, Factory.knownFor "MaxValue" t = some (.maxValue bound) := by
  cases t <;> first | exact ⟨⟨_, rfl⟩, ⟨_, rfl⟩⟩ | cases ht

/-- What is known under a name and takes the parameters is created, whatever handlers there are. -/
theorem create_of_knownFor {ps : List String} {position : Nat} (ht : t ≠ .none)
    (hblank : isAllBlank name = false) (hknown : Factory.knownFor name t = some found)
    (hconfigure : found.configure t ps = .ok c) :
    (p.create t position name ps).result = .ok c :=
  create_eq_ok_iff.mpr ⟨found, Factory.find_of_knownFor p.factory ht hblank hknown, hconfigure⟩

theorem configure_bound (h : read none bound.dataType a = .ok bound.value) (before : Bound) :
    (Constraint.minValue before).configure bound.dataType [a] = .ok (.minValue bound) ∧
      (Constraint.maxValue before).configure bound.dataType [a] = .ok (.maxValue bound) := by
  have hread : ∀ name, readBound name bound.dataType [a] = .ok bound := fun name =>
    readBound_eq_ok_iff.mpr ⟨a, rfl, rfl, h⟩
  have ht : bound.dataType ≠ .none := bound.dataType_ne.1
  constructor <;>
    simp [configure, ht, isConfiguredFor, bound.isOrdered_dataType, hread]

/-- Two bounds between quotes are parsed as the bounds that they are read as, whatever handlers the
parser has. -/
theorem parse_rangeText (p : Parser) (hleast : least.dataType = t)
    (hgreatest : greatest.dataType = t) (ha : read none t a = .ok least.value)
    (hb : read none t b = .ok greatest.value) :
    (p.parse (rangeText a b) t).result = .ok [.minValue least, .maxValue greatest] := by
  have ht : t ≠ .none := hleast ▸ least.dataType_ne.1
  obtain ⟨⟨low, hlow⟩, high, hhigh⟩ := exists_knownFor (hleast ▸ least.isOrdered_dataType)
  have hmin : ∀ position, (p.create t position "MinValue" [a]).result = .ok (.minValue least) := by
    subst hleast
    exact fun _ => create_of_knownFor ht (by decide +kernel) hlow (configure_bound ha low).1
  have hmax : ∀ position,
      (p.create t position "MaxValue" [b]).result = .ok (.maxValue greatest) := by
    subst hgreatest
    exact fun _ => create_of_knownFor ht (by decide +kernel) hhigh (configure_bound hb high).2
  have hreads := reads_rangeText a b
  have hcompleted := completed_ofText_of_reads hreads
  have hfault : (Outline.ofText (rangeText a b)).fault = none :=
    fault_ofText_eq_none_iff.mpr (wellFormed_iff_reads.mpr ⟨_, hreads⟩)
  refine (parse_ok_iff ht).mpr ⟨hfault, ?_⟩
  -- The reading gives names and parameters; the offsets stay unknown, and do not matter.
  obtain ⟨first, rest, hfirst, hk, hrest⟩ := List.map_eq_cons_iff.mp hcompleted
  obtain ⟨second, rest, rfl, hk', hnil⟩ := List.map_eq_cons_iff.mp hrest
  obtain rfl := List.map_eq_nil_iff.mp hnil
  obtain ⟨position, _, _⟩ := first
  obtain ⟨position', _, _⟩ := second
  cases hk
  cases hk'
  rw [hfirst]
  exact .cons (hmin position) (.cons (hmax position') .nil)

end Parser

/-! ## Two bounds are checked -/

theorem Bound.value_ne_null (b : Bound) : b.value ≠ .null := by
  cases b with
  | amount a => cases a <;> nofun
  | _ => nofun

namespace Constraint

variable {r : Registry} {c : Constraint} {x bound : Bound} {wrong o : Ordering} {failing : Failing}
  {P : Prop}

open Classical in
/-- A value that is read fails a bound of its type with one code, or with none. -/
theorem exists_check_bound
    (hfailings : c.failings r x.dataType x.value =
      c.boundFailings x.dataType bound x.value wrong failing)
    (hjudges : c.judges x.dataType = true) (hx : x.IsReadable)
    (hcompare : compare? x.value bound.value = some o) (hwrong : o = wrong ↔ P)
    (member shown : String) :
    ∃ outcomes, c.check r x.dataType x.value member shown = .ok outcomes ∧
      outcomes.map (·.code) = if P then [failing.1] else [] := by
  have hcoerce : coerce none x.dataType x.value = .ok x.value :=
    coerce_of_coerced (Bound.coerced_of_isHeld hx.isHeld)
  rw [check_bound hjudges hfailings hcoerce hcompare]
  refine ⟨_, rfl, ?_⟩
  by_cases hP : P
  · rw [if_pos hP, if_pos (hwrong.mpr hP)]
    rfl
  · rw [if_neg hP, if_neg (mt hwrong.mp hP)]
    rfl

end Constraint

namespace Validator

variable {v : Validator} {t : DataType} {a b x member : String} {least greatest value shown : Value}

theorem exists_shownName (hshown : shown = .null ∨ ∃ s, shown.text? = some s) (member : String) :
    ∃ name, shownName member (shownOr member shown) = .ok name := by
  obtain rfl | ⟨s, hs⟩ := hshown
  · exact ⟨member, shownName_member member⟩
  · have hsome : shownOr member shown = shown := by
      cases shown with
      | null => cases hs
      | _ => rfl
    rw [hsome]
    unfold shownName
    split
    · cases hs
    · exact ⟨_, rfl⟩
    · rename_i hnone
      cases hnone.symm.trans hs

open Classical in
/-- A value that a text is read as, under two bounds that are written as texts of the same type,
fails what the texts mean: it is too small when it precedes the first bound, too large when the
second bound precedes it, and fails nothing else. -/
theorem resultsWith_range (v : Validator) (ho : ∀ o ∈ v.observers, ∀ n, o.answer n = .ok ())
    (ht : t.isOrdered = true) (ha : read none t a = .ok least) (hb : read none t b = .ok greatest)
    (hx : read none t x = .ok value) (hmember : isAllBlank member = false)
    (hshown : shown = .null ∨ ∃ s, shown.text? = some s) :
    ∃ outcomes,
      (v.resultsWith value (.ofDataType t) (.text (rangeText a b)) (.text member) shown).result =
        .ok outcomes ∧
      outcomes.map (·.code) =
        (if value.Precedes least then [.valueTooSmall] else []) ++
          if greatest.Precedes value then [.valueTooLarge] else [] := by
  obtain ⟨low, hlow, rfl, -⟩ := Cell.exists_bound_of_read ht ha
  obtain ⟨high, hhigh, rfl, -⟩ := Cell.exists_bound_of_read ht hb
  obtain ⟨bound, rfl, rfl, -⟩ := Cell.exists_bound_of_read ht hx
  have hparse := v.parser.parse_rangeText hlow hhigh ha hb
  obtain ⟨name, hname⟩ := exists_shownName hshown member
  have hread := isReadable_of_read hx
  obtain ⟨o, hcompare, hlt, -⟩ := exists_compare?_of_isReadable hread
    (isReadable_of_read (hlow ▸ ha)) hlow.symm
  obtain ⟨o', hcompare', -, hgt⟩ := exists_compare?_of_isReadable hread
    (isReadable_of_read (hhigh ▸ hb)) hhigh.symm
  obtain ⟨small, hsmall, hcodes⟩ := exists_check_bound (r := v.registry) (c := .minValue low) rfl ht
    hread hcompare hlt member name
  obtain ⟨large, hlarge, hcodes'⟩ := exists_check_bound (r := v.registry) (c := .maxValue high) rfl
    ht hread hcompare' hgt member name
  refine ⟨small ++ (large ++ []), ?_, ?_⟩
  · rw [result_resultsWith_shown ho hparse bound.value_ne_null hmember, checkAll_cons hname,
      checkAll_cons hname, hsmall, hlarge]
    rfl
  · rw [List.map_append, List.append_nil, hcodes, hcodes']

/-- A quarter to seven four hours west is later than half past ten in universal time. -/
theorem resultsWith_range_offsets :
    ∃ outcomes,
      ((standard .empty).resultsWith (.moment ⟨2024, 5, 1, 6, 45, 0, 0, some (-14400000000)⟩)
        (.ofDataType .dateTimeOffset)
        (.text (rangeText "2024-05-01T12:00:00+02:00" "2024-05-01T10:30:00Z")) (.text "m")
        .null).result = .ok outcomes ∧
      outcomes.map (·.code) = [.valueTooLarge] := by
  have ha : read none .dateTimeOffset "2024-05-01T12:00:00+02:00" =
      .ok (.moment ⟨2024, 5, 1, 12, 0, 0, 0, some 7200000000⟩) := by rfl
  have hb : read none .dateTimeOffset "2024-05-01T10:30:00Z" =
      .ok (.moment ⟨2024, 5, 1, 10, 30, 0, 0, some 0⟩) := by rfl
  have hx : read none .dateTimeOffset "2024-05-01T06:45:00-04:00" =
      .ok (.moment ⟨2024, 5, 1, 6, 45, 0, 0, some (-14400000000)⟩) := by rfl
  have hmember : isAllBlank "m" = false := by decide +kernel
  obtain ⟨outcomes, hresult, hcodes⟩ :=
    resultsWith_range (standard .empty) nofun rfl ha hb hx hmember (.inl rfl)
  refine ⟨outcomes, hresult, ?_⟩
  rw [hcodes, if_neg, if_pos]
  · rfl
  · exact (Value.precedes_moment_iff rfl rfl).mpr (by decide +kernel)
  · rw [Value.precedes_moment_iff rfl rfl]
    decide +kernel

end Validator

end ParamRules
