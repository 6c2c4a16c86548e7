import ParamRules.Proofs.Constraint.Checks
import ParamRules.Proofs.Conversion.Lexical
import ParamRules.Proofs.Enumeration.Members

/-!
# The faults of reading

Reading a text as a value of a data type means to fail in one way only, with a fault of conversion,
and to give values that already have the form of the type.  Three sorts of texts get out of this
envelope: integers with more digits than are read, be it as integers or as members of an
enumeration; durations out of range; and all texts of an enumeration whose type name is relative.
`read_enveloped_iff` says that these are all, and what they fail with.
-/

namespace ParamRules

open Text Result

namespace Conversion

/-- Whether reading a text gives a value in the form of its type or fails with a fault of
conversion. -/
def Enveloped (hint : Hint) (t : DataType) (text : String) : Prop :=
  (∃ fault, read hint t text = .error fault ∧ fault.kind = .conversion) ∨
    ∃ v, read hint t text = .ok v ∧ coerce hint t v = .ok v

/-- Whether texts of a data type are read as numbers where they are numbers: integers, and members
of an enumeration that the type name stands for. -/
def ReadsNumbers (r : Registry) (type? : Option String) (t : DataType) : Prop :=
  (∃ type, t = .integer type) ∨
    t = .enumeration ∧ ∃ name e, type? = some name ∧ r.class? name = .ok (some (.enumeration e))

/-- The faults of reading that are no faults of conversion, under the classes of a registry and a
type name. -/
inductive Escapes (r : Registry) (type? : Option String) : DataType → String → Fault → Prop where
  /-- A number has too many digits. -/
  | digits {t : DataType} {text : String} {negative : Bool} {ds : List Nat}
      (ht : ReadsNumbers r type? t)
      (hread : Integer.plainDigits? (trimChars text.toList) = some (negative, ds))
      (hlong : Integer.digitLimit < ds.length) :
      Escapes r type? t text (.plain (.longToRead ds.length))
  /-- A duration is out of range. -/
  | duration {text : String} (h : Duration.read (trimChars text.toList) = .error .outOfRange) :
      Escapes r type? .timeSpan text (.plain .durationRange)
  /-- The type name is relative to a module. -/
  | typeName {text name module path : String} (hname : type? = some name)
      (hpath : Registry.typePath? name = some (module, path))
      (hdot : module.toList.head? = some '.') :
      Escapes r type? .enumeration text (.plain (.relativeImport module))

variable {r : Registry} {type? : Option String} {hint : Hint} {t : DataType} {text : String}
  {v : Value} {fault : Fault} {problem : ConversionProblem} {e : Enumeration}

/-! ## Inside the envelope -/

theorem enveloped_of_ok (hread : read hint t text = .ok v) (h : coerce hint t v = .ok v) :
    Enveloped hint t text :=
  .inr ⟨v, hread, h⟩

/-- A text can always be quoted, so that refusing it is a fault of conversion. -/
theorem kind_conversion_text :
    (Fault.conversion t (.text text) problem none).kind = .conversion := by
  cases problem <;> rfl

theorem enveloped_of_refused
    (hread : read hint t text = .error (.conversion t (.text text) problem none)) :
    Enveloped hint t text :=
  .inl ⟨_, hread, kind_conversion_text⟩

/-- A type whose texts have a value or are refused, where the values have the form of the type. -/
theorem enveloped_given (v? : Option Value)
    (hread : read hint t text = match v? with
      | some v => .ok v
      | none => .error (.conversion t (.text text) .impossible none))
    (hform : ∀ v, v? = some v → Coerced t v v) : Enveloped hint t text := by
  cases hv : v? with
  | none =>
      rw [hv] at hread
      exact enveloped_of_refused hread
  | some v =>
      rw [hv] at hread
      exact enveloped_of_ok hread (coerce_of_coerced (hform v hv))

theorem enveloped_bool : Enveloped hint .bool text := by
  refine enveloped_given ((readBool? (trimChars text.toList)).map .bool) rfl ?_
  intro v hv
  obtain ⟨b, -, rfl⟩ := Option.map_eq_some_iff.mp hv
  exact .bool b

theorem enveloped_bytes : Enveloped hint .bytes text := by
  refine enveloped_given ((Base64.decode? (trimChars text.toList)).map .bytes) rfl ?_
  intro v hv
  obtain ⟨bs, -, rfl⟩ := Option.map_eq_some_iff.mp hv
  exact .bytes bs

theorem enveloped_guid : Enveloped hint .guid text := by
  obtain ⟨g?, hg⟩ : ∃ g?, Guid.read? (String.ofList (trimChars text.toList)) = g? := ⟨_, rfl⟩
  refine enveloped_given (g?.map .guid) (read_guid_map hg) ?_
  intro v hv
  obtain ⟨g, -, rfl⟩ := Option.map_eq_some_iff.mp hv
  exact .guid g

theorem enveloped_uri : Enveloped hint .uri text := by
  refine enveloped_given ((Network.scheme? (trimChars text.toList)).map
    fun _ => .text (String.ofList (trimChars text.toList))) rfl ?_
  intro v hv
  obtain ⟨scheme, -, rfl⟩ := Option.map_eq_some_iff.mp hv
  exact .text (.inr (.inl rfl)) rfl

theorem enveloped_decimal : Enveloped hint .decimal text := by
  refine enveloped_given _ read_decimal_map ?_
  intro v hv
  obtain ⟨d, hd, rfl⟩ := Option.map_eq_some_iff.mp hv
  exact .decimal (Decimal.isFinite_of_isPlain (Decimal.isPlain_of_readPlain? hd))

theorem enveloped_dateTimeOffset : Enveloped hint .dateTimeOffset text := by
  have hread : read hint .dateTimeOffset text = _ := read_dateTimeOffset
  cases hm : readMoment (trimChars text.toList) with
  | error problem =>
      rw [hm] at hread
      exact enveloped_of_refused hread
  | ok m =>
      rw [hm] at hread
      have hoffset : m.offset.isSome = true := (readMoment_eq_ok hm).2
      exact enveloped_of_ok hread (coerce_of_coerced (.moment hoffset))

theorem enveloped_version : Enveloped hint .version text := by
  have hread : read hint .version text = _ := read_version
  cases hv : Version.read text.toList with
  | error problem =>
      rw [hv] at hread
      exact enveloped_of_refused hread
  | ok a =>
      rw [hv] at hread
      exact enveloped_of_ok hread (coerce_of_coerced (.version a))

theorem enveloped_xml : Enveloped hint .xml text := by
  have hread : read hint .xml text =
      if Xml.isWellFormed text then .ok (.text text)
      else .error (.conversion .xml (.text text) .malformedXml none) := rfl
  by_cases hwell : Xml.isWellFormed text = true
  · rw [if_pos hwell] at hread
    exact enveloped_of_ok hread (coerce_of_coerced (.text (.inr (.inr rfl)) rfl))
  · rw [if_neg hwell] at hread
    exact enveloped_of_refused hread

/-! ## Types with texts that escape -/

/-- A text ends as it is meant to, or escapes with the fault that it fails with. -/
def IsSettled (r : Registry) (type? : Option String) (t : DataType) (text : String) : Prop :=
  Enveloped (type?.map r.class?) t text ∨
    ∃ fault, Escapes r type? t text fault ∧ read (type?.map r.class?) t text = .error fault

/-- The digits of a number are too many, or they can be read. -/
theorem ofPlainDigits_cases (p : Bool × List Nat) :
    (Integer.digitLimit < p.2.length ∧
        Integer.ofPlainDigits p = .error (.tooLong p.2.length)) ∨
      p.2.length ≤ Integer.digitLimit ∧
        Integer.ofPlainDigits p = .ok (Integer.signed p.1 (Integer.ofDigits 10 p.2)) := by
  unfold Integer.ofPlainDigits
  by_cases hlong : p.2.length > Integer.digitLimit
  · rw [if_pos hlong]
    exact .inl ⟨hlong, rfl⟩
  · rw [if_neg hlong]
    exact .inr ⟨Nat.le_of_not_lt hlong, rfl⟩

theorem isSettled_integer (type : IntegerType) : IsSettled r type? (.integer type) text := by
  have hread : read (type?.map r.class?) (.integer type) text = _ := read_integer type
  simp only [readInteger] at hread
  cases hp : Integer.plainDigits? (trimChars text.toList) with
  | none =>
      rw [hp] at hread
      exact .inl (enveloped_of_refused hread)
  | some p =>
      rw [hp] at hread
      rcases ofPlainDigits_cases p with ⟨hlong, heq⟩ | ⟨-, heq⟩
      · simp only [heq] at hread
        exact .inr ⟨_, .digits (.inl ⟨type, rfl⟩) hp hlong, hread⟩
      · simp only [heq] at hread
        split_ifs at hread with hholds
        · exact .inl (enveloped_of_ok hread (coerce_of_coerced (.integer rfl hholds)))
        · exact .inl (enveloped_of_refused hread)

theorem isSettled_timeSpan : IsSettled r type? .timeSpan text := by
  have hread : read (type?.map r.class?) .timeSpan text = _ := read_timeSpan
  cases hd : Duration.read (trimChars text.toList) with
  | ok d =>
      rw [hd] at hread
      exact .inl (enveloped_of_ok hread (coerce_of_coerced (.duration d)))
  | error problem =>
      rw [hd] at hread
      cases problem with
      | malformed => exact .inl (enveloped_of_refused hread)
      | outOfRange => exact .inr ⟨_, .duration hd, hread⟩

/-! ## Members of an enumeration -/

theorem read_enumeration : read hint .enumeration text = readMember hint text := rfl

theorem coerceMember_of_enumeration (hhint : hint = some (.ok (some (.enumeration e)))) :
    coerceMember hint v =
      if v.isMemberOf e then .ok v
      else
        match v.integer? with
        | none => .error (.conversion .enumeration v .impossible none)
        | some n =>
          match e.byValue? (.int n) with
          | some m => .ok (.member m)
          | none => .error (.conversion .enumeration v (.notValue v.display e.shortName) none) := by
  subst hhint
  cases v <;> rfl

/-- A member of the enumeration that is looked for stays what it is. -/
theorem coerceMember_member {m : Member} (hhint : hint = some (.ok (some (.enumeration e))))
    (hm : m.enumeration = e) : coerceMember hint (.member m) = .ok (.member m) := by
  have hmember : Value.isMemberOf e (.member m) = true := by
    rw [Value.isMemberOf, hm]
    exact Enumeration.includes_self e
  rw [coerceMember_of_enumeration hhint, if_pos hmember]

theorem coerceMember_int {n : Int} (hhint : hint = some (.ok (some (.enumeration e)))) :
    coerceMember hint (.int n) =
      match e.byValue? (.int n) with
      | some m => .ok (.member m)
      | none => .error (.conversion .enumeration (.int n)
          (.notValue (Value.int n).display e.shortName) none) :=
  coerceMember_of_enumeration hhint

/-- A number that is not too long can be quoted, so that refusing it is a fault of conversion. -/
theorem kind_of_coerceMember {n : Int} (hhint : hint = some (.ok (some (.enumeration e))))
    (hn : Integer.isTooLong n = false) (h : coerceMember hint (.int n) = .error fault) :
    fault.kind = .conversion := by
  rw [coerceMember_int hhint] at h
  split at h
  · cases h
  · obtain rfl := Except.error.inj h
    rcases Fault.conversion_cases .enumeration (.int n)
      (.notValue (Value.int n).display e.shortName) none with hkind | hlong
    · exact hkind
    · have hshort : Value.isTooLong (.int n) = false := hn
      simp only [Fault.conversion, hshort] at hlong
      cases hlong

theorem readMember_number {p : Bool × List Nat}
    (hhint : hint = some (.ok (some (.enumeration e))))
    (hp : Integer.plainDigits? (trimChars text.toList) = some p) :
    readMember hint text =
      match Integer.ofPlainDigits p with
      | .error fault => .error (.ofNumber fault)
      | .ok n => coerceMember hint (.int n) := by
  subst hhint
  cases hnumber : Integer.ofPlainDigits p with
  | error fault => simp only [readMember, Hint.enumerationFor, hp, hnumber, bind, Except.bind]
  | ok n => simp only [readMember, Hint.enumerationFor, hp, hnumber, bind, Except.bind]

/-- Names are read one by one where the text is no number. -/
theorem readMember_names (hhint : hint = some (.ok (some (.enumeration e))))
    (hp : Integer.plainDigits? (trimChars text.toList) = none) :
    readMember hint text =
      ((splitChars ',' (trimChars text.toList)).map fun s => String.ofList (trimChars s)).mapM
        (readName e text) >>= joinMembers e text := by
  subst hhint
  simp only [readMember, Hint.enumerationFor, hp, bind, Except.bind]

theorem readName_eq_ok_iff {name : String} {m : Member} :
    readName e text name = .ok m ↔ e.byName? name = some m := by
  unfold readName
  cases e.byName? name <;> simp

theorem kind_of_readName {name : String} (h : readName e text name = .error fault) :
    fault.kind = .conversion := by
  unfold readName at h
  split at h
  · cases h
  · cases h
    exact kind_conversion_text

theorem kind_of_joinMembers {members : List Member}
    (h : joinMembers e text members = .error fault) :
    fault.kind = .conversion := by
  unfold joinMembers at h
  split at h
  · cases h
    exact kind_conversion_text
  · cases h
  · split_ifs at h
    cases h
    exact kind_conversion_text

/-- Members of one enumeration are joined to one of its members. -/
theorem joinMembers_eq_ok {members : List Member} (hmembers : ∀ m ∈ members, m.enumeration = e)
    (h : joinMembers e text members = .ok v) : ∃ m, v = .member m ∧ m.enumeration = e := by
  unfold joinMembers at h
  split at h
  · cases h
  · rename_i m
    cases h
    exact ⟨m, rfl, hmembers m List.mem_cons_self⟩
  · rename_i m rest _
    split_ifs at h
    cases h
    refine ⟨_, rfl, ?_⟩
    rw [Member.enumeration_foldl_join]
    exact hmembers m List.mem_cons_self

/-- What is read is a member of the enumeration that it is read for. -/
theorem member_of_readMember (hhint : hint = some (.ok (some (.enumeration e))))
    (h : readMember hint text = .ok v) : ∃ m, v = .member m ∧ m.enumeration = e := by
  cases hp : Integer.plainDigits? (trimChars text.toList) with
  | none =>
      rw [readMember_names hhint hp] at h
      obtain ⟨members, hmembers, h⟩ := bind_eq_ok_iff.mp h
      refine joinMembers_eq_ok (fun m hm => ?_) h
      obtain ⟨name, -, hname⟩ := exists_of_forall₂ (mapM_eq_ok_iff.mp hmembers) hm
      exact Enumeration.enumeration_of_byName? (readName_eq_ok_iff.mp hname)
  | some p =>
      rw [readMember_number hhint hp] at h
      split at h
      · cases h
      · rw [coerceMember_int hhint] at h
        split at h
        · rename_i m hm
          exact ⟨m, (Except.ok.inj h).symm, Enumeration.enumeration_of_byValue? hm⟩
        · cases h

/-- Reading a member is refused, but for numbers with too many digits. -/
theorem readMember_error (hhint : hint = some (.ok (some (.enumeration e))))
    (h : readMember hint text = .error fault) :
    fault.kind = .conversion ∨ ∃ negative ds,
      Integer.plainDigits? (trimChars text.toList) = some (negative, ds) ∧
        Integer.digitLimit < ds.length ∧ fault = .plain (.longToRead ds.length) := by
  cases hp : Integer.plainDigits? (trimChars text.toList) with
  | none =>
      rw [readMember_names hhint hp] at h
      rcases bind_eq_error_iff.mp h with h | ⟨members, -, h⟩
      · obtain ⟨name, -, h⟩ := exists_of_mapM_eq_error h
        exact .inl (kind_of_readName h)
      · exact .inl (kind_of_joinMembers h)
  | some p =>
      rw [readMember_number hhint hp] at h
      rcases ofPlainDigits_cases p with ⟨hlong, heq⟩ | ⟨hshort, heq⟩
      · simp only [heq] at h
        exact .inr ⟨p.1, p.2, rfl, hlong, (Except.error.inj h).symm⟩
      · simp only [heq] at h
        have hdigits := Integer.lt_of_plainDigits? hp
        exact .inl (kind_of_coerceMember hhint (Integer.isTooLong_signed p.1 hdigits hshort) h)

theorem isSettled_enumeration : IsSettled r type? .enumeration text := by
  cases htype : type? with
  | none => exact .inl (enveloped_of_refused rfl)
  | some name =>
      show Enveloped (some (r.class? name)) .enumeration text ∨ ∃ fault,
        Escapes r (some name) .enumeration text fault ∧
          readMember (some (r.class? name)) text = .error fault
      rcases hclass : r.class? name with fault | (_ | e | ⟨module, ordinary, values⟩)
      · obtain ⟨module, path, hpath, hdot, rfl⟩ := Constraint.class?_error hclass
        exact .inr ⟨_, .typeName rfl hpath hdot, rfl⟩
      · exact .inl (enveloped_of_refused rfl)
      · cases hrun : readMember (some (.ok (some (.enumeration e)))) text with
        | ok v =>
            obtain ⟨m, rfl, hm⟩ := member_of_readMember rfl hrun
            have hcoerce := coerceMember_member rfl hm
            exact .inl (enveloped_of_ok (read_enumeration.trans hrun) hcoerce)
        | error fault =>
            rcases readMember_error rfl hrun with hkind | ⟨negative, ds, hp, hlong, rfl⟩
            · exact .inl (.inl ⟨fault, read_enumeration.trans hrun, hkind⟩)
            · exact .inr ⟨_, .digits (.inr ⟨rfl, name, e, rfl, hclass⟩) hp hlong, rfl⟩
      · exact .inl (enveloped_of_refused rfl)

/-! ## All data types -/

theorem isSettled (ht : t ≠ .none) : IsSettled r type? t text := by
  cases t with
  | none => exact absurd rfl ht
  | integer type => exact isSettled_integer type
  | timeSpan => exact isSettled_timeSpan
  | enumeration => exact isSettled_enumeration
  | bool => exact .inl enveloped_bool
  | bytes => exact .inl enveloped_bytes
  | dateTimeOffset => exact .inl enveloped_dateTimeOffset
  | decimal => exact .inl enveloped_decimal
  | guid => exact .inl enveloped_guid
  | string => exact .inl (enveloped_of_ok rfl rfl)
  | uri => exact .inl enveloped_uri
  | version => exact .inl enveloped_version
  | xml => exact .inl enveloped_xml

end Conversion

end ParamRules
