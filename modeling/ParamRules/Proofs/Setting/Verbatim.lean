import ParamRules.Proofs.Conversion.Envelope
import ParamRules.Setting

/-!
# Texts that are carried as they are

The values of three data types are texts: any text, identifiers and markup.  Writing one gives the
text itself, whatever it holds, but reading trims identifiers and refuses those with a broken
authority, and it refuses markup that is not well formed.  So only some texts come back
(`isVerbatim`), by conversion and from a setting alike (`carriesText_iff`): what is stored in a
setting need not be a value that it can give.
-/

namespace ParamRules

open Text

namespace Conversion

variable {hint : Hint} {t : DataType} {s : String} {v : Value}

/-- Whether a text is read as it is as a value of a data type of texts. -/
def isVerbatim : DataType → String → Bool
  | .string, _ => true
  | .uri, s => trim s = s && (Network.scheme? s.toList).isSome
  | .xml, s => Xml.isWellFormed s
  | _, _ => false

/-- The data types whose values are texts. -/
def IsTextual (t : DataType) : Prop :=
  t = .string ∨ t = .uri ∨ t = .xml

/-- A text is written as it is. -/
theorem write_text (ht : IsTextual t) (hv : v.text? = some s) (hint : Hint) :
    write hint t v = .ok s := by
  have hcoerce : coerce hint t v = .ok v := coerce_of_coerced (.text ht hv)
  rcases ht with rfl | rfl | rfl <;>
    simp only [write, hcoerce, hv, bind, Except.bind, reduceCtorEq, if_false] <;> rfl

theorem read_uri : read hint .uri s =
    if (Network.scheme? (trimChars s.toList)).isSome then .ok (.text (trim s))
    else .error (.conversion .uri (.text s) .impossible none) := by
  unfold read
  extract_lets refuse body given
  change given ((Network.scheme? body).map fun _ => .text (String.ofList body)) =
    if (Network.scheme? body).isSome then _ else _
  generalize Network.scheme? body = scheme?
  cases scheme? <;> rfl

theorem read_xml : read hint .xml s =
    if Xml.isWellFormed s then .ok (.text s)
    else .error (.conversion .xml (.text s) .malformedXml none) := rfl

/-- What a text is read as: itself, itself without the white space around it, or nothing. -/
theorem read_textual (ht : IsTextual t) (hint : Hint) (s : String) :
    (read hint t s = .ok (.text s) ∧ isVerbatim t s = true) ∨
      (isVerbatim t s = false ∧ t = .uri ∧ trim s ≠ s ∧ read hint t s = .ok (.text (trim s))) ∨
        isVerbatim t s = false ∧ ∃ fault, read hint t s = .error fault ∧
          fault.kind = .conversion := by
  rcases ht with rfl | rfl | rfl
  · exact .inl ⟨rfl, rfl⟩
  · rw [read_uri]
    by_cases htrim : trim s = s
    · have hchars : trimChars s.toList = s.toList := by
        rw [← String.toList_inj] at htrim
        simpa [trim] using htrim
      rw [hchars, isVerbatim, decide_eq_true htrim, Bool.true_and]
      cases (Network.scheme? s.toList).isSome with
      | true => exact .inl ⟨by rw [if_pos rfl, htrim], rfl⟩
      | false => exact .inr (.inr ⟨rfl, _, if_neg Bool.false_ne_true, kind_conversion_text⟩)
    · have hchanged : isVerbatim .uri s = false := by simp [isVerbatim, htrim]
      rw [hchanged]
      split_ifs
      · exact .inr (.inl ⟨rfl, rfl, htrim, rfl⟩)
      · exact .inr (.inr ⟨rfl, _, rfl, kind_conversion_text⟩)
  · rw [read_xml, isVerbatim]
    cases Xml.isWellFormed s with
    | true => exact .inl ⟨rfl, rfl⟩
    | false => exact .inr (.inr ⟨rfl, _, rfl, kind_conversion_text⟩)

/-- A text is read as it is if and only if it is verbatim. -/
theorem read_eq_self_iff (ht : IsTextual t) (hint : Hint) (s : String) :
    read hint t s = .ok (.text s) ↔ isVerbatim t s = true := by
  rcases read_textual ht hint s with ⟨hread, hsame⟩ | ⟨hother, -, htrim, hread⟩ |
    ⟨hother, fault, hread, -⟩
  · simp [hread, hsame]
  · simp [hread, hother, htrim]
  · simp [hread, hother]

end Conversion

namespace Setting

open Conversion

variable {r : Registry} {s : Setting} {cs : List Constraint} {v : Value} {text : String}

/-- A setting stores a text as it is. -/
theorem result_withValue_text (ht : IsTextual s.dataType)
    (hparsed : s.parsedConstraints.result = .ok cs) (hv : v.text? = some text) :
    (s.withValue r v).result = .ok { s with value := some text } := by
  have hwrite := write_text ht hv (hint r cs)
  rw [withValue, Recorded.result_bind hparsed]
  split
  · cases hv
  · rename_i henum _
    rcases ht with h | h | h <;> cases h.symm.trans henum
  · rw [hwrite]
    rfl

theorem exists_parsed_of_withValue {s' : Setting} (h : (s.withValue r v).result = .ok s') :
    ∃ cs, s.parsedConstraints.result = .ok cs := by
  rw [withValue, Recorded.result_bind_eq] at h
  obtain ⟨cs, hcs, -⟩ := Result.bind_eq_ok_iff.mp h
  exact ⟨cs, hcs⟩

theorem result_nativeValue_text (ht : IsTextual s.dataType)
    (hparsed : s.parsedConstraints.result = .ok cs) (text : String) :
    (({ s with value := some text } : Setting).nativeValue r).result =
      read (hint r cs) s.dataType text := by
  obtain ⟨name, t, constraints, value, displayName, parser⟩ := s
  have hparsed' : (parsedConstraints ⟨name, t, constraints, some text, displayName,
      parser⟩).result = .ok cs := hparsed
  rw [nativeValue]
  simp only
  rw [Recorded.result_bind hparsed']
  rcases ht with rfl | rfl | rfl <;> rfl

/-- Every text is written as it is, and stored in every setting whose constraints can be parsed. It
comes back if and only if it is verbatim; otherwise it comes back trimmed, or is refused. -/
theorem carriesText_iff {t : DataType} {x : String} (ht : IsTextual t) (hv : v.text? = some x)
    (hint : Hint) (r : Registry) (s : Setting) (hs : s.dataType = t) :
    write hint t v = .ok x ∧
      (read hint t x = .ok (.text x) ↔ isVerbatim t x = true) ∧
      (isVerbatim t x = false →
        t = .uri ∧ trim x ≠ x ∧ read hint t x = .ok (.text (trim x)) ∨
          ∃ fault, read hint t x = .error fault ∧ fault.kind = .conversion) ∧
      ((∃ s', (s.withValue r v).result = .ok s') ↔
        ∃ cs, s.parsedConstraints.result = .ok cs) ∧
      ∀ s', (s.withValue r v).result = .ok s' →
        s'.value = some x ∧
          ((s'.nativeValue r).result = .ok (.text x) ↔ isVerbatim t x = true) := by
  subst hs
  refine ⟨write_text ht hv hint, read_eq_self_iff ht hint x, fun hother => ?_, ?_, ?_⟩
  · rcases read_textual ht hint x with ⟨-, hsame⟩ | ⟨-, huri, htrim, hread⟩ | ⟨-, hrefused⟩
    · cases hsame.symm.trans hother
    · exact .inl ⟨huri, htrim, hread⟩
    · exact .inr hrefused
  · constructor
    · rintro ⟨s', hs'⟩
      exact exists_parsed_of_withValue hs'
    · rintro ⟨cs, hcs⟩
      exact ⟨_, result_withValue_text ht hcs hv⟩
  · intro s' hs'
    obtain ⟨cs, hcs⟩ := exists_parsed_of_withValue hs'
    obtain rfl := Except.ok.inj ((result_withValue_text ht hcs hv).symm.trans hs')
    rw [result_nativeValue_text ht hcs]
    exact ⟨rfl, read_eq_self_iff ht _ x⟩

/-- An identifier with a blank before it is stored with the blank, and comes back without it. -/
theorem carriesText_iff_identifier :
    let s : Setting := ⟨"home", .uri, "", none, none, none⟩
    IsTextual .uri ∧ (Value.text " http://h").text? = some " http://h" ∧ s.dataType = .uri ∧
      ∃ s', (s.withValue .empty (.text " http://h")).result = .ok s' ∧
        s'.value = some " http://h" ∧ (s'.nativeValue .empty).result ≠ .ok (.text " http://h") := by
  intro s
  have ht : IsTextual .uri := .inr (.inl rfl)
  have hparsed : s.parsedConstraints.result = .ok [] := by rfl
  obtain ⟨-, -, -, hstored, hback⟩ :=
    carriesText_iff (v := .text " http://h") ht rfl none .empty s rfl
  obtain ⟨s', hs'⟩ := hstored.mpr ⟨[], hparsed⟩
  obtain ⟨hvalue, hiff⟩ := hback s' hs'
  have hchanged : isVerbatim .uri " http://h" = false := by decide +kernel
  exact ⟨ht, rfl, rfl, s', hs', hvalue, hiff.not.mpr (by simp [hchanged])⟩

/-- Markup whose tag is not closed is written, and cannot be read. -/
theorem not_carriesText_markup :
    ¬ ∀ (hint : Hint) (t : DataType) (v : Value) (x text : String), IsTextual t →
      v.text? = some x → write hint t v = .ok text → read hint t text = .ok (.text x) := by
  intro h
  have hback := h none .xml (.text "<a") "<a" "<a" (.inr (.inr rfl)) rfl rfl
  have hbroken : Xml.isWellFormed "<a" = false := by decide +kernel
  rw [read_xml, hbroken] at hback
  cases hback

end Setting

end ParamRules
