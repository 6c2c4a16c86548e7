import ParamRules.Proofs.Constraint.Readers
import ParamRules.Proofs.Constraint.Values

/-!
# Configured constraints keep their parameters

The parameters that a configured constraint is written with configure it again, to the same
constraint.  So configuring is a retraction onto the constraints in their canonical form, for each
kind by the lemma about its reader.  Custom rules keep what they like and are left out.
-/

namespace ParamRules.Constraint

open Text Result

variable {c d : Constraint} {t : DataType} {ps : List String}

/-- Whether a constraint is of a kind of its own. -/
def isCustom : Constraint → Bool
  | .custom .. => true
  | _ => false

theorem configure_ok_cases (h : c.configure t ps = .ok d) :
    t ≠ .none ∧ c.isConfiguredFor t = true := by
  unfold configure at h
  split_ifs at h with hnone hfor
  exact ⟨hnone, by simpa using hfor⟩

/-- Configuring keeps the kind of a constraint, and with it the name. -/
theorem name_of_configure (h : c.configure t ps = .ok d) :
    d.name = c.name ∧ d.isCustom = c.isCustom := by
  unfold configure at h
  split_ifs at h
  cases c with
  | null | encrypted | readOnly | lowercase | uppercase | password | host | endpoint | fileName
  | path =>
      cases h
      exact ⟨rfl, rfl⟩
  | database e k d' =>
      simp only at h
      split at h <;> cases h <;> exact ⟨rfl, rfl⟩
  | charSet set =>
      obtain ⟨p, -, h⟩ := bind_eq_ok_iff.mp h
      split at h <;> cases h
      exact ⟨rfl, rfl⟩
  | custom rule kept =>
      simp only at h
      split at h <;> cases h
      exact ⟨rfl, rfl⟩
  | _ =>
      obtain ⟨a, -, rfl⟩ := map_eq_ok_iff.mp h
      exact ⟨rfl, rfl⟩

theorem configure_databaseParameters (e k d : String) (ht : t ≠ .none) (e' k' d' : String) :
    (Constraint.database e' k' d').configure t (databaseParameters e k d) =
      .ok (.database e k d) := by
  unfold configure databaseParameters
  rw [if_neg ht, if_neg (by simp [isConfiguredFor])]
  by_cases hd : d = ""
  · by_cases hk : k = ""
    · simp [hd, hk]
    · simp [hd, hk]
  · simp [hd]

/-- A configured constraint is configured to itself by its own parameters. -/
theorem configure_parameters (hc : c.isCustom = false) (h : c.configure t ps = .ok d) :
    c.configure t d.parameters = .ok d := by
  obtain ⟨ht, hfor⟩ := configure_ok_cases h
  have hfor' : ¬ (!c.isConfiguredFor t) = true := by simp [hfor]
  unfold configure at h ⊢
  rw [if_neg ht, if_neg hfor'] at h ⊢
  cases c with
  | null | encrypted | readOnly | lowercase | uppercase | password | host | endpoint | fileName
  | path =>
      cases h
      rfl
  | displayHint hints =>
      obtain ⟨read, hread, rfl⟩ := map_eq_ok_iff.mp h
      obtain rfl := readHints_eq_ok hread
      exact map_eq_ok_iff.mpr ⟨_, hread, rfl⟩
  | database e k d' =>
      have hdatabase := fun e' k' d'' =>
        configure_databaseParameters e' k' d'' ht e k d'
      unfold configure at hdatabase
      simp only [if_neg ht, if_neg hfor'] at hdatabase
      simp only at h
      split at h
      · rename_i entity
        cases h
        exact hdatabase entity "" ""
      · rename_i entity keyProperty
        cases h
        exact hdatabase entity keyProperty ""
      · rename_i entity keyProperty displayProperty
        cases h
        exact hdatabase entity keyProperty displayProperty
      · cases h
  | length n | minLength n | maxLength n =>
      obtain ⟨read, hread, rfl⟩ := map_eq_ok_iff.mp h
      exact map_eq_ok_iff.mpr ⟨_, readLength_natText hread, rfl⟩
  | minValue bound | maxValue bound =>
      obtain ⟨read, hread, rfl⟩ := map_eq_ok_iff.mp h
      exact map_eq_ok_iff.mpr ⟨_, readBound_text hread, rfl⟩
  | step size =>
      obtain ⟨read, hread, rfl⟩ := map_eq_ok_iff.mp h
      exact map_eq_ok_iff.mpr ⟨_, readAmount_text hread, rfl⟩
  | decimalPlaces n =>
      obtain ⟨read, hread, rfl⟩ := map_eq_ok_iff.mp h
      exact map_eq_ok_iff.mpr ⟨_, readPlaces_natText hread, rfl⟩
  | charSet set =>
      obtain ⟨p, -, h⟩ := bind_eq_ok_iff.mp h
      split at h <;> cases h
      refine bind_eq_ok_iff.mpr ⟨_, single_eq_ok_iff.mpr rfl, ?_⟩
      rw [ofName?_trim_characterSet]
  | regex expression =>
      obtain ⟨read, hread, rfl⟩ := map_eq_ok_iff.mp h
      exact map_eq_ok_iff.mpr ⟨_, readExpression_parameters hread, rfl⟩
  | allowedScheme schemes =>
      obtain ⟨read, hread, rfl⟩ := map_eq_ok_iff.mp h
      exact map_eq_ok_iff.mpr ⟨_, readSchemes_trimmed hread, rfl⟩
  | typeName typeName | enumType typeName =>
      obtain ⟨read, hread, rfl⟩ := map_eq_ok_iff.mp h
      exact map_eq_ok_iff.mpr ⟨_, readTypeName_trimmed hread, rfl⟩
  | values list =>
      obtain ⟨read, hread, rfl⟩ := map_eq_ok_iff.mp h
      obtain ⟨hlist, hne⟩ := isReadableList_of_readValues hread
      exact map_eq_ok_iff.mpr ⟨_, readValues_parameters hlist hne, rfl⟩
  -- What a rule of another kind keeps may be refused as its parameters.
  | custom rule kept => cases hc

end ParamRules.Constraint
