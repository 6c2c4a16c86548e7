import ParamRules.Proofs.Number.Integer
import ParamRules.Proofs.Result
import ParamRules.Proofs.Text.Split
import ParamRules.Version

/-!
# Versions read back

The parts that are present come first, so leaving out the others and reading two to four parts
gives the same version.
-/

namespace ParamRules.Version

open Text Result

/-- Whether the parts are in range, and a revision comes with a build. -/
def IsValid (v : Version) : Prop :=
  ofParts v.major v.minor v.build v.revision = .ok v

theorem check_eq_ok_iff {p : Part} {n : Int} {u : Unit} :
    p.check n = .ok u ↔ p.minimum ≤ n ∧ n ≤ partMax := by
  unfold Part.check
  split_ifs with h
  · simp only [false_iff]
    omega
  · simp only [true_iff]
    omega

theorem ofParts_eq_ok_iff {major minor build revision : Int} {v : Version} :
    ofParts major minor build revision = .ok v ↔
      (0 ≤ major ∧ major ≤ partMax) ∧ (0 ≤ minor ∧ minor ≤ partMax) ∧
        (-1 ≤ build ∧ build ≤ partMax) ∧ (-1 ≤ revision ∧ revision ≤ partMax) ∧
        (build < 0 → revision < 0) ∧ ⟨major, minor, build, revision⟩ = v := by
  unfold ofParts
  simp only [bind_eq_ok_iff, check_eq_ok_iff, Part.minimum, exists_const]
  constructor
  · rintro ⟨hmajor, hminor, hbuild, hrevision, h⟩
    split_ifs at h with horder
    exact ⟨hmajor, hminor, hbuild, hrevision, by omega, Except.ok.inj h⟩
  · rintro ⟨hmajor, hminor, hbuild, hrevision, horder, rfl⟩
    exact ⟨hmajor, hminor, hbuild, hrevision, by rw [if_neg (by omega)]⟩

theorem isValid_of_ofParts {major minor build revision : Int} {v : Version}
    (h : ofParts major minor build revision = .ok v) : v.IsValid := by
  obtain ⟨-, -, -, -, -, rfl⟩ := ofParts_eq_ok_iff.mp h
  exact h

/-! ## Parts with dots between them -/

theorem toList_join_natText (ns : List Nat) :
    (join "." (ns.map Integer.natText)).toList = ['.'].intercalate (ns.map (Nat.toDigits 10)) := by
  simp [join, String.toList_intercalate, Function.comp_def]

theorem isBlank_of_mem_join (ns : List Nat) :
    ∀ c ∈ (join "." (ns.map Integer.natText)).toList, isBlank c = false := by
  rw [toList_join_natText]
  have hpoint : ∀ c ∈ ['.'], isBlank c = false := List.forall_mem_singleton.mpr rfl
  refine forall_mem_intercalate hpoint fun piece hpiece => ?_
  obtain ⟨n, -, rfl⟩ := List.mem_map.mp hpiece
  exact fun c hc => isBlank_of_isDigit (AllDigits.toDigits n c hc)

theorem partDigits?_join {ns : List Nat} (h : 2 ≤ ns.length ∧ ns.length ≤ 4) :
    partDigits? (join "." (ns.map Integer.natText)).toList =
      some (ns.map fun n => digitValues (Nat.toDigits 10 n)) := by
  have hpieces : splitChars '.' (['.'].intercalate (ns.map (Nat.toDigits 10))) =
      ns.map (Nat.toDigits 10) := by
    refine splitChars_intercalate ?_ ?_
    · rw [ne_eq, List.map_eq_nil_iff, ← List.length_eq_zero_iff]
      omega
    · intro piece hpiece
      obtain ⟨n, -, rfl⟩ := List.mem_map.mp hpiece
      intro hdot
      exact absurd (AllDigits.toDigits n '.' hdot) (by decide)
  have hdigits : (ns.map (Nat.toDigits 10)).mapM Integer.allDigits? =
      some (ns.map fun n => digitValues (Nat.toDigits 10 n)) := by
    clear h hpieces
    induction ns with
    | nil => rfl
    | cons n ns ih =>
        rw [List.map_cons, List.mapM_cons,
          (AllDigits.toDigits n).allDigits? Nat.toDigits_ne_nil, ih]
        rfl
  rw [partDigits?, toList_join_natText, hpieces, hdigits]
  simp [h]

theorem read_join {ns : List Nat} (hlength : 2 ≤ ns.length ∧ ns.length ≤ 4)
    (hsmall : ∀ n ∈ ns, n < 10 ^ 10) :
    read (join "." (ns.map Integer.natText)).toList =
      (ofParts ((ns[0]?.map Int.ofNat).getD (-1)) ((ns[1]?.map Int.ofNat).getD (-1))
        ((ns[2]?.map Int.ofNat).getD (-1)) ((ns[3]?.map Int.ofNat).getD (-1))).mapError
          .parts := by
  have hshort : (ns.map fun n => digitValues (Nat.toDigits 10 n)).find?
      (fun ds => ds.length > Integer.digitLimit) = none := by
    rw [List.find?_eq_none]
    intro ds hds
    obtain ⟨n, hn, rfl⟩ := List.mem_map.mp hds
    have hdigits : (Nat.toDigits 10 n).length ≤ 10 :=
      (Nat.length_toDigits_le_iff (by decide) (by decide)).mpr (hsmall n hn)
    rw [length_digitValues, decide_eq_true_eq, not_lt]
    exact hdigits.trans (by decide)
  rw [read, trimChars_eq_self (isTrimmed_of_forall (isBlank_of_mem_join ns)),
    partDigits?_join hlength]
  simp only [hshort, List.getElem?_map, Option.map_map, Function.comp_def, ofDigits_toDigits]
  rfl

/-- The parts that are present. -/
def presentParts (v : Version) : List Nat :=
  (v.parts.filter (0 ≤ ·)).map Int.toNat

theorem text_eq_join (v : Version) : v.text = join "." (v.presentParts.map Integer.natText) := by
  rw [text, presentParts, List.map_map]
  congr 1
  refine List.map_congr_left fun n hn => ?_
  have hn : 0 ≤ n := by simpa using (List.mem_filter.mp hn).2
  rw [Function.comp_apply, ← Integer.text_natCast, Int.toNat_of_nonneg hn]

theorem read_text {v : Version} (h : v.IsValid) : read v.text.toList = .ok v := by
  obtain ⟨major, minor, build, revision⟩ := v
  obtain ⟨hmajor, hminor, hbuild, hrevision, horder, -⟩ := ofParts_eq_ok_iff.mp h
  have hmax : partMax < 10 ^ 10 := by decide
  simp only at hmajor hminor hbuild hrevision horder
  have hread : ∀ ns : List Nat, presentParts ⟨major, minor, build, revision⟩ = ns →
      2 ≤ ns.length ∧ ns.length ≤ 4 → (∀ n ∈ ns, n < 10 ^ 10) →
      (ns[0]?.map Int.ofNat).getD (-1) = major ∧ (ns[1]?.map Int.ofNat).getD (-1) = minor ∧
        (ns[2]?.map Int.ofNat).getD (-1) = build ∧
        (ns[3]?.map Int.ofNat).getD (-1) = revision →
      read (Version.mk major minor build revision).text.toList =
        .ok ⟨major, minor, build, revision⟩ := by
    rintro ns hns hlength hsmall ⟨h₀, h₁, h₂, h₃⟩
    rw [text_eq_join, hns, read_join hlength hsmall, h₀, h₁, h₂, h₃, h]
    rfl
  by_cases hrevisionPresent : 0 ≤ revision
  · have hbuildPresent : 0 ≤ build := by omega
    refine hread [major.toNat, minor.toNat, build.toNat, revision.toNat] ?_ (by simp) ?_ ?_
    · simp [presentParts, parts, hmajor, hminor, hbuildPresent, hrevisionPresent]
    · simp only [List.forall_mem_cons]
      exact ⟨by omega, by omega, by omega, by omega, nofun⟩
    · exact ⟨Int.toNat_of_nonneg hmajor.1, Int.toNat_of_nonneg hminor.1,
        Int.toNat_of_nonneg hbuildPresent, Int.toNat_of_nonneg hrevisionPresent⟩
  · obtain rfl : revision = -1 := by omega
    by_cases hbuildPresent : 0 ≤ build
    · refine hread [major.toNat, minor.toNat, build.toNat] ?_ (by simp) ?_ ?_
      · simp [presentParts, parts, hmajor, hminor, hbuildPresent]
      · simp only [List.forall_mem_cons]
        exact ⟨by omega, by omega, by omega, nofun⟩
      · exact ⟨Int.toNat_of_nonneg hmajor.1, Int.toNat_of_nonneg hminor.1,
          Int.toNat_of_nonneg hbuildPresent, rfl⟩
    · obtain rfl : build = -1 := by omega
      refine hread [major.toNat, minor.toNat] ?_ (by simp) ?_ ?_
      · simp [presentParts, parts, hmajor, hminor]
      · simp only [List.forall_mem_cons]
        exact ⟨by omega, by omega, nofun⟩
      · exact ⟨Int.toNat_of_nonneg hmajor.1, Int.toNat_of_nonneg hminor.1, rfl, rfl⟩

theorem isValid_of_read {s : List Char} {v : Version} (h : read s = .ok v) : v.IsValid := by
  unfold read at h
  split at h
  · cases h
  · split at h
    · cases h
    · rename_i digits _ _
      simp only at h
      generalize hparts : ofParts _ _ _ _ = result at h
      cases result with
      | error fault => cases h
      | ok w =>
          cases h
          exact isValid_of_ofParts hparts

end ParamRules.Version
