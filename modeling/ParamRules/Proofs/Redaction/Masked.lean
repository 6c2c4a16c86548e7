import ParamRules.Proofs.Redaction.Assignment
import ParamRules.Proofs.Mapping
import ParamRules.Proofs.Result

/-!
# Redacted values

A masked text is told by the steps that lead to it: a character is passed, or an assignment is
masked (`Masked`).  No step makes an assignment that was not there, since what is masked starts as
it started before and ends where an assigned text ends.  So a masked text has nothing left to mask
(`Masked.self`), and a redacted value stays as it is (`redact_redact`).
-/

namespace ParamRules.Redaction

open Text

variable {c : Char} {s t t' a kept lead rest value : List Char} {inWord : Bool} {fuel : Nat}

/-! ## Steps through a text -/

/-- A text with masks for what is assigned in it.  `inWord` tells whether a word goes on where the
text starts. -/
inductive Masked : Bool → List Char → List Char → Prop
  | nil (inWord : Bool) : Masked inWord [] []
  | passed {inWord : Bool} {c : Char} {s t : List Char}
      (hnone : inWord = false → assignment? (c :: s) = none)
      (hrest : Masked (isWordCharacter c) s t) : Masked inWord (c :: s) (c :: t)
  | masked {s kept rest t : List Char} (hassigned : assignment? s = some (kept, rest))
      (hrest : Masked false rest t) : Masked false s (kept ++ (mask.toList ++ t))

theorem assignment?_nil : assignment? [] = none :=
  assignment?_of_no_sign (by simp)

theorem assignment?_append (hlead : IsLead kept lead) (hvalue : value.head?.any isAssigned = true) :
    assignment? (lead ++ value) = some (kept, value.dropWhile isAssigned) :=
  assignment?_eq_some_iff.mpr ⟨lead, value, rfl, hlead, hvalue, rfl⟩

theorem length_lt_of_assignment? (h : assignment? s = some (kept, rest)) :
    rest.length < s.length := by
  obtain ⟨lead, value, rfl, hlead, -, rfl⟩ := assignment?_eq_some_iff.mp h
  obtain ⟨c, -, lead', -, rfl, -⟩ := hlead.exists_cons
  have hle : (value.dropWhile isAssigned).length ≤ value.length :=
    (List.dropWhile_sublist isAssigned).length_le
  rw [List.length_append, List.length_cons]
  omega

theorem masked_maskChars (hfuel : s.length ≤ fuel) :
    Masked inWord s (maskChars inWord fuel s) := by
  induction fuel generalizing inWord s with
  | zero =>
      obtain rfl := List.length_eq_zero_iff.mp (Nat.le_zero.mp hfuel)
      rw [maskChars]
      exact .nil inWord
  | succ fuel ih =>
      cases s with
      | nil =>
          rw [maskChars]
          · exact .nil inWord
          · simp
      | cons c r =>
          have hr : r.length ≤ fuel := Nat.le_of_succ_le_succ hfuel
          rw [maskChars]
          cases inWord with
          | true => exact .passed (by simp) (ih hr)
          | false =>
              cases hassigned : assignment? (c :: r) with
              | none => exact .passed (fun _ => hassigned) (ih hr)
              | some found =>
                  obtain ⟨kept, rest⟩ := found
                  have hrest := length_lt_of_assignment? hassigned
                  rw [List.length_cons] at hrest hfuel
                  simp only [Bool.false_eq_true, if_false, List.append_assoc]
                  exact .masked hassigned (ih (by omega))

/-- What a text starts with decides the step, so there is one way through it. -/
theorem Masked.unique (h : Masked inWord s t) (h' : Masked inWord s t') : t = t' := by
  induction h generalizing t' with
  | nil =>
      cases h' with
      | nil => rfl
      | masked hassigned => exact absurd (assignment?_nil.symm.trans hassigned) nofun
  | passed hnone _ ih =>
      cases h' with
      | passed _ hrest => rw [ih hrest]
      | masked hassigned => exact absurd ((hnone rfl).symm.trans hassigned) nofun
  | masked hassigned _ ih =>
      cases h' with
      | nil => exact absurd (assignment?_nil.symm.trans hassigned) nofun
      | passed hnone => exact absurd ((hnone rfl).symm.trans hassigned) nofun
      | masked hassigned' hrest =>
          rw [hassigned] at hassigned'
          obtain ⟨rfl, rfl⟩ := Prod.mk.inj (Option.some.inj hassigned')
          rw [ih hrest]

theorem masked_maskAssignments (s : String) : Masked false s.toList (maskAssignments s).toList := by
  rw [maskAssignments, String.toList_ofList]
  exact masked_maskChars le_rfl

theorem maskAssignments_eq_of_masked {s t : String} (h : Masked false s.toList t.toList) :
    maskAssignments s = t :=
  String.toList_inj.mp ((masked_maskAssignments s).unique h)

/-! ## What masking leaves -/

/-- A masked text starts as the text does. -/
theorem Masked.head?_eq (h : Masked inWord s t) : s.head? = t.head? := by
  cases h with
  | nil => rfl
  | passed => rfl
  | masked hassigned =>
      obtain ⟨lead, value, rfl, hlead, -⟩ := assignment?_eq_some_iff.mp hassigned
      obtain ⟨c, kept', lead', rfl, rfl, -⟩ := hlead.exists_cons
      rfl

/-- What stands in a masked text where no name starts stood there before. -/
theorem Masked.exists_of_passes (h : Masked inWord s (a ++ t)) (ha : passes inWord a = true) :
    ∃ s', s = a ++ s' ∧ Masked (a.getLast?.elim inWord isWordCharacter) s' t := by
  induction a generalizing inWord s with
  | nil => exact ⟨s, rfl, h⟩
  | cons x a ih =>
      rw [passes, Bool.and_eq_true] at ha
      generalize hu : x :: a ++ t = u at h
      cases h with
      | nil => cases hu
      | passed _ hrest =>
          obtain ⟨rfl, rfl⟩ := List.cons.inj hu
          obtain ⟨s', rfl, hs'⟩ := ih hrest ha.2
          refine ⟨s', rfl, ?_⟩
          rwa [elim_getLast?_cons]
      | masked hassigned =>
          obtain ⟨lead, value, -, hlead, -⟩ := assignment?_eq_some_iff.mp hassigned
          obtain ⟨c, kept', -, rfl, -, hc⟩ := hlead.exists_cons
          obtain ⟨rfl, -⟩ := List.cons.inj hu
          simp [hc] at ha

/-- Where a masked text starts with an assignment, the text before did. -/
theorem exists_assignment?_of_masked (h : Masked (isWordCharacter c) s t)
    (hassigned : assignment? (c :: t) = some (kept, rest)) :
    ∃ rest', assignment? (c :: s) = some (kept, rest') := by
  obtain ⟨lead, value, heq, hlead, hvalue, -⟩ := assignment?_eq_some_iff.mp hassigned
  have hmasked : Masked true (c :: s) (c :: t) := .passed (by simp) h
  rw [heq] at hmasked
  obtain ⟨value', heq', hmasked'⟩ := hmasked.exists_of_passes (passes_lead hlead)
  rw [heq']
  rw [← hmasked'.head?_eq] at hvalue
  exact ⟨_, assignment?_append hlead hvalue⟩

theorem dropWhile_isAssigned_mask : mask.toList.dropWhile isAssigned = [] := by
  decide

theorem head?_mask (t : List Char) : (mask.toList ++ t).head?.any isAssigned = true := by
  rw [List.head?_append_of_ne_nil _ (by decide)]
  decide

/-- Behind an assigned text no other one starts. -/
theorem dropWhile_eq_self_of_masked (h : Masked inWord (value.dropWhile isAssigned) t) :
    t.dropWhile isAssigned = t := by
  have hhead := List.head?_dropWhile_not isAssigned value
  rw [h.head?_eq] at hhead
  cases t with
  | nil => rfl
  | cons c t => exact List.dropWhile_cons_of_neg (by simpa using hhead)

/-- There is nothing to mask in a masked text. -/
theorem Masked.self (h : Masked inWord s t) : Masked inWord t t := by
  induction h with
  | nil => exact .nil _
  | @passed inWord c s t hnone hrest ih =>
      refine .passed (fun hword => ?_) ih
      -- An assignment here would have stood here before, and then it would have been masked.
      rw [Option.eq_none_iff_forall_ne_some]
      rintro ⟨kept, rest⟩ hassigned
      obtain ⟨rest', hassigned'⟩ := exists_assignment?_of_masked hrest hassigned
      rw [hnone hword] at hassigned'
      cases hassigned'
  | @masked s kept rest t hassigned hrest ih =>
      -- The mask is assigned in its turn, and it is all that is: behind it comes no such character.
      obtain ⟨lead, value, -, hlead, -, rfl⟩ := assignment?_eq_some_iff.mp hassigned
      have hkept := assignment?_append hlead.isLead_kept (head?_mask t)
      rw [List.dropWhile_append, dropWhile_isAssigned_mask, List.isEmpty_nil, if_pos rfl,
        dropWhile_eq_self_of_masked hrest] at hkept
      exact .masked hkept ih

theorem maskAssignments_idem (s : String) :
    maskAssignments (maskAssignments s) = maskAssignments s :=
  maskAssignments_eq_of_masked (masked_maskAssignments s).self

/-! ## Values -/

/-- Whether an entry has a text for a key and a value that redaction leaves as it is. -/
def IsClean (e : Value × Value) : Prop :=
  ∃ name, e.1 = .text name ∧ redactField name e.2 = .ok e.2

/-- A value that stays as it is stays so in a field, where a mask may stand in its place. -/
theorem redactField_redactField {name : String} {v w : Value}
    (hv : ∀ w, redact v = .ok w → redact w = .ok w) (h : redactField name v = .ok w) :
    redactField name w = .ok w := by
  unfold redactField at h ⊢
  split_ifs at h ⊢ with hkey
  · exact h
  · exact hv w h

theorem redactEntries_of_isClean {es : List (Value × Value)} (h : ∀ e ∈ es, IsClean e) :
    redactEntries es = .ok es := by
  induction es with
  | nil => rw [redactEntries]
  | cons e es ih =>
      obtain ⟨⟨name, hkey, hvalue⟩, hes⟩ := List.forall_mem_cons.mp h
      obtain ⟨k, v⟩ := e
      obtain rfl : k = .text name := hkey
      have htext : keyText (.text name) = .ok name := rfl
      rw [redactEntries_cons, htext, ih hes]
      simp only [bind, Except.bind, hvalue]
      rfl

/-- Keys that are texts compare equal only where they are, so that an entry stays clean when its
value is put anew. -/
theorem isClean_ofEntries {es : List (Value × Value)} (h : ∀ e ∈ es, IsClean e) :
    ∀ e ∈ Mapping.ofEntries es, IsClean e := by
  refine Mapping.ofEntries_induction (P := fun m => ∀ e ∈ m, IsClean e) (by simp) ?_
  intro m e hmem hm d hd
  rcases Mapping.mem_put hd with hd | rfl | ⟨d', hd', hkeys, rfl⟩
  · exact hm d hd
  · exact h e hmem
  · obtain ⟨name, hname, hvalue⟩ := h e hmem
    obtain ⟨name', hname', -⟩ := hm d' hd'
    rw [hname, hname', Mapping.keyOf_text, Mapping.keyOf_text, Mapping.Key.text.injEq] at hkeys
    exact ⟨name, by rw [hname', hkeys], hvalue⟩

/-- A redacted mapping has distinct keys and clean entries, so it is made again of what it has. -/
theorem redact_map_of_isClean {m : Mapping} (hdistinct : Mapping.IsDistinct m)
    (hclean : ∀ e ∈ m, IsClean e) : redact (.map m) = .ok (.map m) := by
  rw [redact, redactEntries_of_isClean hclean]
  simp only [Functor.map, Except.map, Mapping.ofEntries_eq_self hdistinct]

theorem redact_redact (v : Value) : ∀ w, redact v = .ok w → redact w = .ok w := by
  refine redact.induct (fun v => ∀ w, redact v = .ok w → redact w = .ok w)
    (fun es => ∀ fs, redactEntries es = .ok fs → ∀ e ∈ fs, IsClean e)
    (fun vs => ∀ ws, redactAll vs = .ok ws → redactAll ws = .ok ws)
    ?list ?tuple ?map ?text ?other ?nil ?cons ?noEntries ?entries v
  case list =>
    intro vs ih w h
    rw [redact] at h
    obtain ⟨ws, hws, rfl⟩ := Result.map_eq_ok_iff.mp h
    rw [redact, ih ws hws]
    rfl
  case tuple =>
    intro vs ih w h
    rw [redact] at h
    obtain ⟨ws, hws, rfl⟩ := Result.map_eq_ok_iff.mp h
    rw [redact, ih ws hws]
    rfl
  case map =>
    intro es ih w h
    rw [redact] at h
    obtain ⟨fs, hfs, rfl⟩ := Result.map_eq_ok_iff.mp h
    exact redact_map_of_isClean (Mapping.isDistinct_ofEntries fs) (isClean_ofEntries (ih fs hfs))
  case text =>
    intro v hlist htuple hmap s hs w h
    rw [redact.eq_4 v hlist htuple hmap, hs] at h
    obtain rfl := Except.ok.inj h
    rw [redact_text, maskAssignments_idem]
  case other =>
    intro v hlist htuple hmap hs w h
    have hv := h
    rw [redact.eq_4 v hlist htuple hmap, hs] at hv
    obtain rfl := Except.ok.inj hv
    exact h
  case nil =>
    intro ws h
    rw [redactAll] at h
    obtain rfl := Except.ok.inj h
    rw [redactAll]
  case cons =>
    intro v vs ihv ihvs ws h
    rw [redactAll] at h
    obtain ⟨w, hw, h⟩ := Result.bind_eq_ok_iff.mp h
    obtain ⟨ws', hws, h⟩ := Result.bind_eq_ok_iff.mp h
    obtain rfl := Except.ok.inj h
    rw [redactAll, ihv w hw, ihvs ws' hws]
    rfl
  case noEntries =>
    intro fs h
    rw [redactEntries] at h
    obtain rfl := Except.ok.inj h
    simp
  case entries =>
    intro k v es ihes ihv fs h
    rw [redactEntries_cons] at h
    obtain ⟨name, -, h⟩ := Result.bind_eq_ok_iff.mp h
    obtain ⟨w, hw, h⟩ := Result.bind_eq_ok_iff.mp h
    obtain ⟨fs', hfs, h⟩ := Result.bind_eq_ok_iff.mp h
    obtain rfl := Except.ok.inj h
    exact List.forall_mem_cons.mpr ⟨⟨name, rfl, redactField_redactField ihv hw⟩, ihes fs' hfs⟩

/-- What is redacted once stays as it is: values, and texts whatever they assign. -/
theorem redact_idem :
    (∀ v : Value, (redact v >>= redact) = redact v) ∧
      ∀ s : String, maskAssignments (maskAssignments s) = maskAssignments s := by
  refine ⟨fun v => ?_, maskAssignments_idem⟩
  cases hv : redact v with
  | error e => rfl
  | ok w => exact redact_redact v w hv

end ParamRules.Redaction
