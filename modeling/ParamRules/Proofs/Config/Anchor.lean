import ParamRules.Proofs.Config.Complete
import ParamRules.Proofs.Config.Layers
import ParamRules.Proofs.Path

/-!
# Anchored paths

Anchoring rewrites the texts of two fields and nothing else: every field is told by its own value
(`anchor_spec`), and no name is added or lost (`isShaped_setAt_iff`).  It fails only where the home
directory of a path is not known.  What it writes is the text of an absolute path, so that a field
that has been anchored is never blank (`check_anchored_iff`), and without a tilde or a dollar sign
it does not depend on the environment.
-/

namespace ParamRules.Config

open Text Mapping Result Checked

variable {m m' : Mapping} {v w : Value} {f g : Field} {e e' : Environment} {base : Path}
  {s s' : String} {files : Files} {path : Option String} {p : Path}

/-! ## Fields that hold paths -/

/-- Whether a field holds the path of a file. -/
def Field.isPath : Field → Bool
  | .catalogPath | .logFile => true
  | _ => false

/-- The text of a path in the value of a field. -/
def Field.pathText? (f : Field) (v : Value) : Option String :=
  if f.isPath then v.text? else none

/-- The text of a path that a mapping holds for a field. -/
def pathAt (m : Mapping) (f : Field) : Option String :=
  (valueAt m f).bind f.pathText?

/-- The value of a field with the path in it anchored, where it holds one. -/
def Field.anchored (e : Environment) (base : Path) (f : Field) (v : Value) : Except Fault Value :=
  (f.pathText? v).elim (.ok v) fun s => .text <$> anchorText e base s

theorem pathAt_of_isPath (hf : f.isPath = true) (m : Mapping) :
    pathAt m f = (valueAt m f).bind Value.text? := by
  have htext : f.pathText? = Value.text? := funext fun v => if_pos hf
  rw [pathAt, htext]

theorem isPath_of_pathText? (h : f.pathText? v = some s) : f.isPath = true := by
  rw [Field.pathText?] at h
  split_ifs at h with hf
  exact hf

theorem isPath_of_pathAt (h : pathAt m f = some s) : f.isPath = true := by
  obtain ⟨v, -, hv⟩ := Option.bind_eq_some_iff.mp h
  exact isPath_of_pathText? hv

theorem anchored_of_pathText? (h : f.pathText? v = none) : f.anchored e base v = .ok v := by
  rw [Field.anchored, h]
  rfl

theorem anchored_of_not_isPath (hf : f.isPath = false) : f.anchored e base v = .ok v :=
  anchored_of_pathText? (by rw [Field.pathText?, hf]; rfl)

theorem anchored_eq_ok_iff_of_pathText? (h : f.pathText? v = some s) :
    f.anchored e base v = .ok w ↔ ∃ s', anchorText e base s = .ok s' ∧ .text s' = w := by
  rw [Field.anchored, h, Option.elim_some, map_eq_ok_iff]

/-- A field's value is anchored to a value, and none to none. -/
def Anchors (e : Environment) (base : Path) (f : Field) (given anchored : Option Value) : Prop :=
  given.map (f.anchored e base) = anchored.map .ok

theorem anchors_none_iff {anchored : Option Value} :
    Anchors e base f none anchored ↔ anchored = none := by
  cases anchored <;> simp [Anchors]

theorem anchors_some_iff {anchored : Option Value} :
    Anchors e base f (some v) anchored ↔ ∃ w, f.anchored e base v = .ok w ∧ anchored = some w := by
  cases anchored with
  | none => simp [Anchors]
  | some w =>
      simp only [Anchors, Option.map_some, Option.some.injEq]
      exact ⟨fun h => ⟨w, h, rfl⟩, fun ⟨w', h, heq⟩ => heq ▸ h⟩

theorem anchors_self {given : Option Value}
    (h : ∀ v, given = some v → f.anchored e base v = .ok v) : Anchors e base f given given :=
  Option.map_congr h

/-! ## One field -/

/-- Anchoring a field sets it to the anchored text, if it holds a text. -/
theorem anchorField_eq (hf : f.isPath = true) (e : Environment) (base : Path) (m : Mapping) :
    anchorField e base f m = (pathAt m f).elim (.ok m) fun s =>
      (fun s' => setAt (.text s') [f.place.name, f.name] m) <$> anchorText e base s := by
  rw [pathAt_of_isPath hf, valueAt, lookupAt]
  simp only [setAt_pair, tableAt]
  unfold anchorField
  simp only
  split
  · rename_i hinner
    rw [hinner]
    rfl
  · rename_i inner hinner
    rw [hinner, Option.bind_some]
    split
    · rename_i hs
      rw [hs]
      rfl
    · rename_i s hs
      rw [hs, Option.elim_some, Option.getD_some]
      cases anchorText e base s <;> rfl

theorem hasNames_put_iff {known required : List String} {name : String}
    (h : (get? m (.text name)).isSome = true) :
    HasNames (put (.text name) v m) known required ↔ HasNames m known required := by
  have hkeys : (put (.text name) v m).map Prod.fst = m.map Prod.fst := by
    rw [map_fst_put, if_pos h]
  have hsome : ∀ other, (get? (put (.text name) v m) (.text other)).isSome =
      (get? m (.text other)).isSome := by
    intro other
    rw [get?_put_text]
    split_ifs with hother
    · rw [hother, h]
      rfl
    · rfl
  have hknown : ∀ m : Mapping, (∀ e ∈ m, ∃ name ∈ known, e.1.text? = some name) ↔
      ∀ k ∈ m.map Prod.fst, ∃ name ∈ known, k.text? = some name := fun m => by simp
  constructor
  · rintro ⟨hk, hr⟩
    refine ⟨?_, fun name hname => hsome name ▸ hr name hname⟩
    rwa [hknown, ← hkeys, ← hknown]
  · rintro ⟨hk, hr⟩
    refine ⟨?_, fun name hname => (hsome name).symm ▸ hr name hname⟩
    rwa [hknown, hkeys, ← hknown]

/-- A field that is set to something else keeps the names as they are. -/
theorem isShaped_setAt_iff (h : valueAt m f = some w) :
    IsShaped (setAt v [f.place.name, f.name] m) ↔ IsShaped m := by
  -- The field is there already, so that neither its table nor the mapping gets another name.
  obtain ⟨inner, hplace, hfield⟩ := get?_of_lookupAt h
  have htable : tableAt m f.place.name = inner := by
    rw [tableAt, hplace]
    rfl
  have hnames : HasNames (put (.text f.name) v inner) f.place.names f.place.requiredNames ↔
      HasNames inner f.place.names f.place.requiredNames :=
    hasNames_put_iff (by rw [hfield]; rfl)
  have htakes : f.place.Takes (.map (put (.text f.name) v inner)) ↔ f.place.Takes (.map inner) := by
    simp only [Section.Takes, reduceCtorEq, Value.map.injEq, exists_eq_left', false_or, hnames]
  have hsections : ∀ s : Section,
      (∀ u, get? (setAt v [f.place.name, f.name] m) (.text s.name) = some u → s.Takes u) ↔
        ∀ u, get? m (.text s.name) = some u → s.Takes u := by
    intro s
    rw [setAt_pair, htable]
    simp only [get?_put_text]
    by_cases hs : s = f.place
    · subst hs
      simpa only [if_true, hplace, Option.some.injEq, forall_eq'] using htakes
    · simp only [if_neg fun heq => hs (Section.name_injective heq)]
  have hroot : HasNames (setAt v [f.place.name, f.name] m) sectionNames requiredSectionNames ↔
      HasNames m sectionNames requiredSectionNames :=
    hasNames_put_iff (by rw [hplace]; rfl)
  exact ⟨fun h => ⟨hroot.mp h.sections, fun s => (hsections s).mp (h.tables s)⟩,
    fun h => ⟨hroot.mpr h.sections, fun s => (hsections s).mpr (h.tables s)⟩⟩

theorem anchorField_spec (hf : f.isPath = true) (h : anchorField e base f m = .ok m') :
    Anchors e base f (valueAt m f) (valueAt m' f) ∧
      (∀ g, g ≠ f → valueAt m' g = valueAt m g) ∧ (IsShaped m' ↔ IsShaped m) := by
  rw [anchorField_eq hf] at h
  cases hs : pathAt m f with
  | none =>
      rw [hs] at h
      cases h
      refine ⟨anchors_self fun v hv => anchored_of_pathText? ?_, fun g _ => rfl, Iff.rfl⟩
      rw [pathAt, hv] at hs
      exact hs
  | some s =>
      rw [hs, Option.elim_some, map_eq_ok_iff] at h
      obtain ⟨s', hs', rfl⟩ := h
      obtain ⟨v, hv, hv'⟩ := Option.bind_eq_some_iff.mp hs
      refine ⟨?_, fun g hg => ?_, isShaped_setAt_iff hv⟩
      · rw [hv, valueAt_setAt, if_pos rfl]
        exact anchors_some_iff.mpr
          ⟨_, (anchored_eq_ok_iff_of_pathText? hv').mpr ⟨s', hs', rfl⟩, rfl⟩
      · rw [valueAt_setAt, if_neg hg]

/-! ## All fields -/

/-- Anchoring tells every field by its own value, and keeps all names. -/
theorem anchor_spec (h : anchor e base m = .ok m') :
    (∀ f, Anchors e base f (valueAt m f) (valueAt m' f)) ∧ (IsShaped m' ↔ IsShaped m) := by
  obtain ⟨between, hcatalog, hfile⟩ := bind_eq_ok_iff.mp h
  obtain ⟨hcatalog, hbefore, hshaped⟩ := anchorField_spec rfl hcatalog
  obtain ⟨hfile, hafter, hshaped'⟩ := anchorField_spec rfl hfile
  refine ⟨fun f => ?_, hshaped'.trans hshaped⟩
  have hother : f.isPath = false → Anchors e base f (valueAt m f) (valueAt m' f) := by
    intro hf
    have hne : f ≠ .catalogPath ∧ f ≠ .logFile := by
      constructor <;> rintro rfl <;> cases hf
    rw [hafter f hne.2, hbefore f hne.1]
    exact anchors_self fun v _ => anchored_of_not_isPath hf
  cases f with
  | catalogPath =>
      rw [hafter _ (by decide)]
      exact hcatalog
  | logFile =>
      rw [← hbefore _ (by decide)]
      exact hfile
  | _ => exact hother rfl

theorem exists_anchorField_iff (hf : f.isPath = true) :
    (∃ m', anchorField e base f m = .ok m') ↔
      ∀ s, pathAt m f = some s → ∃ s', anchorText e base s = .ok s' := by
  rw [anchorField_eq hf]
  cases pathAt m f with
  | none => simp
  | some s => simp [map_eq_ok_iff]

theorem pathAt_congr (h : valueAt m' f = valueAt m f) : pathAt m' f = pathAt m f := by
  rw [pathAt, pathAt, h]

/-- Anchoring succeeds when every path can be anchored. -/
theorem exists_anchor_iff :
    (∃ m', anchor e base m = .ok m') ↔
      ∀ f s, pathAt m f = some s → ∃ s', anchorText e base s = .ok s' := by
  have hkept : ∀ {between}, anchorField e base .catalogPath m = .ok between →
      pathAt between .logFile = pathAt m .logFile := by
    intro between h
    exact pathAt_congr ((anchorField_spec rfl h).2.1 _ (by decide))
  constructor
  · rintro ⟨m', h⟩ f s hs
    obtain ⟨between, hcatalog, hfile⟩ := bind_eq_ok_iff.mp h
    have hf := isPath_of_pathAt hs
    cases f with
    | catalogPath => exact (exists_anchorField_iff rfl).mp ⟨between, hcatalog⟩ s hs
    | logFile => exact (exists_anchorField_iff rfl).mp ⟨m', hfile⟩ s (hkept hcatalog ▸ hs)
    | _ => cases hf
  · intro h
    obtain ⟨between, hcatalog⟩ := (exists_anchorField_iff rfl).mpr (h .catalogPath)
    obtain ⟨m', hfile⟩ := (exists_anchorField_iff (m := between) rfl).mpr fun s hs =>
      h .logFile s (hkept hcatalog ▸ hs)
    exact ⟨m', bind_eq_ok_iff.mpr ⟨between, hcatalog, hfile⟩⟩

/-- The only fault of anchoring is a home directory that is not known. -/
theorem noHome_of_anchor {x : Fault} (h : anchor e base m = .error x) : x = .plain .noHome := by
  have htext : ∀ {s}, anchorText e base s = .error x → x = .plain .noHome := by
    intro s hs
    unfold anchorText at hs
    split at hs <;> cases hs
    rfl
  have hfield : ∀ {f m}, f.isPath = true → anchorField e base f m = .error x →
      x = .plain .noHome := by
    intro f m hf hm
    rw [anchorField_eq hf] at hm
    cases hs : pathAt m f with
    | none =>
        rw [hs] at hm
        cases hm
    | some s =>
        rw [hs, Option.elim_some, map_eq_error_iff] at hm
        exact htext hm
  rcases bind_eq_error_iff.mp h with h | ⟨between, -, h⟩
  · exact hfield rfl h
  · exact hfield rfl h

/-! ## The environment -/

theorem anchorText_of_not_mem (e : Environment) (base : Path) (htilde : '~' ∉ s.toList)
    (hdollar : '$' ∉ s.toList) :
    anchorText e base s = .ok (base.within (Path.ofText s)).normal.text := by
  have hhome : (Path.ofText (Path.expandVariables e s)).expandHome e = some (Path.ofText s) := by
    rw [Path.expandVariables_of_not_mem e hdollar, Path.expandHome_of_not_mem e htilde]
  unfold anchorText
  rw [hhome]

theorem anchorField_congr (hf : f.isPath = true)
    (h : ∀ s, pathAt m f = some s → anchorText e' base s = anchorText e base s) :
    anchorField e' base f m = anchorField e base f m := by
  rw [anchorField_eq hf, anchorField_eq hf]
  cases hs : pathAt m f with
  | none => rw [Option.elim_none, Option.elim_none]
  | some s => rw [Option.elim_some, Option.elim_some, h s hs]

/-- Anchoring is the same in environments that anchor the paths the same way. -/
theorem anchor_congr
    (h : ∀ f s, pathAt m f = some s → anchorText e' base s = anchorText e base s) :
    anchor e' base m = anchor e base m := by
  have hfails : ∀ (x : Fault) (g : Mapping → Except Fault Mapping),
      (Except.error x >>= g) = .error x := fun _ _ => rfl
  have hfirst : anchorField e' base .catalogPath m = anchorField e base .catalogPath m :=
    anchorField_congr rfl (h .catalogPath)
  rw [anchor, anchor, hfirst]
  -- The second field is anchored in what the first one leaves, which holds the same path for it.
  cases hcatalog : anchorField e base .catalogPath m with
  | error x => rw [hfails, hfails]
  | ok between =>
      have hkept : pathAt between .logFile = pathAt m .logFile :=
        pathAt_congr ((anchorField_spec rfl hcatalog).2.1 _ (by decide))
      exact anchorField_congr rfl fun s hs => h .logFile s (hkept ▸ hs)

/-! ## Checks of anchored paths -/

/-- The path of a file is refused when it is blank, and when it holds a NUL character. -/
theorem check_path_iff (hv : f.pathText? v = some s) :
    f.check v = pure w ↔ isAllBlank s = false ∧ '\x00' ∉ s.toList ∧ w = .text (trim s) := by
  have hnul : '\x00' ∈ (trim s).toList ↔ '\x00' ∈ s.toList := by
    rw [toList_trim]
    exact mem_trimChars_iff rfl
  have hpath : ∀ path, v.text? = some s → ((∃ s', checkPath path v = pure s' ∧ .text s' = w) ↔
      isAllBlank s = false ∧ '\x00' ∉ s.toList ∧ w = .text (trim s)) := by
    intro path htext
    simp only [checkPath_eq_pure_iff, checkText_eq_pure_iff, htext, Option.some.injEq,
      exists_eq_left']
    constructor
    · rintro ⟨_, ⟨⟨hblank, rfl⟩, htrim⟩, rfl⟩
      exact ⟨hblank, hnul.not.mp htrim, rfl⟩
    · rintro ⟨hblank, hs, rfl⟩
      exact ⟨_, ⟨⟨hblank, rfl⟩, hnul.not.mpr hs⟩, rfl⟩
  cases f with
  | catalogPath | logFile =>
      rw [Field.check, map_eq_pure_iff]
      exact hpath _ hv
  | _ => cases hv

theorem isAllBlank_anchorText (hbase : base.isAbsolute = true)
    (h : anchorText e base s = .ok s') : isAllBlank s' = false := by
  unfold anchorText at h
  split at h <;> cases h
  exact Path.isAllBlank_text (Path.isAbsolute_within hbase _)

/-- An anchored path is refused for a NUL character only. -/
theorem check_anchored_iff (hf : f.isPath = true) (hbase : base.isAbsolute = true)
    (h : anchorText e base s = .ok s') :
    (∃ w, f.check (.text s') = pure w) ↔ '\x00' ∉ s'.toList := by
  have htext : f.pathText? (.text s') = some s' := if_pos hf
  simp only [check_path_iff htext, isAllBlank_anchorText hbase h, true_and, exists_and_left,
    exists_eq, and_true]

theorem isAbsolute_source (h : source files path = .ok p) : p.parent.isAbsolute = true := by
  unfold source at h
  split at h
  · cases h
    rfl
  · obtain ⟨located, -, h⟩ := bind_eq_ok_iff.mp h
    cases h
    rfl

end ParamRules.Config
