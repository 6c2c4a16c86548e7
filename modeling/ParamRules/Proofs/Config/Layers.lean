import ParamRules.Config.Load
import ParamRules.Proofs.Config.Field
import ParamRules.Proofs.Text.Split
import ParamRules.Proofs.Toml.Tidy

/-!
# Layers, field by field

A layer sets some of the fields, each in the table of its section.  Merging a layer changes no other
field, and a field that it sets has the layer's value (`valueAt_merge`).  So a field of all layers
together has the value of the last layer that sets it (`valueAt_mergeLayers`), unless that is a
mapping, which would be merged itself and which the check of no field takes.  What the variables of
an environment and the overrides set is read off the loops that make their layers.
-/

namespace ParamRules.Config

open Text Mapping Result

variable {m base layer : Mapping} {v : Value} {f g : Field} {e : Environment}
  {overrides : List (String × Value)}

/-! ## Merging -/

/-- Whether all sections that a mapping has are tables. -/
def HasTables (m : Mapping) : Prop :=
  ∀ (s : Section) (v : Value), get? m (.text s.name) = some v → ∃ inner, v = .map inner

/-- Whether a mapping and the tables of its sections have distinct keys. -/
structure IsLayer (m : Mapping) : Prop where
  keys : IsDistinct m
  tables : ∀ (s : Section) (v : Value), get? m (.text s.name) = some v →
    ∃ inner, v = .map inner ∧ IsDistinct inner

theorem isLayer_nil : IsLayer [] :=
  ⟨List.nodup_nil, nofun⟩

theorem isLayer_of_isTidy (h : Toml.IsTidy (.map m)) (htables : HasTables m) : IsLayer m := by
  refine ⟨(Toml.isTidy_map_iff.mp h).1, fun s v hv => ?_⟩
  obtain ⟨inner, rfl⟩ := htables s v hv
  exact ⟨inner, rfl, (Toml.isTidy_map_iff.mp (h.of_get? hv)).1⟩

/-- A field after a layer is merged: the layer's value over the one before, if the layer has one. -/
theorem valueAt_merge (h : IsLayer layer) (base : Mapping) (f : Field) :
    valueAt (merge base layer) f =
      (valueAt layer f).elim (valueAt base f) fun v => some (overlaid (valueAt base f) v) := by
  cases hv : get? layer (.text f.place.name) with
  | none =>
      have hnone : valueAt layer f = none := lookupAt_of_null (.inl hv) f.name
      have hsame : get? (merge base layer) (.text f.place.name) =
          get? base (.text f.place.name) := by
        rw [get?_merge h.keys, hv]
        rfl
      rw [hnone, valueAt, lookupAt, hsame]
      rfl
  | some v =>
      obtain ⟨inner, rfl, hinner⟩ := h.tables f.place v hv
      have htable : get? (merge base layer) (.text f.place.name) =
          some (.map (merge (tableAt base f.place.name) inner)) := by
        rw [get?_merge h.keys, hv, Option.elim_some, overlaid]
        rfl
      rw [valueAt, lookupAt_of_table htable, get?_merge hinner, valueAt,
        lookupAt_of_table hv, valueAt, lookupAt_eq]

theorem valueAt_merge_eq_or (h : IsLayer layer)
    (hplain : ∀ v, valueAt (merge base layer) f = some v → v.entries? = none) :
    valueAt (merge base layer) f = (valueAt layer f).or (valueAt base f) := by
  rw [valueAt_merge h] at hplain ⊢
  cases hlayer : valueAt layer f with
  | none => rfl
  | some v =>
      rw [hlayer] at hplain
      exact congrArg some (overlaid_eq_self (entries?_overlaid (hplain _ rfl)))

/-- A field of all layers together: the value of the last layer that sets it. -/
theorem valueAt_mergeLayers {layers : List Mapping} (h : ∀ layer ∈ layers, IsLayer layer)
    (hplain : ∀ v, valueAt (mergeLayers layers) f = some v → v.entries? = none) :
    valueAt (mergeLayers layers) f =
      (layers.reverse.findSome? (valueAt · f)).or (valueAt standard.toMapping f) := by
  -- The last layer is taken off first, since it is the one that wins.
  induction layers using List.reverseRecOn with
  | nil => rfl
  | append_singleton layers layer ih =>
      have hlayer : IsLayer layer := h layer (by simp)
      have hmerged : mergeLayers (layers ++ [layer]) = merge (mergeLayers layers) layer :=
        List.foldl_concat ..
      rw [hmerged] at hplain ⊢
      rw [valueAt_merge_eq_or hlayer hplain, List.reverse_concat, List.findSome?_cons]
      cases hv : valueAt layer f with
      | some v => rfl
      | none =>
          rw [valueAt_merge hlayer, hv] at hplain
          exact ih (fun layer hl => h layer (List.mem_append_left _ hl)) hplain

/-! ## Setting fields -/

theorem isDistinct_tableAt (h : IsLayer m) (s : Section) : IsDistinct (tableAt m s.name) := by
  rw [tableAt]
  cases hv : get? m (.text s.name) with
  | none => exact List.nodup_nil
  | some v =>
      obtain ⟨inner, rfl, hinner⟩ := h.tables s v hv
      exact hinner

theorem IsLayer.setAt (h : IsLayer m) (v : Value) (a b : String) :
    IsLayer (setAt v [a, b] m) := by
  rw [setAt_pair]
  refine ⟨h.keys.put, fun s w hw => ?_⟩
  rw [get?_put_text] at hw
  split_ifs at hw with hs
  · subst hs
    exact ⟨_, (Option.some.inj hw).symm, (isDistinct_tableAt h s).put⟩
  · exact h.tables s w hw

/-- A layer of a single field sets it. -/
theorem merge_pair (hv : v.entries? = none) (a b : String) (base : Mapping) :
    merge base [(.text a, .map [(.text b, v)])] = setAt v [a, b] base := by
  rw [merge, merge, overlaid, merge, merge, overlaid_eq_self hv]
  rfl

/-! ## Variables -/

/-- The value that the variable of a field stands for, if it is set and stands for one. -/
def variableAt (e : Environment) (f : Field) : Option Value :=
  (e.get? f.variableName).bind fun s => (f.readText (trim s)).toOption

theorem variableAt_of_readText {s : String} (hs : e.get? f.variableName = some s)
    (hv : f.readText (trim s) = .ok v) : variableAt e f = some v := by
  rw [variableAt, hs, Option.bind_some, hv]
  rfl

/-- The layer of variables, after the fields that have been gone through: every one of the fields
that are left has the value of its variable. -/
theorem variableLayer_spec {fields : List Field} {m' : Mapping} (hm : IsLayer m)
    (h : variableLayer e fields m = .ok m') :
    IsLayer m' ∧
      (∀ f ∈ fields, ∀ s, e.get? f.variableName = some s → ∃ v, f.readText (trim s) = .ok v) ∧
      ∀ g, valueAt m' g =
        if g ∈ fields then (variableAt e g).or (valueAt m g) else valueAt m g := by
  induction fields generalizing m with
  | nil =>
      cases h
      exact ⟨hm, nofun, fun g => rfl⟩
  | cons f fields ih =>
      unfold variableLayer at h
      split at h
      · rename_i hnone
        obtain ⟨hm', hread, hvalues⟩ := ih hm h
        refine ⟨hm', ?_, fun g => ?_⟩
        · intro f' hf' s hs
          rcases List.mem_cons.mp hf' with rfl | hf'
          · rw [hnone] at hs
            cases hs
          · exact hread f' hf' s hs
        · rw [hvalues]
          by_cases hg : g = f
          · subst hg
            have hvar : variableAt e g = none := by rw [variableAt, hnone, Option.bind_none]
            simp [hvar]
          · simp [hg]
      · rename_i s hs
        obtain ⟨v, hv, h⟩ := bind_eq_ok_iff.mp h
        -- What is set now is set again, to the same value, if the field is still among the others.
        obtain ⟨hm', hread, hvalues⟩ := ih (hm.setAt v _ _) h
        refine ⟨hm', ?_, fun g => ?_⟩
        · intro f' hf' s' hs'
          rcases List.mem_cons.mp hf' with rfl | hf'
          · rw [hs] at hs'
            cases hs'
            exact ⟨v, hv⟩
          · exact hread f' hf' s' hs'
        · rw [hvalues, valueAt_setAt]
          by_cases hg : g = f
          · subst hg
            simp [variableAt_of_readText hs hv]
          · simp [hg]

theorem Field.mem_all (f : Field) : f ∈ Field.all := by
  cases f <;> decide

/-- The layer of an environment sets the fields whose variables are set. -/
theorem ofEnvironment_spec (h : ofEnvironment e = .ok m) :
    IsLayer m ∧
      (∀ (f : Field) (s : String), e.get? f.variableName = some s →
        ∃ v, f.readText (trim s) = .ok v) ∧
      ∀ f, valueAt m f = variableAt e f := by
  obtain ⟨hm, hread, hvalues⟩ := variableLayer_spec isLayer_nil h
  refine ⟨hm, fun f => hread f f.mem_all, fun f => ?_⟩
  have hnil : valueAt [] f = none := rfl
  rw [hvalues, if_pos f.mem_all, hnil, Option.or_none]

theorem variableLayer_congr {e' : Environment}
    (h : ∀ f : Field, e'.get? f.variableName = e.get? f.variableName) (fields : List Field)
    (m : Mapping) : variableLayer e' fields m = variableLayer e fields m := by
  induction fields generalizing m with
  | nil => rfl
  | cons f fields ih =>
      unfold variableLayer
      rw [h f]
      split
      · exact ih m
      · exact bind_congr fun v => ih _

/-! ## Overrides -/

/-- Whether the keys of overrides are those of fields in sections, each at most once. -/
structure IsFieldwise (overrides : List (String × Value)) : Prop where
  pairs : ∀ o ∈ overrides, ∃ a b, pathOfKey o.1 = [a, b]
  distinct : (overrides.map fun o => pathOfKey o.1).Nodup

/-- A key of two names with a dot between them leads to these. -/
theorem pathOfKey_pair {a b : String} (ha : a ≠ "") (hb : b ≠ "") (hdots : '.' ∉ a.toList)
    (hdots' : '.' ∉ b.toList) : pathOfKey (a ++ "." ++ b) = [a, b] := by
  have hkey : (a ++ "." ++ b).toList = a.toList ++ '.' :: b.toList := by
    rw [String.toList_append, String.toList_append, List.append_assoc]
    rfl
  rw [pathOfKey, split, hkey, splitChars_append_cons hdots, splitChars_of_not_mem hdots']
  simp [ha, hb]

theorem pathOfKey_path (f : Field) : pathOfKey f.path = [f.place.name, f.name] := by
  cases f <;> exact pathOfKey_pair (by decide) (by decide) (by decide) (by decide)

/-- The value that overrides give at two names. -/
def overrideAt (overrides : List (String × Value)) (a b : String) : Option Value :=
  (overrides.find? fun o => pathOfKey o.1 = [a, b]).map (·.2)

theorem overrideAt_eq_some_iff (h : IsFieldwise overrides) {a b : String} :
    overrideAt overrides a b = some v ↔ ∃ o ∈ overrides, pathOfKey o.1 = [a, b] ∧ o.2 = v := by
  rw [overrideAt, Option.map_eq_some_iff]
  constructor
  · rintro ⟨o, ho, rfl⟩
    exact ⟨o, List.mem_of_find?_eq_some ho, by simpa using List.find?_some ho, rfl⟩
  · rintro ⟨o, ho, hpath, rfl⟩
    cases hfind : overrides.find? fun o => pathOfKey o.1 = [a, b] with
    | none => exact absurd hpath (by simpa using List.find?_eq_none.mp hfind o ho)
    | some o' =>
        have hpath' : pathOfKey o'.1 = [a, b] := by simpa using List.find?_some hfind
        have heq := List.inj_on_of_nodup_map h.distinct
          (List.mem_of_find?_eq_some hfind) ho (hpath'.trans hpath.symm)
        exact ⟨o', rfl, congrArg Prod.snd heq⟩

theorem IsFieldwise.perm {others : List (String × Value)} (h : IsFieldwise overrides)
    (hperm : others.Perm overrides) : IsFieldwise others :=
  ⟨fun o ho => h.pairs o (hperm.subset ho), (hperm.map _).nodup_iff.mpr h.distinct⟩

theorem overrideAt_perm {others : List (String × Value)} (h : IsFieldwise overrides)
    (hperm : others.Perm overrides) (a b : String) :
    overrideAt others a b = overrideAt overrides a b := by
  refine Option.ext fun v => ?_
  rw [overrideAt_eq_some_iff (h.perm hperm), overrideAt_eq_some_iff h]
  simp only [hperm.mem_iff]

theorem IsFieldwise.of_cons {o : String × Value} (h : IsFieldwise (o :: overrides)) :
    IsFieldwise overrides :=
  ⟨fun o' ho' => h.pairs o' (List.mem_cons_of_mem _ ho'), (List.nodup_cons.mp h.distinct).2⟩

/-- The layer of overrides, after those that have been gone through: what the ones that are left
give at two names stands there. -/
theorem overrideLayer_spec {m' : Mapping} (h : IsFieldwise overrides) (hm : IsLayer m)
    (hm' : overrideLayer overrides m = .ok m') :
    IsLayer m' ∧ ∀ a b, lookupAt m' a b = (overrideAt overrides a b).or (lookupAt m a b) := by
  induction overrides generalizing m with
  | nil =>
      cases hm'
      exact ⟨hm, fun a b => rfl⟩
  | cons o overrides ih =>
      obtain ⟨key, v⟩ := o
      obtain ⟨a', b', hpath⟩ := h.pairs (key, v) List.mem_cons_self
      have hpath' : pathOfKey key = [a', b'] := hpath
      have hnew : [a', b'] ∉ overrides.map fun o => pathOfKey o.1 := by
        rw [← hpath]
        exact (List.nodup_cons.mp h.distinct).1
      rw [overrideLayer, hpath', List.isEmpty_cons, if_neg (by decide)] at hm'
      obtain ⟨hlayer, hvalues⟩ := ih h.of_cons (hm.setAt v a' b') hm'
      refine ⟨hlayer, fun a b => ?_⟩
      rw [hvalues, lookupAt_setAt, overrideAt, overrideAt, List.find?_cons, hpath']
      by_cases hab : a = a' ∧ b = b'
      · obtain ⟨rfl, rfl⟩ := hab
        -- No later override has these names, so that the value stays.
        have hnone : (overrides.find? fun o => pathOfKey o.1 = [a, b]) = none := by
          refine List.find?_eq_none.mpr fun o ho hfound => hnew ?_
          exact List.mem_map.mpr ⟨o, ho, of_decide_eq_true hfound⟩
        simp [hnone]
      · have hne : [a', b'] ≠ [a, b] := by
          intro heq
          cases heq
          exact hab ⟨rfl, rfl⟩
        simp [hab, hne]

/-- The layer of overrides sets the fields that they give. -/
theorem ofOverrides_spec (h : IsFieldwise overrides) (hm : ofOverrides overrides = .ok m) :
    IsLayer m ∧ ∀ a b, lookupAt m a b = overrideAt overrides a b := by
  have hperm := List.mergeSort_perm overrides fun a b => a.1 ≤ b.1
  obtain ⟨hlayer, hvalues⟩ := overrideLayer_spec (h.perm hperm) isLayer_nil hm
  refine ⟨hlayer, fun a b => ?_⟩
  have hnil : lookupAt [] a b = none := rfl
  rw [hvalues, hnil, Option.or_none, overrideAt_perm h hperm]

/-- The layer of overrides does not depend on their order. -/
theorem ofOverrides_perm {others : List (String × Value)} (h : IsFieldwise overrides)
    (hperm : others.Perm overrides) : ofOverrides others = ofOverrides overrides := by
  have hkeys : (overrides.map Prod.fst).Nodup :=
    List.Nodup.of_map pathOfKey (by rw [List.map_map]; exact h.distinct)
  have hsorted : ∀ l : List (String × Value),
      (l.mergeSort fun a b => a.1 ≤ b.1).Pairwise fun a b => a.1 ≤ b.1 := by
    intro l
    have hpairs : (l.mergeSort fun a b => a.1 ≤ b.1).Pairwise
        fun a b => decide (a.1 ≤ b.1) = true :=
      List.pairwise_mergeSort (fun a b c => by simpa using String.le_trans)
        (fun a b => by simpa using String.le_total a.1 b.1) l
    simpa using hpairs
  have hmerged : (others.mergeSort fun a b => a.1 ≤ b.1) =
      overrides.mergeSort fun a b => a.1 ≤ b.1 := by
    have hothers := List.mergeSort_perm others fun a b => a.1 ≤ b.1
    have hoverrides := List.mergeSort_perm overrides fun a b => a.1 ≤ b.1
    -- Sorting leaves no choice, since no two overrides have the same key.
    refine (hothers.trans (hperm.trans hoverrides.symm)).eq_of_pairwise ?_ (hsorted _) (hsorted _)
    intro a b ha hb hab hba
    exact List.inj_on_of_nodup_map hkeys (hperm.subset (hothers.subset ha))
      (hoverrides.subset hb) (String.le_antisymm hab hba)
  rw [ofOverrides, ofOverrides, hmerged]

end ParamRules.Config
