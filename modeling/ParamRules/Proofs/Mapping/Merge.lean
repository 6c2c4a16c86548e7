import ParamRules.Proofs.Toml.Tidy

/-!
# Mappings merged over mappings

Merging is told by what stands at the end of each path of keys.  What is no mapping in the layer
stands in the result; where the layer neither has a value nor ends the path early, the result has
what was there before.  Mappings of the same keys that answer alike are equal, so merging with
nothing, or with itself, changes no mapping, and layers that do not put anything else in the place
of a mapping can be merged in groups.
-/

namespace ParamRules.Mapping

open Toml

variable {a b c m m' base layer : Mapping} {key v w : Value} {before : Option Value}
  {path : List Value}

/-! ## Equal mappings -/

theorem isSome_get?_of_mem (h : key ∈ m.map Prod.fst) : (get? m key).isSome = true := by
  obtain ⟨e, he, rfl⟩ := List.mem_map.mp h
  rw [Option.isSome_iff_ne_none]
  exact fun hnone => get?_eq_none_iff.mp hnone e he rfl

/-- Mappings are equal if they have the same keys in the same order and answer alike. -/
theorem eq_of_get?_eq (hm : IsDistinct m) (hm' : IsDistinct m')
    (hkeys : m.map Prod.fst = m'.map Prod.fst) (hget : ∀ key, get? m key = get? m' key) :
    m = m' := by
  induction m generalizing m' with
  | nil => exact (List.map_eq_nil_iff.mp hkeys.symm).symm
  | cons e m ih =>
      cases m' with
      | nil => cases hkeys
      | cons e' m' =>
          obtain ⟨k, v⟩ := e
          obtain ⟨k', v'⟩ := e'
          obtain ⟨hk, hrest⟩ := List.cons.inj hkeys
          obtain rfl : k = k' := hk
          obtain ⟨hnew, htail⟩ := hm.of_cons
          obtain ⟨hnew', htail'⟩ := hm'.of_cons
          have hhead := hget k
          rw [get?_cons, get?_cons, if_pos rfl, if_pos rfl] at hhead
          obtain rfl := Option.some.inj hhead
          rw [ih htail htail' hrest fun key => ?_]
          by_cases hk : keyOf k = keyOf key
          · rw [← get?_congr hk, ← get?_congr hk, hnew, hnew']
          · have hother := hget key
            rwa [get?_cons, get?_cons, if_neg hk, if_neg hk] at hother

/-! ## Keys of merged mappings -/

theorem IsDistinct.merge (h : IsDistinct base) (layer : Mapping) :
    IsDistinct (merge base layer) := by
  induction layer generalizing base with
  | nil => exact h
  | cons e layer ih => exact ih h.put

/-- The keys of the mapping come first, then those of the layer that are new. -/
theorem map_fst_merge (h : IsDistinct layer) (base : Mapping) :
    (merge base layer).map Prod.fst =
      base.map Prod.fst ++ (layer.map Prod.fst).filter fun k => (get? base k).isNone := by
  induction layer generalizing base with
  | nil => simp [merge]
  | cons e layer ih =>
      obtain ⟨k, v⟩ := e
      obtain ⟨hnew, hlayer⟩ := h.of_cons
      have hothers : ∀ k' ∈ layer.map Prod.fst,
          get? (put k (overlaid (get? base k) v) base) k' = get? base k' := by
        intro k' hk'
        obtain ⟨e, he, rfl⟩ := List.mem_map.mp hk'
        rw [get?_put, if_neg (get?_eq_none_iff.mp hnew e he)]
      have hfilter := List.filter_congr fun k' hk' => congrArg Option.isNone (hothers k' hk')
      rw [merge, ih hlayer, hfilter, map_fst_put, List.map_cons, List.filter_cons]
      cases get? base k <;> simp

/-! ## Merging with nothing and with itself -/

/-- Merging a mapping over another one gives the mapping that is merged if that has all keys in its
order, and if its values over those that were there are its values. -/
theorem merge_eq_layer (hbase : IsDistinct base) (hm : IsDistinct m)
    (hkeys : base.map Prod.fst ++ ((m.map Prod.fst).filter fun k => (get? base k).isNone) =
      m.map Prod.fst)
    (hnone : ∀ key, get? m key = none → get? base key = none)
    (hsome : ∀ key v, get? m key = some v → overlaid (get? base key) v = v) :
    merge base m = m := by
  refine eq_of_get?_eq (hbase.merge m) hm ((map_fst_merge hm base).trans hkeys) fun key => ?_
  rw [get?_merge hm]
  cases hv : get? m key with
  | none => exact hnone key hv
  | some v => exact congrArg some (hsome key v hv)

theorem entries?_of_isCollection (h : isCollection v = false) : v.entries? = none := by
  cases v with
  | map => cases h
  | _ => rfl

/-- A value over nothing, and over itself, is the value. -/
theorem overlaid_of_isTidy (h : IsTidy v) : overlaid none v = v ∧ overlaid (some v) v = v := by
  induction h with
  | scalar h =>
      exact ⟨overlaid_eq_self (entries?_of_isCollection h),
        overlaid_eq_self (entries?_of_isCollection h)⟩
  | list => exact ⟨rfl, rfl⟩
  | @table m hkeys _ ih =>
      have hvalue : ∀ key v, get? m key = some v →
          overlaid none v = v ∧ overlaid (some v) v = v := by
        intro key v hv
        obtain ⟨e, he, -, rfl⟩ := exists_mem_of_get? hv
        exact ih e he
      have hold : ((m.map Prod.fst).filter fun k => (get? m k).isNone) = [] := by
        refine List.filter_eq_nil_iff.mpr fun k hk => ?_
        rw [Bool.not_eq_true, Option.isNone_eq_false_iff]
        exact isSome_get?_of_mem hk
      have hnothing : merge [] m = m :=
        merge_eq_layer List.nodup_nil hkeys (by simp) (fun _ _ => rfl)
          fun key v hv => (hvalue key v hv).1
      have hitself : merge m m = m := by
        refine merge_eq_layer hkeys hkeys (by rw [hold, List.append_nil]) (fun _ h => h)
          fun key v hv => ?_
        rw [hv]
        exact (hvalue key v hv).2
      exact ⟨congrArg Value.map hnothing, congrArg Value.map hitself⟩

/-! ## Paths -/

/-- The value at the end of a path of keys. -/
def follow? : Value → List Value → Option Value
  | v, [] => some v
  | v, key :: path => (v.entries?.bind fun m => get? m key).bind fun w => follow? w path

theorem follow?_map_cons (m : Mapping) (key : Value) (path : List Value) :
    follow? (.map m) (key :: path) = (get? m key).bind fun v => follow? v path := rfl

theorem follow?_overlaid_of_plain (hw : IsTidy w) (h : follow? w path = some v)
    (hv : v.entries? = none) : follow? (overlaid before w) path = some v := by
  induction path generalizing w before with
  | nil =>
      cases h
      rw [overlaid_eq_self hv]
      rfl
  | cons key path ih =>
      obtain ⟨x, hx, hrest⟩ := Option.bind_eq_some_iff.mp h
      obtain ⟨layer, hlayer, hkey⟩ := Option.bind_eq_some_iff.mp hx
      obtain rfl : w = .map layer := by
        cases w <;> cases hlayer
        rfl
      simp only [overlaid, follow?_map_cons, get?_merge (isTidy_map_iff.mp hw).1, hkey]
      exact ih (hw.of_get? hkey) hrest

/-- Whether a path ends early in a value: at something other than a mapping, with keys left. -/
def EndsEarly (v : Value) (path : List Value) : Prop :=
  ∃ front w, front <+: path ∧ front ≠ path ∧ follow? v front = some w ∧ w.entries? = none

theorem follow?_overlaid_of_none (hw : IsTidy w) (h : follow? w path = none)
    (hends : ¬ EndsEarly w path) :
    follow? (overlaid before w) path = before.bind fun v => follow? v path := by
  induction path generalizing w before with
  | nil => cases h
  | cons key path ih =>
      obtain ⟨layer, rfl⟩ : ∃ layer, w = .map layer := by
        cases hentries : w.entries? with
        | none => exact absurd ⟨[], w, List.nil_prefix, nofun, rfl, hentries⟩ hends
        | some layer =>
            cases w <;> cases hentries
            exact ⟨_, rfl⟩
      have hbefore : (before.bind fun v => follow? v (key :: path)) =
          (get? ((before.bind Value.entries?).getD []) key).bind fun v => follow? v path := by
        cases before with
        | none => rfl
        | some u => cases u <;> rfl
      rw [hbefore, overlaid, follow?_map_cons, get?_merge (isTidy_map_iff.mp hw).1]
      rw [follow?_map_cons] at h
      cases hx : get? layer key with
      | none => rfl
      | some x =>
          rw [hx] at h
          refine ih (hw.of_get? hx) h ?_
          rintro ⟨front, y, hfront, hne, hy, hplain⟩
          refine hends ⟨key :: front, y, List.cons_prefix_cons.mpr ⟨rfl, hfront⟩, ?_, ?_, hplain⟩
          · simpa using hne
          · rw [follow?_map_cons, hx]
            exact hy

/-! ## Layers in groups -/

/-- Whether no path leads to a mapping in one value and to something else in the other. -/
def Fits (v w : Value) : Prop :=
  ∀ path x y, follow? v path = some x → follow? w path = some y →
    x.entries?.isSome = y.entries?.isSome

theorem Fits.of_get? (h : Fits (.map a) (.map b)) (hv : get? a key = some v)
    (hw : get? b key = some w) : Fits v w := by
  intro path x y hx hy
  refine h (key :: path) x y ?_ ?_
  · rw [follow?_map_cons, hv]
    exact hx
  · rw [follow?_map_cons, hw]
    exact hy

theorem Fits.exists_map (h : Fits v (.map m)) : ∃ entries, v = .map entries := by
  have hentries := h [] v (.map m) rfl rfl
  cases v with
  | map entries => exact ⟨entries, rfl⟩
  | _ => cases hentries

/-- Three mappings merged in either grouping, once their values under common keys are. -/
theorem merge_assoc_of (ha : IsDistinct a) (hb : IsDistinct b) (hc : IsDistinct c)
    (hnone : ∀ key w, get? c key = some w → overlaid none w = w)
    (hsome : ∀ key v w, get? b key = some v → get? c key = some w →
      overlaid (some (overlaid (get? a key) v)) w =
        overlaid (get? a key) (overlaid (some v) w)) :
    merge (merge a b) c = merge a (merge b c) := by
  have hbc := hb.merge c
  refine eq_of_get?_eq ((ha.merge b).merge c) (ha.merge _) ?_ fun key => ?_
  · have hnew : ∀ k, (get? (merge a b) k).isNone = ((get? b k).isNone && (get? a k).isNone) := by
      intro k
      rw [get?_merge hb]
      cases get? b k <;> simp
    simp only [map_fst_merge hc, map_fst_merge hb, map_fst_merge hbc, hnew, List.filter_append,
      List.filter_filter, List.append_assoc, Bool.and_comm]
  · rw [get?_merge hc, get?_merge hb, get?_merge hbc, get?_merge hc]
    cases hw : get? c key with
    | none => rfl
    | some w =>
        cases hv : get? b key with
        | none => simp [hnone key w hw]
        | some v => simp [hsome key v w hv hw]

/-- A value over one that is over a third. -/
theorem overlaid_overlaid (hw : IsTidy w) (hv : IsTidy v)
    (hbefore : ∀ u, before = some u → IsTidy u ∧ Fits u v ∧ Fits u w) (hfits : Fits v w) :
    overlaid (some (overlaid before v)) w = overlaid before (overlaid (some v) w) := by
  induction hw generalizing before v with
  | scalar h =>
      have hplain := entries?_of_isCollection h
      rw [overlaid_eq_self hplain, overlaid_eq_self hplain, overlaid_eq_self hplain]
  | list => rfl
  | @table c hc htidy ih =>
      obtain ⟨b, rfl⟩ := hfits.exists_map
      obtain ⟨hb, -⟩ := isTidy_map_iff.mp hv
      simp only [overlaid, Option.bind_some, Value.entries?, Option.getD_some]
      refine congrArg Value.map (merge_assoc_of ?_ hb hc ?_ ?_)
      · cases before with
        | none => exact List.nodup_nil
        | some u =>
            obtain ⟨a, rfl⟩ := (hbefore u rfl).2.1.exists_map
            exact (isTidy_map_iff.mp (hbefore _ rfl).1).1
      · intro key w hw
        obtain ⟨e, he, -, rfl⟩ := exists_mem_of_get? hw
        exact (overlaid_of_isTidy (htidy e he)).1
      · intro key v' w hv' hw
        obtain ⟨e, he, -, rfl⟩ := exists_mem_of_get? hw
        refine ih e he (hv.of_get? hv') (fun u hu => ?_) (hfits.of_get? hv' hw)
        cases before with
        | none => cases hu
        | some u' =>
            obtain ⟨a, rfl⟩ := (hbefore u' rfl).2.1.exists_map
            obtain ⟨ha, hab, hac⟩ := hbefore _ rfl
            exact ⟨ha.of_get? hu, hab.of_get? hu hv', hac.of_get? hu hw⟩

theorem fits_plain (hv : v.entries? = none) (hw : w.entries? = none) : Fits v w := by
  have hend : ∀ {u x : Value} {path : List Value}, u.entries? = none → follow? u path = some x →
      x.entries? = none := by
    intro u x path hu hx
    cases path with
    | nil =>
        cases hx
        exact hu
    | cons key path =>
        rw [follow?, hu] at hx
        cases hx
  intro path x y hx hy
  rw [hend hv hx, hend hw hy]

theorem fits_map (h : ∀ key v w, get? a key = some v → get? b key = some w → Fits v w) :
    Fits (.map a) (.map b) := by
  intro path x y hx hy
  cases path with
  | nil =>
      cases hx
      cases hy
      rfl
  | cons key path =>
      obtain ⟨v, hv, hx⟩ := Option.bind_eq_some_iff.mp hx
      obtain ⟨w, hw, hy⟩ := Option.bind_eq_some_iff.mp hy
      exact h key v w hv hw path x y hx hy

/-! ## All laws -/

theorem map_merge (base layer : Mapping) :
    Value.map (merge base layer) = overlaid (some (.map base)) (.map layer) := rfl

/-- Merging is deep and the layer wins.  Merging with nothing on either side, or with itself,
changes no mapping.  What the layer has at the end of a path stands in the result if it is no
mapping, a list as a whole; where the layer has nothing, and has not put anything else in the place
of a mapping on the way, the result has what was there.  Three mappings that nowhere put anything
else in the place of a mapping are merged in either grouping. -/
theorem merge_rightBiased (a b c : Mapping) (ha : IsTidy (.map a)) (hb : IsTidy (.map b))
    (hc : IsTidy (.map c)) :
    merge a [] = a ∧ merge [] a = a ∧ merge a a = a ∧
      (∀ path v, follow? (.map b) path = some v → v.entries? = none →
        follow? (.map (merge a b)) path = some v) ∧
      (∀ path items, follow? (.map b) path = some (.list items) →
        follow? (.map (merge a b)) path = some (.list items)) ∧
      (∀ path, follow? (.map b) path = none → ¬ EndsEarly (.map b) path →
        follow? (.map (merge a b)) path = follow? (.map a) path) ∧
      (Fits (.map a) (.map b) → Fits (.map b) (.map c) → Fits (.map a) (.map c) →
        merge (merge a b) c = merge a (merge b c)) := by
  obtain ⟨hnothing, hitself⟩ := overlaid_of_isTidy ha
  have hplain : ∀ path v, follow? (.map b) path = some v → v.entries? = none →
      follow? (.map (merge a b)) path = some v := by
    intro path v hv hplain
    rw [map_merge]
    exact follow?_overlaid_of_plain hb hv hplain
  refine ⟨rfl, Value.map.inj hnothing, Value.map.inj hitself, hplain,
    fun path items h => hplain path _ h rfl, ?_, ?_⟩
  · intro path hnone hends
    rw [map_merge]
    exact follow?_overlaid_of_none hb hnone hends
  · intro hab hbc hac
    have hgroups : Value.map (merge (merge a b) c) = .map (merge a (merge b c)) := by
      rw [map_merge, map_merge, map_merge, map_merge]
      exact overlaid_overlaid hc hb (fun u hu => Option.some.inj hu ▸ ⟨ha, hab, hac⟩) hbc
    exact Value.map.inj hgroups

/-! ## Three layers -/

/-- A layer that holds names with values in one section. -/
def logLayer (entries : List (String × Value)) : Mapping :=
  [(.text "log", .map (entries.map fun e => (.text e.1, e.2)))]

theorem isTidy_logLayer {entries : List (String × Value)} (hkeys : (entries.map Prod.fst).Nodup)
    (h : ∀ e ∈ entries, IsTidy e.2) : IsTidy (.map (logLayer entries)) := by
  have hdistinct : IsDistinct (entries.map fun e => (.text e.1, e.2)) := by
    have hmap := hkeys.map (f := Key.text) fun _ _ h => Key.text.inj h
    simpa [IsDistinct, Function.comp_def] using hmap
  have hinner : IsTidy (.map (entries.map fun e => (.text e.1, e.2))) := by
    refine .table hdistinct fun e he => ?_
    obtain ⟨e', he', rfl⟩ := List.mem_map.mp he
    exact h e' he'
  exact .table (List.nodup_singleton _) fun e he => List.mem_singleton.mp he ▸ hinner

/-- Layers fit that hold no mappings in their sections. -/
theorem fits_logLayer {entries others : List (String × Value)}
    (h : ∀ e ∈ entries, e.2.entries? = none) (h' : ∀ e ∈ others, e.2.entries? = none) :
    Fits (.map (logLayer entries)) (.map (logLayer others)) := by
  have hinner : ∀ {entries : List (String × Value)} {key v : Value},
      (∀ e ∈ entries, e.2.entries? = none) →
      get? (entries.map fun e => (.text e.1, e.2)) key = some v → v.entries? = none := by
    intro entries key v hall hv
    obtain ⟨e, he, -, rfl⟩ := exists_mem_of_get? hv
    obtain ⟨e', he', rfl⟩ := List.mem_map.mp he
    exact hall e' he'
  have hsection : ∀ {entries : List (String × Value)} {key v : Value},
      get? (logLayer entries) key = some v →
      v = .map (entries.map fun e => (.text e.1, e.2)) := by
    intro entries key v hv
    obtain ⟨e, he, -, rfl⟩ := exists_mem_of_get? hv
    rw [List.mem_singleton.mp he]
  refine fits_map fun key v w hv hw => ?_
  rw [hsection hv, hsection hw]
  exact fits_map fun key v w hv hw => fits_plain (hinner h hv) (hinner h' hw)

/-- A level and a list of sinks. -/
def firstLayer : Mapping :=
  logLayer [("level", .text "INFO"), ("sinks", .list [.text "out", .text "file"])]

/-- Another list of sinks. -/
def secondLayer : Mapping :=
  logLayer [("sinks", .list [.text "out"])]

/-- Another level. -/
def thirdLayer : Mapping :=
  logLayer [("level", .text "DEBUG")]

/-- A list takes the place of a longer one, and the level stays that is not set again. -/
theorem merge_rightBiased_layers :
    IsTidy (.map firstLayer) ∧ IsTidy (.map secondLayer) ∧ IsTidy (.map thirdLayer) ∧
      merge firstLayer firstLayer = firstLayer ∧
      follow? (.map secondLayer) [.text "log", .text "sinks"] = some (.list [.text "out"]) ∧
      follow? (.map (merge firstLayer secondLayer)) [.text "log", .text "sinks"] =
        some (.list [.text "out"]) ∧
      follow? (.map secondLayer) [.text "log", .text "level"] = none ∧
      ¬ EndsEarly (.map secondLayer) [.text "log", .text "level"] ∧
      follow? (.map (merge firstLayer secondLayer)) [.text "log", .text "level"] =
        follow? (.map firstLayer) [.text "log", .text "level"] ∧
      Fits (.map firstLayer) (.map secondLayer) ∧ Fits (.map secondLayer) (.map thirdLayer) ∧
      Fits (.map firstLayer) (.map thirdLayer) ∧
      merge (merge firstLayer secondLayer) thirdLayer =
        merge firstLayer (merge secondLayer thirdLayer) := by
  have hscalar : ∀ s, IsTidy (.text s) := fun s => .scalar rfl
  have hfirst : IsTidy (.map firstLayer) := by
    refine isTidy_logLayer (by decide) ?_
    simp [isTidy_list_iff, hscalar]
  have hsecond : IsTidy (.map secondLayer) := by
    refine isTidy_logLayer (by decide) ?_
    simp [isTidy_list_iff, hscalar]
  have hthird : IsTidy (.map thirdLayer) := by
    refine isTidy_logLayer (by decide) ?_
    simp [hscalar]
  have hfits : Fits (.map firstLayer) (.map secondLayer) ∧
      Fits (.map secondLayer) (.map thirdLayer) ∧ Fits (.map firstLayer) (.map thirdLayer) :=
    ⟨fits_logLayer (by simp [Value.entries?]) (by simp [Value.entries?]),
      fits_logLayer (by simp [Value.entries?]) (by simp [Value.entries?]),
      fits_logLayer (by simp [Value.entries?]) (by simp [Value.entries?])⟩
  have hsinks : follow? (.map secondLayer) [.text "log", .text "sinks"] =
      some (.list [.text "out"]) := by rfl
  have hlevel : follow? (.map secondLayer) [.text "log", .text "level"] = none := by rfl
  have hends : ¬ EndsEarly (.map secondLayer) [.text "log", .text "level"] := by
    rintro ⟨front, w, hfront, hne, hw, hplain⟩
    simp only [List.prefix_cons_iff, List.prefix_nil] at hfront
    obtain rfl | ⟨_, rfl, rfl | ⟨_, rfl, rfl⟩⟩ := hfront
    · cases hw
      cases hplain
    · cases hw
      cases hplain
    · exact hne rfl
  obtain ⟨-, -, hitself, -, hlists, hkept, hgroups⟩ :=
    merge_rightBiased firstLayer secondLayer thirdLayer hfirst hsecond hthird
  exact ⟨hfirst, hsecond, hthird, hitself, hsinks, hlists _ _ hsinks, hlevel, hends,
    hkept _ hlevel hends, hfits.1, hfits.2.1, hfits.2.2, hgroups hfits.1 hfits.2.1 hfits.2.2⟩

end ParamRules.Mapping
