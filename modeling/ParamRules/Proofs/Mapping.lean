import ParamRules.Mapping
import Mathlib.Data.List.Nodup

/-!
# Mappings with distinct keys

A mapping is a list of entries, and the first one with a key is the one that counts.  Mappings that
are made by putting values never have a second one.  For a layer of this kind the merged mapping is
told key by key: a key of the layer has the layer's value over the one before, and every other key
has what it had (`get?_merge`).
-/

namespace ParamRules.Mapping

variable {m base layer : Mapping} {key other k v w : Value} {s : String}

/-- Whether no two entries have the same key. -/
def IsDistinct (m : Mapping) : Prop :=
  (m.map fun e => keyOf e.1).Nodup

/-! ## Keys -/

@[simp] theorem keyOf_text (s : String) : keyOf (.text s) = .text s := rfl

theorem keyOf_eq_text_iff : keyOf v = .text s ↔ v.text? = some s := by
  unfold keyOf
  split
  · rename_i s' _ hs
    rw [hs, Key.text.injEq, Option.some.injEq]
  · rename_i n hs hn
    simp [hs]
  · rename_i hs hn
    simp [hs]

@[simp] theorem get?_nil (key : Value) : get? [] key = none := rfl

theorem get?_cons (m : Mapping) (k v key : Value) :
    get? ((k, v) :: m) key = if keyOf k = keyOf key then some v else get? m key := by
  unfold get?
  rw [List.find?_cons]
  split_ifs with h <;> simp [h]

theorem get?_congr (h : keyOf key = keyOf other) (m : Mapping) : get? m key = get? m other := by
  rw [get?, get?, h]

theorem get?_eq_none_iff : get? m key = none ↔ ∀ e ∈ m, keyOf e.1 ≠ keyOf key := by
  rw [get?, Option.map_eq_none_iff, List.find?_eq_none]
  simp only [decide_eq_true_eq, ne_eq]

theorem exists_mem_of_get? (h : get? m key = some v) :
    ∃ e ∈ m, keyOf e.1 = keyOf key ∧ e.2 = v := by
  obtain ⟨e, he, rfl⟩ := Option.map_eq_some_iff.mp h
  exact ⟨e, List.mem_of_find?_eq_some he, by simpa using List.find?_some he, rfl⟩

/-! ## Putting -/

/-- A key that is there keeps its place, and a new one comes last. -/
theorem map_fst_put (key v : Value) (m : Mapping) :
    (put key v m).map Prod.fst =
      if (get? m key).isSome then m.map Prod.fst else m.map Prod.fst ++ [key] := by
  induction m with
  | nil => rfl
  | cons e m ih =>
      obtain ⟨k, w⟩ := e
      rw [put, get?_cons]
      split_ifs with h hsome hsome
      · rfl
      · exact absurd rfl hsome
      · rw [List.map_cons, ih, if_pos hsome, List.map_cons]
      · rw [List.map_cons, ih, if_neg hsome, List.map_cons, List.cons_append]

theorem get?_put_text (m : Mapping) (s s' : String) (v : Value) :
    get? (put (.text s) v m) (.text s') = if s' = s then some v else get? m (.text s') := by
  simp only [get?_put, keyOf_text, Key.text.injEq]

theorem put_of_get?_eq_none (v : Value) (h : get? m key = none) :
    put key v m = m ++ [(key, v)] := by
  induction m with
  | nil => rfl
  | cons e m ih =>
      obtain ⟨k, w⟩ := e
      rw [get?_cons] at h
      split_ifs at h with hk
      rw [put, if_neg hk, ih h, List.cons_append]

/-- An entry stands as it stood, or it is new, or its value is. -/
theorem mem_put {e : Value × Value} (h : e ∈ put key v m) :
    e ∈ m ∨ e = (key, v) ∨ ∃ d ∈ m, keyOf d.1 = keyOf key ∧ e = (d.1, v) := by
  induction m with
  | nil => exact .inr (.inl (List.mem_singleton.mp h))
  | cons d m ih =>
      obtain ⟨k, w⟩ := d
      rw [put] at h
      split_ifs at h with hk
      · rcases List.mem_cons.mp h with rfl | hm
        · exact .inr (.inr ⟨_, List.mem_cons_self, hk, rfl⟩)
        · exact .inl (List.mem_cons_of_mem _ hm)
      · rcases List.mem_cons.mp h with rfl | hm
        · exact .inl List.mem_cons_self
        · rcases ih hm with hm | hnew | ⟨d, hd, hk, rfl⟩
          · exact .inl (List.mem_cons_of_mem _ hm)
          · exact .inr (.inl hnew)
          · exact .inr (.inr ⟨d, List.mem_cons_of_mem _ hd, hk, rfl⟩)

theorem IsDistinct.put (h : IsDistinct m) : IsDistinct (put key v m) := by
  have hkeys : ∀ m : Mapping, (m.map fun e => keyOf e.1) = (m.map Prod.fst).map keyOf := by
    intro m
    rw [List.map_map]
    rfl
  unfold IsDistinct at h ⊢
  rw [hkeys] at h ⊢
  rw [map_fst_put]
  split_ifs with hsome
  · exact h
  · have hnone : get? m key = none := by simpa using hsome
    rw [List.map_append, List.map_singleton, List.nodup_append]
    refine ⟨h, List.nodup_singleton _, ?_⟩
    intro a ha b hb
    obtain ⟨k, hk, rfl⟩ := List.mem_map.mp ha
    obtain ⟨e, he, rfl⟩ := List.mem_map.mp hk
    rw [List.mem_singleton.mp hb]
    exact get?_eq_none_iff.mp hnone e he

/-! ## Entries put one after the other -/

theorem IsDistinct.of_cons {e : Value × Value} (h : IsDistinct (e :: m)) :
    get? m e.1 = none ∧ IsDistinct m := by
  obtain ⟨hnew, hm⟩ := List.nodup_cons.mp h
  refine ⟨get?_eq_none_iff.mpr fun d hd heq => hnew ?_, hm⟩
  exact List.mem_map.mpr ⟨d, hd, heq⟩

/-- What putting an entry preserves is so of the mapping that entries make. -/
theorem ofEntries_induction {P : Mapping → Prop} {entries : List (Value × Value)} (hnil : P [])
    (hput : ∀ m, ∀ e ∈ entries, P m → P (put e.1 e.2 m)) : P (ofEntries entries) := by
  have hrun : ∀ m, P m → P (entries.foldl (fun m e => put e.1 e.2 m) m) := by
    induction entries with
    | nil => exact fun m hm => hm
    | cons e entries ih =>
        obtain ⟨he, hentries⟩ := List.forall_mem_cons.mp fun e he m => hput m e he
        exact fun m hm => ih (fun m e hmem => hentries e hmem m) _ (he m hm)
  exact hrun [] hnil

theorem isDistinct_ofEntries (entries : List (Value × Value)) : IsDistinct (ofEntries entries) :=
  ofEntries_induction List.nodup_nil fun _ _ _ hm => hm.put

/-- Entries with distinct keys make the mapping that they are. -/
theorem ofEntries_eq_self (h : IsDistinct m) : ofEntries m = m := by
  have hrun : ∀ before : Mapping, IsDistinct (before ++ m) →
      m.foldl (fun m e => put e.1 e.2 m) before = before ++ m := by
    clear h
    induction m with
    | nil => exact fun before _ => (List.append_nil before).symm
    | cons e m ih =>
        intro before h
        have hnew : get? before e.1 = none := by
          rw [IsDistinct, List.map_append, List.map_cons, List.nodup_append] at h
          exact get?_eq_none_iff.mpr fun d hd =>
            h.2.2 _ (List.mem_map_of_mem hd) _ List.mem_cons_self
        rw [List.append_cons] at h ⊢
        rw [List.foldl_cons, put_of_get?_eq_none _ hnew, ih _ h]
  exact hrun [] h

/-! ## Merging -/

/-- A merged mapping, key by key. -/
theorem get?_merge (h : IsDistinct layer) (base : Mapping) (key : Value) :
    get? (merge base layer) key =
      (get? layer key).elim (get? base key) fun v => some (overlaid (get? base key) v) := by
  induction layer generalizing base with
  | nil => rfl
  | cons e layer ih =>
      obtain ⟨k, v⟩ := e
      obtain ⟨hnew, hlayer⟩ := h.of_cons
      rw [merge, ih hlayer, get?_put, get?_cons]
      by_cases hk : keyOf k = keyOf key
      · rw [if_pos hk, if_pos hk.symm, ← get?_congr hk, hnew, ← get?_congr hk base]
        rfl
      · rw [if_neg hk, if_neg (Ne.symm hk)]

/-- What is no mapping takes the place of what was there. -/
theorem overlaid_eq_self {before : Option Value} (h : v.entries? = none) :
    overlaid before v = v := by
  cases v with
  | map entries => cases h
  | _ => rfl

theorem entries?_overlaid {before : Option Value} (h : (overlaid before v).entries? = none) :
    v.entries? = none := by
  cases v with
  | map entries => cases h
  | _ => rfl

end ParamRules.Mapping
