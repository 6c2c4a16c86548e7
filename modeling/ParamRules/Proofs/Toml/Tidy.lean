import ParamRules.Proofs.Mapping
import ParamRules.Proofs.Result
import ParamRules.Toml.Document

/-!
# Tables with distinct keys

A document sets every key once.  The tables that it makes are changed at the end of a path only, by
a value for a name that is new there or by one more table in a list, and neither gives a table a
second entry with a key it has.  So each table that is read, at any depth, has distinct keys
(`isTidy_of_read`).
-/

namespace ParamRules.Toml

open Mapping Result

variable {m m' : Mapping} {v key : Value} {items : List Value} {s r : List Char} {d d' : Draft}

/-- Whether every table in a value has distinct keys. -/
inductive IsTidy : Value → Prop where
  | scalar {v : Value} (h : isCollection v = false) : IsTidy v
  | list {items : List Value} (h : ∀ v ∈ items, IsTidy v) : IsTidy (.list items)
  | table {m : Mapping} (hkeys : IsDistinct m) (h : ∀ e ∈ m, IsTidy e.2) : IsTidy (.map m)

theorem isTidy_map_iff : IsTidy (.map m) ↔ IsDistinct m ∧ ∀ e ∈ m, IsTidy e.2 := by
  constructor
  · intro h
    cases h with
    | scalar h => cases h
    | table hkeys h => exact ⟨hkeys, h⟩
  · rintro ⟨hkeys, h⟩
    exact .table hkeys h

theorem isTidy_list_iff : IsTidy (.list items) ↔ ∀ v ∈ items, IsTidy v := by
  constructor
  · intro h
    cases h with
    | scalar h => cases h
    | list h => exact h
  · exact .list

theorem isTidy_nil : IsTidy (.map []) :=
  .table List.nodup_nil nofun

theorem isTidy_append {items' : List Value} (h : IsTidy (.list items))
    (h' : IsTidy (.list items')) : IsTidy (.list (items ++ items')) := by
  rw [isTidy_list_iff] at h h' ⊢
  intro v hv
  rcases List.mem_append.mp hv with hv | hv
  · exact h v hv
  · exact h' v hv

theorem isTidy_singleton (h : IsTidy v) : IsTidy (.list [v]) :=
  .list fun _ hv => List.mem_singleton.mp hv ▸ h

/-! ## Changing tables -/

theorem IsTidy.of_get? (h : IsTidy (.map m)) (hv : get? m key = some v) : IsTidy v := by
  obtain ⟨e, he, -, rfl⟩ := exists_mem_of_get? hv
  exact (isTidy_map_iff.mp h).2 e he

theorem IsTidy.put (h : IsTidy (.map m)) (hv : IsTidy v) : IsTidy (.map (Mapping.put key v m)) := by
  obtain ⟨hkeys, hm⟩ := isTidy_map_iff.mp h
  refine .table hkeys.put fun e he => ?_
  rcases mem_put he with he | rfl | ⟨-, -, -, rfl⟩
  · exact hm e he
  · exact hv
  · exact hv

theorem IsTidy.addNew {name : String} (hm : IsTidy (.map m)) (hv : IsTidy v)
    (h : addNew name v m = some m') : IsTidy (.map m') := by
  unfold Toml.addNew at h
  split at h
  · cases h
  · rename_i hnew
    cases h
    rw [← put_of_get?_eq_none v hnew]
    exact hm.put hv

theorem IsTidy.addTable {name : String} (hm : IsTidy (.map m)) (h : addTable name m = some m') :
    IsTidy (.map m') := by
  unfold Toml.addTable at h
  split at h
  · rename_i hnew
    cases h
    rw [← put_of_get?_eq_none _ hnew]
    exact hm.put (isTidy_singleton isTidy_nil)
  · rename_i items hitems
    cases h
    exact hm.put (isTidy_append (hm.of_get? hitems) (isTidy_singleton isTidy_nil))
  · cases h

/-- A change at the end of a path keeps all tables on the way tidy. -/
theorem IsTidy.changeAt {throughLists : Bool} {change : Mapping → Option Mapping} {path : Key}
    (hchange : ∀ m m', IsTidy (.map m) → change m = some m' → IsTidy (.map m'))
    (hm : IsTidy (.map m)) (h : changeAt throughLists change path m = some m') :
    IsTidy (.map m') := by
  induction path generalizing m m' with
  | nil => exact hchange m m' hm h
  | cons name path ih =>
      unfold Toml.changeAt at h
      simp only at h
      split at h
      · obtain ⟨inner, hinner, h⟩ := Option.bind_eq_some_iff.mp h
        cases h
        exact hm.put (ih isTidy_nil hinner)
      · rename_i before hbefore
        obtain ⟨inner, hinner, h⟩ := Option.bind_eq_some_iff.mp h
        cases h
        exact hm.put (ih (hm.of_get? hbefore) hinner)
      · rename_i items hitems
        have htidy := hm.of_get? hitems
        -- The path goes on through the last table of the list, and all others stay.
        split at h
        · rename_i before hlast
          obtain ⟨inner, hinner, h⟩ := Option.bind_eq_some_iff.mp h
          cases h
          have hmem := isTidy_list_iff.mp htidy
          refine hm.put (isTidy_append (.list fun v hv => ?_) (isTidy_singleton ?_))
          · exact hmem v (List.mem_of_mem_dropLast hv)
          · exact ih (hmem _ (List.mem_of_getLast? hlast)) hinner
        · cases h
      · cases h

/-! ## Reading values -/

/-- Whether a reader gives scalars only. -/
def GivesScalar (x : Option (Except Problem (Value × List Char))) : Prop :=
  ∀ v r, x = some (.ok (v, r)) → isCollection v = false

theorem GivesScalar.orElse {x y : Option (Except Problem (Value × List Char))}
    (hx : GivesScalar x) (hy : GivesScalar y) : GivesScalar (x <|> y) := by
  intro v r h
  cases x with
  | none => exact hy v r h
  | some a => exact hx v r h

theorem givesScalar_map_ok {x : Option (Value × List Char)}
    (h : ∀ v r, x = some (v, r) → isCollection v = false) : GivesScalar (x.map .ok) := by
  intro v r hx
  obtain ⟨a, ha, heq⟩ := Option.map_eq_some_iff.mp hx
  cases heq
  exact h v r ha

theorem givesScalar_dated? (s : List Char) : GivesScalar (dated? s) := by
  intro v r h
  unfold dated? at h
  obtain ⟨⟨⟨year, month, day⟩, rest⟩, -, h⟩ := Option.bind_eq_some_iff.mp h
  simp only at h
  split_ifs at h
  · cases h
  · split at h <;> cases h <;> rfl

theorem isCollection_based? {base : Nat} (h : based? base s = some (v, r)) :
    isCollection v = false := by
  obtain ⟨⟨digits, rest⟩, -, h⟩ := Option.bind_eq_some_iff.mp h
  cases h
  rfl

theorem isCollection_special? (h : special? s = some (v, r)) : isCollection v = false := by
  unfold special? at h
  simp only at h
  split at h <;> cases h <;> rfl

theorem givesScalar_decimal? (s : List Char) : GivesScalar (decimal? s) := by
  intro v r h
  unfold decimal? at h
  obtain ⟨⟨whole, rest⟩, -, h⟩ := Option.bind_eq_some_iff.mp h
  simp only at h
  split_ifs at h
  · split at h <;> cases h
    rfl
  · obtain ⟨x, -, h⟩ := Option.bind_eq_some_iff.mp h
    cases h
    rfl

theorem GivesScalar.of_getD {x : Option (Except Problem (Value × List Char))}
    (hx : GivesScalar x) (h : x.getD (.error .malformed) = .ok (v, r)) :
    isCollection v = false := by
  cases x with
  | none => cases h
  | some a =>
      rw [Option.getD_some] at h
      exact hx v r (congrArg some h)

theorem isCollection_scalar (h : scalar s = .ok (v, r)) : isCollection v = false := by
  unfold scalar at h
  split at h
  · cases h
    rfl
  · cases h
    rfl
  · refine GivesScalar.of_getD (.orElse (givesScalar_dated? _) (.orElse ?clock (.orElse ?based
      (.orElse (givesScalar_decimal? _) ?special)))) h
    case clock =>
      intro v r hv
      obtain ⟨p, -, hp⟩ := Option.map_eq_some_iff.mp hv
      cases hp
      rfl
    case based =>
      refine givesScalar_map_ok fun v r hv => ?_
      split at hv
      · exact isCollection_based? hv
      · exact isCollection_based? hv
      · exact isCollection_based? hv
      · cases hv
    case special => exact givesScalar_map_ok fun v r hv => isCollection_special? hv

/-- Whether the readers of values give tidy ones as long as their fuel lasts. -/
structure ReadsTidy (fuel : Nat) : Prop where
  value : ∀ {s r : List Char} {v : Value}, readValue fuel s = .ok (v, r) → IsTidy v
  items : ∀ {done : List Value} {s r : List Char} {v : Value}, IsTidy (.list done) →
    readItems fuel done s = .ok (v, r) → IsTidy v
  pairs : ∀ {done : Mapping} {closed : List Key} {s r : List Char} {v : Value},
    IsTidy (.map done) → readPairs fuel done closed s = .ok (v, r) → IsTidy v

theorem orMalformed_eq_ok_iff {α : Type} {x : Option α} {a : α} :
    orMalformed x = .ok a ↔ x = some a := by
  cases x <;> simp [orMalformed]

theorem ReadsTidy.value_succ {fuel : Nat} (ih : ReadsTidy fuel)
    (h : readValue (fuel + 1) s = .ok (v, r)) : IsTidy v := by
  unfold readValue at h
  split at h
  · obtain ⟨⟨text, rest⟩, -, h⟩ := bind_eq_ok_iff.mp h
    cases h
    exact .scalar rfl
  · obtain ⟨⟨text, rest⟩, -, h⟩ := bind_eq_ok_iff.mp h
    cases h
    exact .scalar rfl
  · obtain ⟨rest, -, h⟩ := bind_eq_ok_iff.mp h
    have hnil : IsTidy (.list []) := .list nofun
    exact ih.items hnil h
  · split at h
    · cases h
      exact isTidy_nil
    · exact ih.pairs isTidy_nil h
  · exact .scalar (isCollection_scalar h)

theorem ReadsTidy.items_succ {fuel : Nat} (ih : ReadsTidy fuel) {done : List Value}
    (hdone : IsTidy (.list done)) (h : readItems (fuel + 1) done s = .ok (v, r)) : IsTidy v := by
  unfold readItems at h
  split at h
  · cases h
    exact hdone
  · obtain ⟨⟨item, rest⟩, hitem, h⟩ := bind_eq_ok_iff.mp h
    have hmore := isTidy_append hdone (isTidy_singleton (ih.value hitem))
    obtain ⟨rest', -, h⟩ := bind_eq_ok_iff.mp h
    split at h
    · cases h
      exact hmore
    · obtain ⟨rest'', -, h⟩ := bind_eq_ok_iff.mp h
      exact ih.items hmore h
    · cases h

theorem ReadsTidy.pairs_succ {fuel : Nat} (ih : ReadsTidy fuel) {done : Mapping}
    {closed : List Key} (hdone : IsTidy (.map done))
    (h : readPairs (fuel + 1) done closed s = .ok (v, r)) : IsTidy v := by
  unfold readPairs at h
  obtain ⟨⟨path, rest⟩, -, h⟩ := bind_eq_ok_iff.mp h
  obtain ⟨rest', -, h⟩ := bind_eq_ok_iff.mp h
  obtain ⟨⟨item, rest''⟩, hitem, h⟩ := bind_eq_ok_iff.mp h
  simp only at h
  split at h
  · cases h
  · obtain ⟨done', hdone', h⟩ := bind_eq_ok_iff.mp h
    have hmore := hdone.changeAt (fun _ _ hm hadd => hm.addNew (ih.value hitem) hadd)
      (orMalformed_eq_ok_iff.mp hdone')
    split at h
    · cases h
      exact hmore
    · exact ih.pairs hmore h
    · cases h

theorem readsTidy (fuel : Nat) : ReadsTidy fuel := by
  induction fuel with
  | zero => exact ⟨nofun, fun _ => nofun, fun _ => nofun⟩
  | succ fuel ih => exact ⟨ih.value_succ, ih.items_succ, ih.pairs_succ⟩

/-! ## Reading lines -/

theorem isTidy_of_set {key : Key} (hd : IsTidy (.map d.table)) (hv : IsTidy v)
    (h : d.set key v = some d') : IsTidy (.map d'.table) := by
  unfold Draft.set at h
  simp only at h
  split at h
  · cases h
  split at h
  · cases h
  obtain ⟨table, htable, h⟩ := Option.bind_eq_some_iff.mp h
  cases h
  exact hd.changeAt (fun _ _ hm hadd => hm.addNew hv hadd) htable

theorem isTidy_of_openTable {key : Key} (hd : IsTidy (.map d.table))
    (h : d.openTable key = some d') : IsTidy (.map d'.table) := by
  unfold Draft.openTable at h
  simp only at h
  split at h
  · cases h
  obtain ⟨table, htable, h⟩ := Option.bind_eq_some_iff.mp h
  cases h
  exact hd.changeAt (fun _ _ hm hsome => Option.some.inj hsome ▸ hm) htable

theorem isTidy_of_openItem {key : Key} (hd : IsTidy (.map d.table))
    (h : d.openItem key = some d') : IsTidy (.map d'.table) := by
  unfold Draft.openItem at h
  simp only at h
  split at h
  · cases h
  obtain ⟨table, htable, h⟩ := Option.bind_eq_some_iff.mp h
  cases h
  exact hd.changeAt (fun _ _ hm hadd => hm.addTable hadd) htable

theorem isTidy_of_readLine (hd : IsTidy (.map d.table)) (h : readLine d s = .ok (d', r)) :
    IsTidy (.map d'.table) := by
  unfold readLine at h
  split at h
  · cases h
    exact hd
  · obtain ⟨⟨key, rest⟩, -, h⟩ := bind_eq_ok_iff.mp h
    obtain ⟨d'', hopen, h⟩ := bind_eq_ok_iff.mp h
    split at h <;> cases h
    exact isTidy_of_openItem hd (orMalformed_eq_ok_iff.mp hopen)
  · obtain ⟨⟨key, rest⟩, -, h⟩ := bind_eq_ok_iff.mp h
    obtain ⟨d'', hopen, h⟩ := bind_eq_ok_iff.mp h
    split at h <;> cases h
    exact isTidy_of_openTable hd (orMalformed_eq_ok_iff.mp hopen)
  · obtain ⟨⟨key, rest⟩, -, h⟩ := bind_eq_ok_iff.mp h
    obtain ⟨rest', -, h⟩ := bind_eq_ok_iff.mp h
    obtain ⟨⟨value, rest''⟩, hvalue, h⟩ := bind_eq_ok_iff.mp h
    obtain ⟨d'', hset, h⟩ := bind_eq_ok_iff.mp h
    cases h
    exact isTidy_of_set hd ((readsTidy _).value hvalue) (orMalformed_eq_ok_iff.mp hset)

theorem isTidy_of_readLines {fuel : Nat} (hd : IsTidy (.map d.table))
    (h : readLines d fuel s = .ok m) : IsTidy (.map m) := by
  induction fuel generalizing d s with
  | zero => cases h
  | succ fuel ih =>
      unfold readLines at h
      split at h
      · cases h
        exact hd
      · exact ih hd h
      · obtain ⟨⟨d', rest⟩, hline, h⟩ := bind_eq_ok_iff.mp h
        have hd' := isTidy_of_readLine hd hline
        obtain ⟨rest', -, h⟩ := bind_eq_ok_iff.mp h
        split at h
        · cases h
          exact hd'
        · exact ih hd' h
        · cases h

/-- Every table of a document has distinct keys. -/
theorem isTidy_of_read {text : String} (h : read text = .ok m) : IsTidy (.map m) :=
  isTidy_of_readLines isTidy_nil h

end ParamRules.Toml
