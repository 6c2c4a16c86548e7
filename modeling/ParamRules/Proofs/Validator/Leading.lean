import ParamRules.Proofs.Parser.Canonical
import ParamRules.Proofs.Validator.Envelope

/-!
# What the beginning of a stored text tells

Constraints are stored with two marks in front: the one that allows nothing as a value, and the one
of a value that is kept encrypted.  Whether they are there is then seen from the beginning of the
text, without parsing it (`concat_leading`).  That rests on two facts about what is written.  A mark
has no parameters in the text, whatever it was written with.  And no other constraint is written
with such a beginning: the name of a constraint ends at the first bracket or parenthesis after it,
and no other kind has the name of a mark.
-/

namespace ParamRules

open Text Result

namespace Constraint

/-- The place of a constraint among those that are stored. -/
def place : Constraint → Nat
  | .null => 0
  | .encrypted => 1
  | _ => 2

/-- A text without the marks at its beginning that allow nothing as a value. -/
def afterNulls : List Char → List Char
  | '[' :: 'N' :: 'u' :: 'l' :: 'l' :: ']' :: r => afterNulls r
  | s => s

/-- What constraints are written as, one after the other. -/
def writtenAll (cs : List Constraint) : List Char :=
  (cs.map reading).flatMap rendered

variable {c m : Constraint} {cs ns : List Constraint} {s r : List Char}

@[simp] theorem writtenAll_nil : writtenAll [] = [] := rfl

@[simp] theorem writtenAll_cons (c : Constraint) (cs : List Constraint) :
    writtenAll (c :: cs) = rendered c.reading ++ writtenAll cs := rfl

@[simp] theorem writtenAll_append (cs ds : List Constraint) :
    writtenAll (cs ++ ds) = writtenAll cs ++ writtenAll ds := by
  simp [writtenAll]

theorem place_eq (hc : c.isCustom = false) :
    c.place = if c.name = "Null" then 0 else if c.name = "Encrypted" then 1 else 2 := by
  cases c <;> first | rfl | cases hc

theorem eq_null_of_place (h : c.place = 0) : c = .null := by
  cases c <;> first | rfl | cases h

theorem eq_encrypted_of_place (h : c.place = 1) : c = .encrypted := by
  cases c <;> first | rfl | cases h

/-! ## Marks in a text -/

/-- What stands before the first character of a kind, and that character, are told by the text. -/
theorem append_cons_inj {P : Char → Prop} {a b : List Char} {x y : Char} (ha : ∀ c ∈ a, P c)
    (hb : ∀ c ∈ b, P c) (hx : ¬ P x) (hy : ¬ P y) (h : a ++ x :: s = b ++ y :: r) :
    a = b ∧ x = y := by
  induction a generalizing b with
  | nil =>
      cases b with
      | nil => exact ⟨rfl, (List.cons.inj h).1⟩
      | cons d b => exact absurd ((List.cons.inj h).1 ▸ hb d List.mem_cons_self) hx
  | cons c a ih =>
      obtain ⟨hc, ha⟩ := List.forall_mem_cons.mp ha
      cases b with
      | nil => exact absurd ((List.cons.inj h).1 ▸ hc) hy
      | cons d b =>
          rw [List.cons_append, List.cons_append] at h
          obtain ⟨hcd, htail⟩ := List.cons.inj h
          obtain ⟨hab, hxy⟩ := ih ha (List.forall_mem_cons.mp hb).2 htail
          exact ⟨by rw [hcd, hab], hxy⟩

/-- A text begins with a name in brackets if and only if the first constraint in it has that name
and no parameters. -/
theorem bracketed_prefix_iff {name : List Char} {reading : String × List String}
    (hname : IsName name) (hreading : IsName reading.1.toList) (r : List Char) :
    '[' :: name ++ [']'] <+: rendered reading ++ r ↔
      reading.1.toList = name ∧ reading.2 = [] := by
  have hbracket : ¬ IsNameCharacter ']' := by decide
  have hparenthesis : ¬ IsNameCharacter '(' := by decide
  obtain ⟨own, ps⟩ := reading
  cases ps with
  | nil =>
      have hwritten : rendered (own, []) = '[' :: own.toList ++ [']'] := rfl
      rw [hwritten]
      constructor
      · rintro ⟨rest, hrest⟩
        simp only [List.cons_append, List.append_assoc, List.nil_append, List.cons.injEq,
          true_and] at hrest
        exact ⟨(append_cons_inj hname.2 hreading.2 hbracket hbracket hrest).1.symm, rfl⟩
      · rintro ⟨hown, -⟩
        exact ⟨r, by rw [← hown]⟩
  | cons p ps =>
      have hwritten : rendered (own, p :: ps) =
          '[' :: own.toList ++ '(' :: writtenParameters ((p :: ps).map String.toList) ++
            [')', ']'] := rfl
      rw [hwritten]
      constructor
      · rintro ⟨rest, hrest⟩
        simp only [List.cons_append, List.append_assoc, List.nil_append, List.cons.injEq,
          true_and] at hrest
        have hdelimiter := (append_cons_inj hname.2 hreading.2 hbracket hparenthesis hrest).2
        exact absurd hdelimiter (by decide)
      · rintro ⟨-, hps⟩
        cases hps

/-- A mark is known by its name, and has no parameters. -/
theorem eq_mark_iff (hm : m = .null ∨ m = .encrypted) (hc : c.isCustom = false) :
    c.name.toList = m.name.toList ∧ c.parameters = [] ↔ c = m := by
  rw [String.toList_inj]
  constructor
  · rintro ⟨hname, -⟩
    have hplace := place_eq hc
    rw [hname] at hplace
    obtain rfl | rfl := hm
    · exact eq_null_of_place hplace
    · exact eq_encrypted_of_place hplace
  · rintro rfl
    obtain rfl | rfl := hm <;> exact ⟨rfl, rfl⟩

/-- Written constraints begin with a mark if and only if the first of them is the mark. -/
theorem mark_prefix_iff (hm : m = .null ∨ m = .encrypted) (hcs : ∀ c ∈ cs, c.isCustom = false) :
    m.text.toList <+: writtenAll cs ↔ cs.head? = some m := by
  have hwritten : m.text.toList = '[' :: m.name.toList ++ [']'] := by
    rcases hm with rfl | rfl <;> exact String.toList_ofList
  have hname : IsName m.name.toList := by
    rcases hm with rfl | rfl <;> exact Parser.isName_name rfl
  rw [hwritten]
  cases cs with
  | nil => simp
  | cons c cs =>
      have hc := hcs c List.mem_cons_self
      have hreading : IsName c.reading.1.toList := Parser.isName_name hc
      rw [writtenAll_cons, bracketed_prefix_iff hname hreading, List.head?_cons,
        Option.some.injEq]
      exact eq_mark_iff hm hc

theorem afterNulls_append (s : List Char) :
    afterNulls (rendered Constraint.null.reading ++ s) = afterNulls s := rfl

theorem afterNulls_eq_self (h : ¬ Constraint.null.text.toList <+: s) : afterNulls s = s := by
  unfold afterNulls
  split
  · rename_i r
    exact absurd ⟨r, rfl⟩ h
  · rfl

theorem afterNulls_writtenAll (hns : ∀ c ∈ ns, c = .null)
    (hs : ¬ Constraint.null.text.toList <+: s) : afterNulls (writtenAll ns ++ s) = s := by
  induction ns with
  | nil => exact afterNulls_eq_self hs
  | cons c ns ih =>
      rw [hns c List.mem_cons_self, writtenAll_cons, List.append_assoc, afterNulls_append]
      exact ih fun c hc => hns c (List.mem_cons_of_mem _ hc)

/-! ## The order in which constraints are stored -/

theorem place_le (c : Constraint) : c.place ≤ 2 := by
  unfold place
  split <;> decide

theorem stored_eq (hcs : ∀ c ∈ cs, c.isCustom = false) :
    stored cs =
      cs.filter (·.place = 0) ++ cs.filter (·.place = 1) ++ cs.filter (·.place = 2) := by
  have hgroup : ∀ c ∈ cs, (c.name = "Null" ↔ c.place = 0) ∧
      (¬ c.name = "Null" ∧ c.name = "Encrypted" ↔ c.place = 1) ∧
      (¬ c.name = "Null" ∧ ¬ c.name = "Encrypted" ↔ c.place = 2) := by
    intro c hc
    rw [place_eq (hcs c hc)]
    split_ifs with hnull hencrypted <;> simp_all
  rw [stored]
  congr 1
  · congr 1
    · exact List.filter_congr fun c hc => decide_eq_decide.mpr (hgroup c hc).1
    · refine List.filter_congr fun c hc => decide_eq_decide.mpr ?_
      have hne : c.name = "Encrypted" → ¬ c.name = "Null" := by
        rintro hencrypted hnull
        exact absurd (hencrypted.symm.trans hnull) (by decide)
      rw [← (hgroup c hc).2.1]
      exact ⟨fun h => ⟨hne h, h⟩, And.right⟩
  · refine List.filter_congr fun c hc => ?_
    rw [Bool.eq_iff_iff, decide_eq_true_eq, ← (hgroup c hc).2.2]
    simp

theorem filter_place_stored (hcs : ∀ c ∈ cs, c.isCustom = false) (n : Nat) :
    (stored cs).filter (·.place = n) = cs.filter (·.place = n) := by
  have hplace : ∀ k, (cs.filter (·.place = k)).filter (·.place = n) =
      if k = n then cs.filter (·.place = n) else [] := by
    intro k
    rw [List.filter_filter]
    split_ifs with hk
    · simp [hk]
    · exact List.filter_eq_nil_iff.mpr fun c _ hc => hk (by simp at hc; omega)
  rw [stored_eq hcs, List.filter_append, List.filter_append, hplace, hplace, hplace]
  match n with
  | 0 => simp
  | 1 => simp
  | 2 => simp
  | n + 3 =>
      have hnone : cs.filter (·.place = n + 3) = [] := by
        refine List.filter_eq_nil_iff.mpr fun c _ hc => ?_
        have hle := c.place_le
        simp only [decide_eq_true_eq] at hc
        omega
      simp [hnone]

theorem pairwise_place_stored (hcs : ∀ c ∈ cs, c.isCustom = false) :
    (stored cs).Pairwise fun c d => c.place ≤ d.place := by
  have hgroup : ∀ k, (cs.filter (·.place = k)).Pairwise fun c d => c.place ≤ d.place := by
    intro k
    refine List.pairwise_of_forall_mem_list fun c hc d hd => ?_
    have hck := (List.mem_filter.mp hc).2
    have hdk := (List.mem_filter.mp hd).2
    simp only [decide_eq_true_eq] at hck hdk
    omega
  rw [stored_eq hcs, List.pairwise_append, List.pairwise_append]
  refine ⟨⟨hgroup 0, hgroup 1, ?_⟩, hgroup 2, ?_⟩
  all_goals
    intro c hc d hd
    simp only [List.mem_append, List.mem_filter, decide_eq_true_eq] at hc hd
    omega

/-! ## Marks in a stored text -/

/-- Where a constraint stands before all others it is the first one, if it is there. -/
theorem head?_append_eq_iff {a b : List Constraint} (ha : ∀ c ∈ a, c = m) (hb : m ∉ b) :
    (a ++ b).head? = some m ↔ m ∈ a ++ b := by
  cases a with
  | nil =>
      rw [List.nil_append]
      exact ⟨List.mem_of_head?, fun h => absurd h hb⟩
  | cons c a =>
      obtain rfl := ha c List.mem_cons_self
      simp

theorem eq_null_of_mem_filter (hc : c ∈ cs.filter (·.place = 0)) : c = .null :=
  eq_null_of_place (of_decide_eq_true (List.mem_filter.mp hc).2)

theorem eq_encrypted_of_mem_filter (hc : c ∈ cs.filter (·.place = 1)) : c = .encrypted :=
  eq_encrypted_of_place (of_decide_eq_true (List.mem_filter.mp hc).2)

/-- The constraints that allow nothing stand before all others in a stored text. -/
theorem null_prefix_concat_iff (hcs : ∀ c ∈ cs, c.isCustom = false) :
    Constraint.null.text.toList <+: (concat cs).toList ↔ .null ∈ cs := by
  have hstored : ∀ c ∈ stored cs, c.isCustom = false := fun c hc => hcs c (mem_stored.mp hc)
  have hothers : .null ∉ cs.filter (·.place = 1) ++ cs.filter (·.place = 2) := by
    simp [place]
  calc Constraint.null.text.toList <+: (concat cs).toList
      ↔ (stored cs).head? = some .null := by
        rw [toList_concat]
        exact mark_prefix_iff (.inl rfl) hstored
    _ ↔ .null ∈ stored cs := by
        rw [stored_eq hcs, List.append_assoc]
        exact head?_append_eq_iff (fun c => eq_null_of_mem_filter) hothers
    _ ↔ .null ∈ cs := mem_stored

/-- Without the marks that allow nothing, the marks of encrypted values stand before all others. -/
theorem encrypted_prefix_concat_iff (hcs : ∀ c ∈ cs, c.isCustom = false) :
    Constraint.encrypted.text.toList <+: afterNulls (concat cs).toList ↔ .encrypted ∈ cs := by
  have hrest : ∀ c ∈ cs.filter (·.place = 1) ++ cs.filter (·.place = 2), c.isCustom = false := by
    intro c hc
    rcases List.mem_append.mp hc with hc | hc <;> exact hcs c (List.mem_of_mem_filter hc)
  have hthird : .encrypted ∉ cs.filter (·.place = 2) := by simp [place]
  have hnone : ¬ Constraint.null.text.toList <+:
      writtenAll (cs.filter (·.place = 1) ++ cs.filter (·.place = 2)) := by
    rw [mark_prefix_iff (.inl rfl) hrest]
    intro hhead
    have hmem := List.mem_of_head? hhead
    simp [place] at hmem
  have hafter : afterNulls (concat cs).toList =
      writtenAll (cs.filter (·.place = 1) ++ cs.filter (·.place = 2)) := by
    rw [toList_concat, stored_eq hcs, List.append_assoc]
    change afterNulls (writtenAll _) = _
    rw [writtenAll_append]
    exact afterNulls_writtenAll (fun c => eq_null_of_mem_filter) hnone
  rw [hafter, mark_prefix_iff (.inr rfl) hrest,
    head?_append_eq_iff (fun c => eq_encrypted_of_mem_filter) hthird]
  simp [place]

end Constraint

namespace Validator

open Constraint

variable {v : Validator} {t : DataType} {cs : List Constraint} {member s : String} {shown : Value}

theorem result_resultsWith_null (ho : ∀ o ∈ v.observers, ∀ n, o.answer n = .ok ())
    (ht : t ≠ .none) (hmember : isAllBlank member = false) :
    (v.resultsWith .null (.ofDataType t) (.items (cs.map .constraint)) (.text member)
      shown).result =
        .ok (if cs.any (·.name = "Null") then [] else
          [nullOutcome member (shownOr member shown)]) := by
  have hname : Argument.nameText "member_name" (.text member) = .ok member :=
    Argument.nameText_eq_ok_iff.mpr ⟨rfl, hmember⟩
  have hresolve : (v.resolve (.items (cs.map .constraint)) t).result = .ok cs := by
    change (itemConstraints _) = _
    exact itemConstraints_map cs
  rw [resultsWith, dataType_ofDataType ht, hname]
  change (v.results .null t (.items (cs.map .constraint)) member shown).result = _
  rw [results_eq, Recorded.result_bind hresolve, result_judged ho]
  rfl

/-- What the beginning of a stored text tells about the constraints in it.  Each of them is written
once, by place and in the order in which they came.  Nothing is a value under them exactly where
the text begins with the mark for that, and values are encrypted exactly where the text without
these marks begins with the one for that. -/
theorem concat_leading {p : Parser} (hp : p.factory.handlers = [])
    (h : (p.parse s t).result = .ok cs) (ho : ∀ o ∈ v.observers, ∀ n, o.answer n = .ok ())
    (hmember : isAllBlank member = false) (shown : Value) :
    (∃ order : List Constraint, concat cs = String.join (order.map Constraint.text) ∧
        order.Perm cs ∧ (order.Pairwise fun c d => c.place ≤ d.place) ∧
        ∀ n, order.filter (·.place = n) = cs.filter (·.place = n)) ∧
      ((v.resultsWith .null (.ofDataType t) (.items (cs.map .constraint)) (.text member)
          shown).result = .ok [] ↔ "[Null]".toList <+: (concat cs).toList) ∧
      (.encrypted ∈ cs ↔ "[Encrypted]".toList <+: afterNulls (concat cs).toList) := by
  have ht := Parser.ne_none_of_parse_ok h
  have hcs : ∀ c ∈ cs, c.isCustom = false := fun c hc => (Parser.create_of_mem_parse hp h hc).1
  have hnamed : cs.any (·.name = "Null") = true ↔ .null ∈ cs := by
    rw [List.any_eq_true]
    constructor
    · rintro ⟨c, hc, hname⟩
      have hplace := place_eq (hcs c hc)
      rw [of_decide_eq_true hname] at hplace
      exact eq_null_of_place hplace ▸ hc
    · intro hmem
      exact ⟨.null, hmem, rfl⟩
  refine ⟨⟨stored cs, rfl, perm_stored cs, pairwise_place_stored hcs, filter_place_stored hcs⟩,
    ?_, (encrypted_prefix_concat_iff hcs).symm⟩
  rw [result_resultsWith_null ho ht hmember]
  refine Iff.trans ?_ (hnamed.trans (null_prefix_concat_iff hcs).symm)
  split_ifs with hnull <;> simp [hnull]

theorem concat_leading_unordered :
    (Parser.standard.parse "[MinLength(3)][Encrypted] [Null()]" .string).result =
        .ok [.minLength 3, .encrypted, .null] ∧
      isAllBlank "m" = false ∧
      ((standard .empty).resultsWith .null (.ofDataType .string)
        (.items ([Constraint.minLength 3, .encrypted, .null].map .constraint)) (.text "m")
        .null).result = .ok [] ∧
      "[Encrypted]".toList <+:
        afterNulls (Constraint.concat [.minLength 3, .encrypted, .null]).toList := by
  have hparse : (Parser.standard.parse "[MinLength(3)][Encrypted] [Null()]" .string).result =
      .ok [.minLength 3, .encrypted, .null] := by rfl
  have hblank : isAllBlank "m" = false := by decide +kernel
  obtain ⟨-, hnull, hencrypted⟩ :=
    concat_leading (v := standard .empty) rfl hparse nofun hblank .null
  exact ⟨hparse, hblank, hnull.mpr (by decide +kernel), hencrypted.mp (by simp)⟩

end Validator

end ParamRules
