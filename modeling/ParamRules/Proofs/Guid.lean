import ParamRules.Guid
import ParamRules.Proofs.Number.Integer
import ParamRules.Proofs.Text.Split

/-!
# Identifiers read back

The text of an identifier is its 32 digits with dashes between groups of them.  No mark and no
brace stands in it, so the reader takes out the dashes only, and the liberal reader of integers
gives back the number that the digits were taken from.
-/

namespace ParamRules

namespace Text

/-! ## Digits in base sixteen -/

/-- The values of the last `width` hexadecimal digits of a number. -/
def hexValues : Nat → Nat → List Nat
  | 0, _ => []
  | width + 1, n => hexValues width (n / 16) ++ [n % 16]

theorem hexDigits_eq_map (width n : Nat) :
    hexDigits width n = (hexValues width n).map hexDigit := by
  induction width generalizing n with
  | zero => rfl
  | succ width ih => simp [hexDigits, hexValues, ih]

theorem length_hexValues (width n : Nat) : (hexValues width n).length = width := by
  induction width generalizing n with
  | zero => rfl
  | succ width ih => rw [hexValues, List.length_append, ih, List.length_singleton]

theorem lt_of_mem_hexValues {width n : Nat} : ∀ d ∈ hexValues width n, d < 16 := by
  induction width generalizing n with
  | zero => exact nofun
  | succ width ih =>
      rw [hexValues, List.forall_mem_append, List.forall_mem_singleton]
      exact ⟨ih, Nat.mod_lt n (by decide)⟩

theorem ofDigits_hexValues (width n : Nat) :
    Integer.ofDigits 16 (hexValues width n) = n % 16 ^ width := by
  induction width generalizing n with
  | zero => rw [Nat.pow_zero, Nat.mod_one]; rfl
  | succ width ih =>
      calc
        Integer.ofDigits 16 (hexValues (width + 1) n) = n / 16 % 16 ^ width * 16 + n % 16 := by
          rw [hexValues, Integer.ofDigits_append, ih]
        _ = n % 16 ^ (width + 1) := by
          rw [Nat.pow_succ, Nat.mul_comm (16 ^ width), Nat.mod_mul]
          omega

theorem isBlank_hexDigit {d : Nat} (h : d < 16) : isBlank (hexDigit d) = false := by
  have all : ∀ d : Fin 16, isBlank (hexDigit d.val) = false := by decide +kernel
  exact all ⟨d, h⟩

theorem hexDigit_ne_dash {d : Nat} (h : d < 16) : hexDigit d ≠ '-' := by
  have all : ∀ d : Fin 16, hexDigit d.val ≠ '-' := by decide +kernel
  exact all ⟨d, h⟩

end Text

namespace Integer

open Text

theorem digitIn?_hexDigit {d : Nat} (h : d < 16) : digitIn? 16 (hexDigit d) = some d := by
  have all : ∀ d : Fin 16, digitIn? 16 (hexDigit d.val) = some d.val := by decide +kernel
  exact all ⟨d, h⟩

theorem digitRun?_hexDigits {ds : List Nat} (h : ∀ d ∈ ds, d < 16) (needed : Bool)
    (hne : needed = true → ds ≠ []) : digitRun? 16 needed (ds.map hexDigit) = some (ds, []) := by
  induction ds generalizing needed with
  | nil =>
      have hneeded : needed = false := by simpa using hne
      rw [hneeded]
      rfl
  | cons d ds ih =>
      obtain ⟨hd, hds⟩ := List.forall_mem_cons.mp h
      rw [List.map_cons, digitRun?, digitIn?_hexDigit hd]
      simp only [ih hds false (by simp), Option.map_some]

/-- No digit is the letter that marks base sixteen. -/
theorem afterBaseMark_hexDigits {ds : List Nat} (h : ∀ d ∈ ds, d < 16) :
    afterBaseMark 16 (ds.map hexDigit) = ds.map hexDigit := by
  have all : ∀ d : Fin 16, baseMark? 16 ≠ some (hexDigit d.val).toLower := by decide +kernel
  unfold afterBaseMark
  split
  · rename_i mark r heq
    obtain ⟨d, hd, rfl⟩ : ∃ d ∈ ds, hexDigit d = mark := by
      rw [← List.mem_map, heq]
      simp
    rw [if_neg (all ⟨d, h d hd⟩)]
  · rfl

theorem read_hexDigits {ds : List Nat} (h : ∀ d ∈ ds, d < 16) (hne : ds ≠ []) :
    read 16 (String.ofList (ds.map hexDigit)) = .ok (ofDigits 16 ds : Int) := by
  have hplain : ∀ c ∈ ds.map hexDigit, isBlank c = false := by
    rw [List.forall_mem_map]
    exact fun d hd => isBlank_hexDigit (h d hd)
  have hsign : splitSign (ds.map hexDigit) = (false, ds.map hexDigit) := by
    have all : ∀ d : Fin 16, hexDigit d.val ≠ '-' ∧ hexDigit d.val ≠ '+' := by decide +kernel
    cases ds with
    | nil => rfl
    | cons d ds =>
        obtain ⟨hminus, hplus⟩ := all ⟨d, h d List.mem_cons_self⟩
        simp [splitSign, hminus, hplus]
  unfold read
  simp only [String.toList_ofList, dropWhile_isNumberBlank (isTrimmed_of_forall hplain), hsign,
    afterBaseMark_hexDigits h, digitRun?_hexDigits h true fun _ => hne]
  rfl

end Integer

namespace Guid

open Text

/-! ## Characters of the text -/

/-- Whether a character is of those that stand in texts of identifiers: no white space, no brace,
and not the first letter of a mark. -/
def IsTextChar (c : Char) : Prop :=
  isBlank c = false ∧ isBrace c = false ∧ c ≠ 'u'

instance (c : Char) : Decidable (IsTextChar c) :=
  inferInstanceAs (Decidable (_ ∧ _ ∧ _))

theorem isTextChar_hexDigit {d : Nat} (h : d < 16) : IsTextChar (hexDigit d) := by
  have all : ∀ d : Fin 16, IsTextChar (hexDigit d.val) := by decide +kernel
  exact all ⟨d, h⟩

/-- The digits of an identifier in its five groups. -/
def groups (g : Guid) : List (List Char) :=
  let d := hexDigits 32 g.bits.toNat
  [d.take 8, (d.drop 8).take 4, (d.drop 12).take 4, (d.drop 16).take 4, d.drop 20]

theorem toList_text (g : Guid) : g.text.toList = ['-'].intercalate g.groups := by
  simp [text, groups, join]

theorem flatten_groups (g : Guid) : g.groups.flatten = hexDigits 32 g.bits.toNat := by
  have hcut : ∀ (s : List Char) (i k : Nat), (s.drop i).take k ++ s.drop (i + k) = s.drop i := by
    intro s i k
    rw [← List.drop_drop, List.take_append_drop]
  simp only [groups, List.flatten_cons, List.flatten_nil, List.append_nil]
  rw [hcut _ 16 4, hcut _ 12 4, hcut _ 8 4, List.take_append_drop]

theorem exists_digit_of_mem_groups {g : Guid} {piece : List Char} (hpiece : piece ∈ g.groups)
    {c : Char} (hc : c ∈ piece) : ∃ d < 16, hexDigit d = c := by
  have hmem : c ∈ hexDigits 32 g.bits.toNat := by
    rw [← flatten_groups]
    exact List.mem_flatten_of_mem hpiece hc
  rw [hexDigits_eq_map] at hmem
  obtain ⟨d, hd, heq⟩ := List.mem_map.mp hmem
  exact ⟨d, lt_of_mem_hexValues d hd, heq⟩

theorem isTextChar_of_mem_text (g : Guid) : ∀ c ∈ g.text.toList, IsTextChar c := by
  have hdash : IsTextChar '-' := by decide +kernel
  rw [toList_text]
  refine forall_mem_intercalate (List.forall_mem_singleton.mpr hdash) fun piece hpiece c hc => ?_
  obtain ⟨d, hd, rfl⟩ := exists_digit_of_mem_groups hpiece hc
  exact isTextChar_hexDigit hd

/-! ## What the reader takes out -/

theorem dropWhile_isBrace {s : List Char} (h : ∀ c ∈ s, isBrace c = false) :
    s.dropWhile isBrace = s := by
  cases s with
  | nil => rfl
  | cons c s => rw [List.dropWhile_cons_of_neg (by simp [h c List.mem_cons_self])]

theorem digitsOf_text (g : Guid) : digitsOf g.text = hexDigits 32 g.bits.toNat := by
  have hchars := isTextChar_of_mem_text g
  have hletter : 'u' ∉ g.text.toList := fun hmem => (hchars 'u' hmem).2.2 rfl
  have hbrace : ∀ c ∈ g.text.toList, isBrace c = false := fun c hc => (hchars c hc).2.1
  have hurn : "urn:".toList = 'u' :: ['r', 'n', ':'] := by decide
  have huuid : "uuid:".toList = 'u' :: ['u', 'i', 'd', ':'] := by decide
  have hmarks : remove "uuid:" (remove "urn:" g.text) = g.text := by
    rw [remove_eq_self hurn hletter, remove_eq_self huuid hletter]
  have hdashes : ∀ piece ∈ g.groups, '-' ∉ piece := by
    intro piece hpiece hmem
    obtain ⟨d, hd, heq⟩ := exists_digit_of_mem_groups hpiece hmem
    exact hexDigit_ne_dash hd heq
  simp only [digitsOf, hmarks, dropWhile_isBrace hbrace]
  rw [dropWhile_isBrace fun c hc => hbrace c (List.mem_reverse.mp hc), List.reverse_reverse,
    toList_text, filter_intercalate hdashes, flatten_groups]

/-! ## Reading back -/

theorem read?_text (g : Guid) : read? g.text = some g := by
  have hvalues : hexValues 32 g.bits.toNat ≠ [] := by
    rw [← List.length_pos_iff, length_hexValues]
    decide
  have hdigits := Integer.read_hexDigits lt_of_mem_hexValues hvalues
  have hbits : g.bits.toNat % 16 ^ 32 = g.bits.toNat := Nat.mod_eq_of_lt g.bits.isLt
  rw [ofDigits_hexValues, hbits] at hdigits
  simp only [read?, digitsOf_text, hexDigits_eq_map, List.length_map, length_hexValues, hdigits]
  rw [if_neg (by decide), if_neg (by omega), BitVec.ofInt_natCast, BitVec.ofNat_toNat,
    BitVec.setWidth_eq]

end Guid

end ParamRules
