import ParamRules.Proofs.Scan.Machine

/-!
# The machine and the scan

The scan is the run of the machine (`scan_eq_run`), so what holds of the scanners that a text leads
to (`reachable_invariant`) is said of the scan.  Each scanner is in a region, and the two step
alike until a quote in a quoted parameter: there the scanner has read the quote and what it makes
of it, and the region has not.  A single quote ends the parameter for both before another character
is read (`scan_afterQuote`).
-/

namespace ParamRules.Constraint.Scanner

open Result Outline

variable {text : List Char} {s : Scanner} {c : Char} {n : Nat}

/-! ## Regions of scanners -/

/-- The region that a scanner is in. -/
def region (text : List Char) (s : Scanner) : Region :=
  let name := s.name.reverse
  let parameters := kept s.parameters
  match s.place with
  | .outside => .outside
  | .inName => .inName (text.extract (s.start.elim 0 (· + 1)) s.next).reverse
  | .inParameters => .inParameters name parameters
  | .inParameter =>
    if s.isMasked then .inQuotes name parameters s.buffer.reverse
    else .inPlain name parameters s.buffer.reverse
  | .afterParameter => .afterParameter name parameters
  | .afterParameters => .afterParameters name parameters

/-- What a character leads to, as a step of regions. -/
def regionStep (text : List Char) : Progress → Step
  | .move s => .move (s.advance.region text)
  | .complete s => .complete (String.ofList s.name) (s.parameters.map String.ofList)

theorem completed_kept (name : List Char) (parameters : List (List Char)) :
    completed name.reverse (kept parameters) =
      .complete (String.ofList name) (parameters.map String.ofList) := by
  simp [completed, kept, readText, Function.comp_def]

theorem kept_concat (parameters : List (List Char)) (v : List Char) :
    kept (parameters ++ [v]) = v.reverse :: kept parameters := by
  simp [kept]

/-- But for a quote that may be one of a pair, a region and a scanner step alike. -/
theorem step_region (h : Fits text s) (hc : text[s.next]? = some c)
    (hquote : ¬ (s.isMasked = true ∧ c = '\'')) :
    (s.region text).step c = (s.read text c).map (regionStep text) := by
  cases h with
  | outside n =>
      simp only [region, between, read, readOutside, Region.step]
      split_ifs
      · rfl
      · simp [regionStep, region, advance, List.extract_eq_take_drop, Except.map]
      · rfl
  | @inName i n hin hopening hname =>
      simp only [region, read, readInName, Region.step, Option.elim_some, List.isEmpty_reverse,
        List.isEmpty_iff]
      rw [takeName_of_start rfl]
      split_ifs with hbad hclose hempty hopen hempty
      · rfl
      · rfl
      · exact congrArg Except.ok (completed_kept _ [])
      · rfl
      · rfl
      · have hread : text.extract (i + 1) (n + 1) = text.extract (i + 1) n ++ [c] :=
          extract_succ hin hc
        simp [regionStep, region, advance, Except.map, -List.extract_eq_take_drop, hread]
  | inParameters hnamed =>
      simp only [region, read, readInParameters, Region.step]
      split_ifs <;> rfl
  | @inPlain i n name buffer parameters hnamed hbuffer =>
      change Region.step (.inPlain _ _ _) c = (Progress.move <$> readPlain _ c).map _
      by_cases hends : EndsParameter c
      · rcases hends with rfl | rfl | rfl
        all_goals
          rw [readPlain_of_afterPlain hbuffer rfl]
          simp [Region.step, Region.stepAfter, regionStep, region, advance, commit, kept_concat,
            Except.map]
      · simp only [EndsParameter, not_or] at hends
        obtain ⟨hspace, hcomma, hclose⟩ := hends
        simp only [readPlain, afterPlain?, Region.step, hspace, hcomma, hclose, decide_false,
          Bool.or_self, Bool.false_eq_true, if_false]
        split_ifs
        · rfl
        · simp [regionStep, region, advance, append, Except.map]
  | inQuotes hnamed =>
      have hc : c ≠ '\'' := fun h => hquote ⟨rfl, h⟩
      simp [region, read, readMasked, Region.step, hc, Except.map, regionStep, advance, append]
  | afterParameter hnamed hparameters =>
      simp only [region, read, readAfterParameter, Region.step, Region.stepAfter]
      split_ifs <;> rfl
  | afterParameters hnamed =>
      simp only [region, read, Region.step, completed_kept]
      split_ifs <;> rfl

/-- A quote that is not one of a pair ends a parameter in quotes, for the scan too. -/
theorem scan_afterQuote {α : Type} (complete : Nat → String → List String → Recorded α)
    (position : Nat) (name : List Char) (parameters : List (List Char)) (buffer : List Char)
    {r : List Char} (hr : r[0]? ≠ some '\'') :
    Parser.scan complete position (.afterQuote name parameters buffer) r =
      Parser.scan complete position (.afterParameter name (buffer :: parameters)) r := by
  cases r with
  | nil => rfl
  | cons c r =>
      have hc : c ≠ '\'' := by simpa using hr
      simp only [Parser.scan, Region.step, hc, if_false]

theorem drop_of_getElem? (hc : text[n]? = some c) : text.drop n = c :: text.drop (n + 1) := by
  obtain ⟨hlt, rfl⟩ := List.getElem?_eq_some_iff.mp hc
  exact List.drop_eq_getElem_cons hlt

theorem Fits.read_quote (h : Fits text s) (hmasked : s.isMasked = true) :
    s.read text '\'' = .ok (.move (s.readMasked text '\'')) := by
  simp [read, h.invariant.place_of_isMasked hmasked, hmasked]

/-- Only a quote in a parameter in quotes makes a pair, and it always moves on. -/
theorem Fits.not_quote (h : Fits text s) (hread : ∀ s', s.read text c ≠ .ok (.move s')) :
    ¬ (s.isMasked = true ∧ c = '\'') := by
  rintro ⟨hmasked, rfl⟩
  exact hread _ (h.read_quote hmasked)

/-! ## The scan is the run of the machine -/

section Run

variable {α : Type} (complete : Nat → String → List String → Recorded α)

/-- A scan goes on where the machine goes on. -/
theorem scan_of_read_move {s' : Scanner} (h : Fits text s) (hc : text[s.next]? = some c)
    (hread : s.read text c = .ok (.move s')) :
    Parser.scan complete s.next (s.region text) (text.drop s.next) =
      Parser.scan complete (s'.next + 1) (s'.advance.region text) (text.drop (s'.next + 1)) := by
  rw [drop_of_getElem? hc]
  by_cases hquote : s.isMasked = true ∧ c = '\''
  · obtain ⟨hmasked, rfl⟩ := hquote
    rw [h.read_quote hmasked] at hread
    obtain rfl := Progress.move.inj (Except.ok.inj hread)
    cases h with
    | @inQuotes i n name buffer parameters hnamed =>
        rw [readMasked, if_neg (not_not.mpr rfl)]
        split_ifs with hpair
        · rw [drop_of_getElem? hpair]
          simp [Parser.scan, region, Region.step, append, advance]
        · have hafter : (text.drop (n + 1))[0]? ≠ some '\'' := by
            rwa [List.getElem?_drop, Nat.add_zero]
          simp [Parser.scan, region, Region.step, commit, advance, kept_concat,
            scan_afterQuote complete _ _ _ _ hafter]
    | _ => cases hmasked
  · have hstep := step_region h hc hquote
    have hnext : s'.next + 1 = s.next + 1 := next_after_of_not_quote hquote hread
    rw [hread] at hstep
    rw [Parser.scan, hstep, hnext]
    rfl

theorem scan_region_of_end (h : Fits text s) (hend : text[s.next]? = none)
    (hnext : s.next ≤ text.length) :
    Parser.scan complete s.next (s.region text) (text.drop s.next) =
      if s.place = .outside then pure []
      else .fail (.atPosition .incomplete (text.length - 1 : Int) none) := by
  have hle : text.length ≤ s.next := List.getElem?_eq_none_iff.mp hend
  rw [List.drop_eq_nil_of_le hle, hle.antisymm hnext]
  cases h <;> rfl

/-- From every scanner that occurs the scan is the run of the machine. -/
theorem scan_region (h : Fits text s) (hnext : s.next ≤ text.length) :
    Parser.scan complete s.next (s.region text) (text.drop s.next) = run complete text s := by
  fun_induction run complete text s with
  | case1 s hend hplace => rw [scan_region_of_end complete h hend hnext, if_pos hplace]
  | case2 s hend hplace => rw [scan_region_of_end complete h hend hnext, if_neg hplace]
  | case3 s c hc problem hread =>
      have hquote : ¬ (s.isMasked = true ∧ c = '\'') := h.not_quote (by simp [hread])
      have hstep := step_region h hc hquote
      rw [hread] at hstep
      rw [drop_of_getElem? hc, Parser.scan, hstep]
      rfl
  | case4 s c hc s' hread ih =>
      rw [scan_of_read_move complete h hc hread]
      exact ih (h.after hc hread) (next_after_le hc hread)
  | case5 s c hc s' hread ih =>
      have hquote : ¬ (s.isMasked = true ∧ c = '\'') := h.not_quote (by simp [hread])
      have hstep := step_region h hc hquote
      have hafter : s'.next + 1 = s.next + 1 := next_after_of_not_quote hquote hread
      rw [hread] at hstep
      rw [← ih (h.after hc hread) (next_after_le hc hread), drop_of_getElem? hc, Parser.scan, hstep,
        ← hafter]
      rfl

theorem scan_eq_run (text : List Char) :
    Parser.scan complete 0 .outside text = run complete text initial :=
  scan_region complete (.outside 0) (Nat.zero_le _)

end Run

/-! ## What is reached -/

/-- Every scanner that a text leads to keeps the invariant, commits each parameter without quotes
that ends, and goes on in the text with every step.  The scan is the run of these scanners. -/
theorem reachable_invariant (h : Reachable text s) :
    Invariant text s ∧
      (s.place = .inParameter → s.isMasked = false → ∀ c place, afterPlain? c = some place →
        s.readPlain c = .ok { s with place }.commit) ∧
      (∀ c p, s.read text c = .ok p → s.next < p.after.next) ∧
      ∀ (α : Type) (complete : Nat → String → List String → Recorded α),
        Parser.scan complete s.next (s.region text) (text.drop s.next) = run complete text s := by
  obtain ⟨hfits, hnext⟩ := h.fits
  have hinvariant := hfits.invariant
  refine ⟨hinvariant, ?_, fun c p => next_lt_next_after, fun α complete => ?_⟩
  · intro hplace hmasked c place hc
    exact readPlain_of_afterPlain (hinvariant.buffer_ne_nil hplace hmasked) hc
  · exact scan_region complete hfits hnext

/-- After a pair of quotes in a parameter in quotes the second of them is part of the parameter. -/
theorem reachable_invariant_pair :
    Reachable "[A('''".toList ⟨.inParameter, 6, some 0, ['A'], [], ['\''], true⟩ ∧
      Invariant "[A('''".toList ⟨.inParameter, 6, some 0, ['A'], [], ['\''], true⟩ := by
  have hopening := Reachable.step (p := .move ⟨.inName, 0, some 0, [], [], [], false⟩)
    (@Reachable.initial "[A('''".toList) rfl rfl
  have hname := hopening.step (p := .move ⟨.inName, 1, some 0, [], [], [], false⟩) rfl rfl
  have hlist := hname.step (p := .move ⟨.inParameters, 2, some 0, ['A'], [], [], false⟩) rfl rfl
  have hquote := hlist.step (p := .move ⟨.inParameter, 3, some 0, ['A'], [], [], true⟩) rfl rfl
  have hpair := hquote.step (p := .move ⟨.inParameter, 5, some 0, ['A'], [], ['\''], true⟩) rfl rfl
  exact ⟨hpair, (reachable_invariant hpair).1⟩

end ParamRules.Constraint.Scanner
