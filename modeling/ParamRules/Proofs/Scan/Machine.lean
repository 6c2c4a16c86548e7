import ParamRules.Proofs.Result
import ParamRules.Proofs.Scan.Grammar

/-!
# The scan as a machine

The regions of a scan carry what the next character needs and nothing else.  A *scanner* is the
same scan with all that it keeps as separate fields: the place that it is at, the offset of the
next character, where the constraint began, its name, the parameters that are finished, the buffer
of the one that is not, and whether that one is in quotes.  It looks one character ahead at a quote
and reads both quotes of a pair at once, where a region waits for the next character.

Nothing in these fields by themselves keeps a quoted parameter from standing outside of
parentheses, or a buffer from being left over.  `Fits` lists the scanners that do occur, one
constructor for each, and every step leads from one of them to another (`Fits.after`), further on in
the text (`next_after`).
-/

namespace ParamRules.Constraint

/-- The places in a constraint and around it. -/
inductive Place where
  | outside | inName | inParameters | inParameter | afterParameter | afterParameters
deriving Repr, DecidableEq

/-- The places from an opening parenthesis to the closing bracket. -/
def Place.isListing : Place → Bool
  | .outside | .inName => false
  | .inParameters | .inParameter | .afterParameter | .afterParameters => true

/-- A scan between two characters. `next` is the offset of the next character, `start` that of the
opening bracket, and `buffer` what has been read of a parameter. -/
structure Scanner where
  place : Place
  next : Nat
  start : Option Nat
  name : List Char
  parameters : List (List Char)
  buffer : List Char
  isMasked : Bool
deriving Repr, DecidableEq

/-- What a character leads to. The constraint of a scanner is complete at a closing bracket. -/
inductive Progress where
  | move (s : Scanner)
  | complete (s : Scanner)

namespace Scanner

/-- Between constraints, before the character at an offset. -/
def between (next : Nat) : Scanner :=
  ⟨.outside, next, none, [], [], [], false⟩

def initial : Scanner := between 0

def reset (s : Scanner) : Scanner := between s.next

def advance (s : Scanner) : Scanner := { s with next := s.next + 1 }

def append (s : Scanner) (c : Char) : Scanner := { s with buffer := s.buffer ++ [c] }

/-- Ends the parameter in the buffer. -/
def commit (s : Scanner) : Scanner :=
  { s with parameters := s.parameters ++ [s.buffer], buffer := [], isMasked := false }

/-- Ends the parameter in the buffer, if there is one. -/
def commitPending (s : Scanner) : Scanner :=
  if s.buffer.isEmpty then s else s.commit

/-- Takes the name, from the opening bracket to the next character. -/
def takeName (text : List Char) (s : Scanner) : Except SyntaxProblem Scanner :=
  let name := text.extract (s.start.elim 0 (· + 1)) s.next
  if name.isEmpty then .error .emptyName else .ok { s with name }

/-- Where a character leads that ends a parameter without quotes. -/
def afterPlain? (c : Char) : Option Place :=
  if c = ' ' then some .afterParameter
  else if c = ',' then some .inParameters
  else if c = ')' then some .afterParameters
  else none

def readOutside (s : Scanner) (c : Char) : Except SyntaxProblem Scanner :=
  if c = ' ' then .ok s
  else if c = '[' then .ok { s with place := .inName, start := some s.next }
  else .error (.dataOutside c)

def readInName (text : List Char) (s : Scanner) (c : Char) : Except SyntaxProblem Progress :=
  if c = ' ' || c = '\'' || c = '[' || c = ')' then .error (.characterInName c)
  else if c = ']' then .complete <$> s.takeName text
  else if c = '(' then (fun s => .move { s with place := .inParameters }) <$> s.takeName text
  else .ok (.move s)

def readInParameters (s : Scanner) (c : Char) : Except SyntaxProblem Scanner :=
  if c = ' ' then .ok s
  else if c = ',' || c = '[' || c = ']' || c = '(' then .error (.characterInParameters c)
  else if c = ')' then .ok { s with place := .afterParameters }
  else if c = '\'' then .ok { s with place := .inParameter, isMasked := true }
  else .ok ({ s with place := .inParameter }.append c)

/-- A pair of quotes in a parameter in quotes is one of its characters, a single quote ends it. -/
def readMasked (text : List Char) (s : Scanner) (c : Char) : Scanner :=
  if c ≠ '\'' then s.append c
  else if text[s.next + 1]? = some '\'' then (s.append c).advance
  else { s with place := .afterParameter }.commit

def readPlain (s : Scanner) (c : Char) : Except SyntaxProblem Scanner :=
  match afterPlain? c with
  | some place => .ok { s with place }.commitPending
  | none =>
    if c = '[' || c = ']' || c = '(' || c = '\'' then .error (.unmaskedDelimiter c)
    else .ok (s.append c)

def readAfterParameter (s : Scanner) (c : Char) : Except SyntaxProblem Scanner :=
  if c = ' ' then .ok s
  else if c = ',' then .ok { s with place := .inParameters }
  else if c = ')' then .ok { s with place := .afterParameters }
  else .error (.characterAfterParameter c)

/-- Reads the character at `next`. -/
def read (text : List Char) (s : Scanner) (c : Char) : Except SyntaxProblem Progress :=
  match s.place with
  | .outside => .move <$> s.readOutside c
  | .inName => s.readInName text c
  | .inParameters => .move <$> s.readInParameters c
  | .inParameter =>
    if s.isMasked then .ok (.move (s.readMasked text c)) else .move <$> s.readPlain c
  | .afterParameter => .move <$> s.readAfterParameter c
  | .afterParameters =>
    if c = ']' then .ok (.complete s) else .error (.characterAfterParameters c)

end Scanner

/-- The scanner before the next character. A complete constraint leaves nothing behind. -/
def Progress.after : Progress → Scanner
  | .move s => s.advance
  | .complete s => s.reset.advance

namespace Scanner

open Result Outline

variable {text name buffer : List Char} {s : Scanner} {c : Char} {p : Progress} {i m n : Nat}
  {parameters : List (List Char)}

/-! ## Every step goes on -/

theorem next_after_of_takeName {f : Scanner → Progress} (hf : ∀ s, (f s).after.next = s.next + 1)
    (h : f <$> s.takeName text = .ok p) : p.after.next = s.next + 1 := by
  obtain ⟨s', hs', rfl⟩ := map_eq_ok_iff.mp h
  rw [takeName] at hs'
  split_ifs at hs'
  obtain rfl := Except.ok.inj hs'
  exact hf _

@[simp] theorem next_commitPending (s : Scanner) : s.commitPending.next = s.next := by
  rw [commitPending]
  split_ifs <;> rfl

theorem next_readMasked (text : List Char) (s : Scanner) (c : Char) :
    (s.readMasked text c).next = s.next ∨
      (s.readMasked text c).next = s.next + 1 ∧ c = '\'' ∧ text[s.next + 1]? = some '\'' := by
  rw [readMasked]
  split_ifs with hc hpair
  · exact .inl rfl
  · exact .inr ⟨rfl, not_not.mp hc, hpair⟩
  · exact .inl rfl

/-- A step reads one character, or both quotes of a pair. -/
theorem next_after (h : s.read text c = .ok p) :
    p.after.next = s.next + 1 ∨
      p.after.next = s.next + 2 ∧ s.isMasked = true ∧ c = '\'' ∧
        text[s.next + 1]? = some '\'' := by
  rw [read] at h
  cases hplace : s.place with
  | outside | inParameters | afterParameter =>
      rw [hplace] at h
      obtain ⟨s', hs', rfl⟩ := map_eq_ok_iff.mp h
      simp only [readOutside, readInParameters, readAfterParameter] at hs'
      split_ifs at hs' <;> obtain rfl := Except.ok.inj hs' <;> exact .inl rfl
  | inName =>
      simp only [hplace, readInName] at h
      split_ifs at h with hbad hclose hopen
      · exact .inl (next_after_of_takeName (fun _ => rfl) h)
      · exact .inl (next_after_of_takeName (fun _ => rfl) h)
      · obtain rfl := Except.ok.inj h
        exact .inl rfl
  | inParameter =>
      simp only [hplace] at h
      split_ifs at h with hmasked
      · obtain rfl := Except.ok.inj h
        exact (next_readMasked text s c).imp (congrArg (· + 1)) fun ⟨hnext, hpair⟩ =>
          ⟨congrArg (· + 1) hnext, hmasked, hpair⟩
      · obtain ⟨s', hs', rfl⟩ := map_eq_ok_iff.mp h
        rw [readPlain] at hs'
        split at hs'
        · obtain rfl := Except.ok.inj hs'
          exact .inl (congrArg (· + 1) (next_commitPending _))
        · split_ifs at hs'
          obtain rfl := Except.ok.inj hs'
          exact .inl rfl
  | afterParameters =>
      simp only [hplace] at h
      split_ifs at h
      obtain rfl := Except.ok.inj h
      exact .inl rfl

theorem next_lt_next_after (h : s.read text c = .ok p) : s.next < p.after.next := by
  rcases next_after h with h | ⟨h, -⟩ <;> omega

theorem next_after_of_not_quote (hquote : ¬ (s.isMasked = true ∧ c = '\''))
    (h : s.read text c = .ok p) : p.after.next = s.next + 1 := by
  rcases next_after h with hnext | ⟨-, hmasked, hc, -⟩
  · exact hnext
  · exact absurd ⟨hmasked, hc⟩ hquote

theorem next_after_le (hc : text[s.next]? = some c) (h : s.read text c = .ok p) :
    p.after.next ≤ text.length := by
  have hlt := (List.getElem?_eq_some_iff.mp hc).1
  rcases next_after h with h | ⟨h, -, -, hquote⟩
  · omega
  · have := (List.getElem?_eq_some_iff.mp hquote).1
    omega

theorem length_sub_next_after_lt (hc : text[s.next]? = some c) (h : s.read text c = .ok p) :
    text.length - p.after.next < text.length - s.next := by
  have hlt := (List.getElem?_eq_some_iff.mp hc).1
  have hnext := next_lt_next_after h
  omega

/-! ## Runs -/

/-- Runs a scanner on a text, with `complete` for what is done with a complete constraint at a
position. -/
def run {α : Type} (complete : Nat → String → List String → Recorded α) (text : List Char)
    (s : Scanner) : Recorded (List α) :=
  match hc : text[s.next]? with
  | none =>
    if s.place = .outside then pure []
    else .fail (.atPosition .incomplete (text.length - 1 : Int) none)
  | some c =>
    match _ : s.read text c with
    | .error problem => .fail (.atPosition problem s.next none)
    | .ok (.move s') => run complete text s'.advance
    | .ok (.complete s') => do
      let a ← complete s.next (String.ofList s'.name) (s'.parameters.map String.ofList)
      let rest ← run complete text s'.reset.advance
      return a :: rest
termination_by text.length - s.next
decreasing_by
  all_goals exact length_sub_next_after_lt hc ‹_›

/-! ## The scanners that occur -/

/-- Whether a name stands in a text before an offset, between an opening bracket and an opening
parenthesis. -/
def IsNamedAt (text : List Char) (i n : Nat) (name : List Char) : Prop :=
  ∃ j, i < j ∧ j < n ∧ text[i]? = some '[' ∧ text[j]? = some '(' ∧
    name = text.extract (i + 1) j ∧ IsName name

/-- The scanners that occur in a text. -/
inductive Fits (text : List Char) : Scanner → Prop where
  | outside (n : Nat) : Fits text (between n)
  | inName {i n : Nat} :
      i < n → text[i]? = some '[' → (∀ c ∈ text.extract (i + 1) n, IsNameCharacter c) →
      Fits text ⟨.inName, n, some i, [], [], [], false⟩
  | inParameters {i n : Nat} {name : List Char} {parameters : List (List Char)} :
      IsNamedAt text i n name →
      Fits text ⟨.inParameters, n, some i, name, parameters, [], false⟩
  | inPlain {i n : Nat} {name buffer : List Char} {parameters : List (List Char)} :
      IsNamedAt text i n name → buffer ≠ [] →
      Fits text ⟨.inParameter, n, some i, name, parameters, buffer, false⟩
  | inQuotes {i n : Nat} {name buffer : List Char} {parameters : List (List Char)} :
      IsNamedAt text i n name →
      Fits text ⟨.inParameter, n, some i, name, parameters, buffer, true⟩
  | afterParameter {i n : Nat} {name : List Char} {parameters : List (List Char)} :
      IsNamedAt text i n name → parameters ≠ [] →
      Fits text ⟨.afterParameter, n, some i, name, parameters, [], false⟩
  | afterParameters {i n : Nat} {name : List Char} {parameters : List (List Char)} :
      IsNamedAt text i n name →
      Fits text ⟨.afterParameters, n, some i, name, parameters, [], false⟩

theorem IsNamedAt.mono (h : IsNamedAt text i m name) (hmn : m ≤ n) : IsNamedAt text i n name := by
  obtain ⟨j, hij, hjm, h⟩ := h
  exact ⟨j, hij, hjm.trans_le hmn, h⟩

theorem IsNamedAt.succ (h : IsNamedAt text i n name) : IsNamedAt text i (n + 1) name :=
  h.mono n.le_succ

theorem extract_succ (hin : i ≤ n) (hc : text[n]? = some c) :
    text.extract i (n + 1) = text.extract i n ++ [c] := by
  have hget : (text.drop i)[n - i]? = some c := by
    rw [List.getElem?_drop, Nat.add_sub_cancel' hin, hc]
  rw [List.extract_eq_take_drop, List.extract_eq_take_drop, Nat.sub_add_comm hin,
    List.take_add_one, hget]
  rfl

theorem takeName_of_start (hstart : s.start = some i) :
    s.takeName text =
      if text.extract (i + 1) s.next = [] then .error .emptyName
      else .ok { s with name := text.extract (i + 1) s.next } := by
  simp [takeName, hstart]

/-- The guard before the end of a parameter without quotes skips nothing that has a character. -/
theorem commitPending_of_buffer (h : s.buffer ≠ []) : s.commitPending = s.commit := by
  simp [commitPending, h]

theorem readPlain_of_afterPlain {place : Place} (hbuffer : s.buffer ≠ [])
    (h : afterPlain? c = some place) : s.readPlain c = .ok { s with place }.commit := by
  rw [readPlain, h]
  exact congrArg Except.ok (commitPending_of_buffer hbuffer)

/-- A name grows by characters that a name may hold, and is taken where there is one. -/
theorem Fits.after_inName (hin : i < n) (hopening : text[i]? = some '[')
    (hname : ∀ c ∈ text.extract (i + 1) n, IsNameCharacter c) (hc : text[n]? = some c)
    (hp : readInName text ⟨.inName, n, some i, [], [], [], false⟩ c = .ok p) :
    Fits text p.after := by
  rw [readInName] at hp
  split_ifs at hp with hbad hclose hopen
  · obtain ⟨s', -, rfl⟩ := map_eq_ok_iff.mp hp
    exact .outside _
  · obtain ⟨s', hs', rfl⟩ := map_eq_ok_iff.mp hp
    rw [takeName_of_start rfl] at hs'
    split_ifs at hs' with hempty
    obtain rfl := Except.ok.inj hs'
    subst hopen
    exact .inParameters ⟨n, hin, n.lt_succ_self, hopening, hc, rfl, hempty, hname⟩
  · obtain rfl := Except.ok.inj hp
    refine .inName (hin.trans n.lt_succ_self) hopening ?_
    rw [extract_succ hin hc, List.forall_mem_append, List.forall_mem_singleton]
    exact ⟨hname, isNameCharacter_of_not_delimiter hbad hclose hopen⟩

theorem Fits.after_inPlain {s' : Scanner} (hnamed : IsNamedAt text i n name) (hbuffer : buffer ≠ [])
    (hs' : readPlain ⟨.inParameter, n, some i, name, parameters, buffer, false⟩ c = .ok s') :
    Fits text s'.advance := by
  cases hplace : afterPlain? c with
  | none =>
      simp only [readPlain, hplace] at hs'
      split_ifs at hs'
      obtain rfl := Except.ok.inj hs'
      exact .inPlain hnamed.succ (List.concat_ne_nil _ _)
  | some place =>
      -- The parameter is committed, so that there is one wherever the character leads.
      rw [readPlain_of_afterPlain hbuffer hplace] at hs'
      obtain rfl := Except.ok.inj hs'
      simp only [afterPlain?] at hplace
      split_ifs at hplace <;> obtain rfl := Option.some.inj hplace
      · exact .afterParameter hnamed.succ (List.concat_ne_nil _ _)
      · exact .inParameters hnamed.succ
      · exact .afterParameters hnamed.succ

theorem Fits.after (h : Fits text s) (hc : text[s.next]? = some c) (hp : s.read text c = .ok p) :
    Fits text p.after := by
  cases h with
  | outside n =>
      obtain ⟨s', hs', rfl⟩ := map_eq_ok_iff.mp hp
      simp only [readOutside] at hs'
      split_ifs at hs' with hspace hopen <;> obtain rfl := Except.ok.inj hs'
      · exact .outside _
      · subst hopen
        refine .inName n.lt_succ_self hc ?_
        simp [List.extract_eq_take_drop]
  | inName hin hopening hname => exact .after_inName hin hopening hname hc hp
  | inParameters hnamed =>
      obtain ⟨s', hs', rfl⟩ := map_eq_ok_iff.mp hp
      simp only [readInParameters] at hs'
      split_ifs at hs' with hspace hbad hclose hquote <;> obtain rfl := Except.ok.inj hs'
      · exact .inParameters hnamed.succ
      · exact .afterParameters hnamed.succ
      · exact .inQuotes hnamed.succ
      · exact .inPlain hnamed.succ (List.cons_ne_nil c [])
  | inPlain hnamed hbuffer =>
      obtain ⟨s', hs', rfl⟩ := map_eq_ok_iff.mp hp
      exact .after_inPlain hnamed hbuffer hs'
  | inQuotes hnamed =>
      obtain rfl := Except.ok.inj hp
      rw [readMasked]
      split_ifs with hc hpair
      · exact .inQuotes hnamed.succ
      · exact .inQuotes hnamed.succ.succ
      · exact .afterParameter hnamed.succ (List.concat_ne_nil _ _)
  | afterParameter hnamed hparameters =>
      obtain ⟨s', hs', rfl⟩ := map_eq_ok_iff.mp hp
      simp only [readAfterParameter] at hs'
      split_ifs at hs' with hspace hcomma hclose <;> obtain rfl := Except.ok.inj hs'
      · exact .afterParameter hnamed.succ hparameters
      · exact .inParameters hnamed.succ
      · exact .afterParameters hnamed.succ
  | afterParameters hnamed =>
      have hp : (if c = ']' then .ok (.complete _) else .error _) = Except.ok p := hp
      split_ifs at hp
      obtain rfl := Except.ok.inj hp
      exact .outside _

/-- What holds of a scanner between two characters. -/
structure Invariant (text : List Char) (s : Scanner) : Prop where
  place_of_isMasked : s.isMasked = true → s.place = .inParameter
  buffer_eq_nil : s.place ≠ .inParameter → s.buffer = []
  buffer_ne_nil : s.place = .inParameter → s.isMasked = false → s.buffer ≠ []
  eq_between : s.place = .outside → s = between s.next
  isNamedAt : s.place.isListing = true → ∃ i, s.start = some i ∧ IsNamedAt text i s.next s.name
  parameters_ne_nil : s.place = .afterParameter → s.parameters ≠ []

theorem Fits.invariant (h : Fits text s) : Invariant text s := by
  cases h with
  | outside n => constructor <;> simp [between, Place.isListing]
  | inName hin hopening hname => constructor <;> simp [Place.isListing]
  | inParameters hnamed => constructor <;> simp [hnamed]
  | inPlain hnamed hbuffer => constructor <;> simp [hnamed, hbuffer]
  | inQuotes hnamed => constructor <;> simp [hnamed]
  | afterParameter hnamed hparameters => constructor <;> simp [hnamed, hparameters]
  | afterParameters hnamed => constructor <;> simp [hnamed]

/-! ## What is reached -/

/-- The scanners that a text leads to, whatever becomes of its constraints. -/
inductive Reachable (text : List Char) : Scanner → Prop where
  | initial : Reachable text initial
  | step {s : Scanner} {c : Char} {p : Progress} :
      Reachable text s → text[s.next]? = some c → s.read text c = .ok p → Reachable text p.after

theorem Reachable.fits (h : Reachable text s) : Fits text s ∧ s.next ≤ text.length := by
  induction h with
  | initial => exact ⟨.outside 0, Nat.zero_le _⟩
  | step _ hc hread ih => exact ⟨ih.1.after hc hread, next_after_le hc hread⟩

end Scanner

end ParamRules.Constraint
