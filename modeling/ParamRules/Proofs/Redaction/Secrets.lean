import ParamRules.Log.Event
import Mathlib.Data.List.Infix

/-!
# What stands under sensitive keys

A key is sensitive when one of the sensitive terms occurs in its lower-case text.  Values of one
shape that differ in nothing but what stands under sensitive keys, however deep, are `Alike`.
Redaction cannot tell them apart (`redact_eq_of_alike`): not by what it gives, and not by the fault
it ends with when a key has no text.
-/

namespace ParamRules

open Text

/-! ## Sensitive keys -/

namespace Text

theorem isSome_afterChars?_iff {mark s : List Char} :
    (afterChars? mark s).isSome = true ↔ mark <+: s := by
  induction mark generalizing s with
  | nil => simp [afterChars?]
  | cons p ps ih =>
      cases s with
      | nil => simp [afterChars?]
      | cons c r =>
          rw [afterChars?, List.cons_prefix_cons]
          split_ifs with h
          · rw [ih]
            simp [h]
          · simp [h]

theorem occursIn_iff {mark s : List Char} : occursIn mark s = true ↔ mark <:+: s := by
  induction s with
  | nil => simp [occursIn]
  | cons c r ih =>
      rw [occursIn, Bool.or_eq_true, isSome_afterChars?_iff, ih, List.infix_cons_iff]

end Text

namespace Redaction

variable {k v w : Value} {es fs : List (Value × Value)} {key : String}

/-- Whether a sensitive term occurs in the lower-case text of a key. -/
def IsSensitive (key : String) : Prop :=
  ∃ term ∈ sensitiveTerms, term.toList <:+: (lower key).toList

theorem isSensitiveKey_iff : isSensitiveKey key = true ↔ IsSensitive key := by
  simp only [isSensitiveKey, IsSensitive, List.any_eq_true, occursIn_iff]

/-! ## Values that differ in secrets -/

mutual

/-- Two values of one shape with nothing different but what stands under sensitive keys. -/
inductive Alike : Value → Value → Prop
  | same (v : Value) : Alike v v
  | list {vs ws : List Value} : AllAlike vs ws → Alike (.list vs) (.list ws)
  | tuple {vs ws : List Value} : AllAlike vs ws → Alike (.tuple vs) (.tuple ws)
  | map {es fs : List (Value × Value)} : EntriesAlike es fs → Alike (.map es) (.map fs)

/-- Values that are alike one by one. -/
inductive AllAlike : List Value → List Value → Prop
  | nil : AllAlike [] []
  | cons {v w : Value} {vs ws : List Value} :
      Alike v w → AllAlike vs ws → AllAlike (v :: vs) (w :: ws)

/-- Entries with the same keys, and with values that are alike except under sensitive keys. -/
inductive EntriesAlike : List (Value × Value) → List (Value × Value) → Prop
  | nil : EntriesAlike [] []
  /-- Under a sensitive key any two values may stand. -/
  | secret {k : Value} {es fs : List (Value × Value)} (v w : Value) :
      IsSensitive k.display → EntriesAlike es fs → EntriesAlike ((k, v) :: es) ((k, w) :: fs)
  | cons {k v w : Value} {es fs : List (Value × Value)} :
      Alike v w → EntriesAlike es fs → EntriesAlike ((k, v) :: es) ((k, w) :: fs)

end

/-! ## One entry -/

/-- What is written for the value of a key is the same for values that are alike, and for any values
when the key is sensitive. -/
theorem redactField_congr (h : IsSensitive key ∨ redact v = redact w) :
    redactField key v = redactField key w := by
  unfold redactField
  split_ifs with hkey
  · rfl
  · rcases h with h | h
    · exact absurd (isSensitiveKey_iff.mpr h) hkey
    · exact h

theorem keyText_eq_ok {name : String} (h : keyText k = .ok name) : name = k.display := by
  unfold keyText at h
  split_ifs at h
  exact (Except.ok.inj h).symm

theorem redactEntries_cons (k v : Value) (es : List (Value × Value)) :
    redactEntries ((k, v) :: es) = (do
      let name ← keyText k
      let redacted ← redactField name v
      return (.text name, redacted) :: (← redactEntries es)) := by
  rw [redactEntries]
  cases keyText k with
  | error e => simp only [bind, Except.bind]
  | ok name =>
      simp only [bind, Except.bind, redactField]
      split_ifs with hkey
      · rfl
      · rfl

theorem redactEntries_cons_congr (hentry : redactField k.display v = redactField k.display w)
    (hrest : redactEntries es = redactEntries fs) :
    redactEntries ((k, v) :: es) = redactEntries ((k, w) :: fs) := by
  rw [redactEntries_cons, redactEntries_cons, hrest]
  cases hk : keyText k with
  | error e => simp only [bind, Except.bind]
  | ok name =>
      obtain rfl := keyText_eq_ok hk
      simp only [bind, Except.bind, hentry]

/-! ## Whole values

The recursion is on the derivation that two values are alike.  At a sensitive key it stops: the
values there are never looked at.
-/

mutual

/-- Values that are alike are the same once redacted. -/
theorem redact_eq_of_alike {v w : Value} : Alike v w → redact v = redact w
  | .same _ => rfl
  | .list h => by rw [redact, redact, redactAll_eq_of_alike h]
  | .tuple h => by rw [redact, redact, redactAll_eq_of_alike h]
  | .map h => by rw [redact, redact, redactEntries_eq_of_alike h]

theorem redactAll_eq_of_alike {vs ws : List Value} : AllAlike vs ws → redactAll vs = redactAll ws
  | .nil => rfl
  | .cons h hrest => by
      rw [redactAll, redactAll, redact_eq_of_alike h, redactAll_eq_of_alike hrest]

theorem redactEntries_eq_of_alike {es fs : List (Value × Value)} :
    EntriesAlike es fs → redactEntries es = redactEntries fs
  | .nil => rfl
  | .secret _ _ hkey hrest =>
      redactEntries_cons_congr (redactField_congr (.inl hkey)) (redactEntries_eq_of_alike hrest)
  | .cons h hrest =>
      redactEntries_cons_congr (redactField_congr (.inr (redact_eq_of_alike h)))
        (redactEntries_eq_of_alike hrest)

end

/-! ## Events -/

theorem mapM_redactField_eq_of_alike {es fs : List (Value × Value)} : EntriesAlike es fs →
    (es.mapM fun (k, v) => (k, ·) <$> redactField k.display v) =
      fs.mapM fun (k, v) => (k, ·) <$> redactField k.display v
  | .nil => rfl
  | .secret v w hkey hrest => by
      have hfield := redactField_congr (v := v) (w := w) (.inl hkey)
      rw [List.mapM_cons, List.mapM_cons, mapM_redactField_eq_of_alike hrest]
      simp only [hfield]
  | .cons (k := k) (v := v) (w := w) h hrest => by
      have hfield : redactField k.display v = redactField k.display w :=
        redactField_congr (.inr (redact_eq_of_alike h))
      rw [List.mapM_cons, List.mapM_cons, mapM_redactField_eq_of_alike hrest]
      simp only [hfield]

/-- What stands under a sensitive key leaves no trace: values that differ in nothing else are the
same once redacted, and so are the entries of events when the caller has no pass of its own. -/
theorem hides_secrets :
    (∀ v w, Alike v w → redact v = redact w) ∧
      ∀ es fs : Mapping, EntriesAlike es fs →
        Event.Cleaning.clean ⟨true, id⟩ es = Event.Cleaning.clean ⟨true, id⟩ fs := by
  refine ⟨fun v w => redact_eq_of_alike, fun es fs h => ?_⟩
  simp only [Event.Cleaning.clean, if_true, id_eq]
  rw [mapM_redactField_eq_of_alike h]

/-- Under one key a list stands in place of a text, under another a number in place of a list. -/
theorem hides_secrets_nested :
    redact (.tuple [.int 1, .map [(.text "API_KEY", .text "k-1"), (.text "user", .text "ann")]]) =
        redact (.tuple [.int 1, .map [(.text "API_KEY", .list [.map [(.int 7, .null)]]),
          (.text "user", .text "ann")]]) ∧
      Event.Cleaning.clean ⟨true, id⟩
          [(.text "event", .text "login"), (.text "accessToken", .list [.text "t"])] =
        Event.Cleaning.clean ⟨true, id⟩
          [(.text "event", .text "login"), (.text "accessToken", .int 5)] := by
  have hkey : IsSensitive "API_KEY" := isSensitiveKey_iff.mp (by decide +kernel)
  have htoken : IsSensitive "accessToken" := isSensitiveKey_iff.mp (by decide +kernel)
  constructor
  · apply hides_secrets.1
    exact .tuple (.cons (.same _) (.cons (.map (.secret _ _ hkey (.cons (.same _) .nil))) .nil))
  · apply hides_secrets.2
    exact .cons (.same _) (.secret _ _ htoken .nil)

end Redaction

end ParamRules
