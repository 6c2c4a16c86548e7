import ParamRules.Config.Layer
import ParamRules.Proofs.Mapping

/-!
# Fields in mappings

A configuration is a mapping of sections, and each section one of fields.  A field stands at two
names, that of its section and its own, and no two fields stand at the same ones.  What is read at
two names is what was last set there (`lookupAt_setAt`), whatever was set elsewhere.
-/

namespace ParamRules.Config

open Mapping

variable {m inner : Mapping} {v : Value} {a b : String} {f g : Field} {c : Config}

/-- The value at a name in the table at another name. -/
def lookupAt (m : Mapping) (a b : String) : Option Value :=
  ((get? m (.text a)).bind Value.entries?).bind (get? · (.text b))

/-- The value of a field. -/
def valueAt (m : Mapping) (f : Field) : Option Value :=
  lookupAt m f.place.name f.name

/-- The entries of a table, none where there is no table. -/
def tableAt (m : Mapping) (a : String) : Mapping :=
  ((get? m (.text a)).bind Value.entries?).getD []

theorem lookupAt_eq (m : Mapping) (a b : String) :
    lookupAt m a b = get? (tableAt m a) (.text b) := by
  rw [lookupAt, tableAt]
  cases (get? m (.text a)).bind Value.entries? <;> rfl

theorem lookupAt_of_table (h : get? m (.text a) = some (.map inner)) (b : String) :
    lookupAt m a b = get? inner (.text b) := by
  rw [lookupAt, h]
  rfl

theorem get?_of_lookupAt (h : lookupAt m a b = some v) :
    ∃ inner, get? m (.text a) = some (.map inner) ∧ get? inner (.text b) = some v := by
  obtain ⟨inner, htable, hv⟩ := Option.bind_eq_some_iff.mp h
  obtain ⟨table, hget, hentries⟩ := Option.bind_eq_some_iff.mp htable
  cases table with
  | map entries =>
      cases hentries
      exact ⟨inner, hget, hv⟩
  | _ => cases hentries

theorem lookupAt_of_null (h : get? m (.text a) = none ∨ get? m (.text a) = some .null)
    (b : String) : lookupAt m a b = none := by
  rw [lookupAt]
  rcases h with h | h <;> rw [h] <;> rfl

theorem Section.name_injective : Function.Injective Section.name := by
  intro s t h
  cases s <;> cases t <;> first | rfl | exact absurd h (by decide)

theorem Field.name_injective : Function.Injective Field.name := by
  intro f g h
  cases f <;> cases g <;> first | rfl | exact absurd h (by decide)

/-! ## Setting -/

theorem setAt_pair (v : Value) (a b : String) (m : Mapping) :
    setAt v [a, b] m = put (.text a) (.map (put (.text b) v (tableAt m a))) m := rfl

/-- What is set at two names is read there and nowhere else. -/
theorem lookupAt_setAt (v : Value) (a b a' b' : String) (m : Mapping) :
    lookupAt (setAt v [a, b] m) a' b' =
      if a' = a ∧ b' = b then some v else lookupAt m a' b' := by
  by_cases ha : a' = a
  · subst ha
    have htable : get? (setAt v [a', b] m) (.text a') =
        some (.map (put (.text b) v (tableAt m a'))) := by
      rw [setAt_pair, get?_put_text, if_pos rfl]
    rw [lookupAt_of_table htable, get?_put_text, lookupAt_eq]
    simp only [true_and]
  · have hother : get? (setAt v [a, b] m) (.text a') = get? m (.text a') := by
      rw [setAt_pair, get?_put_text, if_neg ha]
    rw [lookupAt, hother, if_neg fun h => ha h.1]
    rfl

theorem valueAt_setAt (v : Value) (f g : Field) (m : Mapping) :
    valueAt (setAt v [f.place.name, f.name] m) g = if g = f then some v else valueAt m g := by
  rw [valueAt, lookupAt_setAt, valueAt]
  by_cases h : g = f
  · rw [if_pos h, h, if_pos ⟨rfl, rfl⟩]
  · rw [if_neg h, if_neg fun hnames => h (Field.name_injective hnames.2)]

/-! ## The written form of a configuration -/

/-- The value that a configuration holds for a field. -/
def fieldValue (c : Config) : Field → Option Value
  | .schemaVersion => c.version
  | .handlers => c.handlers.map fun paths => .list (paths.map .text)
  | .catalogPath => c.catalog.map .text
  | .logLevel => c.observability.map fun o => .text o.level.name
  | .logFile => c.observability.bind fun o => o.file.map .text
  | .logToStdout => c.observability.map fun o => .bool o.toStdout
  | .redactSecrets => c.observability.map fun o => .bool o.redactSecrets

/-- The table of a section in the written form, if the section is there. -/
def sectionTable (c : Config) : Section → Option Mapping
  | .schema => c.version.map fun v => [entry .schemaVersion v]
  | .parser => c.handlers.map fun paths => [entry .handlers (.list (paths.map .text))]
  | .catalog => some (textEntry .catalogPath c.catalog)
  | .observability => c.observability.map Observability.toMapping

theorem toMapping_eq (c : Config) :
    c.toMapping = Section.all.flatMap fun s => sectionEntry s (sectionTable c s) := by
  simp [toMapping, Section.all, sectionTable]

theorem get?_toMapping (c : Config) (s : Section) :
    get? c.toMapping (.text s.name) = (sectionTable c s).map .map := by
  obtain ⟨version, handlers, catalog, observability⟩ := c
  cases s <;> cases version <;> cases handlers <;> cases observability <;> rfl

theorem valueAt_toMapping (c : Config) (f : Field) : valueAt c.toMapping f = fieldValue c f := by
  have hvalue : valueAt c.toMapping f =
      (sectionTable c f.place).bind (get? · (.text f.name)) := by
    rw [valueAt, lookupAt, get?_toMapping]
    cases sectionTable c f.place <;> rfl
  obtain ⟨version, handlers, catalog, observability⟩ := c
  rw [hvalue]
  cases f with
  | schemaVersion => cases version <;> rfl
  | handlers => cases handlers <;> rfl
  | catalogPath => cases catalog <;> rfl
  | logFile =>
      cases observability with
      | none => rfl
      | some o =>
          obtain ⟨level, toStdout, redactSecrets, file⟩ := o
          cases file <;> rfl
  | logLevel | logToStdout | redactSecrets => cases observability <;> rfl

/-- The fields that are written in a section, with what is written. -/
def writtenFields (c : Config) : Section → List (Field × Value)
  | .schema => (c.version.map fun v => (Field.schemaVersion, v)).toList
  | .parser => (c.handlers.map fun paths => (Field.handlers, .list (paths.map .text))).toList
  | .catalog => (c.catalog.map fun p => (Field.catalogPath, .text p)).toList
  | .observability =>
      (c.observability.map fun o =>
        [(Field.logLevel, .text o.level.name), (Field.logToStdout, .bool o.toStdout),
          (Field.redactSecrets, .bool o.redactSecrets)] ++
          (o.file.map fun p => (Field.logFile, .text p)).toList).getD []

theorem sectionTable_eq {s : Section} {inner : Mapping} (h : sectionTable c s = some inner) :
    inner = (writtenFields c s).map fun e => entry e.1 e.2 := by
  obtain ⟨version, handlers, catalog, observability⟩ := c
  cases s with
  | schema =>
      obtain ⟨version, rfl, rfl⟩ := Option.map_eq_some_iff.mp h
      rfl
  | parser =>
      obtain ⟨handlers, rfl, rfl⟩ := Option.map_eq_some_iff.mp h
      rfl
  | catalog =>
      obtain rfl := Option.some.inj h
      cases catalog <;> rfl
  | observability =>
      obtain ⟨o, rfl, rfl⟩ := Option.map_eq_some_iff.mp h
      obtain ⟨level, toStdout, redactSecrets, file⟩ := o
      cases file <;> rfl

theorem place_of_mem_writtenFields {s : Section} {e : Field × Value} (h : e ∈ writtenFields c s) :
    e.1.place = s := by
  obtain ⟨version, handlers, catalog, observability⟩ := c
  cases s with
  | schema =>
      obtain ⟨version, -, rfl⟩ := Option.map_eq_some_iff.mp (Option.mem_toList.mp h)
      rfl
  | parser =>
      obtain ⟨handlers, -, rfl⟩ := Option.map_eq_some_iff.mp (Option.mem_toList.mp h)
      rfl
  | catalog =>
      obtain ⟨p, -, rfl⟩ := Option.map_eq_some_iff.mp (Option.mem_toList.mp h)
      rfl
  | observability =>
      cases observability with
      | none => cases h
      | some o =>
          rcases List.mem_append.mp h with h | h
          · simp only [List.mem_cons, List.not_mem_nil, or_false] at h
            rcases h with rfl | rfl | rfl <;> rfl
          · obtain ⟨p, -, rfl⟩ := Option.map_eq_some_iff.mp (Option.mem_toList.mp h)
            rfl

end ParamRules.Config
