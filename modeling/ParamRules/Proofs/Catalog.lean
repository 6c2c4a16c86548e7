import ParamRules.Catalog
import ParamRules.Proofs.Log.Library
import ParamRules.Proofs.Log.Nested
import ParamRules.Proofs.Mapping
import ParamRules.Proofs.Setting.Normalized

/-!
# Settings checked in blocks

A catalog checks each setting in a block of its own, which binds the names of the file and of the
setting.  The events of the library have no fields of these names, so each of them is written with
the name of the setting that is checked; and the blocks leave what was bound, whether the catalog is
checked to its end or a check fails (`go_nested`).  They change nothing else: the failures are those
of the checks without anything bound.
-/

namespace ParamRules

open Text Result Correlation

/-! ## Entries of an event -/

namespace Mapping

variable {m : Mapping} {key v : Value} {before after : List (Value × Value)}

theorem get?_foldl_put (h : ∀ e ∈ after, keyOf e.1 ≠ keyOf key) (m : Mapping) :
    get? (after.foldl (fun m e => put e.1 e.2 m) m) key = get? m key := by
  induction after generalizing m with
  | nil => rfl
  | cons e after ih =>
      obtain ⟨he, hafter⟩ := List.forall_mem_cons.mp h
      rw [List.foldl_cons, ih hafter, get?_put, if_neg (Ne.symm he)]

/-- The entry that is put last for a key counts. -/
theorem get?_ofEntries (h : ∀ e ∈ after, keyOf e.1 ≠ keyOf key) :
    get? (ofEntries (before ++ (key, v) :: after)) key = some v := by
  rw [ofEntries, List.foldl_append, List.foldl_cons, get?_foldl_put h, get?_put, if_pos rfl]

end Mapping

namespace Event

/-- Whether an event is written with a value under a name. -/
def Shows (e : Event) (name : String) (v : Value) : Prop :=
  ∀ isPlain timestamp, (e.entries isPlain timestamp).get? (.text name) = some v

/-- The field that is bound last is written, unless a field of the event has its name. -/
theorem shows_of_context {e : Event} {before : Correlation} {name : String} {v : Value}
    (hcontext : e.context = before ++ [(name, v)]) (hfields : ∀ f ∈ e.fields, f.1 ≠ name)
    (hname : name ∉ ["event", "logger", "level", "timestamp"]) : e.Shows name v := by
  intro isPlain timestamp
  simp only [List.mem_cons, List.not_mem_nil, or_false, not_or] at hname
  obtain ⟨hevent, hlogger, hlevel, htimestamp⟩ := hname
  unfold entries
  simp only [hcontext, List.append_assoc, List.cons_append, List.nil_append, List.map_append,
    List.map_cons]
  refine Mapping.get?_ofEntries ?_
  have hkey : ∀ n : String, n ≠ name →
      Mapping.keyOf (.text n) ≠ Mapping.keyOf (.text name) := by simp
  simp only [List.forall_mem_append, List.forall_mem_map, List.forall_mem_cons]
  refine ⟨?_, hkey _ (Ne.symm hlogger), hkey _ (Ne.symm hlevel), hkey _ (Ne.symm htimestamp),
    List.forall_mem_nil _⟩
  -- the name of the event stands before its fields or after them
  split_ifs
  · exact List.forall_mem_cons.mpr ⟨hkey _ (Ne.symm hevent), fun f hf => hkey _ (hfields f hf)⟩
  · rw [List.forall_mem_append, List.forall_mem_singleton]
    exact ⟨fun f hf => hkey _ (hfields f hf), hkey _ (Ne.symm hevent)⟩

end Event

namespace Catalog

variable {v : Validator} {c : Catalog} {s : Setting} {ambient bound : Correlation}

/-! ## One setting -/

/-- The fields of the block that a setting is checked in. -/
def blockFields (c : Catalog) (s : Setting) : Fields :=
  [("catalog", .text c.fileName), ("setting", .text s.name)]

theorem scope_eq (c : Catalog) (s : Setting) : c.scope s = ofFields (c.blockFields s) := rfl

/-- Whether events are those of the check of a setting: each is one that the check logs, carries
what is bound in the block of the setting, and is written with the name of the setting. -/
structure AreOf (ambient : Correlation) (v : Validator) (c : Catalog) (s : Setting)
    (events : List Event) : Prop where
  carry : List.Forall₂ (fun e own => Run.Carries ambient e (own, [c.blockFields s])) events
    (s.validate v).events
  shown : s.IsValid → ∀ e ∈ events, e.Shows "setting" (.text s.name)

theorem events_within (context : Correlation) {α : Type} (x : Recorded α) :
    (x.within context).events = x.events.map (Event.within context) := by
  simp only [Recorded.events, Recorded.within, List.filterMap_map, List.map_filterMap]
  congr 1
  funext record
  cases record <;> rfl

theorem checkIn_of_refused {fault : Fault} (h : c.scope s = .error fault) :
    c.checkIn v s bound = (.fail fault, bound) :=
  Contextual.scope_of_refused h _

/-- What is bound in the block of a setting. -/
theorem scope_eq_ok {texts : Correlation} (h : c.scope s = .ok texts) :
    texts = (c.blockFields s).map fun f => (f.1, trimmed f.2) := by
  rw [scope_eq, ofFields_eq] at h
  split at h
  · cases h
  · exact (Except.ok.inj h).symm

/-- One check: it has the failures of the setting, leaves what was bound, and what it logs is its
own. -/
theorem checkIn_of_ok {texts : Correlation} (h : c.scope s = .ok texts)
    (hbound : Same bound ambient) :
    (c.checkIn v s bound).1.result = (s.validate v).result ∧
      Same (c.checkIn v s bound).2 bound ∧
      AreOf ambient v c s (c.checkIn v s bound).1.events := by
  have hcheck : c.checkIn v s bound =
      ((s.validate v).within (bound.bind texts),
        leave (bound.enter texts).1 (bound.bind texts)) :=
    Contextual.scope_of_ok h _
  have hcontext : ∀ e ∈ (s.validate v).events,
      (e.within (bound.bind texts)).context = bound.bind texts := by
    intro e he
    simp [Event.within, (s.logsOwn_validate v e he).context, Correlation.bind]
  obtain rfl := scope_eq_ok h
  rw [hcheck]
  refine ⟨rfl, same_leave (.refl _), ?_, ?_⟩
  · rw [events_within, List.forall₂_map_left_iff, List.forall₂_same]
    intro e he
    refine ⟨?_, fun name => ?_⟩
    · have hnone := (s.logsOwn_validate v e he).context
      cases e
      cases hnone
      rfl
    · rw [hcontext e he, lookup_bind, lookup_map_trimmed, hbound name]
      rfl
  · intro hvalid e he
    rw [events_within] at he
    obtain ⟨own, hmem, rfl⟩ := List.mem_map.mp he
    have hname : trimmed (.text s.name) = .text s.name := congrArg Value.text hvalid.name_trimmed
    -- the fields of the block come last, and the name of the setting is the last of them
    obtain ⟨before, hlast⟩ : ∃ before,
        (own.within (bound.bind ((c.blockFields s).map fun f => (f.1, trimmed f.2)))).context =
          before ++ [("setting", .text s.name)] := by
      rw [hcontext own hmem, ← hname]
      exact ⟨_, (List.append_assoc _ [("catalog", trimmed (.text c.fileName))] _).symm⟩
    have hfields := (s.logsOwn_validate v own hmem).fields
    exact Event.shows_of_context hlast (fun f hf => (hfields f hf).2) (by decide)

/-! ## All settings -/

/-- What comes of the remaining settings, with the failures of the first of them. -/
def withFirst (s : Setting) (outcomes : List Outcome) (rest : List (String × List Outcome)) :
    List (String × List Outcome) :=
  if outcomes.isEmpty then rest else (s.name, outcomes) :: rest

theorem result_go_cons (s : Setting) (settings : List Setting) :
    (validate.go v c (s :: settings)).result =
      c.scope s >>= fun _ => (s.validate v).result >>= fun outcomes =>
        withFirst s outcomes <$> (validate.go v c settings).result := by
  rw [validate.go, Recorded.result_bind_eq]
  congr 1
  funext texts
  rw [Recorded.result_bind_eq]
  congr 1
  funext outcomes
  rw [Recorded.result_bind_eq]
  cases (validate.go v c settings).result <;> rfl

theorem validateIn_go_cons (s : Setting) (settings : List Setting) :
    validateIn.go v c (s :: settings) =
      c.checkIn v s >>= fun outcomes =>
        validateIn.go v c settings >>= fun rest => pure (withFirst s outcomes rest) := rfl

/-- The remaining settings: those that are checked are the first of them, up to the first check that
fails. -/
theorem go_nested (settings : List Setting) (hbound : Same bound ambient) :
    (validateIn.go v c settings bound).1.result = (validate.go v c settings).result ∧
      Same (validateIn.go v c settings bound).2 ambient ∧
      ∃ checked : List (Setting × List Event), checked.map Prod.fst <+: settings ∧
        ((∃ found, (validate.go v c settings).result = .ok found) →
          checked.map Prod.fst = settings) ∧
        (validateIn.go v c settings bound).1.events = checked.flatMap Prod.snd ∧
        ∀ p ∈ checked, AreOf ambient v c p.1 p.2 := by
  induction settings generalizing bound with
  | nil => exact ⟨rfl, hbound, [], List.prefix_refl _, fun _ => rfl, rfl, List.forall_mem_nil _⟩
  | cons s settings ih =>
      rw [validateIn_go_cons, result_go_cons]
      cases hscope : c.scope s with
      | error fault =>
          -- the block is not opened
          have hcheck : c.checkIn v s bound = (.fail fault, bound) := checkIn_of_refused hscope
          have hfails : (c.checkIn v s bound).1.result = .error fault := by rw [hcheck]; rfl
          rw [Contextual.bind_of_error hfails, hcheck]
          refine ⟨rfl, hbound, [], List.nil_prefix, ?_, rfl, List.forall_mem_nil _⟩
          rintro ⟨found, hfound⟩
          cases hfound
      | ok texts =>
          obtain ⟨hresult, hsame, hof⟩ := checkIn_of_ok (v := v) hscope hbound
          cases hfound : (s.validate v).result with
          | error fault =>
              rw [Contextual.bind_of_error (hresult.trans hfound)]
              refine ⟨rfl, hsame.trans hbound, [(s, (c.checkIn v s bound).1.events)], ?_, ?_, ?_,
                List.forall_mem_singleton.mpr hof⟩
              · exact List.cons_prefix_cons.mpr ⟨rfl, List.nil_prefix⟩
              · rintro ⟨found, hfound⟩
                cases hfound
              · exact (List.append_nil _).symm
          | ok outcomes =>
              obtain ⟨hrest, hafter, checked, hprefix, hall, hevents, hofs⟩ :=
                ih (hsame.trans hbound)
              rw [Contextual.bind_of_ok (hresult.trans hfound), Contextual.bind_pure_eq]
              refine ⟨congrArg (withFirst s outcomes <$> ·) hrest, hafter,
                (s, (c.checkIn v s bound).1.events) :: checked, ?_, ?_, ?_,
                List.forall_mem_cons.mpr ⟨hof, hofs⟩⟩
              · exact List.cons_prefix_cons.mpr ⟨rfl, hprefix⟩
              · rintro ⟨found, hfound⟩
                obtain ⟨rest, hok, -⟩ := map_eq_ok_iff.mp hfound
                exact congrArg (s :: ·) (hall ⟨rest, hok⟩)
              · rw [Run.events_append, List.flatMap_cons, ← hevents]
                rfl

end Catalog

/-- Blocks nest and restore.  A run with blocks, in any fields that are bound around it, has the
result that it has without them, but for blocks whose fields are refused; every event in it carries
what is bound around the run under the trimmed fields of the blocks that are open, the innermost
over all others; and what is bound after the run is what was bound before it.  A block is a run of
its own, so it leaves what it found at any depth.

A catalog that is checked where fields are bound has the failures that it has without, and leaves
what was bound.  The settings that are checked are all of them, or the first of them up to a fault,
and what is logged is, one setting after the other, what their checks log; each event carries what
is bound in the block of its setting and is written with the name of that setting. -/
theorem Correlation.blocks_nest (ambient : Correlation) :
    (∀ run : Run, (run.exec ambient).1.result = run.result ∧
        List.Forall₂ (Run.Carries ambient) (run.exec ambient).1.events (run.logged []) ∧
        Same (run.exec ambient).2 ambient) ∧
      ∀ (v : Validator) (c : Catalog),
        (c.validateIn v ambient).1.result = (c.validate v).result ∧
        Same (c.validateIn v ambient).2 ambient ∧
        ∃ checked : List (Setting × List Event), checked.map Prod.fst <+: c.settings ∧
          ((∃ found, (c.validate v).result = .ok found) →
            checked.map Prod.fst = c.settings) ∧
          (c.validateIn v ambient).1.events = checked.flatMap Prod.snd ∧
          ∀ p ∈ checked, Catalog.AreOf ambient v c p.1 p.2 :=
  ⟨fun run => run.exec_nested ambient fun _ => rfl,
    fun _ c => Catalog.go_nested c.settings (.refl ambient)⟩

end ParamRules
