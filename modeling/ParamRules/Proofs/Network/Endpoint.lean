import ParamRules.Proofs.Constraint.Checks
import ParamRules.Proofs.Network.Host
import ParamRules.Proofs.Number.Numeral

/-!
# Endpoints

An endpoint is a host, a host with a port, or an address of groups in brackets with or without one.
Texts are cut into host and port at their brackets or at their only colon.  No host is cut where it
should not be, so that the endpoints are an extension of the hosts (`check_endpoint_of_isHost`).
What stands in brackets need only be a host, however, so that names and addresses of octets in
brackets pass as well, and nothing else does (`check_endpoint_iff`).
-/

namespace ParamRules

open Text

namespace Network

variable {s h a d : List Char}

/-! ## Ports -/

/-- Whether a text is digits that denote a port and are not too many to be read. -/
def IsPortText (d : List Char) : Prop :=
  ∃ ds, Integer.allDigits? d = some ds ∧ ds.length ≤ Integer.digitLimit ∧
    Integer.ofDigits 10 ds ≤ maxPort

theorem isDigitText_of_allDigits? {ds : List Nat} (hd : Integer.allDigits? d = some ds) :
    isDigitText d = true := by
  obtain ⟨hne, hdigits, -⟩ := Integer.allDigits?_eq_some_iff.mp hd
  rw [isDigitText, Bool.and_eq_true, List.all_eq_true]
  exact ⟨by simpa using hne, fun c hc => isAnyDigit_of_isDecimalDigit (hdigits c hc)⟩

/-- Digits are a port or none, by the number that they denote. -/
theorem isPort_of_allDigits? {ds : List Nat} (hd : Integer.allDigits? d = some ds)
    (hshort : ds.length ≤ Integer.digitLimit) :
    isPort d = .ok (decide (Integer.ofDigits 10 ds ≤ maxPort)) := by
  rw [isPort, if_neg (by simp [isDigitText_of_allDigits? hd]), Integer.read_of_allDigits? hd,
    if_neg (not_lt.mpr hshort)]
  simp [Except.map]

/-- What is read as a number and holds digits of any kind only is decimal digits. -/
theorem exists_allDigits?_of_read {n : Int} (hdigits : isDigitText d = true)
    (hread : Integer.read 10 (String.ofList d) = .ok n) :
    ∃ ds, Integer.allDigits? d = some ds := by
  rw [isDigitText, Bool.and_eq_true, List.all_eq_true] at hdigits
  replace hdigits := hdigits.2
  have hnot : ∀ c, isAnyDigit c = false → c ∉ d := by
    intro c hc hmem
    rw [hdigits c hmem] at hc
    cases hc
  have hsign : Integer.splitSign d = (false, d) := by
    unfold Integer.splitSign
    split
    · exact absurd List.mem_cons_self (hnot '-' (by decide +kernel))
    · exact absurd List.mem_cons_self (hnot '+' (by decide +kernel))
    · rfl
  obtain ⟨negative, ds, hplain, -⟩ := Integer.exists_plainDigits?_of_read
    (isTrimmed_of_forall fun c hc => isBlank_of_isAnyDigit (hdigits c hc))
    (hnot '_' (by decide +kernel)) hread
  rw [Integer.plainDigits?, hsign] at hplain
  obtain ⟨ds', hds, -⟩ := Option.map_eq_some_iff.mp hplain
  exact ⟨ds', hds⟩

theorem isPort_eq_ok_true_iff : isPort d = .ok true ↔ IsPortText d := by
  constructor
  · intro hport
    have hdigits : isDigitText d = true := by
      by_contra hnone
      rw [isPort, if_pos (by simpa using hnone)] at hport
      cases hport
    have hmap := hport
    rw [isPort, if_neg (by simp [hdigits])] at hmap
    obtain ⟨n, hread, -⟩ := Result.map_eq_ok_iff.mp hmap
    obtain ⟨ds, hds⟩ := exists_allDigits?_of_read hdigits hread
    have hshort : ds.length ≤ Integer.digitLimit := by
      by_contra hlong
      rw [Integer.read_of_allDigits? hds, if_pos (not_le.mp hlong)] at hread
      cases hread
    rw [isPort_of_allDigits? hds hshort, Except.ok.injEq, decide_eq_true_eq] at hport
    exact ⟨ds, hds, hshort, hport⟩
  · rintro ⟨ds, hds, hshort, hle⟩
    rw [isPort_of_allDigits? hds hshort, decide_eq_true hle]

/-! ## Host and port -/

/-- The ways in which a text is cut into host and port. -/
inductive Endpoint.Splits : List Char → Endpoint → Prop where
  | bracketed {a : List Char} (h : ']' ∉ a) : Splits ('[' :: (a ++ [']'])) ⟨a, none⟩
  | bracketedPort {a : List Char} (h : ']' ∉ a) (d : List Char) :
      Splits ('[' :: (a ++ ']' :: ':' :: d)) ⟨a, some d⟩
  | port {h d : List Char} (hh : ':' ∉ h) (hd : ':' ∉ d) : Splits (h ++ ':' :: d) ⟨h, some d⟩
  | whole (s : List Char) : Splits s ⟨s, none⟩

/-- The host and the port of a text that is cut at its only colon. -/
def Endpoint.splitAtColon (s : List Char) : Endpoint :=
  match cutChars? ':' s with
  | none => ⟨s, none⟩
  | some (host, port) => if port.contains ':' then ⟨s, none⟩ else ⟨host, some port⟩

theorem split_of_head? (hhead : s.head? ≠ some '[') :
    Endpoint.split s = Endpoint.splitAtColon s := by
  unfold Endpoint.split
  split
  · exact absurd rfl hhead
  · rfl

theorem splitAtColon_port (hh : ':' ∉ h) (hd : ':' ∉ d) :
    Endpoint.splitAtColon (h ++ ':' :: d) = ⟨h, some d⟩ := by
  simp only [Endpoint.splitAtColon, cutChars?_append hh]
  rw [if_neg (by simpa using hd)]

/-- A text with no colon, or with more than one, is a host as a whole. -/
theorem splitAtColon_whole (hcount : s.count ':' ≠ 1) :
    Endpoint.splitAtColon s = ⟨s, none⟩ := by
  unfold Endpoint.splitAtColon
  cases hcut : cutChars? ':' s with
  | none => rfl
  | some p =>
      obtain ⟨host, port⟩ := p
      obtain ⟨hhost, rfl⟩ := cutChars?_eq_some_iff.mp hcut
      have hport : ':' ∈ port := by
        rw [List.count_append, List.count_cons_self, List.count_eq_zero_of_not_mem hhost] at hcount
        exact List.count_pos_iff.mp (by omega)
      simp only
      rw [if_pos (by simpa using hport)]

theorem split_bracketed (h : ']' ∉ a) : Endpoint.split ('[' :: (a ++ [']'])) = ⟨a, none⟩ := by
  simp only [Endpoint.split, cutChars?_append h]

theorem split_bracketedPort (h : ']' ∉ a) (d : List Char) :
    Endpoint.split ('[' :: (a ++ ']' :: ':' :: d)) = ⟨a, some d⟩ := by
  simp only [Endpoint.split, cutChars?_append h]

theorem splits_splitAtColon (s : List Char) : Endpoint.Splits s (Endpoint.splitAtColon s) := by
  unfold Endpoint.splitAtColon
  split
  · exact .whole s
  · rename_i host port hcut
    obtain ⟨hhost, rfl⟩ := cutChars?_eq_some_iff.mp hcut
    split_ifs with hport
    · exact .whole _
    · exact .port hhost (by simpa using hport)

theorem splits_split (s : List Char) : Endpoint.Splits s (Endpoint.split s) := by
  unfold Endpoint.split
  split
  · simp only
    split
    · rename_i inner hcut
      obtain ⟨hinner, rfl⟩ := cutChars?_eq_some_iff.mp hcut
      exact .bracketed hinner
    · rename_i inner port hcut
      obtain ⟨hinner, rfl⟩ := cutChars?_eq_some_iff.mp hcut
      exact .bracketedPort hinner port
    · exact .whole _
    · exact splits_splitAtColon _
  · exact splits_splitAtColon _

/-! ## Endpoints -/

/-- Whether a text is one of those with the given property in brackets, with or without a port. -/
def IsBracketed (P : List Char → Prop) (s : List Char) : Prop :=
  ∃ a, P a ∧ ']' ∉ a ∧
    (s = '[' :: (a ++ [']']) ∨ ∃ d, IsPortText d ∧ s = '[' :: (a ++ ']' :: ':' :: d))

/-- Whether a text is a host, a host with a port, or an address of groups in brackets with or
without a port. -/
def IsEndpoint (s : List Char) : Prop :=
  isHost s = true ∨
    (∃ h d, isHost h = true ∧ ':' ∉ h ∧ IsPortText d ∧ s = h ++ ':' :: d) ∨
    IsBracketed (fun a => isHost a = true ∧ isGroupAddress a = true) s

/-- Whether a text is a name or an address of octets in brackets, with or without a port. -/
def IsBracketedName (s : List Char) : Prop :=
  IsBracketed (fun a => isHost a = true ∧ isGroupAddress a = false) s

theorem not_mem_colon (hd : IsPortText d) : ':' ∉ d := by
  obtain ⟨ds, hds, -, -⟩ := hd
  intro hmem
  have hdigit := (Integer.allDigits?_eq_some_iff.mp hds).2.1 ':' hmem
  exact absurd hdigit (by decide +kernel)

/-- Whether both parts that a text is cut into are what they have to be. -/
def Endpoint.IsAccepted (e : Endpoint) : Prop :=
  isHost e.host = true ∧ ∀ d ∈ e.port, IsPortText d

theorem isAccepted_of_isBracketed {P : List Char → Prop} (hP : ∀ a, P a → isHost a = true)
    (h : IsBracketed P s) : (Endpoint.split s).IsAccepted := by
  obtain ⟨a, ha, hbracket, rfl | ⟨d, hd, rfl⟩⟩ := h
  · rw [split_bracketed hbracket]
    exact ⟨hP a ha, nofun⟩
  · rw [split_bracketedPort hbracket]
    exact ⟨hP a ha, fun port hport => by rwa [← Option.some.inj hport]⟩

theorem split_of_isHost (hh : isHost h = true) : Endpoint.split h = ⟨h, none⟩ := by
  rw [split_of_head? (head?_of_isHost hh)]
  apply splitAtColon_whole
  intro hcount
  have hgroups := isGroupAddress_of_colon hh (List.count_pos_iff.mp (by omega))
  have htwo := two_le_count_of_isGroupAddress hgroups
  omega

theorem split_of_isHost_port (hh : isHost h = true) (hcolon : ':' ∉ h) (hd : ':' ∉ d) :
    Endpoint.split (h ++ ':' :: d) = ⟨h, some d⟩ := by
  rw [split_of_head?, splitAtColon_port hcolon hd]
  rw [List.head?_append_of_ne_nil _ (ne_nil_of_isHost hh)]
  exact head?_of_isHost hh

theorem isAccepted_of_isEndpoint (h : IsEndpoint s) : (Endpoint.split s).IsAccepted := by
  rcases h with hh | ⟨h, d, hh, hcolon, hd, rfl⟩ | hbracketed
  · rw [split_of_isHost hh]
    exact ⟨hh, nofun⟩
  · rw [split_of_isHost_port hh hcolon (not_mem_colon hd)]
    exact ⟨hh, fun port hport => by rwa [← Option.some.inj hport]⟩
  · exact isAccepted_of_isBracketed (fun a ha => ha.1) hbracketed

/-- What is cut into a host and a port is an endpoint, or a name in brackets. -/
theorem isAccepted_iff : (Endpoint.split s).IsAccepted ↔ IsEndpoint s ∨ IsBracketedName s := by
  constructor
  · have hbracketed : ∀ a, ']' ∉ a → isHost a = true →
        (s = '[' :: (a ++ [']']) ∨ ∃ d, IsPortText d ∧ s = '[' :: (a ++ ']' :: ':' :: d)) →
        IsEndpoint s ∨ IsBracketedName s := by
      intro a hbracket ha hs
      cases hgroups : isGroupAddress a with
      | true => exact .inl (.inr (.inr ⟨a, ⟨ha, hgroups⟩, hbracket, hs⟩))
      | false => exact .inr ⟨a, ⟨ha, hgroups⟩, hbracket, hs⟩
    rintro ⟨hhost, hport⟩
    have hsplits := splits_split s
    generalize Endpoint.split s = e at hsplits hhost hport
    cases hsplits with
    | bracketed h => exact hbracketed _ h hhost (.inl rfl)
    | bracketedPort h d => exact hbracketed _ h hhost (.inr ⟨d, hport d rfl, rfl⟩)
    | port hh hd => exact .inl (.inr (.inl ⟨_, _, hhost, hh, hport _ rfl, rfl⟩))
    | whole => exact .inl (.inl hhost)
  · rintro (hendpoint | hname)
    · exact isAccepted_of_isEndpoint hendpoint
    · exact isAccepted_of_isBracketed (fun a ha => ha.1) hname

theorem host_split_of_isBracketed {P : List Char → Prop} (h : IsBracketed P s) :
    P (Endpoint.split s).host := by
  obtain ⟨a, ha, hbracket, rfl | ⟨d, hd, rfl⟩⟩ := h
  · rwa [split_bracketed hbracket]
  · rwa [split_bracketedPort hbracket]

/-- A name in brackets is no endpoint. -/
theorem not_isEndpoint_of_isBracketedName (h : IsBracketedName s) : ¬ IsEndpoint s := by
  have hhead : s.head? = some '[' := by
    obtain ⟨a, -, -, rfl | ⟨d, -, rfl⟩⟩ := h <;> rfl
  rintro (hh | ⟨h, d, hh, -, -, rfl⟩ | hbracketed)
  · exact head?_of_isHost hh hhead
  · rw [List.head?_append_of_ne_nil _ (ne_nil_of_isHost hh)] at hhead
    exact head?_of_isHost hh hhead
  · have hname := (host_split_of_isBracketed h).2
    rw [(host_split_of_isBracketed hbracketed).2] at hname
    cases hname

theorem host_subset_of_splits {e : Endpoint} (h : Endpoint.Splits s e) : e.host ⊆ s := by
  cases h <;> simp

end Network

namespace Constraint

open Network

variable {r : Registry} {text member shown : String} {h d : List Char}

/-! ## What an endpoint fails -/

/-- The outcomes of a check are what the text fails. -/
theorem check_endpoint_eq :
    check r .endpoint .string (.text text) member shown =
      (endpointFailings text).map fun found =>
        found.map fun f => Outcome.failure .endpoint member f.1 (shown ++ " " ++ f.2) := by
  have hv : Value.text text ≠ .null := by simp
  rw [check_eq rfl hv]
  change endpointFailings text >>= _ = _
  cases endpointFailings text <;> rfl

theorem codes_check_endpoint :
    (check r .endpoint .string (.text text) member shown).map (·.map Outcome.code) =
      (endpointFailings text).map (·.map Prod.fst) := by
  rw [check_endpoint_eq]
  cases endpointFailings text with
  | error fault => rfl
  | ok found => simp [Except.map, Outcome.failure]

/-- What a text with a host in it fails, cut into host and port. -/
theorem endpointFailings_of_isHost (hhost : isHost (Endpoint.split text.toList).host = true) :
    endpointFailings text =
      match (Endpoint.split text.toList).port with
      | none => .ok []
      | some port =>
        match isPort port with
        | .error fault => .error (.ofNumber fault)
        | .ok true => .ok []
        | .ok false => .ok [(.portInvalid, "has an invalid port for host " ++
            Text.literal (String.ofList (Endpoint.split text.toList).host))] := by
  have hblank : isAllBlank text = false := by
    rw [← String.ofList_toList (s := text)]
    exact isAllBlank_of_isHost hhost (host_subset_of_splits (splits_split text.toList))
  cases hport : (Endpoint.split text.toList).port with
  | none => simp [endpointFailings, hblank, hhost, hport]
  | some port =>
      rcases hread : isPort port with fault | (_ | _) <;>
        simp [endpointFailings, hblank, hhost, hport, hread]

theorem endpointFailings_eq_nil_iff :
    endpointFailings text = .ok [] ↔ (Endpoint.split text.toList).IsAccepted := by
  cases hhost : isHost (Endpoint.split text.toList).host with
  | false =>
      have hnot : ¬ (Endpoint.split text.toList).IsAccepted := fun h => by
        rw [h.1] at hhost
        cases hhost
      simp only [hnot, iff_false]
      unfold endpointFailings
      simp only [hhost, Bool.false_eq_true, if_false]
      split_ifs
      · simp
      · split
        · simp
        · split <;> simp
  | true =>
      rw [endpointFailings_of_isHost hhost, Endpoint.IsAccepted]
      simp only [hhost, true_and, ← isPort_eq_ok_true_iff]
      cases (Endpoint.split text.toList).port with
      | none => simp
      | some port =>
          simp only [Option.mem_some_iff, forall_eq']
          rcases isPort port with fault | (_ | _) <;> simp

theorem check_endpoint_eq_nil_iff :
    check r .endpoint .string (.text text) member shown = .ok [] ↔
      IsEndpoint text.toList ∨ IsBracketedName text.toList := by
  rw [← isAccepted_iff, ← endpointFailings_eq_nil_iff, check_endpoint_eq]
  cases endpointFailings text with
  | error fault => simp [Except.map]
  | ok found => simp [Except.map]

/-- A text passes as an endpoint where it is one, or a name or an address of octets in brackets,
which is none. -/
theorem check_endpoint_iff (r : Registry) (text member shown : String) :
    (check r .endpoint .string (.text text) member shown = .ok [] ↔
        IsEndpoint text.toList ∨ IsBracketedName text.toList) ∧
      ¬ (IsEndpoint text.toList ∧ IsBracketedName text.toList) :=
  ⟨check_endpoint_eq_nil_iff, fun h => not_isEndpoint_of_isBracketedName h.2 h.1⟩

theorem isBracketedName_domain : IsBracketedName "[example.com]:80".toList :=
  ⟨"example.com".toList, by decide +kernel, by decide, .inr ⟨"80".toList, ⟨[8, 0], rfl, by decide,
    by decide⟩, rfl⟩⟩

theorem check_endpoint_iff_brackets :
    check .empty .endpoint .string (.text "[::1]:443") "m" "m" = .ok [] ∧
      check .empty .endpoint .string (.text "[example.com]:80") "m" "m" = .ok [] ∧
      ¬ IsEndpoint "[example.com]:80".toList := by
  have haddress : IsEndpoint "[::1]:443".toList :=
    .inr (.inr ⟨"::1".toList, by decide +kernel, by decide, .inr ⟨"443".toList, ⟨[4, 4, 3], rfl,
      by decide, by decide⟩, rfl⟩⟩)
  obtain ⟨hname, hdisjoint⟩ := check_endpoint_iff .empty "[example.com]:80" "m" "m"
  refine ⟨(check_endpoint_iff .empty "[::1]:443" "m" "m").1.mpr (.inl haddress),
    hname.mpr (.inr isBracketedName_domain), fun hendpoint => ?_⟩
  exact hdisjoint ⟨hendpoint, isBracketedName_domain⟩

/-- A name in brackets passes. -/
theorem not_isEndpoint_of_check :
    ¬ ∀ (r : Registry) (text member shown : String),
      check r .endpoint .string (.text text) member shown = .ok [] → IsEndpoint text.toList := by
  intro h
  have hcheck : check .empty .endpoint .string (.text "[example.com]:80") "m" "m" = .ok [] :=
    check_endpoint_eq_nil_iff.mpr (.inr isBracketedName_domain)
  exact not_isEndpoint_of_isBracketedName isBracketedName_domain (h _ _ _ _ hcheck)

/-! ## Hosts as endpoints -/

theorem codes_of_port (hd : AllDigits d) (hne : d ≠ []) (hshort : d.length ≤ Integer.digitLimit)
    (hhost : isHost (Endpoint.split text.toList).host = true)
    (hport : (Endpoint.split text.toList).port = some d) :
    (check r .endpoint .string (.text text) member shown).map (·.map Outcome.code) =
      .ok (if Integer.ofDigits 10 (digitValues d) ≤ maxPort then [] else [.portInvalid]) := by
  have hdigits := hd.allDigits? hne
  rw [codes_check_endpoint, endpointFailings_of_isHost hhost, hport]
  simp only [isPort_of_allDigits? hdigits (by rwa [length_digitValues])]
  by_cases hle : Integer.ofDigits 10 (digitValues d) ≤ maxPort
  · simp [hle, Except.map]
  · simp [hle, Except.map]

/-- A host is an endpoint.  With a port after a colon it is one if it has no colon itself, and with
brackets around it if it is an address of groups without a scope. -/
theorem check_endpoint_of_isHost (hh : isHost h = true) (r : Registry) (member shown : String) :
    check r .endpoint .string (.text (String.ofList h)) member shown = .ok [] ∧
      (':' ∉ h → ∀ d, AllDigits d → d ≠ [] → d.length ≤ Integer.digitLimit →
        (check r .endpoint .string (.text (String.ofList (h ++ ':' :: d))) member shown).map
            (·.map Outcome.code) =
          .ok (if Integer.ofDigits 10 (digitValues d) ≤ maxPort then [] else [.portInvalid])) ∧
      (isGroupAddress h = true → '%' ∉ h →
        check r .endpoint .string (.text (String.ofList ('[' :: (h ++ [']'])))) member shown =
            .ok [] ∧
          ∀ d, AllDigits d → d ≠ [] → d.length ≤ Integer.digitLimit →
            (check r .endpoint .string (.text (String.ofList ('[' :: (h ++ ']' :: ':' :: d))))
                member shown).map (·.map Outcome.code) =
              .ok (if Integer.ofDigits 10 (digitValues d) ≤ maxPort then []
                else [.portInvalid])) := by
  refine ⟨?_, ?_, ?_⟩
  · refine check_endpoint_eq_nil_iff.mpr (.inl (.inl ?_))
    rwa [String.toList_ofList]
  · intro hcolon d hd hne hshort
    have hsplit : Endpoint.split (String.ofList (h ++ ':' :: d)).toList = ⟨h, some d⟩ := by
      rw [String.toList_ofList]
      exact split_of_isHost_port hh hcolon fun hmem => absurd (hd ':' hmem) (by decide)
    exact codes_of_port hd hne hshort (by rw [hsplit]; exact hh) (by rw [hsplit])
  · intro hgroups hscope
    have hbracket := not_mem_of_isGroupAddress hgroups hscope
    refine ⟨?_, ?_⟩
    · refine check_endpoint_eq_nil_iff.mpr (.inl (.inr (.inr ?_)))
      rw [String.toList_ofList]
      exact ⟨h, ⟨hh, hgroups⟩, hbracket, .inl rfl⟩
    · intro d hd hne hshort
      have hsplit : Endpoint.split (String.ofList ('[' :: (h ++ ']' :: ':' :: d))).toList =
          ⟨h, some d⟩ := by
        rw [String.toList_ofList, split_bracketedPort hbracket]
      exact codes_of_port hd hne hshort (by rw [hsplit]; exact hh) (by rw [hsplit])

theorem check_endpoint_of_isHost_ports :
    isHost "db.local".toList = true ∧ isHost "::1".toList = true ∧
      (check .empty .endpoint .string (.text "db.local:70000") "m" "m").map (·.map Outcome.code) =
        .ok [.portInvalid] ∧
      (check .empty .endpoint .string (.text "[::1]:443") "m" "m").map (·.map Outcome.code) =
        .ok [] := by
  have hname : isHost "db.local".toList = true := by decide +kernel
  have haddress : isHost "::1".toList = true := by decide +kernel
  refine ⟨hname, haddress, ?_, ?_⟩
  · exact (check_endpoint_of_isHost hname .empty "m" "m").2.1 (by decide +kernel) "70000".toList
      (List.all_eq_true.mp (by decide)) (by decide) (by decide)
  · exact ((check_endpoint_of_isHost haddress .empty "m" "m").2.2 (by decide +kernel)
      (by decide +kernel)).2 "443".toList (List.all_eq_true.mp (by decide)) (by decide) (by decide)

end Constraint

end ParamRules
