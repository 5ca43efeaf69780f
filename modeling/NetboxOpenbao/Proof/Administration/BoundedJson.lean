import NetboxOpenbao.Administration.BoundedJson
import NetboxOpenbao.Proof.Administration.Values

/-!
# What bounded JSON bodies are

Both checks accept the trees within their bounds, in whatever order the nodes are come to. The check of wrapping data
also lets out what the final encoding raises.
-/

namespace NetboxOpenbao

open Effect Python

/-- `CapabilitySchemaError`. -/
def SchemaError (error : Error) : Prop := ∃ message, error = .schema message

namespace Finalization

/-! ### One node of wrapping data -/

/-- A string or a key within its bound, without control characters. -/
def ValidText (text : Python.Text) : Prop := text.length ≤ maxWrappingJsonString ∧ ∀ c ∈ text, 32 ≤ c.val

/-- A node of wrapping data. -/
def WrappingNode (item : Python.Value) (depth : Nat) : Prop :=
  depth ≤ maxWrappingJsonDepth ∧ Plain item ∧ ∀ text ∈ item.texts, ValidText text

theorem validateJsonText_ok {text : Python.Text} {key : Bool} :
    validateJsonText text key = .ok () ↔ ValidText text := by
  unfold validateJsonText ValidText
  split
  · next hbad =>
      refine iff_of_false nofun fun hvalid => ?_
      rw [Bool.or_eq_true, decide_eq_true_eq, List.any_eq_true] at hbad
      rcases hbad with hlong | ⟨c, hc, hlow⟩
      · exact absurd hvalid.1 (Nat.not_le.mpr hlong)
      · exact absurd (hvalid.2 c hc) (Nat.not_le.mpr (of_decide_eq_true hlow))
  · next hgood =>
      refine iff_of_true rfl ?_
      rw [Bool.or_eq_true, decide_eq_true_eq, List.any_eq_true, not_or] at hgood
      exact ⟨Nat.not_lt.mp hgood.1, fun c hc => Nat.not_lt.mp fun hlow => hgood.2 ⟨c, hc, decide_eq_true hlow⟩⟩

theorem validateJsonText_error {text : Python.Text} {key : Bool} {error : Error}
    (h : validateJsonText text key = .error error) : SchemaError error := by
  unfold validateJsonText at h
  split at h
  · exact ⟨_, (Except.error.inj h).symm⟩
  · cases h

theorem wrappingEntries_ok {entries : List (Key × Python.Value)} : (∃ children, wrappingEntries entries = .ok children) ↔
    Plain (.dict entries) ∧ ∀ text ∈ (Python.Value.dict entries).texts, ValidText text := by
  induction entries with
  | nil => exact iff_of_true ⟨[], rfl⟩ ⟨fun _ hmem => absurd hmem List.not_mem_nil, fun _ hmem => absurd hmem List.not_mem_nil⟩
  | cons entry rest ih =>
      obtain ⟨key, child⟩ := entry
      show _ ↔ (∀ entry ∈ (key, child) :: rest, ∃ text, entry.1 = .str text) ∧
        ∀ text ∈ key.text :: (Python.Value.dict rest).texts, ValidText text
      rw [List.forall_mem_cons, List.forall_mem_cons]
      cases key with
      | other written =>
          refine iff_of_false ?_ ?_
          · rintro ⟨children, h⟩
            cases h
          · rintro ⟨⟨⟨text, htext⟩, -⟩, -⟩
            cases htext
      | str text =>
          constructor
          · rintro ⟨children, h⟩
            unfold wrappingEntries at h
            obtain ⟨_, htext, h₁⟩ := Fallible.bind_ok h
            obtain ⟨others, hothers, -⟩ := Fallible.bind_ok h₁
            obtain ⟨hplain, htexts⟩ := ih.mp ⟨others, hothers⟩
            exact ⟨⟨⟨text, rfl⟩, hplain⟩, validateJsonText_ok.mp htext, htexts⟩
          · rintro ⟨⟨-, hplain⟩, htext, htexts⟩
            obtain ⟨others, hothers⟩ := ih.mpr ⟨hplain, htexts⟩
            refine ⟨child :: others, ?_⟩
            have hvalid : validateJsonText text true = .ok () := validateJsonText_ok.mpr htext
            unfold wrappingEntries
            rw [hvalid, Fallible.ok_bind, hothers]
            rfl

theorem wrappingEntries_error {entries : List (Key × Python.Value)} {error : Error}
    (h : wrappingEntries entries = .error error) : SchemaError error := by
  induction entries with
  | nil => cases h
  | cons entry rest ih =>
      obtain ⟨key, child⟩ := entry
      cases key with
      | other written => exact ⟨_, (Except.error.inj h).symm⟩
      | str text =>
          unfold wrappingEntries at h
          rcases Fallible.bind_error h with htext | ⟨_, -, h₁⟩
          · exact validateJsonText_error htext
          · rcases Fallible.bind_error h₁ with hrest | ⟨_, -, h₂⟩
            · exact ih hrest
            · cases h₂

/-- A node passes both of its checks. -/
theorem wrapping_checks {item : Python.Value} :
    ((∃ children, wrappingChildren item = .ok children) ∧ validateWrappingScalar item = .ok ()) ↔
      Plain item ∧ ∀ text ∈ item.texts, ValidText text := by
  have hnone : ∀ text ∈ ([] : List Python.Text), ValidText text := fun _ hmem => absurd hmem List.not_mem_nil
  cases item with
  | dict entries =>
      rw [← wrappingEntries_ok]
      exact and_iff_left rfl
  | null => exact iff_of_true ⟨⟨[], rfl⟩, rfl⟩ ⟨trivial, hnone⟩
  | bool b => exact iff_of_true ⟨⟨[], rfl⟩, rfl⟩ ⟨trivial, hnone⟩
  | int n => exact iff_of_true ⟨⟨[], rfl⟩, rfl⟩ ⟨trivial, hnone⟩
  | list items => exact iff_of_true ⟨⟨items, rfl⟩, rfl⟩ ⟨trivial, hnone⟩
  | float x =>
      show (∃ children, Except.ok [] = Except.ok children) ∧ (if x.isFinite then Except.ok () else refuse _) = .ok () ↔
        x.isFinite = true ∧ ∀ text ∈ [], ValidText text
      by_cases hfinite : x.isFinite = true
      · rw [if_pos hfinite]
        exact iff_of_true ⟨⟨[], rfl⟩, rfl⟩ ⟨hfinite, hnone⟩
      · rw [if_neg hfinite]
        exact iff_of_false (fun h => by cases h.2) fun h => hfinite h.1
  | str s =>
      show (∃ children, Except.ok [] = Except.ok children) ∧ validateJsonText s false = .ok () ↔
        True ∧ ∀ text ∈ [s], ValidText text
      rw [validateJsonText_ok, List.forall_mem_singleton, true_and]
      exact and_iff_right ⟨[], rfl⟩
  | tuple items => exact iff_of_false (fun h => by cases h.2) fun h => h.1.elim
  | other => exact iff_of_false (fun h => by cases h.2) fun h => h.1.elim

theorem wrappingChildren_error {item : Python.Value} {error : Error} (h : wrappingChildren item = .error error) :
    SchemaError error := by
  cases item with
  | dict entries => exact wrappingEntries_error h
  | null | bool b | int n | float x | str s | list items | tuple items | other => cases h

theorem validateWrappingScalar_error {item : Python.Value} {error : Error} (h : validateWrappingScalar item = .error error) :
    SchemaError error := by
  cases item with
  | str s => exact validateJsonText_error h
  | float x =>
      unfold validateWrappingScalar at h
      dsimp only at h
      split at h
      · cases h
      · exact ⟨_, (Except.error.inj h).symm⟩
  | tuple items => exact ⟨_, (Except.error.inj h).symm⟩
  | other => exact ⟨_, (Except.error.inj h).symm⟩
  | null | bool b | int n | list items | dict entries => cases h

/-! ### The worklist -/

abbrev WrappingVisits : List (Python.Value × Nat) → Nat → Bool → Prop :=
  rose.Visits WrappingNode (fun item => item.children.length) maxWrappingJsonMembers

/-- The loop is one order of visits. -/
theorem wrappingLoop_visits (pending : List (Python.Value × Nat)) (members : Nat) :
    (wrappingLoop pending members = .ok () ∧ WrappingVisits pending members true) ∨
      ∃ error, wrappingLoop pending members = .error error ∧ SchemaError error ∧ WrappingVisits pending members false := by
  induction pending, members using wrappingLoop.induct with
  | case1 members =>
      rw [wrappingLoop]
      exact .inl ⟨rfl, .done members⟩
  | case2 members item depth rest hdeep =>
      rw [wrappingLoop, if_pos hdeep]
      exact .inr ⟨_, rfl, ⟨_, rfl⟩, .refused (.refl _) fun h => absurd h.1.1 (Nat.not_le.mpr hdeep)⟩
  | case3 members item depth rest hdepth error hchildren =>
      rw [wrappingLoop, if_neg hdepth]
      split
      · next other hother =>
          refine .inr ⟨other, rfl, wrappingChildren_error hother, .refused (.refl _) fun h => ?_⟩
          obtain ⟨children, hok⟩ := (wrapping_checks.mpr h.1.2).1
          rw [hother] at hok
          cases hok
      · next children hok =>
          rw [hchildren] at hok
          cases hok
  | case4 members item depth rest hdepth children hchildren counted hmany =>
      rw [wrappingLoop, if_neg hdepth]
      split
      · next error hfailed =>
          rw [hchildren] at hfailed
          cases hfailed
      · next others hok =>
          obtain rfl := Except.ok.inj (hok.symm.trans hchildren)
          dsimp only
          rw [if_pos hmany]
          refine .inr ⟨_, rfl, ⟨_, rfl⟩, .refused (.refl _) fun h => ?_⟩
          rw [← wrappingChildren_children hchildren] at h
          exact absurd h.2 (Nat.not_le.mpr hmany)
  | case5 members item depth rest hdepth children hchildren counted hfew error hscalar =>
      rw [wrappingLoop, if_neg hdepth]
      split
      · next other hfailed =>
          rw [hchildren] at hfailed
          cases hfailed
      · next others hok =>
          obtain rfl := Except.ok.inj (hok.symm.trans hchildren)
          dsimp only
          rw [if_neg hfew, hscalar]
          refine .inr ⟨_, rfl, validateWrappingScalar_error hscalar, .refused (.refl _) fun h => ?_⟩
          have hpassed := (wrapping_checks.mpr h.1.2).2
          rw [hscalar] at hpassed
          cases hpassed
  | case6 members item depth rest hdepth children hchildren counted hfew hscalar ih =>
      rw [wrappingLoop, if_neg hdepth]
      split
      · next error hfailed =>
          rw [hchildren] at hfailed
          cases hfailed
      · next others hok =>
          obtain rfl := Except.ok.inj (hok.symm.trans hchildren)
          dsimp only
          rw [if_neg hfew, hscalar]
          have hnode : WrappingNode item depth :=
            ⟨Nat.not_lt.mp hdepth, wrapping_checks.mp ⟨⟨_, hchildren⟩, hscalar⟩⟩
          have hroom : members + item.children.length ≤ maxWrappingJsonMembers :=
            wrappingChildren_children hchildren ▸ Nat.not_lt.mp hfew
          have hcounted : counted = members + item.children.length := by rw [← wrappingChildren_children hchildren]
          -- the children are taken from the last
          have hperm : ((item.children.map fun child => (child, depth + 1)) ++ rest).Perm
              ((others.map fun child => (child, depth + 1)).reverse ++ rest) := by
            rw [wrappingChildren_children hchildren]
            exact (List.reverse_perm _).symm.append_right rest
          have hnext : ∀ accepted, WrappingVisits
              ((others.map fun child => (child, depth + 1)).reverse ++ rest) counted accepted →
              WrappingVisits ((item, depth) :: rest) members accepted := by
            intro accepted hlater
            rw [hcounted] at hlater
            exact .next (.refl _) hnode hroom (hlater.perm hperm)
          rcases ih with ⟨hok, hvisits⟩ | ⟨error, herror, hschema, hvisits⟩
          · exact .inl ⟨hok, hnext true hvisits⟩
          · exact .inr ⟨error, herror, hschema, hnext false hvisits⟩

/-! ### Wrapping data -/

/-- An object within the recursive bounds: nested at most twelve deep, at most 2000 members in all its objects and lists,
every string and key valid, every number finite. -/
structure WithinWrappingBounds (value : Python.Value) : Prop where
  object : ∃ entries, value = .dict entries
  nodes : rose.All WrappingNode value 0
  members : value.sum (fun item => item.children.length) ≤ maxWrappingJsonMembers

/-- Data within all bounds, that of its encoded size among them. -/
structure WrappingData (value : Python.Value) : Prop where
  bounds : WithinWrappingBounds value
  size : ∃ size, value.encodedSize = .ok size ∧ size ≤ maxWrappingJsonBytes

/-- What is said of the check of a value: it returns data within the bounds as it is and raises the one error for
everything else, and its worklist may take the nodes in any order. -/
structure Validates (value : Python.Value) : Prop where
  accepts : ∀ result, validateWrappingJson value = .ok result ↔ result = value ∧ WrappingData value
  refuses : ∀ error, validateWrappingJson value = .error error → SchemaError error
  ordered : ∀ accepted, WrappingVisits [(value, 0)] 0 accepted → ∀ other, WrappingVisits [(value, 0)] 0 other →
    accepted = other

/-- The worklist accepts what is within the recursive bounds. -/
theorem wrappingVisits_iff {value : Python.Value} {accepted : Bool} (h : WrappingVisits [(value, 0)] 0 accepted) :
    accepted = true ↔ rose.All WrappingNode value 0 ∧
      value.sum (fun item => item.children.length) ≤ maxWrappingJsonMembers := by
  rw [Rose.visits_iff (sum_totals _) h (Nat.zero_le _)]
  unfold Rose.Fits
  rw [List.forall_mem_singleton, List.map_singleton, List.sum_singleton, Nat.zero_add]

theorem wrappingVisits_ordered (value : Python.Value) : ∀ accepted, WrappingVisits [(value, 0)] 0 accepted →
    ∀ other, WrappingVisits [(value, 0)] 0 other → accepted = other := by
  intro accepted h other hother
  exact Bool.eq_iff_iff.mpr ((wrappingVisits_iff h).trans (wrappingVisits_iff hother).symm)

theorem wrappingLoop_iff (value : Python.Value) :
    (wrappingLoop [(value, 0)] 0 = .ok () ↔ rose.All WrappingNode value 0 ∧
      value.sum (fun item => item.children.length) ≤ maxWrappingJsonMembers) ∧
    ∀ error, wrappingLoop [(value, 0)] 0 = .error error → SchemaError error := by
  rcases wrappingLoop_visits [(value, 0)] 0 with ⟨hok, hvisits⟩ | ⟨error, herror, hschema, hvisits⟩
  · exact ⟨iff_of_true hok ((wrappingVisits_iff hvisits).mp rfl), fun error herror => by rw [hok] at herror; cases herror⟩
  · refine ⟨iff_of_false (fun hok => by rw [herror] at hok; cases hok) fun h => ?_, fun other hother => ?_⟩
    · exact absurd ((wrappingVisits_iff hvisits).mpr h) Bool.false_ne_true
    · exact Except.error.inj (herror.symm.trans hother) ▸ hschema

theorem encodedSize_wrapping {value : Python.Value} (h : rose.All WrappingNode value 0) :
    (∃ size, value.encodedSize = .ok size) ↔ rose.All (fun node _ => Encodable node) value 0 :=
  (encodedSize_facts (h.mono rose fun _ _ hnode => hnode.2.1)).1

/-- What is raised by the encoder is not the one error. -/
theorem encodedSize_error {value : Python.Value} (hnodes : rose.All WrappingNode value 0) {error : Error}
    (h : value.encodedSize = .error error) : ¬ SchemaError error := by
  have hraised : ∃ what, error = .raised what := by
    rcases Fallible.bind_error h with hdumps | ⟨text, -, hencoded⟩
    · exact dumps_error value 0 error (hnodes.mono rose fun _ _ hnode => hnode.2.1) hdumps
    · unfold encodedLength at hencoded
      split at hencoded
      · exact ⟨_, (Except.error.inj hencoded).symm⟩
      · cases hencoded
  obtain ⟨what, rfl⟩ := hraised
  rintro ⟨message, hmessage⟩
  cases hmessage

/-- What the check does with an object. -/
theorem validateWrappingJson_dict (entries : List (Key × Python.Value)) : validateWrappingJson (.dict entries) =
    (wrappingLoop [(.dict entries, 0)] 0 >>= fun _ => (Python.Value.dict entries).encodedSize >>= fun size =>
      if size > maxWrappingJsonBytes then refuse "The wrapping data exceeds its reviewed size bound."
      else pure (.dict entries)) := rfl

/-- The check of a value that can be encoded, or is refused before that. -/
theorem validates_of_encodable {value : Python.Value}
    (h : WithinWrappingBounds value → rose.All (fun node _ => Encodable node) value 0) : Validates value := by
  have hobject : (∀ entries, value ≠ .dict entries) → ∃ message, validateWrappingJson value = .error (.schema message) := by
    intro hother
    cases value with
    | dict entries => exact absurd rfl (hother entries)
    | null | bool b | int n | float x | str s | list items | tuple items | other => exact ⟨_, rfl⟩
  by_cases hdict : ∃ entries, value = .dict entries
  · obtain ⟨entries, rfl⟩ := hdict
    obtain ⟨hloop, hloopError⟩ := wrappingLoop_iff (.dict entries)
    have hcheck := validateWrappingJson_dict entries
    cases hresult : wrappingLoop [(.dict entries, 0)] 0 with
    | error error =>
        have hfailed : validateWrappingJson (.dict entries) = .error error := by rw [hcheck, hresult]; rfl
        refine ⟨fun result => iff_of_false (fun hok => ?_) fun hdata => ?_, fun other hother => ?_,
          wrappingVisits_ordered _⟩
        · rw [hfailed] at hok
          cases hok
        · have hpassed := hloop.mpr ⟨hdata.2.bounds.nodes, hdata.2.bounds.members⟩
          rw [hresult] at hpassed
          cases hpassed
        · exact Except.error.inj (hfailed.symm.trans hother) ▸ hloopError error hresult
    | ok u =>
        obtain ⟨hnodes, hmembers⟩ := hloop.mp hresult
        have hbounds : WithinWrappingBounds (.dict entries) := ⟨⟨entries, rfl⟩, hnodes, hmembers⟩
        obtain ⟨size, hsize⟩ := (encodedSize_wrapping hnodes).mpr (h hbounds)
        rw [hresult, hsize] at hcheck
        by_cases hlarge : size > maxWrappingJsonBytes
        · have hfailed : validateWrappingJson (.dict entries) =
              .error (.schema "The wrapping data exceeds its reviewed size bound.") := by
            rw [hcheck, Fallible.ok_bind, Fallible.ok_bind, if_pos hlarge]
            rfl
          refine ⟨fun result => iff_of_false (fun hok => ?_) fun hdata => ?_, fun other hother => ?_,
            wrappingVisits_ordered _⟩
          · rw [hfailed] at hok
            cases hok
          · obtain ⟨other, hother, hsmall⟩ := hdata.2.size
            obtain rfl := Except.ok.inj (hsize.symm.trans hother)
            exact absurd hsmall (Nat.not_le.mpr hlarge)
          · exact Except.error.inj (hfailed.symm.trans hother) ▸ ⟨_, rfl⟩
        · have hpassed : validateWrappingJson (.dict entries) = .ok (.dict entries) := by
            rw [hcheck, Fallible.ok_bind, Fallible.ok_bind, if_neg hlarge]
            rfl
          refine ⟨fun result => ⟨fun hok => ?_, fun hdata => ?_⟩, fun other hother => ?_, wrappingVisits_ordered _⟩
          · exact ⟨Except.ok.inj (hok.symm.trans hpassed), hbounds, size, hsize, Nat.not_lt.mp hlarge⟩
          · rw [hpassed, hdata.1]
          · rw [hpassed] at hother
            cases hother
  · obtain ⟨message, hfailed⟩ := hobject fun entries heq => hdict ⟨entries, heq⟩
    refine ⟨fun result => iff_of_false (fun hok => ?_) fun hdata => hdict hdata.2.bounds.object, fun other hother => ?_,
      wrappingVisits_ordered _⟩
    · rw [hfailed] at hok
      cases hok
    · exact Except.error.inj (hfailed.symm.trans hother) ▸ ⟨message, rfl⟩

/-- The check does what is said of it exactly for the values that can be encoded, or are refused before that: every
string and key without surrogates, every integer of at most 4300 digits. -/
theorem wrapping_validated_iff (value : Python.Value) :
    Validates value ↔ (WithinWrappingBounds value → rose.All (fun node _ => Encodable node) value 0) := by
  refine ⟨fun hvalidates hbounds => ?_, validates_of_encodable⟩
  obtain ⟨entries, rfl⟩ := hbounds.object
  rw [← encodedSize_wrapping hbounds.nodes]
  cases hsize : (Python.Value.dict entries).encodedSize with
  | ok size => exact ⟨size, rfl⟩
  | error error =>
      have hloop := (wrappingLoop_iff (.dict entries)).1.mpr ⟨hbounds.nodes, hbounds.members⟩
      have hfailed : validateWrappingJson (.dict entries) = .error error := by
        rw [validateWrappingJson_dict, hloop, Fallible.ok_bind, hsize]
        rfl
      exact absurd (hvalidates.refuses error hfailed) (encodedSize_error hbounds.nodes hsize)

/-- An object with a lone surrogate for its only value. -/
def surrogateData : Python.Value := .dict [(.str (ascii "a"), .str [⟨0xd800, by decide⟩])]

theorem surrogateData_bounds : WithinWrappingBounds surrogateData where
  object := ⟨_, rfl⟩
  nodes := by
    refine .node ⟨by decide, ?_, ?_⟩ fun c hc => ?_
    · exact List.forall_mem_singleton.mpr ⟨_, rfl⟩
    · refine List.forall_mem_singleton.mpr ⟨by decide +kernel, fun c hc => ?_⟩
      obtain rfl := List.mem_singleton.mp hc
      rw [codePoint_val]
      decide
    · obtain rfl := List.mem_singleton.mp hc
      refine .node ⟨by decide, trivial, ?_⟩ fun c hc => absurd hc List.not_mem_nil
      refine List.forall_mem_singleton.mpr ⟨by decide +kernel, fun c hc => ?_⟩
      obtain rfl := List.mem_singleton.mp hc
      decide
  members := by decide

/-- The surrogate passes every check and is not encoded. -/
theorem surrogate_escapes : validateWrappingJson surrogateData = .error (.raised "UnicodeEncodeError") ∧
    ¬ Validates surrogateData := by
  have hloop := (wrappingLoop_iff surrogateData).1.mpr ⟨surrogateData_bounds.nodes, surrogateData_bounds.members⟩
  have hencoded : surrogateData.encodedSize = .error (.raised "UnicodeEncodeError") := by rfl
  have hraised : validateWrappingJson surrogateData = .error (.raised "UnicodeEncodeError") := by
    unfold surrogateData at hloop hencoded ⊢
    rw [validateWrappingJson_dict, hloop, Fallible.ok_bind, hencoded]
    rfl
  refine ⟨hraised, fun hvalidates => ?_⟩
  obtain ⟨message, hmessage⟩ := hvalidates.refuses _ hraised
  cases hmessage

end Finalization

namespace Engines

/-! ### One node of a request body -/

/-- A node of a request body: keys in the safe grammar, strings within their bound and without NUL. -/
def RequestNode (value : Python.Value) (depth : Nat) : Prop :=
  depth ≤ maxValueDepth ∧ Python.Plain value ∧ match value with
    | .str s => s.length ≤ maxValueString ∧ 0 ∉ s
    | .dict entries => ∀ entry ∈ entries, safeKeyRe entry.1.text = true
    | _ => True

/-- The fields a node has for itself. -/
def fieldsOf (value : Python.Value) : Nat :=
  match value with
  | .dict entries => entries.length
  | _ => 0

/-- The list items a node has for itself. -/
def itemsOf (value : Python.Value) : Nat :=
  match value with
  | .list items => items.length
  | _ => 0

/-! ### Counters -/

/-- The counters are within the bounds. -/
def Counters.Within (counters : Counters) : Prop :=
  counters.fields ≤ maxValueFields ∧ counters.items ≤ maxValueItems

/-- The counters after these values as well. -/
def Counters.after (counters : Counters) (values : List Python.Value) : Counters where
  fields := counters.fields + (values.map (Python.Value.sum fieldsOf)).sum
  items := counters.items + (values.map (Python.Value.sum itemsOf)).sum
  bytes := counters.bytes + (values.map (Python.Value.sum Python.Value.textSize)).sum

theorem Counters.after_cons (counters : Counters) (value : Python.Value) (values : List Python.Value) :
    counters.after (value :: values) = (counters.after [value]).after values := by
  unfold Counters.after
  simp only [List.map_cons, List.map_nil, List.sum_cons, List.sum_nil, Nat.add_zero, Nat.add_assoc]

theorem Counters.Within.of_after {counters : Counters} {values : List Python.Value} (h : (counters.after values).Within) :
    counters.Within := ⟨le_trans (Nat.le_add_right _ _) h.1, le_trans (Nat.le_add_right _ _) h.2⟩

/-- A check passes under a condition, with these counters, and raises the one error otherwise. -/
def Checks (passes : Prop) (result : Except Error Counters) (after : Counters) : Prop :=
  (passes ∧ result = .ok after) ∨ (¬ passes ∧ ∃ error, result = .error error ∧ SchemaError error)

theorem Checks.passed {passes : Prop} {after : Counters} (h : passes) : Checks passes (.ok after) after := .inl ⟨h, rfl⟩

theorem Checks.refused {passes : Prop} {message : String} {after : Counters} (h : ¬ passes) :
    Checks passes (refuse message) after := .inr ⟨h, _, rfl, message, rfl⟩

theorem Checks.congr {passes other : Prop} {result : Except Error Counters} {after : Counters}
    (h : Checks passes result after) (hiff : other ↔ passes) : Checks other result after := by
  unfold Checks
  rw [hiff]
  exact h

/-- One check after another. -/
theorem Checks.andThen {first second : Prop} {result : Except Error Counters} {next : Counters → Except Error Counters}
    {between after : Counters} (h : Checks first result between) (hnext : first → Checks second (next between) after) :
    Checks (first ∧ second) (result >>= next) after := by
  rcases h with ⟨hfirst, rfl⟩ | ⟨hfirst, error, rfl, hschema⟩
  · rcases hnext hfirst with ⟨hsecond, hresult⟩ | ⟨hsecond, error, hresult, hschema⟩
    · exact .inl ⟨⟨hfirst, hsecond⟩, hresult⟩
    · exact .inr ⟨fun h => hsecond h.2, error, hresult, hschema⟩
  · exact .inr ⟨fun h => hfirst h.1, error, rfl, hschema⟩

/-! ### The recursion -/

/-- What the check of a value does at a depth, whatever has been counted before. -/
def Checked (value : Python.Value) (depth : Nat) : Prop :=
  ∀ counters : Counters, counters.Within →
    Checks (rose.All RequestNode value depth ∧ (counters.after [value]).Within) (validateJsonValue value counters depth)
      (counters.after [value])

theorem items_checked {items : List Python.Value} {depth : Nat} (hitems : ∀ item ∈ items, Checked item (depth + 1)) :
    ∀ counters : Counters, counters.Within →
      Checks ((∀ item ∈ items, rose.All RequestNode item (depth + 1)) ∧ (counters.after items).Within)
        (validateJsonItems items counters depth) (counters.after items) := by
  induction items with
  | nil =>
      intro counters hwithin
      exact .passed ⟨fun _ hmem => absurd hmem List.not_mem_nil, hwithin⟩
  | cons item rest ih =>
      intro counters hwithin
      obtain ⟨hitem, hrest⟩ := List.forall_mem_cons.mp hitems
      rw [validateJsonItems, counters.after_cons item rest]
      refine ((hitem counters hwithin).andThen fun hfirst => ih hrest _ hfirst.2).congr ?_
      rw [List.forall_mem_cons]
      exact ⟨fun h => ⟨⟨h.1.1, h.2.of_after⟩, h.1.2, h.2⟩, fun h => ⟨⟨h.1.1, h.2.1⟩, h.2.2⟩⟩

/-- The counters after more bytes. -/
def Counters.spend (counters : Counters) (bytes : Nat) : Counters := { counters with bytes := counters.bytes + bytes }

theorem Counters.spend_after (counters : Counters) (bytes : Nat) (values : List Python.Value) :
    (counters.spend bytes).after values = (counters.after values).spend bytes := by
  unfold Counters.after Counters.spend
  simp only [Nat.add_right_comm]

theorem Counters.spend_spend (counters : Counters) (first second : Nat) :
    (counters.spend first).spend second = counters.spend (first + second) := by
  unfold Counters.spend
  simp only [Nat.add_assoc]

theorem encodedLength_clear {text : Python.Text} (h : text.any surrogate = false) :
    encodedLength text = .ok (textBytes text) := by
  unfold encodedLength
  rw [h]
  rfl

theorem entries_checked {entries : List (Key × Python.Value)} {depth : Nat}
    (hclear : ∀ entry ∈ entries, entry.1.text.any surrogate = false)
    (hentries : ∀ entry ∈ entries, Checked entry.2 (depth + 1)) :
    ∀ counters : Counters, counters.Within →
      Checks ((∀ entry ∈ entries, (∃ text, entry.1 = .str text) ∧ safeKeyRe entry.1.text = true) ∧
          (∀ entry ∈ entries, rose.All RequestNode entry.2 (depth + 1)) ∧
          (counters.after (entries.map Prod.snd)).Within)
        (validateJsonEntries entries counters depth)
        ((counters.after (entries.map Prod.snd)).spend ((entries.map fun entry => textBytes entry.1.text).sum)) := by
  induction entries with
  | nil =>
      intro counters hwithin
      exact .passed ⟨fun _ hmem => absurd hmem List.not_mem_nil, fun _ hmem => absurd hmem List.not_mem_nil, hwithin⟩
  | cons entry rest ih =>
      intro counters hwithin
      obtain ⟨hkey, hkeys⟩ := List.forall_mem_cons.mp hclear
      obtain ⟨hchild, hrest⟩ := List.forall_mem_cons.mp hentries
      obtain ⟨key, child⟩ := entry
      cases key with
      | other written =>
          refine .refused fun h => ?_
          obtain ⟨⟨text, htext⟩, -⟩ := h.1 _ List.mem_cons_self
          cases htext
      | str text =>
          rw [validateJsonEntries]
          cases hsafe : safeKeyRe text with
          | false =>
              refine .refused fun h => ?_
              have hkeySafe : safeKeyRe text = true := (h.1 _ List.mem_cons_self).2
              rw [hsafe] at hkeySafe
              cases hkeySafe
          | true =>
              have hlength : encodedLength text = .ok (textBytes text) := encodedLength_clear hkey
              rw [hlength]
              have hspent : (counters.spend (textBytes text)).Within := hwithin
              have hchecked := @Checks.andThen _ _ _ (fun counters => validateJsonEntries rest counters depth) _ _
                (hchild (counters.spend (textBytes text)) hspent) fun hfirst => ih hkeys hrest _ hfirst.2
              have hafter : (((counters.spend (textBytes text)).after [child]).after (rest.map Prod.snd)).spend
                  ((rest.map fun entry => textBytes entry.1.text).sum) =
                  (counters.after (child :: rest.map Prod.snd)).spend
                    (textBytes text + (rest.map fun entry => textBytes entry.1.text).sum) := by
                rw [Counters.spend_after, Counters.spend_after, Counters.spend_spend, ← Counters.after_cons]
              rw [hafter] at hchecked
              refine Checks.congr hchecked ?_
              have hsame : (((counters.spend (textBytes text)).after [child]).after (rest.map Prod.snd)).Within ↔
                  (counters.after (child :: rest.map Prod.snd)).Within := by
                rw [Counters.spend_after, Counters.spend_after, ← Counters.after_cons]
                rfl
              rw [hsame, List.forall_mem_cons, List.forall_mem_cons]
              constructor
              · rintro ⟨⟨-, hkeysSafe⟩, ⟨hnode, hnodes⟩, hwithinAll⟩
                exact ⟨⟨hnode, (hsame.mpr hwithinAll).of_after⟩, hkeysSafe, hnodes, hwithinAll⟩
              · rintro ⟨⟨hnode, -⟩, hkeysSafe, hnodes, hwithinAll⟩
                exact ⟨⟨⟨⟨text, rfl⟩, hsafe⟩, hkeysSafe⟩, ⟨hnode, hnodes⟩, hwithinAll⟩

theorem Counters.after_single (counters : Counters) (value : Python.Value) : counters.after [value] =
    ⟨counters.fields + value.sum fieldsOf, counters.items + value.sum itemsOf,
      counters.bytes + value.sum Python.Value.textSize⟩ := by
  unfold Counters.after
  simp only [List.map_cons, List.map_nil, List.sum_cons, List.sum_nil, Nat.add_zero]

theorem validateJsonValue_scalar {value : Python.Value} (hdict : ∀ entries, value ≠ .dict entries)
    (hlist : ∀ items, value ≠ .list items) (counters : Counters) (depth : Nat) :
    validateJsonValue value counters depth =
      if depth > maxValueDepth then refuse "The OpenBao request body is nested too deeply."
      else validateJsonScalar value counters := by
  cases value with
  | dict entries => exact absurd rfl (hdict entries)
  | list items => exact absurd rfl (hlist items)
  | null | bool b | int n | float x | str s | tuple items | other =>
      unfold validateJsonValue
      rfl

/-- A node without children: what the check of a scalar does is all. -/
theorem scalar_checked {value : Python.Value} {depth : Nat} (hleaf : value.children = []) (hfields : fieldsOf value = 0)
    (hitems : itemsOf value = 0)
    (hdict : ∀ entries, value ≠ .dict entries) (hlist : ∀ items, value ≠ .list items)
    (hscalar : ∀ counters, Checks (Python.Plain value ∧ match value with
        | .str s => s.length ≤ maxValueString ∧ 0 ∉ s
        | .dict entries => ∀ entry ∈ entries, safeKeyRe entry.1.text = true
        | _ => True) (validateJsonScalar value counters) (counters.spend value.textSize)) : Checked value depth := by
  intro counters hwithin
  have hsum : ∀ weight : Python.Value → Nat, value.sum weight = weight value := by
    intro weight
    rw [sum_totals weight value, show rose.children value = [] from hleaf]
    rfl
  have hafter : counters.after [value] = counters.spend value.textSize := by
    rw [Counters.after_single, hsum, hsum, hsum, hfields, hitems]
    rfl
  have hnone : ∀ c ∈ rose.children value, rose.All RequestNode c (depth + 1) := by
    intro c hc
    rw [show rose.children value = [] from hleaf] at hc
    exact absurd hc List.not_mem_nil
  rw [hafter, validateJsonValue_scalar hdict hlist, rose.all_iff]
  split
  · next hdeep => exact .refused fun h => absurd h.1.1.1 (Nat.not_le.mpr hdeep)
  · next hdepth =>
      refine (hscalar counters).congr ⟨fun h => h.1.1.2, fun h => ⟨⟨⟨Nat.not_lt.mp hdepth, h⟩, hnone⟩, hwithin⟩⟩

theorem Counters.after_list (counters : Counters) (items : List Python.Value) :
    ({ counters with items := counters.items + items.length } : Counters).after items =
      counters.after [.list items] := by
  rw [Counters.after_single, sum_totals fieldsOf (.list items), sum_totals itemsOf (.list items),
    sum_totals Python.Value.textSize (.list items)]
  unfold Counters.after
  simp only [Counters.mk.injEq]
  exact ⟨congrArg (counters.fields + ·) (Nat.zero_add _).symm, Nat.add_assoc _ _ _,
    congrArg (counters.bytes + ·) (Nat.zero_add _).symm⟩

theorem list_checked {items : List Python.Value} {depth : Nat} (hitems : ∀ item ∈ items, Checked item (depth + 1)) :
    Checked (.list items) depth := by
  intro counters hwithin
  rw [validateJsonValue, rose.all_iff, ← counters.after_list items]
  split
  · next hdeep => exact .refused fun h => absurd h.1.1.1 (Nat.not_le.mpr hdeep)
  · next hdepth =>
      dsimp only
      split
      · next hmany => exact .refused fun h => absurd h.2.of_after.2 (Nat.not_le.mpr hmany)
      · next hfew =>
          have hcounted : ({ counters with items := counters.items + items.length } : Counters).Within :=
            ⟨hwithin.1, Nat.not_lt.mp hfew⟩
          refine (items_checked hitems _ hcounted).congr ?_
          exact ⟨fun h => ⟨h.1.2, h.2⟩, fun h => ⟨⟨⟨Nat.not_lt.mp hdepth, trivial, trivial⟩, h.1⟩, h.2⟩⟩

theorem Counters.after_dict (counters : Counters) (entries : List (Key × Python.Value)) :
    (({ counters with fields := counters.fields + entries.length } : Counters).after
      (entries.map Prod.snd)).spend ((entries.map fun entry => textBytes entry.1.text).sum) =
      counters.after [.dict entries] := by
  rw [Counters.after_single, sum_totals fieldsOf (.dict entries), sum_totals itemsOf (.dict entries),
    sum_totals Python.Value.textSize (.dict entries)]
  have hsize : (Python.Value.dict entries).textSize = (entries.map fun entry => textBytes entry.1.text).sum := by
    show ((entries.map fun entry => entry.1.text).map textBytes).sum = _
    rw [List.map_map]
    rfl
  rw [hsize]
  unfold Counters.after Counters.spend
  simp only [Counters.mk.injEq]
  refine ⟨Nat.add_assoc _ _ _, congrArg (counters.items + ·) (Nat.zero_add _).symm, ?_⟩
  rw [Nat.add_assoc, Nat.add_comm (List.sum _) (List.sum _)]
  rfl

theorem dict_checked {entries : List (Key × Python.Value)} {depth : Nat}
    (hkeys : ∀ entry ∈ entries, entry.1.text.any surrogate = false)
    (hvalues : ∀ entry ∈ entries, Checked entry.2 (depth + 1)) : Checked (.dict entries) depth := by
  intro counters hwithin
  have hafter := counters.after_dict entries
  have hwithinAfter : (counters.after [.dict entries]).Within ↔
      (({ counters with fields := counters.fields + entries.length } : Counters).after
        (entries.map Prod.snd)).Within := by
    rw [← hafter]
    rfl
  rw [validateJsonValue, rose.all_iff, hwithinAfter, ← hafter]
  split
  · next hdeep => exact .refused fun h => absurd h.1.1.1 (Nat.not_le.mpr hdeep)
  · next hdepth =>
      dsimp only
      split
      · next hmany => exact .refused fun h => absurd h.2.of_after.1 (Nat.not_le.mpr hmany)
      · next hfew =>
          have hcounted : ({ counters with fields := counters.fields + entries.length } : Counters).Within :=
            ⟨Nat.not_lt.mp hfew, hwithin.2⟩
          refine (entries_checked hkeys hvalues _ hcounted).congr ?_
          constructor
          · rintro ⟨⟨⟨-, hplain, hsafe⟩, hbelowNodes⟩, hall⟩
            exact ⟨fun entry hentry => ⟨hplain entry hentry, hsafe entry hentry⟩,
              fun entry hentry => hbelowNodes _ (List.mem_map_of_mem hentry), hall⟩
          · rintro ⟨hentries, hnodes, hall⟩
            exact ⟨⟨⟨Nat.not_lt.mp hdepth, fun entry hentry => (hentries entry hentry).1,
              fun entry hentry => (hentries entry hentry).2⟩, List.forall_mem_map.mpr hnodes⟩, hall⟩

/-- The check of a value whose strings can be encoded. -/
theorem value_checked (value : Python.Value) :
    ∀ depth, rose.All (fun node _ => Clear node) value depth → Checked value depth := by
  induction value using rose.induct with
  | node value ih =>
      intro depth hall
      obtain ⟨hclear, hbelow⟩ := rose.all_iff.mp hall
      have hchildren : ∀ c ∈ value.children, Checked c (depth + 1) := fun c hc => ih c hc (depth + 1) (hbelow c hc)
      have hunchanged : ∀ (counters : Counters) (passes : Prop), passes → Checks passes (.ok counters) (counters.spend 0) :=
        fun counters passes h => .passed h
      cases value with
      | null =>
          exact scalar_checked rfl rfl rfl (fun _ => nofun) (fun _ => nofun)
            fun counters => hunchanged counters _ ⟨trivial, trivial⟩
      | bool b =>
          exact scalar_checked rfl rfl rfl (fun _ => nofun) (fun _ => nofun)
            fun counters => hunchanged counters _ ⟨trivial, trivial⟩
      | int n =>
          exact scalar_checked rfl rfl rfl (fun _ => nofun) (fun _ => nofun)
            fun counters => hunchanged counters _ ⟨trivial, trivial⟩
      | float x =>
          refine scalar_checked rfl rfl rfl (fun _ => nofun) (fun _ => nofun) fun counters => ?_
          unfold validateJsonScalar
          dsimp only
          split
          · next hfinite => exact hunchanged counters _ ⟨hfinite, trivial⟩
          · next hinfinite => exact .refused fun h => hinfinite h.1
      | str s =>
          refine scalar_checked rfl rfl rfl (fun _ => nofun) (fun _ => nofun) fun counters => ?_
          have hlength := encodedLength_clear (hclear s (List.mem_singleton_self s))
          unfold validateJsonScalar
          dsimp only
          split
          · next hbad =>
              refine .refused fun h => ?_
              rw [Bool.or_eq_true, decide_eq_true_eq, List.contains_iff_mem] at hbad
              exact hbad.elim (fun hlong => absurd h.2.1 (Nat.not_le.mpr hlong)) h.2.2
          · next hgood =>
              rw [Bool.or_eq_true, decide_eq_true_eq, List.contains_iff_mem, not_or] at hgood
              rw [hlength]
              exact .inl ⟨⟨trivial, Nat.not_lt.mp hgood.1, hgood.2⟩, rfl⟩
      | tuple items =>
          exact scalar_checked rfl rfl rfl (fun _ => nofun) (fun _ => nofun)
            fun counters => .refused fun h => h.1.elim
      | other =>
          exact scalar_checked rfl rfl rfl (fun _ => nofun) (fun _ => nofun)
            fun counters => .refused fun h => h.1.elim
      | list items => exact list_checked hchildren
      | dict entries =>
          have hkeys : ∀ entry ∈ entries, entry.1.text.any surrogate = false :=
            fun entry hentry => hclear _ (List.mem_map_of_mem (f := fun entry : Key × Python.Value => entry.1.text) hentry)
          exact dict_checked hkeys fun entry hentry => hchildren _ (List.mem_map_of_mem hentry)

/-! ### Request bodies -/

/-- A body within the bounds: its keys at the top are allowed, its JSON text is short enough, and so on for every node
and for all of them together. -/
structure RequestBody (value : Python.Value) (allowedTopLevel : Option (List Python.Text)) : Prop where
  object : ∃ entries, value = .dict entries ∧
    ∀ allowed, allowedTopLevel = some allowed → ∀ entry ∈ entries, ∃ key ∈ allowed, entry.1 = .str key
  encoded : ∃ size, value.encodedSize = .ok size ∧ size ≤ maxRequestBytes
  nodes : rose.All RequestNode value 0
  fields : value.sum fieldsOf ≤ maxValueFields
  items : value.sum itemsOf ≤ maxValueItems

theorem declared_iff {allowed : List Python.Text} {entries : List (Key × Python.Value)} :
    declared allowed entries = true ↔ ∀ entry ∈ entries, ∃ key ∈ allowed, entry.1 = .str key := by
  unfold declared
  rw [List.all_eq_true]
  refine forall_congr' fun entry => imp_congr_right fun _ => ?_
  cases entry.1 with
  | str key =>
      dsimp only
      rw [List.contains_iff_mem]
      exact ⟨fun hmem => ⟨key, hmem, rfl⟩, fun ⟨other, hmem, heq⟩ => Key.str.inj heq ▸ hmem⟩
  | other written => exact iff_of_false Bool.false_ne_true fun ⟨_, _, heq⟩ => by cases heq

/-- A value that is refused, and is no body within the bounds. -/
theorem refused_body {value : Python.Value} {allowedTopLevel : Option (List Python.Text)} {error : Error}
    (hresult : validateBoundedJson value allowedTopLevel = .error error) (hschema : SchemaError error)
    (hbody : ¬ RequestBody value allowedTopLevel) :
    (∀ result, validateBoundedJson value allowedTopLevel = .ok result ↔
      result = value ∧ RequestBody value allowedTopLevel) ∧
    ∀ error, validateBoundedJson value allowedTopLevel = .error error → SchemaError error := by
  rw [hresult]
  refine ⟨fun result => iff_of_false nofun fun h => hbody h.2, fun other hother => ?_⟩
  obtain rfl := Except.error.inj hother
  exact hschema

theorem undeclared_iff {entries : List (Key × Python.Value)} {allowedTopLevel : Option (List Python.Text)} :
    (allowedTopLevel.any fun allowed => !declared allowed entries) = false ↔
      ∀ allowed, allowedTopLevel = some allowed → ∀ entry ∈ entries, ∃ key ∈ allowed, entry.1 = .str key := by
  cases allowedTopLevel with
  | none => exact iff_of_true rfl nofun
  | some allowed =>
      rw [Option.any_some, Bool.not_eq_false', declared_iff]
      exact ⟨fun h other heq => Option.some.inj heq ▸ h, fun h => h allowed rfl⟩

theorem validateBoundedJson_dict (entries : List (Python.Key × Python.Value))
    (allowedTopLevel : Option (List Python.Text)) : validateBoundedJson (.dict entries) allowedTopLevel =
      if allowedTopLevel.any fun allowed => !declared allowed entries then
        refuse "The OpenBao request body contains an undeclared field."
      else match (Python.Value.dict entries).encodedSize with
        | .error _ => refuse "The OpenBao request body contains an unsupported value."
        | .ok encodedSize =>
            if encodedSize > maxRequestBytes then refuse "The OpenBao request body is too large."
            else validateJsonValue (.dict entries) ⟨0, 0, 0⟩ 0 >>= fun counters =>
              if counters.bytes > maxRequestBytes then refuse "The OpenBao request body is too large."
              else pure (.dict entries) :=
  rfl

/-- The check of a dict with allowed keys and a short text is that of its nodes. -/
theorem encoded_body_iff {entries : List (Key × Python.Value)} {allowedTopLevel : Option (List Python.Text)} {size : Nat}
    (hdeclared : (allowedTopLevel.any fun allowed => !declared allowed entries) = false)
    (hsize : (Python.Value.dict entries).encodedSize = .ok size) (hlarge : ¬ size > maxRequestBytes) :
    (∀ result, validateBoundedJson (.dict entries) allowedTopLevel = .ok result ↔
      result = .dict entries ∧ RequestBody (.dict entries) allowedTopLevel) ∧
    ∀ error, validateBoundedJson (.dict entries) allowedTopLevel = .error error → SchemaError error := by
  have hcheck := validateBoundedJson_dict entries allowedTopLevel
  rw [hdeclared, if_neg Bool.false_ne_true, hsize] at hcheck
  dsimp only at hcheck
  rw [if_neg hlarge] at hcheck
  have hclear : rose.All (fun node _ => Clear node) (.dict entries) 0 := by
    obtain ⟨text, htext, hencoded⟩ := Fallible.bind_ok hsize
    unfold encodedLength at hencoded
    split at hencoded
    · cases hencoded
    · next hsurrogate => exact clear_of_dumps _ 0 text htext (Bool.eq_false_iff.mpr hsurrogate)
  rcases value_checked _ 0 hclear ⟨0, 0, 0⟩ ⟨Nat.zero_le _, Nat.zero_le _⟩ with
    ⟨⟨hnodes, hwithin⟩, hresult⟩ | ⟨hfailed, error, hresult, hschema⟩
  · rw [Counters.after_single, Nat.zero_add, Nat.zero_add, Nat.zero_add] at hwithin hresult
    have hfits := (encodedSize_facts (hnodes.mono rose fun _ _ hnode => hnode.2.1)).2 size hsize
    have hsmall : ¬ (Python.Value.dict entries).sum Python.Value.textSize > maxRequestBytes :=
      Nat.not_lt.mpr (le_trans hfits (Nat.not_lt.mp hlarge))
    rw [hresult, Fallible.ok_bind, if_neg hsmall] at hcheck
    have hbody : RequestBody (.dict entries) allowedTopLevel :=
      ⟨⟨entries, rfl, undeclared_iff.mp hdeclared⟩, ⟨size, hsize, Nat.not_lt.mp hlarge⟩, hnodes, hwithin.1,
        hwithin.2⟩
    rw [hcheck]
    refine ⟨fun result => ⟨fun h => ⟨(Except.ok.inj h).symm, hbody⟩, fun h => ?_⟩, fun error h => by cases h⟩
    rw [h.1]
    rfl
  · rw [hresult] at hcheck
    refine refused_body hcheck hschema fun hbody => hfailed ⟨hbody.nodes, ?_⟩
    rw [Counters.after_single, Nat.zero_add, Nat.zero_add]
    exact ⟨hbody.fields, hbody.items⟩

/-- The check returns a body within the bounds as it is, and raises the one error for everything else. -/
theorem bounded_json_iff (value : Python.Value) (allowedTopLevel : Option (List Python.Text)) :
    (∀ result, validateBoundedJson value allowedTopLevel = .ok result ↔
      result = value ∧ RequestBody value allowedTopLevel) ∧
    ∀ error, validateBoundedJson value allowedTopLevel = .error error → SchemaError error := by
  by_cases hobject : ∃ entries, value = .dict entries
  · obtain ⟨entries, rfl⟩ := hobject
    have hcheck := validateBoundedJson_dict entries allowedTopLevel
    cases hdeclared : allowedTopLevel.any fun allowed => !declared allowed entries with
    | true =>
        rw [hdeclared] at hcheck
        refine refused_body hcheck ⟨_, rfl⟩ fun hbody => ?_
        obtain ⟨others, hsame, hallowed⟩ := hbody.object
        obtain rfl := Python.Value.dict.inj hsame
        rw [undeclared_iff.mpr hallowed] at hdeclared
        cases hdeclared
    | false =>
        rw [hdeclared, if_neg Bool.false_ne_true] at hcheck
        cases hsize : (Python.Value.dict entries).encodedSize with
        | error error =>
            rw [hsize] at hcheck
            refine refused_body hcheck ⟨_, rfl⟩ fun hbody => ?_
            obtain ⟨size, hencoded, -⟩ := hbody.encoded
            rw [hsize] at hencoded
            cases hencoded
        | ok size =>
            rw [hsize] at hcheck
            dsimp only at hcheck
            by_cases hlarge : size > maxRequestBytes
            · rw [if_pos hlarge] at hcheck
              refine refused_body hcheck ⟨_, rfl⟩ fun hbody => ?_
              obtain ⟨other, hencoded, hsmall⟩ := hbody.encoded
              obtain rfl := Except.ok.inj (hsize.symm.trans hencoded)
              exact absurd hsmall (Nat.not_le.mpr hlarge)
            · exact encoded_body_iff hdeclared hsize hlarge
  · have hfailed : ∃ message, validateBoundedJson value allowedTopLevel = .error (.schema message) := by
      cases value with
      | dict entries => exact absurd ⟨entries, rfl⟩ hobject
      | null | bool b | int n | float x | str s | list items | tuple items | other => exact ⟨_, rfl⟩
    obtain ⟨message, hresult⟩ := hfailed
    refine refused_body hresult ⟨message, rfl⟩ fun hbody => hobject ?_
    obtain ⟨entries, hdict, -⟩ := hbody.object
    exact ⟨entries, hdict⟩

end Engines

end NetboxOpenbao
