import NetboxOpenbao.CustomMetadata
import NetboxOpenbao.Coding.Delimited

/-!
# When OpenBao takes the metadata

Every value of the envelope but two is bounded by the column it comes from. The list of assignments is as long as the
credential is shared, and the URL as long as the site's address: the envelope is taken when these two fit.
-/

namespace NetboxOpenbao.CustomMetadata

/-! ### The statement -/

/-- The length of a credential's labels with commas between them. -/
def Credential.labelsLength (credential : Credential) : Nat :=
  (credential.assignments.map fun assignment => assignment.label.length).sum + (credential.assignments.length - 1)

/-- The values whose length no column bounds are not too long. -/
structure Fits (site : Site) (credential : Credential) : Prop where
  labels : credential.labelsLength ≤ 512
  url : ∀ url, site.absoluteUrl credential.pk = some url → Text.rstripSlashes site.siteUrl ≠ "" →
    (Text.rstripSlashes site.siteUrl).length + url.length ≤ 512

/-- What OpenBao demands of a value. -/
def Valid (value : String) : Prop := 0 < value.length ∧ value.length ≤ 512

instance (value : String) : Decidable (Valid value) := inferInstanceAs (Decidable (_ ∧ _))

/-- OpenBao takes an envelope unless one of its values is empty or too long: "must be 0 < len(value) <= 512". -/
def ChecksValues (accepts : Metadata → Bool) : Prop :=
  ∀ metadata, accepts metadata = true ↔ ∀ entry ∈ metadata, Valid entry.2

/-! ### The lengths -/

theorem uuidText_length (uuid : BitVec 128) : (uuidText uuid).length = 36 := by
  have hdigits : ((Nat.toDigits 16 uuid.toNat).leftpad 32 '0').length = 32 := by
    rw [List.length_leftpad]
    exact Nat.max_eq_left ((Nat.length_toDigits_le_iff (by decide) (by decide)).mpr uuid.isLt)
  unfold uuidText
  simp only [String.length_ofList, List.length_append, List.length_cons, List.length_take, List.length_drop, hdigits]
  decide

theorem repr_length {n : Nat} (h : n < 2 ^ 63) : (Nat.repr n).length ≤ 19 := by
  rw [Nat.repr_eq_ofList_toDigits, String.length_ofList]
  exact (Nat.length_toDigits_le_iff (by decide) (by decide)).mpr (Nat.lt_of_lt_of_le h (by decide))

theorem labels_length (credential : Credential) :
    (",".intercalate (credential.assignments.map CredentialAssignment.label)).length = credential.labelsLength := by
  rw [Coding.joined_length, List.map_map, List.length_map]
  unfold Credential.labelsLength
  rw [show ",".length = 1 from rfl, Nat.mul_one]
  rfl

/-! ### The envelope -/

theorem ne_empty_iff {value : String} : (value != "") = true ↔ 0 < value.length := by
  rw [bne_iff_ne, Nat.pos_iff_ne_zero]
  exact not_congr String.length_eq_zero_iff.symm

/-- Leaving out the empty values leaves out no long one. -/
theorem filter_lengths {metadata : Metadata} :
    (∀ entry ∈ metadata.filter fun entry => entry.2 != "", Valid entry.2) ↔ ∀ entry ∈ metadata, entry.2.length ≤ 512 := by
  constructor
  · intro h entry hentry
    by_cases hempty : entry.2 = ""
    · rw [hempty]
      exact Nat.zero_le _
    · exact (h entry (List.mem_filter.mpr ⟨hentry, bne_iff_ne.mpr hempty⟩)).2
  · intro h entry hentry
    obtain ⟨hmem, hne⟩ := List.mem_filter.mp hentry
    exact ⟨ne_empty_iff.mp hne, h entry hmem⟩

/-- The values that columns bound. -/
theorem column_length (credential : Credential) :
    (∀ entry ∈ [("managed_by", "netbox-openbao"), ("netbox_credential_id", Nat.repr credential.pk),
      ("netbox_credential_uuid", uuidText credential.uuid), ("netbox_credential_type", credential.credentialType),
      ("netbox_policy", credential.policy.getD "")], entry.2.length ≤ 512) := by
  intro entry hentry
  simp only [List.mem_cons, List.not_mem_nil, or_false] at hentry
  rcases hentry with rfl | rfl | rfl | rfl | rfl
  · exact (by decide : "netbox-openbao".length ≤ 512)
  · exact Nat.le_trans (repr_length credential.pk_lt) (by decide)
  · exact Nat.le_trans (Nat.le_of_eq (uuidText_length credential.uuid)) (by decide)
  · exact Nat.le_trans credential.credentialType_le (by decide)
  · cases hpolicy : credential.policy with
    | none => exact Nat.zero_le _
    | some slug => exact Nat.le_trans (credential.policy_le slug hpolicy) (by decide)

theorem source_length (credential : Credential) :
    ∀ entry ∈ (if credential.importSource != "" then [("netbox_import_source", credential.importSource)] else []),
      entry.2.length ≤ 512 := by
  intro entry hentry
  split at hentry
  · obtain rfl := List.mem_singleton.mp hentry
    exact Nat.le_trans credential.importSource_le (by decide)
  · cases hentry

theorem url_length (site : Site) (credential : Credential) :
    (∀ entry ∈ (if Text.rstripSlashes site.siteUrl != "" then (site.absoluteUrl credential.pk).toList.map fun url =>
      ("netbox_url", Text.rstripSlashes site.siteUrl ++ url) else []), entry.2.length ≤ 512) ↔
      ∀ url, site.absoluteUrl credential.pk = some url → Text.rstripSlashes site.siteUrl ≠ "" →
        (Text.rstripSlashes site.siteUrl).length + url.length ≤ 512 := by
  cases hbase : Text.rstripSlashes site.siteUrl != "" with
  | false =>
      have hempty : Text.rstripSlashes site.siteUrl = "" := bne_eq_false_iff_eq.mp hbase
      exact ⟨fun _ _ _ hne => absurd hempty hne, fun _ => nofun⟩
  | true =>
      have hne : Text.rstripSlashes site.siteUrl ≠ "" := bne_iff_ne.mp hbase
      rw [if_pos rfl]
      cases site.absoluteUrl credential.pk with
      | none => exact ⟨nofun, nofun⟩
      | some url =>
          rw [Option.toList_some, List.map_singleton, List.forall_mem_singleton, String.length_append]
          exact ⟨fun h _ hsame _ => Option.some.inj hsame ▸ h, fun h => h url rfl hne⟩

theorem entries_valid_iff (site : Site) (credential : Credential) :
    (∀ entry ∈ buildCustomMetadata site credential, Valid entry.2) ↔ Fits site credential := by
  unfold buildCustomMetadata
  rw [filter_lengths, List.forall_mem_append, List.forall_mem_append, url_length]
  constructor
  · rintro ⟨⟨hcolumns, -⟩, hurl⟩
    refine ⟨?_, hurl⟩
    rw [← labels_length]
    exact hcolumns ("netbox_assignments", _) (List.mem_append_right [_, _, _, _, _] (List.mem_singleton_self _))
  · intro h
    refine ⟨⟨fun entry hentry => ?_, source_length credential⟩, h.url⟩
    rcases List.mem_append.mp (show entry ∈ [_, _, _, _, _] ++ [_] from hentry) with hcolumn | hlabels
    · exact column_length credential entry hcolumn
    · rw [List.mem_singleton.mp hlabels, labels_length]
      exact h.labels

/-! ### The answer -/

theorem publish_published_iff {accepts : Metadata → Bool} (haccepts : ChecksValues accepts) {site : Site}
    {credential : Credential} :
    publishCustomMetadata accepts site (some credential) = .published (buildCustomMetadata site credential) ↔
      Fits site credential := by
  rw [← entries_valid_iff, ← haccepts]
  unfold publishCustomMetadata
  dsimp only
  split
  · next haccepted => exact ⟨fun _ => haccepted, fun _ => rfl⟩
  · next hrefused =>
      constructor
      · intro hpublished
        cases hpublished
      · exact fun haccepted => absurd haccepted hrefused

/-- Every value is of a length that OpenBao takes, and the publication succeeds, exactly when the list of assignments
and the URL fit. -/
theorem custom_metadata_published_iff {accepts : Metadata → Bool} (haccepts : ChecksValues accepts) (site : Site)
    (credential : Credential) :
    ((∀ entry ∈ buildCustomMetadata site credential, entry.2 ≠ "" ∧ entry.2.length ≤ 512) ∧
      publishCustomMetadata accepts site (some credential) = .published (buildCustomMetadata site credential)) ↔
      Fits site credential := by
  refine ⟨fun h => (publish_published_iff haccepts).mp h.2,
    fun h => ⟨fun entry hentry => ?_, (publish_published_iff haccepts).mpr h⟩⟩
  obtain ⟨hpositive, hlength⟩ := (entries_valid_iff site credential).mpr h entry hentry
  exact ⟨bne_iff_ne.mp (ne_empty_iff.mpr hpositive), hlength⟩

/-- One login, assigned to this many devices. -/
def Sample.fleetLogin (devices : Fin 64) : Credential where
  pk := 1
  uuid := 0
  credentialType := "api-token"
  policy := some "core"
  importSource := ""
  assignments := (List.finRange devices).map fun i : Fin devices =>
    ⟨⟨"dcim", "device", by decide, by decide⟩, i.val + 1,
      Nat.lt_of_le_of_lt i.isLt (Nat.lt_trans devices.isLt (by decide))⟩
  pk_lt := by decide
  credentialType_le := by decide
  policy_le slug hslug := by
    obtain rfl := Option.some.inj hslug
    decide
  importSource_le := by decide

/-- The labels of forty devices are too long for one value. -/
theorem fleet_metadata_refused : ¬ ∀ (site : Site) (credential : Credential),
    ∀ entry ∈ buildCustomMetadata site credential, entry.2 ≠ "" ∧ entry.2.length ≤ 512 := by
  intro h
  have hfits : Fits ⟨"", fun _ => none⟩ (Sample.fleetLogin 40) := (entries_valid_iff _ _).mp fun entry hentry =>
    ⟨ne_empty_iff.mp (bne_iff_ne.mpr (h _ _ entry hentry).1), (h _ _ entry hentry).2⟩
  exact absurd hfits.labels (by decide +kernel)

/-- A server that looks at the values. -/
def Sample.accepts (metadata : Metadata) : Bool := metadata.all fun entry => decide (Valid entry.2)

theorem Sample.accepts_checks : ChecksValues Sample.accepts := by
  intro metadata
  rw [Sample.accepts, List.all_eq_true]
  exact forall₂_congr fun _ _ => decide_eq_true_iff

/-- The metadata of a login for three devices is published, with its URL. -/
theorem three_devices_published :
    publishCustomMetadata Sample.accepts ⟨"https://netbox.example/", fun _ => some "/plugins/openbao/credentials/1/"⟩
        (some (Sample.fleetLogin 3)) =
      .published (buildCustomMetadata ⟨"https://netbox.example/", fun _ => some "/plugins/openbao/credentials/1/"⟩
        (Sample.fleetLogin 3)) := by
  refine ((custom_metadata_published_iff Sample.accepts_checks _ _).mpr ⟨by decide +kernel, ?_⟩).2
  intro url hurl _
  obtain rfl := Option.some.inj hurl
  decide +kernel

end NetboxOpenbao.CustomMetadata
