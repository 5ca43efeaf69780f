import NetboxOpenbao.Administration.Access
import NetboxOpenbao.Administration.AuthenticationResults
import NetboxOpenbao.Effect.Fallible
import NetboxOpenbao.Proof.Administration.Dumps

/-!
# What a response without material holds

Two of the three filters keep a response as it is but for the keys of their list, in any letter case. The third, of the
metadata of a login, looks for its keys in lower case only.
-/

namespace NetboxOpenbao

open Effect

/-! ### A tree without the values under some keys -/

/-- `key` is one of `keys`, ignoring case. -/
def material (keys : List String) (key : String) : Bool := keys.contains (Text.lower key)

mutual

/-- A tree without the entries of some keys, whatever they hold. -/
def Json.without (keys : List String) : Json → Json
  | .list items => .list (itemsWithout keys items)
  | .dict entries => .dict (entriesWithout keys entries)
  | .null => .null
  | .bool b => .bool b
  | .int n => .int n
  | .float x => .float x
  | .str s => .str s

def itemsWithout (keys : List String) : List Json → List Json
  | [] => []
  | item :: rest => item.without keys :: itemsWithout keys rest

def entriesWithout (keys : List String) : JsonObject → JsonObject
  | [] => []
  | (key, value) :: rest =>
      if material keys key then entriesWithout keys rest
      else (key, value.without keys) :: entriesWithout keys rest

end

mutual

/-- A tree with nothing under some keys. -/
def Json.masked (keys : List String) : Json → Json
  | .list items => .list (itemsMasked keys items)
  | .dict entries => .dict (entriesMasked keys entries)
  | .null => .null
  | .bool b => .bool b
  | .int n => .int n
  | .float x => .float x
  | .str s => .str s

def itemsMasked (keys : List String) : List Json → List Json
  | [] => []
  | item :: rest => item.masked keys :: itemsMasked keys rest

def entriesMasked (keys : List String) : JsonObject → JsonObject
  | [] => []
  | (key, value) :: rest =>
      (key, if material keys key then .null else value.masked keys) :: entriesMasked keys rest

end

mutual

/-- The keys of a tree, at any depth. -/
def Json.keyNames : Json → List String
  | .list items => itemsKeyNames items
  | .dict entries => entriesKeyNames entries
  | .null | .bool _ | .int _ | .float _ | .str _ => []

def itemsKeyNames : List Json → List String
  | [] => []
  | item :: rest => item.keyNames ++ itemsKeyNames rest

def entriesKeyNames : JsonObject → List String
  | [] => []
  | (key, value) :: rest => key :: (value.keyNames ++ entriesKeyNames rest)

end

/-- The trees differ in values under these keys only. -/
def Json.Agree (keys : List String) (v w : Json) : Prop := v.masked keys = w.masked keys

/-- No key of the tree is one of these, ignoring case. -/
def Json.Clean (keys : List String) (v : Json) : Prop := ∀ key ∈ v.keyNames, material keys key = false

variable {keys : List String}

theorem Json.without_clean (v : Json) : (v.without keys).Clean keys := by
  induction v using Json.induct with
  | null => exact fun _ hmem => absurd hmem List.not_mem_nil
  | bool b => exact fun _ hmem => absurd hmem List.not_mem_nil
  | int n => exact fun _ hmem => absurd hmem List.not_mem_nil
  | float x => exact fun _ hmem => absurd hmem List.not_mem_nil
  | str s => exact fun _ hmem => absurd hmem List.not_mem_nil
  | list items ih =>
      show ∀ key ∈ itemsKeyNames (itemsWithout keys items), material keys key = false
      induction items with
      | nil => exact fun _ hmem => absurd hmem List.not_mem_nil
      | cons item rest ihrest =>
          obtain ⟨hitem, hrest⟩ := List.forall_mem_cons.mp ih
          rw [itemsWithout, itemsKeyNames]
          exact fun key hkey => (List.mem_append.mp hkey).elim (hitem key) (ihrest hrest key)
  | dict entries ih =>
      show ∀ key ∈ entriesKeyNames (entriesWithout keys entries), material keys key = false
      induction entries with
      | nil => exact fun _ hmem => absurd hmem List.not_mem_nil
      | cons entry rest ihrest =>
          obtain ⟨hentry, hrest⟩ := List.forall_mem_cons.mp ih
          rw [entriesWithout]
          split
          · exact ihrest hrest
          · next hkept =>
              rw [entriesKeyNames]
              intro key hkey
              rcases List.mem_cons.mp hkey with rfl | hlater
              · exact Bool.eq_false_iff.mpr hkept
              · exact (List.mem_append.mp hlater).elim (hentry key) (ihrest hrest key)

theorem Json.without_masked (v : Json) : (v.masked keys).without keys = v.without keys := by
  induction v using Json.induct with
  | null => rfl
  | bool b => rfl
  | int n => rfl
  | float x => rfl
  | str s => rfl
  | list items ih =>
      rw [Json.masked, Json.without, Json.without]
      congr 1
      induction items with
      | nil => rfl
      | cons item rest ihrest =>
          obtain ⟨hitem, hrest⟩ := List.forall_mem_cons.mp ih
          rw [itemsMasked, itemsWithout, itemsWithout, hitem, ihrest hrest]
  | dict entries ih =>
      rw [Json.masked, Json.without, Json.without]
      congr 1
      induction entries with
      | nil => rfl
      | cons entry rest ihrest =>
          obtain ⟨hentry, hrest⟩ := List.forall_mem_cons.mp ih
          rw [entriesMasked, entriesWithout, entriesWithout, ihrest hrest]
          by_cases hkey : material keys entry.1 = true
          · rw [if_pos hkey, if_pos hkey]
          · rw [if_neg hkey, if_neg hkey, if_neg hkey, hentry]

theorem Json.Agree.without {v w : Json} (h : v.Agree keys w) : v.without keys = w.without keys := by
  rw [← v.without_masked, h, w.without_masked]

theorem entriesMasked_lookup {key : String} (hkey : material keys key = false) (entries : JsonObject) :
    (entriesMasked keys entries).lookup key = (entries.lookup key).map (Json.masked keys) := by
  induction entries with
  | nil => rfl
  | cons entry rest ih =>
      obtain ⟨name, value⟩ := entry
      rw [entriesMasked, List.lookup_cons, List.lookup_cons, ih]
      by_cases hname : (key == name) = true
      · obtain rfl := beq_iff_eq.mp hname
        rw [hname, if_neg (Bool.eq_false_iff.mp hkey)]
        rfl
      · rw [Bool.eq_false_iff.mpr hname]

/-- The values of dicts that agree do so under every other key. -/
theorem Json.Agree.get {entries others : JsonObject} (h : (Json.dict entries).Agree keys (.dict others)) {key : String}
    (hkey : material keys key = false) {default missing : Json} (hdefault : default.Agree keys missing) :
    (JsonObject.get entries key default).Agree keys (JsonObject.get others key missing) := by
  have hmasked : entriesMasked keys entries = entriesMasked keys others := Json.dict.inj h
  have hlookup := entriesMasked_lookup hkey entries
  rw [hmasked, entriesMasked_lookup hkey others] at hlookup
  unfold Json.Agree JsonObject.get
  cases hleft : entries.lookup key with
  | none =>
      rw [hleft] at hlookup
      rw [Option.map_eq_none_iff.mp hlookup]
      exact hdefault
  | some v =>
      rw [hleft] at hlookup
      cases hright : others.lookup key with
      | none =>
          rw [hright] at hlookup
          cases hlookup
      | some w =>
          rw [hright] at hlookup
          exact (Option.some.inj hlookup).symm

theorem Json.Agree.of_dict {entries : JsonObject} {w : Json} (h : (Json.dict entries).Agree keys w) :
    ∃ others, w = .dict others := by
  cases w with
  | dict others => exact ⟨others, rfl⟩
  | null | bool b | int n | float x | str s | list items => cases h

theorem entriesMasked_keys (entries : JsonObject) : (entriesMasked keys entries).map Prod.fst = entries.map Prod.fst := by
  induction entries with
  | nil => rfl
  | cons entry rest ih => rw [entriesMasked, List.map_cons, List.map_cons, ih]

/-! ### Filters -/

/-- How a filter of trees goes through a tree that it accepts. -/
structure Filters (keys : List String) (value : Json → Nat → Except Error Json)
    (items : List Json → Nat → Except Error (List Json)) (entries : JsonObject → Nat → Except Error JsonObject) :
    Prop where
  scalar : ∀ {v out depth}, (∀ xs, v ≠ .list xs) → (∀ es, v ≠ .dict es) → value v depth = .ok out → out = v
  list : ∀ {xs out depth}, value (.list xs) depth = .ok out → ∃ ys, items xs depth = .ok ys ∧ out = .list ys
  dict : ∀ {es out depth}, value (.dict es) depth = .ok out → ∃ kept, entries es depth = .ok kept ∧ out = .dict kept
  items_nil : ∀ {out depth}, items [] depth = .ok out → out = []
  items_cons : ∀ {x xs out depth}, items (x :: xs) depth = .ok out →
    ∃ y ys, value x (depth + 1) = .ok y ∧ items xs depth = .ok ys ∧ out = y :: ys
  entries_nil : ∀ {out depth}, entries [] depth = .ok out → out = []
  dropped : ∀ {key v rest out depth}, material keys key = true → entries ((key, v) :: rest) depth = .ok out →
    entries rest depth = .ok out
  kept : ∀ {key v rest out depth}, material keys key = false → entries ((key, v) :: rest) depth = .ok out →
    ∃ w others, value v (depth + 1) = .ok w ∧ entries rest depth = .ok others ∧ out = (key, w) :: others

/-- What such a filter returns is the tree without the keys. -/
theorem Filters.without {value : Json → Nat → Except Error Json} {items : List Json → Nat → Except Error (List Json)}
    {entries : JsonObject → Nat → Except Error JsonObject} (h : Filters keys value items entries) (v : Json) :
    ∀ depth out, value v depth = .ok out → out = v.without keys := by
  induction v using Json.induct with
  | null => exact fun _ _ hout => h.scalar (fun _ => nofun) (fun _ => nofun) hout
  | bool b => exact fun _ _ hout => h.scalar (fun _ => nofun) (fun _ => nofun) hout
  | int n => exact fun _ _ hout => h.scalar (fun _ => nofun) (fun _ => nofun) hout
  | float x => exact fun _ _ hout => h.scalar (fun _ => nofun) (fun _ => nofun) hout
  | str s => exact fun _ _ hout => h.scalar (fun _ => nofun) (fun _ => nofun) hout
  | list xs ih =>
      intro depth out hout
      obtain ⟨ys, hys, rfl⟩ := h.list hout
      clear hout
      rw [Json.without]
      congr 1
      induction xs generalizing ys with
      | nil => exact h.items_nil hys
      | cons x xs ihxs =>
          obtain ⟨hx, hxs⟩ := List.forall_mem_cons.mp ih
          obtain ⟨y, rest, hy, hrest, rfl⟩ := h.items_cons hys
          rw [itemsWithout, hx _ y hy, ihxs hxs rest hrest]
  | dict es ih =>
      intro depth out hout
      obtain ⟨kept, hkept, rfl⟩ := h.dict hout
      clear hout
      rw [Json.without]
      congr 1
      induction es generalizing kept with
      | nil => exact h.entries_nil hkept
      | cons entry es ihes =>
          obtain ⟨hentry, hes⟩ := List.forall_mem_cons.mp ih
          obtain ⟨key, v⟩ := entry
          rw [entriesWithout]
          cases hkey : material keys key with
          | true => exact ihes hes kept (h.dropped hkey hkept)
          | false =>
              obtain ⟨w, others, hw, hothers, rfl⟩ := h.kept hkey hkept
              rw [if_neg Bool.false_ne_true, hentry _ w hw, ihes hes others hothers]

/-! ### Responses about access -/

namespace Access

theorem response_filters : Filters accessMaterialKeys (fun v depth => normalizeResponseValue v false depth)
    (fun xs depth => normalizeResponseList xs false depth) (fun es depth => normalizeResponseDict es false depth) where
  scalar := by
    intro v out depth hlist hdict h
    unfold normalizeResponseValue at h
    split at h
    · cases h
    · cases v with
      | list xs => exact absurd rfl (hlist xs)
      | dict es => exact absurd rfl (hdict es)
      | null => exact (Except.ok.inj h).symm
      | bool b => exact (Except.ok.inj h).symm
      | int n => exact (Except.ok.inj h).symm
      | float x =>
          dsimp only at h
          split at h
          · exact (Except.ok.inj h).symm
          · cases h
      | str s =>
          dsimp only at h
          split at h
          · cases h
          · exact (Except.ok.inj h).symm
  list := by
    intro xs out depth h
    unfold normalizeResponseValue at h
    split at h
    · cases h
    · dsimp only at h
      split at h
      · cases h
      · obtain ⟨ys, hys, hout⟩ := Fallible.bind_ok h
        exact ⟨ys, hys, (Except.ok.inj hout).symm⟩
  dict := by
    intro es out depth h
    unfold normalizeResponseValue at h
    split at h
    · cases h
    · dsimp only at h
      split at h
      · cases h
      · obtain ⟨kept, hkept, hout⟩ := Fallible.bind_ok h
        exact ⟨kept, hkept, (Except.ok.inj hout).symm⟩
  items_nil := fun h => (Except.ok.inj h).symm
  items_cons := by
    intro x xs out depth h
    unfold normalizeResponseList at h
    obtain ⟨y, hy, h₁⟩ := Fallible.bind_ok h
    obtain ⟨ys, hys, h₂⟩ := Fallible.bind_ok h₁
    exact ⟨y, ys, hy, hys, (Except.ok.inj h₂).symm⟩
  entries_nil := fun h => (Except.ok.inj h).symm
  dropped := by
    intro key v rest out depth hkey h
    unfold normalizeResponseDict at h
    unfold material at hkey
    rw [hkey] at h
    split at h
    · cases h
    · exact h
  kept := by
    intro key v rest out depth hkey h
    unfold normalizeResponseDict at h
    unfold material at hkey
    rw [hkey] at h
    split at h
    · cases h
    · obtain ⟨w, hw, h₁⟩ := Fallible.bind_ok h
      obtain ⟨others, hothers, h₂⟩ := Fallible.bind_ok h₁
      exact ⟨w, others, hw, hothers, (Except.ok.inj h₂).symm⟩

theorem normalizeAccessResponse_without {payload out : Json} (h : normalizeAccessResponse payload false = .ok out) :
    out = payload.without accessMaterialKeys := by
  unfold normalizeAccessResponse at h
  split at h
  · exact response_filters.without _ 0 out h
  · cases h

end Access

/-! ### Authentication responses -/

namespace Authentication

theorem safeResponse_filters : Filters materialKeys safeResponseValue safeResponseSequence safeResponseMapping where
  scalar := by
    intro v out depth hlist hdict h
    unfold safeResponseValue at h
    split at h
    · cases h
    · cases v with
      | list xs => exact absurd rfl (hlist xs)
      | dict es => exact absurd rfl (hdict es)
      | null => exact (Except.ok.inj h).symm
      | bool b => exact (Except.ok.inj h).symm
      | int n => exact (Except.ok.inj h).symm
      | float x => cases h
      | str s =>
          obtain ⟨text, htext, hout⟩ := Fallible.bind_ok h
          unfold boundedText at htext
          dsimp only at htext
          split at htext
          · cases htext
          · obtain rfl := Except.ok.inj htext
            exact (Except.ok.inj hout).symm
  list := by
    intro xs out depth h
    unfold safeResponseValue at h
    split at h
    · cases h
    · dsimp only at h
      split at h
      · cases h
      · obtain ⟨ys, hys, hout⟩ := Fallible.bind_ok h
        exact ⟨ys, hys, (Except.ok.inj hout).symm⟩
  dict := by
    intro es out depth h
    unfold safeResponseValue at h
    split at h
    · cases h
    · dsimp only at h
      split at h
      · cases h
      · obtain ⟨kept, hkept, hout⟩ := Fallible.bind_ok h
        exact ⟨kept, hkept, (Except.ok.inj hout).symm⟩
  items_nil := fun h => (Except.ok.inj h).symm
  items_cons := by
    intro x xs out depth h
    unfold safeResponseSequence at h
    obtain ⟨y, hy, h₁⟩ := Fallible.bind_ok h
    obtain ⟨ys, hys, h₂⟩ := Fallible.bind_ok h₁
    exact ⟨y, ys, hy, hys, (Except.ok.inj h₂).symm⟩
  entries_nil := fun h => (Except.ok.inj h).symm
  dropped := by
    intro key v rest out depth hkey h
    unfold safeResponseMapping at h
    unfold material at hkey
    rw [hkey] at h
    split at h
    · cases h
    · exact h
  kept := by
    intro key v rest out depth hkey h
    unfold safeResponseMapping at h
    unfold material at hkey
    rw [hkey] at h
    split at h
    · cases h
    · obtain ⟨w, hw, h₁⟩ := Fallible.bind_ok h
      obtain ⟨others, hothers, h₂⟩ := Fallible.bind_ok h₁
      exact ⟨w, others, hw, hothers, (Except.ok.inj h₂).symm⟩

theorem normalizePublicAuthData_ok {payload out : Json} (h : normalizePublicAuthData payload = .ok out) :
    ∃ data, responseData payload = .ok data ∧ out = (Json.dict data).without materialKeys := by
  obtain ⟨data, hdata, hout⟩ := Fallible.bind_ok h
  exact ⟨data, hdata, safeResponse_filters.without _ 0 out hout⟩

theorem responseData_agree {payload other : Json} {data data' : JsonObject} (h : payload.Agree materialKeys other)
    (hdata : responseData payload = .ok data) (hother : responseData other = .ok data') :
    (Json.dict data).Agree materialKeys (.dict data') := by
  unfold responseData at hdata hother
  split at hdata
  · next entries =>
      obtain ⟨others, rfl⟩ := h.of_dict
      dsimp only at hother
      have hvalues := h.get (by decide +kernel : material materialKeys "data" = false) h
      split at hdata
      · next values hentries =>
          obtain rfl := Except.ok.inj hdata
          rw [hentries] at hvalues
          obtain ⟨values, hothers⟩ := hvalues.of_dict
          rw [hothers] at hother hvalues
          obtain rfl := Except.ok.inj hother
          exact hvalues
      · cases hdata
  · cases hdata

/-! ### The metadata of a login -/

/-- The metadata of the identity that logged in, as the response has it. -/
def identityMetadata (payload : Json) : JsonObject :=
  match payload with
  | .dict entries =>
      match JsonObject.get entries "auth" .null with
      | .dict auth =>
          match JsonObject.get auth "metadata" .null with
          | .dict metadata => metadata
          | _ => []
      | _ => []
  | _ => []

/-- Metadata that was read, as a tree. -/
def metadataEntry (entry : String × String) : String × Json := (entry.1, .str entry.2)

theorem metadataEntry_injective : Function.Injective metadataEntry := by
  rintro ⟨key, text⟩ ⟨key', text'⟩ h
  obtain ⟨hkey, htext⟩ := Prod.mk.inj h
  exact Prod.ext hkey (Json.str.inj htext)

theorem materialKeys_lower : ∀ key ∈ materialKeys, Text.lower key = key := by decide +kernel

theorem material_of_mem {key : String} (h : key ∈ materialKeys) : material materialKeys key = true := by
  unfold material
  rw [materialKeys_lower key h]
  exact List.contains_iff_mem.mpr h

/-- What is kept of the metadata: every entry but those under a key of the list, spelled as in the list. -/
theorem metadataEntries_ok {entries : JsonObject} {kept : List (String × String)}
    (h : metadataEntries entries = .ok kept) :
    kept.map metadataEntry = entries.filter fun entry => !materialKeys.contains entry.1 := by
  induction entries generalizing kept with
  | nil =>
      obtain rfl := Except.ok.inj h
      rfl
  | cons entry rest ih =>
      obtain ⟨key, item⟩ := entry
      unfold metadataEntries at h
      split at h
      · next hmaterial =>
          rw [ih h, List.filter_cons, if_neg (by simp only [hmaterial]; decide)]
      · next hother =>
          split at h
          · cases h
          · obtain ⟨text, htext, h₁⟩ := Fallible.bind_ok h
            obtain ⟨later, hlater, h₂⟩ := Fallible.bind_ok h₁
            obtain rfl := Except.ok.inj h₂
            have hitem : item = .str text := by
              unfold boundedText at htext
              split at htext
              · split at htext
                · cases htext
                · exact congrArg Json.str (Except.ok.inj htext)
              · cases htext
            have hkept : (!materialKeys.contains key) = true := by
              rw [Bool.not_eq_true']
              exact Bool.eq_false_iff.mpr hother
            rw [List.map_cons, ih hlater, List.filter_cons, if_pos hkept, hitem]
            rfl

/-- Every material key of the metadata is spelled as in the list of those keys. -/
def Spelled (metadata : JsonObject) : Prop := ∀ key ∈ metadata.map Prod.fst, material materialKeys key = true →
  key ∈ materialKeys

/-- What is kept of metadata, as a tree. -/
def metadataTree (kept : List (String × String)) : Json := .dict (kept.map metadataEntry)

theorem entriesKeyNames_metadata (kept : List (String × String)) :
    entriesKeyNames (kept.map metadataEntry) = kept.map Prod.fst := by
  induction kept with
  | nil => rfl
  | cons entry rest ih =>
      rw [List.map_cons, List.map_cons, ← ih]
      rfl

/-- Where the material keys are spelled as in the list, what is kept is the metadata without them. -/
theorem metadataTree_without {entries : JsonObject} {kept : List (String × String)} (hspelled : Spelled entries)
    (h : kept.map metadataEntry = entries.filter fun entry => !materialKeys.contains entry.1) :
    metadataTree kept = (Json.dict entries).without materialKeys := by
  rw [metadataTree, h, Json.without]
  congr 1
  induction entries generalizing kept with
  | nil => rfl
  | cons entry rest ih =>
      obtain ⟨key, item⟩ := entry
      have hrest : Spelled rest := fun other hother => hspelled other (List.mem_cons_of_mem _ hother)
      rw [entriesWithout]
      rw [List.filter_cons] at h ⊢
      by_cases hmem : key ∈ materialKeys
      · have hdrop : ¬ (!materialKeys.contains key) = true := by
          rw [List.contains_iff_mem.mpr hmem]
          decide
        rw [if_neg hdrop] at h ⊢
        rw [if_pos (material_of_mem hmem)]
        exact ih hrest h
      · have hkeep : (!materialKeys.contains key) = true := by
          rw [Bool.not_eq_true', Bool.eq_false_iff]
          exact fun hin => hmem (List.contains_iff_mem.mp hin)
        rw [if_pos hkeep] at h ⊢
        rw [if_neg fun hmaterial => hmem (hspelled key List.mem_cons_self hmaterial)]
        cases kept with
        | nil => cases h
        | cons first kept =>
            obtain ⟨hfirst, hlater⟩ := List.cons.inj h
            obtain ⟨-, rfl⟩ := Prod.mk.inj hfirst
            rw [ih hrest hlater]
            rfl

theorem spelled_of_clean {entries : JsonObject} {kept : List (String × String)}
    (h : kept.map metadataEntry = entries.filter fun entry => !materialKeys.contains entry.1)
    (hclean : (metadataTree kept).Clean materialKeys) : Spelled entries := by
  intro key hkey hmaterial
  by_contra hother
  obtain ⟨entry, hentry, rfl⟩ := List.mem_map.mp hkey
  have hkept : entry ∈ kept.map metadataEntry := by
    rw [h, List.mem_filter, Bool.not_eq_true', Bool.eq_false_iff]
    exact ⟨hentry, fun hin => hother (List.contains_iff_mem.mp hin)⟩
  obtain ⟨read, hread, rfl⟩ := List.mem_map.mp hkept
  have hname : (metadataEntry read).1 ∈ (metadataTree kept).keyNames := by
    show read.1 ∈ entriesKeyNames (kept.map metadataEntry)
    rw [entriesKeyNames_metadata]
    exact List.mem_map_of_mem hread
  exact Bool.eq_false_iff.mp (hclean _ hname) hmaterial

/-- What was read of an accepted login: the metadata is there as a dict or not at all. -/
theorem normalizeAuthenticationResult_ok {payload : Json} {result : AuthenticationResult}
    (h : normalizeAuthenticationResult payload = .ok result) : ∃ entries auth, payload = .dict entries ∧
      JsonObject.get entries "auth" .null = .dict auth ∧
      normalizeMetadata (JsonObject.get auth "metadata" .null) = .ok result.metadata := by
  unfold normalizeAuthenticationResult at h
  split at h
  · next entries =>
      split at h
      · next auth hauth =>
          obtain ⟨requirement, -, h₁⟩ := Fallible.bind_ok h
          obtain ⟨token, -, h₂⟩ := Fallible.bind_ok h₁
          split at h₂
          · cases h₂
          · obtain ⟨accessor, -, h₃⟩ := Fallible.bind_ok h₂
            obtain ⟨policies, -, h₄⟩ := Fallible.bind_ok h₃
            obtain ⟨identityPolicies, -, h₅⟩ := Fallible.bind_ok h₄
            obtain ⟨metadata, hmetadata, h₆⟩ := Fallible.bind_ok h₅
            obtain ⟨materialMetadata, -, h₇⟩ := Fallible.bind_ok h₆
            obtain ⟨leaseDuration, -, h₈⟩ := Fallible.bind_ok h₇
            obtain ⟨renewable, -, h₉⟩ := Fallible.bind_ok h₈
            obtain ⟨entityId, -, h₁₀⟩ := Fallible.bind_ok h₉
            obtain ⟨tokenType, -, h₁₁⟩ := Fallible.bind_ok h₁₀
            obtain rfl := Except.ok.inj h₁₁
            exact ⟨entries, auth, rfl, hauth, hmetadata⟩
      · cases h
  · cases h

theorem normalizeMetadata_ok {value : Json} {kept : List (String × String)} (h : normalizeMetadata value = .ok kept) :
    (value = .null ∧ kept = []) ∨ ∃ entries, value = .dict entries ∧
      kept.map metadataEntry = entries.filter fun entry => !materialKeys.contains entry.1 := by
  unfold normalizeMetadata at h
  split at h
  · exact .inl ⟨rfl, (Except.ok.inj h).symm⟩
  · next entries =>
      split at h
      · cases h
      · exact .inr ⟨entries, rfl, metadataEntries_ok h⟩
  · cases h

/-- What is kept of the metadata of an accepted login. -/
theorem metadata_kept {payload : Json} {result : AuthenticationResult}
    (h : normalizeAuthenticationResult payload = .ok result) : result.metadata.map metadataEntry =
      (identityMetadata payload).filter fun entry => !materialKeys.contains entry.1 := by
  obtain ⟨entries, auth, rfl, hauth, hmetadata⟩ := normalizeAuthenticationResult_ok h
  unfold identityMetadata
  dsimp only
  rw [hauth]
  dsimp only
  rcases normalizeMetadata_ok hmetadata with ⟨hvalue, hkept⟩ | ⟨metadata, hvalue, hkept⟩
  · rw [hvalue, hkept]
    rfl
  · rw [hvalue]
    exact hkept

/-- Logins that agree have metadata that agrees. -/
theorem identityMetadata_agree {payload other : Json} {result result' : AuthenticationResult}
    (h : payload.Agree materialKeys other) (hpayload : normalizeAuthenticationResult payload = .ok result)
    (hother : normalizeAuthenticationResult other = .ok result') :
    (Json.dict (identityMetadata payload)).Agree materialKeys (.dict (identityMetadata other)) := by
  obtain ⟨entries, auth, rfl, hauth, hmetadata⟩ := normalizeAuthenticationResult_ok hpayload
  obtain ⟨others, auth', rfl, hauth', hmetadata'⟩ := normalizeAuthenticationResult_ok hother
  have hagree := h.get (by decide +kernel : material materialKeys "auth" = false) (rfl : Json.null.Agree materialKeys .null)
  rw [hauth, hauth'] at hagree
  have hvalues := hagree.get (by decide +kernel : material materialKeys "metadata" = false)
    (rfl : Json.null.Agree materialKeys .null)
  unfold identityMetadata
  dsimp only
  rw [hauth, hauth']
  dsimp only
  rcases normalizeMetadata_ok hmetadata with ⟨hvalue, -⟩ | ⟨metadata, hvalue, -⟩
  · rcases normalizeMetadata_ok hmetadata' with ⟨hvalue', -⟩ | ⟨metadata', hvalue', -⟩
    · rw [hvalue, hvalue']
      rfl
    · rw [hvalue, hvalue'] at hvalues
      cases hvalues
  · rw [hvalue] at hvalues
    obtain ⟨metadata', hvalue'⟩ := hvalues.of_dict
    rw [hvalue'] at hvalues
    rw [hvalue, hvalue']
    exact hvalues

end Authentication

/-! ### The outputs without material -/

/-- The output is the accepted tree without the entries of these keys, and has none of them left. -/
structure Redacted (keys : List String) (tree out : Json) : Prop where
  clean : out.Clean keys
  rest : out = tree.without keys

theorem Redacted.of_without {tree out : Json} (h : out = tree.without keys) : Redacted keys tree out where
  clean := h ▸ tree.without_clean
  rest := h

open Access Authentication

/-- The first two outputs always withhold the material keys, in any case, and nothing else, and do not depend on what is
under them. The metadata of a login does exactly when its material keys are spelled as in the list. -/
theorem metadata_outputs_withhold_material (payload : Json) :
    (∀ out, normalizeAccessResponse payload false = .ok out →
      Redacted accessMaterialKeys payload out ∧
      ∀ other out', normalizeAccessResponse other false = .ok out' → payload.Agree accessMaterialKeys other →
        out = out') ∧
    (∀ out, normalizePublicAuthData payload = .ok out →
      (∃ data, responseData payload = .ok data ∧ Redacted materialKeys (.dict data) out) ∧
      ∀ other out', normalizePublicAuthData other = .ok out' → payload.Agree materialKeys other → out = out') ∧
    ∀ result, normalizeAuthenticationResult payload = .ok result →
      ((Redacted materialKeys (.dict (identityMetadata payload)) (metadataTree result.metadata) ∧
        ∀ other result', normalizeAuthenticationResult other = .ok result' → payload.Agree materialKeys other →
          result.metadata = result'.metadata) ↔ Spelled (identityMetadata payload)) := by
  refine ⟨fun out h => ⟨.of_without (normalizeAccessResponse_without h), ?_⟩, fun out h => ?_, fun result h => ?_⟩
  · intro other out' hother hagree
    rw [normalizeAccessResponse_without h, normalizeAccessResponse_without hother]
    exact hagree.without
  · obtain ⟨data, hdata, hout⟩ := normalizePublicAuthData_ok h
    refine ⟨⟨data, hdata, .of_without hout⟩, fun other out' hother hagree => ?_⟩
    obtain ⟨data', hdata', hout'⟩ := normalizePublicAuthData_ok hother
    rw [hout, hout']
    exact (responseData_agree hagree hdata hdata').without
  · have hkept := metadata_kept h
    refine ⟨fun hredacted => spelled_of_clean hkept hredacted.1.clean, fun hspelled => ?_⟩
    have htree := metadataTree_without hspelled hkept
    refine ⟨.of_without htree, fun other result' hother hagree => ?_⟩
    have hsame := identityMetadata_agree hagree h hother
    have hkeys : (identityMetadata other).map Prod.fst = (identityMetadata payload).map Prod.fst := by
      have hmasked : entriesMasked materialKeys (identityMetadata payload) =
          entriesMasked materialKeys (identityMetadata other) := Json.dict.inj hsame
      rw [← entriesMasked_keys, ← hmasked, entriesMasked_keys]
    have hspelled' : Spelled (identityMetadata other) := by
      unfold Spelled
      rw [hkeys]
      exact hspelled
    have htree' := metadataTree_without hspelled' (metadata_kept hother)
    have hequal := htree.trans (hsame.without.trans htree'.symm)
    exact List.map_injective_iff.mpr metadataEntry_injective (Json.dict.inj hequal)

/-- A login whose metadata has a material key, spelled as in the list. -/
def spelledLogin : Json :=
  .dict [("auth", .dict [("client_token", .str "s.1"),
    ("metadata", .dict [("username", .str "alice"), ("client_token", .str "s.2")])])]

theorem spelled_token_is_withheld : ∃ result, normalizeAuthenticationResult spelledLogin = .ok result ∧
    result.metadata = [("username", "alice")] ∧
    Redacted materialKeys (.dict (identityMetadata spelledLogin)) (metadataTree result.metadata) ∧
    ∀ other result', normalizeAuthenticationResult other = .ok result' → spelledLogin.Agree materialKeys other →
      result.metadata = result'.metadata := by
  have hread : (normalizeAuthenticationResult spelledLogin).toOption.map AuthenticationResult.metadata =
      some [("username", "alice")] := by decide +kernel
  obtain ⟨result, hresult, hmetadata⟩ := Option.map_eq_some_iff.mp hread
  have haccepted : normalizeAuthenticationResult spelledLogin = .ok result := Fallible.ok_of_toOption hresult
  have hspelled : Spelled (identityMetadata spelledLogin) := by
    unfold Spelled
    decide +kernel
  obtain ⟨-, -, hlogin⟩ := metadata_outputs_withhold_material spelledLogin
  exact ⟨result, haccepted, hmetadata, (hlogin result haccepted).mpr hspelled⟩

/-- A login whose metadata spells a material key in other letters. -/
def capitalizedLogin : Json :=
  .dict [("auth", .dict [("client_token", .str "s.1"),
    ("metadata", .dict [("username", .str "alice"), ("Client_Token", .str "s.2")])])]

/-- The metadata of that login has the key and what is under it. -/
theorem capitalized_token_is_shown : ∃ result, normalizeAuthenticationResult capitalizedLogin = .ok result ∧
    result.metadata = [("username", "alice"), ("Client_Token", "s.2")] ∧
    ¬ (metadataTree result.metadata).Clean materialKeys := by
  have hread : (normalizeAuthenticationResult capitalizedLogin).toOption.map AuthenticationResult.metadata =
      some [("username", "alice"), ("Client_Token", "s.2")] := by decide +kernel
  obtain ⟨result, hresult, hmetadata⟩ := Option.map_eq_some_iff.mp hread
  refine ⟨result, Fallible.ok_of_toOption hresult, hmetadata, fun hclean => ?_⟩
  rw [hmetadata] at hclean
  have hkey := hclean "Client_Token" (by decide +kernel)
  exact absurd hkey (by decide +kernel)

end NetboxOpenbao
