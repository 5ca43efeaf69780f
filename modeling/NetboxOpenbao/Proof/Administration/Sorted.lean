import Mathlib.Data.String.Basic
import NetboxOpenbao.Proof.Administration.Dumps

/-!
# Values with their keys in order

A dict has each key once, so what it holds for a key does not depend on the order of its entries. Two values are the
same up to that order if their sorted forms are equal; what is read of a value is read of its sorted form.
-/

namespace NetboxOpenbao

/-! ### Entries by their keys -/

theorem lookup_of_mem {α : Type} {entries : List (String × α)} (hnodup : (entries.map Prod.fst).Nodup) {name : String}
    {value : α} (hmem : (name, value) ∈ entries) : entries.lookup name = some value := by
  induction entries with
  | nil => exact absurd hmem List.not_mem_nil
  | cons entry entries ih =>
      obtain ⟨hfresh, hrest⟩ := List.nodup_cons.mp hnodup
      cases List.mem_cons.mp hmem with
      | inl heq =>
          subst heq
          exact List.lookup_cons_self
      | inr htail =>
          have hne : (name == entry.1) = false :=
            beq_eq_false_iff_ne.mpr fun heq => hfresh (heq ▸ List.mem_map_of_mem (f := Prod.fst) htail)
          rw [List.lookup_cons, hne]
          exact ih hrest htail

theorem mem_of_lookup {α : Type} {entries : List (String × α)} {name : String} {value : α}
    (h : entries.lookup name = some value) : (name, value) ∈ entries := by
  obtain ⟨before, after, rfl, -⟩ := List.lookup_eq_some_iff.mp h
  exact List.mem_append_right before List.mem_cons_self

theorem lookup_perm {α : Type} {entries reordered : List (String × α)} (hperm : reordered.Perm entries)
    (hnodup : (reordered.map Prod.fst).Nodup) (name : String) : reordered.lookup name = entries.lookup name := by
  have hnodup' : (entries.map Prod.fst).Nodup := (hperm.map Prod.fst).nodup_iff.mp hnodup
  refine Option.ext fun value => ⟨fun h => ?_, fun h => ?_⟩
  · exact lookup_of_mem hnodup' (hperm.mem_iff.mp (mem_of_lookup h))
  · exact lookup_of_mem hnodup (hperm.mem_iff.mpr (mem_of_lookup h))

theorem eq_of_key {α : Type} {entries : List (String × α)} (hnodup : (entries.map Prod.fst).Nodup)
    {first second : String × α} (hfirst : first ∈ entries) (hsecond : second ∈ entries) (hkey : first.1 = second.1) :
    first = second := by
  have hsame := lookup_of_mem hnodup hsecond
  rw [← hkey, lookup_of_mem hnodup hfirst] at hsame
  exact Prod.ext hkey (Option.some.inj hsame)

/-! ### Distinct keys -/

mutual

/-- No dict of a value has a key twice. -/
def Json.distinct : Json → Bool
  | .list items => distinctItems items
  | .dict entries => decide (entries.map Prod.fst).Nodup && distinctValues entries
  | .null | .bool _ | .int _ | .float _ | .str _ => true

def distinctItems : List Json → Bool
  | [] => true
  | item :: rest => item.distinct && distinctItems rest

def distinctValues : JsonObject → Bool
  | [] => true
  | (_, value) :: rest => value.distinct && distinctValues rest

end

theorem distinctItems_iff (items : List Json) : distinctItems items = true ↔ ∀ item ∈ items, item.distinct = true := by
  induction items with
  | nil => exact iff_of_true rfl fun item hmem => absurd hmem List.not_mem_nil
  | cons item rest ih => rw [distinctItems, Bool.and_eq_true, ih, List.forall_mem_cons]

theorem distinctValues_iff (entries : JsonObject) :
    distinctValues entries = true ↔ ∀ entry ∈ entries, entry.2.distinct = true := by
  induction entries with
  | nil => exact iff_of_true rfl fun entry hmem => absurd hmem List.not_mem_nil
  | cons entry rest ih =>
      obtain ⟨key, value⟩ := entry
      rw [distinctValues, Bool.and_eq_true, ih, List.forall_mem_cons]

theorem distinct_list_iff (items : List Json) :
    (Json.list items).distinct = true ↔ ∀ item ∈ items, item.distinct = true := by
  rw [Json.distinct, distinctItems_iff]

theorem distinct_dict_iff (entries : JsonObject) : (Json.dict entries).distinct = true ↔
    (entries.map Prod.fst).Nodup ∧ ∀ entry ∈ entries, entry.2.distinct = true := by
  rw [Json.distinct, Bool.and_eq_true, decide_eq_true_eq, distinctValues_iff]

theorem distinct_get {entries : JsonObject} (h : (Json.dict entries).distinct = true) (key : String) {default : Json}
    (hdefault : default.distinct = true) : (JsonObject.get entries key default).distinct = true := by
  unfold JsonObject.get
  cases hvalue : entries.lookup key with
  | none => exact hdefault
  | some value => exact ((distinct_dict_iff entries).mp h).2 _ (mem_of_lookup hvalue)

/-! ### Sorted forms -/

def sortedEntry (entry : String × Json) : String × Json := (entry.1, entry.2.sorted)

def sortedObject (entries : JsonObject) : JsonObject := sortedEntries (sortedValues entries)

theorem sorted_dict (entries : JsonObject) : (Json.dict entries).sorted = .dict (sortedObject entries) := by
  rw [Json.sorted, sortedObject]

theorem sortedObject_nil : sortedObject [] = [] := List.mergeSort_nil

theorem sorted_dict_nil : (Json.dict []).sorted = .dict [] := by rw [sorted_dict, sortedObject_nil]

theorem sorted_list (items : List Json) : (Json.list items).sorted = .list (items.map Json.sorted) := by
  rw [Json.sorted, sortedItems_eq]

theorem sortedObject_perm (entries : JsonObject) : (sortedObject entries).Perm (entries.map sortedEntry) := by
  unfold sortedObject
  rw [sortedValues_eq]
  exact sortedEntries_perm _

theorem map_sortedEntry_keys (entries : JsonObject) : (entries.map sortedEntry).map Prod.fst = entries.map Prod.fst := by
  rw [List.map_map]
  exact List.map_congr_left fun entry _ => rfl

theorem sortedObject_keys (entries : JsonObject) : ((sortedObject entries).map Prod.fst).Perm (entries.map Prod.fst) :=
  map_sortedEntry_keys entries ▸ (sortedObject_perm entries).map Prod.fst

theorem sortedObject_nodup {entries : JsonObject} (h : (entries.map Prod.fst).Nodup) :
    ((sortedObject entries).map Prod.fst).Nodup := (sortedObject_keys entries).nodup_iff.mpr h

theorem sortedObject_length (entries : JsonObject) : (sortedObject entries).length = entries.length :=
  (sortedObject_perm entries).length_eq.trans (List.length_map _)

theorem lookup_sortedObject {entries : JsonObject} (h : (entries.map Prod.fst).Nodup) (key : String) :
    (sortedObject entries).lookup key = (entries.lookup key).map Json.sorted := by
  rw [lookup_perm (sortedObject_perm entries) (sortedObject_nodup h)]
  clear h
  induction entries with
  | nil => rfl
  | cons entry entries ih =>
      obtain ⟨name, value⟩ := entry
      rw [List.map_cons, sortedEntry, List.lookup_cons, List.lookup_cons]
      cases key == name with
      | true => rfl
      | false => exact ih

/-- What the sorted form of a dict holds for a key. -/
theorem get_sorted {entries : JsonObject} (h : (Json.dict entries).distinct = true) (key : String) {default : Json}
    (hdefault : default.sorted = default) :
    JsonObject.get (sortedObject entries) key default = (JsonObject.get entries key default).sorted := by
  unfold JsonObject.get
  rw [lookup_sortedObject ((distinct_dict_iff entries).mp h).1]
  cases entries.lookup key with
  | none => exact hdefault.symm
  | some value => rfl

theorem distinct_sorted (v : Json) : v.sorted.distinct = v.distinct := by
  refine Bool.eq_iff_iff.mpr ?_
  induction v using Json.induct with
  | null => exact Iff.rfl
  | bool b => exact Iff.rfl
  | int n => exact Iff.rfl
  | float x => exact Iff.rfl
  | str s => exact Iff.rfl
  | list items ih =>
      rw [sorted_list, distinct_list_iff, distinct_list_iff, List.forall_mem_map]
      exact forall₂_congr ih
  | dict entries ih =>
      rw [sorted_dict, distinct_dict_iff, distinct_dict_iff, (sortedObject_keys entries).nodup_iff]
      refine and_congr_right fun _ => ?_
      constructor
      · intro h entry hmem
        exact (ih entry hmem).mp (h _ ((sortedObject_perm entries).mem_iff.mpr (List.mem_map_of_mem hmem)))
      · intro h entry hmem
        obtain ⟨given, hgiven, rfl⟩ := List.mem_map.mp ((sortedObject_perm entries).mem_iff.mp hmem)
        exact (ih given hgiven).mpr (h given hgiven)

theorem Json.Same.distinct_iff {v w : Json} (h : v.Same w) : v.distinct = w.distinct := by
  rw [← distinct_sorted v, h, distinct_sorted]

theorem truthy_sorted (v : Json) : v.sorted.truthy = v.truthy := by
  cases v with
  | list items =>
      cases items with
      | nil => rfl
      | cons item rest => rfl
  | dict entries =>
      rw [sorted_dict]
      unfold Json.truthy
      dsimp only
      rw [((sortedObject_perm entries).isEmpty_eq), List.isEmpty_map]
  | null | bool b | int n | float x | str s => rfl

/-! ### Dicts with the same entries -/

theorem Json.Same.dict {entries : JsonObject} {value : Json} (h : (Json.dict entries).Same value) :
    ∃ others, value = .dict others := by
  cases value with
  | dict others => exact ⟨others, rfl⟩
  | null | bool b | int n | float x | str s | list items => cases h

/-- Two dicts with the same entries in any order have one sorted form. -/
theorem sortedObject_eq_of_perm {entries others : JsonObject}
    (hperm : (entries.map sortedEntry).Perm (others.map sortedEntry)) (hnodup : (entries.map Prod.fst).Nodup) :
    sortedObject entries = sortedObject others := by
  have hordered : ∀ entries : JsonObject, (sortedObject entries).Pairwise fun a b => a.1 ≤ b.1 := by
    intro entries
    have htrans : ∀ a b c : String × Json, decide (a.1 ≤ b.1) = true → decide (b.1 ≤ c.1) = true →
        decide (a.1 ≤ c.1) = true :=
      fun a b c hab hbc => decide_eq_true (le_trans (of_decide_eq_true hab) (of_decide_eq_true hbc))
    have htotal : ∀ a b : String × Json, (decide (a.1 ≤ b.1) || decide (b.1 ≤ a.1)) = true := by
      intro a b
      rw [Bool.or_eq_true, decide_eq_true_eq, decide_eq_true_eq]
      exact le_total a.1 b.1
    have hsorted := List.pairwise_mergeSort htrans htotal (sortedValues entries)
    exact hsorted.imp of_decide_eq_true
  have hall := ((sortedObject_perm entries).trans hperm).trans (sortedObject_perm others).symm
  refine List.Perm.eq_of_pairwise (fun a b ha hb hab hba => ?_) (hordered entries) (hordered others) hall
  exact eq_of_key (sortedObject_nodup hnodup) ha (hall.mem_iff.mpr hb) (le_antisymm hab hba)

end NetboxOpenbao
