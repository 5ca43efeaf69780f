import Mathlib.Data.String.Basic
import NetboxOpenbao.Administration.Leases
import NetboxOpenbao.Effect.Fallible
import NetboxOpenbao.Effect.Search

/-!
# A lease preview is complete

Whatever the backend answers, a preview makes at most 256 LIST calls, each under another prefix, and what it returns
are the leaves of every listing that the branches reported lead to. Anything else is refused.
-/

namespace NetboxOpenbao

open Effect Relation

namespace Finalization

abbrev LeaseHistory := List (Exchange Error LeaseListing fun _ => Json)

/-! ### What a history reports -/

/-- The LIST under `listed` was answered, with these entries. -/
def Reported (history : LeaseHistory) (listed : String) (entries : List (Bool × String)) : Prop :=
  ∃ response, ⟨⟨listed⟩, .ok response⟩ ∈ history ∧ leaseEntries response listed = .ok entries

/-- The listing under `listed` has `path` for a branch. -/
def Branch (history : LeaseHistory) (listed path : String) : Prop :=
  ∃ entries, Reported history listed entries ∧ (true, path) ∈ entries

/-- The listing under `listed` has `path` for a leaf. -/
def Leaf (history : LeaseHistory) (listed path : String) : Prop :=
  ∃ entries, Reported history listed entries ∧ (false, path) ∈ entries

/-- What a preview of the leases under `root` returns. -/
structure LeaseSet (root : String) (history : LeaseHistory) (result : List String) : Prop where
  ascending : result.Pairwise (· < ·)
  leaves : ∀ path, path ∈ result ↔ ∃ listed, ReflTransGen (Branch history) root listed ∧ Leaf history listed path
  /-- Every prefix the root leads to was listed. -/
  listed : ∀ path, ReflTransGen (Branch history) root path → ∃ entries, Reported history path entries
  count : result.length ≤ 2000
  bytes : jsonBytes (.list (result.map .str)) ≤ 256000

def Conflict (error : Error) : Prop := ∃ message, error = .openbao .conflict message

/-! ### Failures -/

theorem leaseEntry_error {listed : String} {key : Json} {error : Error} (h : leaseEntry listed key = .error error) :
    Conflict error := by
  unfold leaseEntry at h
  split at h
  · split at h
    · exact ⟨_, (Except.error.inj h).symm⟩
    · dsimp only at h
      split at h
      · cases h
      · exact ⟨_, (Except.error.inj h).symm⟩
  · exact ⟨_, (Except.error.inj h).symm⟩

theorem leaseEntries_error {response : Json} {listed : String} {error : Error}
    (h : leaseEntries response listed = .error error) : Conflict error := by
  unfold leaseEntries at h
  split at h
  · split at h
    · split at h
      · split at h
        · exact ⟨_, (Except.error.inj h).symm⟩
        · obtain ⟨key, -, hkey⟩ := Fallible.mapM_error h
          exact leaseEntry_error hkey
      · exact ⟨_, (Except.error.inj h).symm⟩
    · exact ⟨_, (Except.error.inj h).symm⟩
  · exact ⟨_, (Except.error.inj h).symm⟩

theorem addLeaseEntry_error {visited depth : Nat} {found : LeaseFound} {entry : Bool × String} {error : Error}
    (h : addLeaseEntry visited depth found entry = .error error) : Conflict error := by
  unfold addLeaseEntry at h
  dsimp only at h
  split at h
  · split at h
    · exact ⟨_, (Except.error.inj h).symm⟩
    · cases h
  · generalize (if found.leaves.contains entry.2 = true then found else _) = added at h
    split at h
    · exact ⟨_, (Except.error.inj h).symm⟩
    · split at h
      · exact ⟨_, (Except.error.inj h).symm⟩
      · cases h

theorem boundedLeaseResult_error {leaves : List String} {error : Error}
    (h : boundedLeaseResult leaves = .error error) : Conflict error := by
  unfold boundedLeaseResult at h
  dsimp only at h
  split at h
  · exact ⟨_, (Except.error.inj h).symm⟩
  · cases h

/-! ### One listing -/

/-- What the entries of a listing add. -/
structure Added (entries : List (Bool × String)) (before after : LeaseFound) : Prop where
  pending : ∀ path, path ∈ after.pending.map Prod.fst ↔ (true, path) ∈ entries ∨ path ∈ before.pending.map Prod.fst
  leaves : ∀ path, path ∈ after.leaves ↔ (false, path) ∈ entries ∨ path ∈ before.leaves
  distinct : before.leaves.Nodup → after.leaves.Nodup

theorem Added.refl (found : LeaseFound) : Added [] found found where
  pending := fun _ => by simp
  leaves := fun _ => by simp
  distinct := id

theorem addLeaseEntry_added {visited depth : Nat} {entries : List (Bool × String)} {entry : Bool × String}
    {start found next : LeaseFound} (h : Added entries start found)
    (hadded : addLeaseEntry visited depth found entry = .ok next) : Added (entries ++ [entry]) start next := by
  obtain ⟨branch, path⟩ := entry
  unfold addLeaseEntry at hadded
  dsimp only at hadded
  cases branch with
  | true =>
      rw [if_pos rfl] at hadded
      split at hadded
      · cases hadded
      · obtain rfl := Except.ok.inj hadded
        refine ⟨fun other => ?_, fun other => ?_, h.distinct⟩
        · rw [List.map_cons, List.mem_cons, h.pending other, List.mem_append, List.mem_singleton, Prod.mk.injEq]
          tauto
        · rw [h.leaves other, List.mem_append, List.mem_singleton, Prod.mk.injEq]
          tauto
  | false =>
      rw [if_neg Bool.false_ne_true] at hadded
      generalize hkept : (if found.leaves.contains path = true then found else _) = kept at hadded
      split at hadded
      · cases hadded
      · split at hadded
        · cases hadded
        · obtain rfl := Except.ok.inj hadded
          rw [← hkept]
          by_cases hmem : found.leaves.contains path = true
          · rw [if_pos hmem]
            have hknown := (h.leaves path).mp (List.contains_iff_mem.mp hmem)
            refine ⟨fun other => ?_, fun other => ?_, h.distinct⟩
            · rw [h.pending other, List.mem_append, List.mem_singleton, Prod.mk.injEq]
              tauto
            · rw [h.leaves other, List.mem_append, List.mem_singleton, Prod.mk.injEq]
              constructor
              · tauto
              · rintro ((hentry | ⟨-, rfl⟩) | hbefore)
                · exact .inl hentry
                · exact hknown
                · exact .inr hbefore
          · rw [if_neg hmem]
            refine ⟨fun other => ?_, fun other => ?_, fun hstart => ?_⟩
            · rw [h.pending other, List.mem_append, List.mem_singleton, Prod.mk.injEq]
              tauto
            · rw [List.mem_cons, h.leaves other, List.mem_append, List.mem_singleton, Prod.mk.injEq]
              tauto
            · exact List.nodup_cons.mpr ⟨fun hin => hmem (List.contains_iff_mem.mpr hin), h.distinct hstart⟩

theorem entries_added {visited depth : Nat} {entries : List (Bool × String)} {start finish : LeaseFound}
    (h : entries.foldlM (addLeaseEntry visited depth) start = .ok finish) : Added entries start finish :=
  Fallible.foldlM_ok (fun done found => Added done start found)
    (fun _ _ _ _ _ _ hadded hstep => addLeaseEntry_added hadded hstep) (.refl start) h

/-! ### The search -/

/-- How far a preview of the leases under `root` has come. -/
structure Searched (root : String) (history : LeaseHistory) (visited : List String) (found : LeaseFound) : Prop where
  explored : Explored (Branch history) root visited (found.pending.map Prod.fst)
  calls : history.map (fun exchange => exchange.request.under) = visited.reverse
  distinct : visited.Nodup
  answered : ∀ exchange ∈ history, ∃ entries, Reported history exchange.request.under entries
  leaves : ∀ path, path ∈ found.leaves ↔ ∃ listed, Leaf history listed path
  once : found.leaves.Nodup

theorem Searched.start (root : String) : Searched root [] [] ⟨[(root, 0)], [], 2⟩ where
  explored := by
    have hnone : Branch [] = fun _ _ => False := by
      funext listed path
      exact propext ⟨fun ⟨_, ⟨_, hmem, _⟩, _⟩ => absurd hmem List.not_mem_nil, False.elim⟩
    rw [hnone]
    exact .init root
  calls := rfl
  distinct := List.nodup_nil
  answered := fun _ hmem => absurd hmem List.not_mem_nil
  leaves := fun path =>
    ⟨fun hmem => absurd hmem List.not_mem_nil, fun ⟨_, _, ⟨_, hmem, _⟩, _⟩ => absurd hmem List.not_mem_nil⟩
  once := List.nodup_nil

variable {root : String} {history : LeaseHistory} {visited : List String} {found : LeaseFound}

theorem Searched.unlisted (h : Searched root history visited found) {current : String} (hnew : current ∉ visited)
    {answer : Except Error Json} : ⟨⟨current⟩, answer⟩ ∉ history := by
  intro hmem
  have hlisted : current ∈ history.map fun exchange => exchange.request.under := List.mem_map_of_mem hmem
  rw [h.calls, List.mem_reverse] at hlisted
  exact hnew hlisted

/-- What is reported after one more listing. -/
theorem reported_append {current : String} {response : Json} {entries : List (Bool × String)}
    (hentries : leaseEntries response current = .ok entries) (hnew : ∀ answer, ⟨⟨current⟩, answer⟩ ∉ history)
    (listed : String) (others : List (Bool × String)) :
    Reported (history ++ [⟨⟨current⟩, .ok response⟩]) listed others ↔
      Reported history listed others ∨ (listed = current ∧ others = entries) := by
  constructor
  · rintro ⟨other, hmem, hother⟩
    rcases List.mem_append.mp hmem with hbefore | hlast
    · exact .inl ⟨other, hbefore, hother⟩
    · obtain ⟨hrequest, hanswer⟩ := Exchange.mk.inj (List.mem_singleton.mp hlast)
      obtain rfl := LeaseListing.mk.inj hrequest
      obtain rfl := Except.ok.inj (eq_of_heq hanswer)
      exact .inr ⟨rfl, Except.ok.inj (hother.symm.trans hentries)⟩
  · rintro (⟨other, hmem, hother⟩ | ⟨rfl, rfl⟩)
    · exact ⟨other, List.mem_append_left _ hmem, hother⟩
    · exact ⟨response, List.mem_append_right _ (List.mem_singleton_self _), hentries⟩

theorem Searched.step (h : Searched root history visited found) {current : String} {depth : Nat}
    {rest : List (String × Nat)} (hpending : found.pending = (current, depth) :: rest) (hnew : current ∉ visited)
    {response : Json} {entries : List (Bool × String)} (hentries : leaseEntries response current = .ok entries)
    {next : LeaseFound} (hadded : Added entries { found with pending := rest } next) :
    Searched root (history ++ [⟨⟨current⟩, .ok response⟩]) (current :: visited) next := by
  have hunlisted : ∀ answer, ⟨⟨current⟩, answer⟩ ∉ history := fun _ => h.unlisted hnew
  have hreported := reported_append hentries hunlisted
  -- nothing was known of the prefix before
  have hunknown : ∀ others, ¬ Reported history current others := fun _ ⟨_, hmem, _⟩ => hunlisted _ hmem
  have hbranch : ∀ listed path, Branch (history ++ [⟨⟨current⟩, .ok response⟩]) listed path ↔
      Branch history listed path ∨ (listed = current ∧ (true, path) ∈ entries) := by
    intro listed path
    constructor
    · rintro ⟨others, hothers, hmem⟩
      rcases (hreported listed others).mp hothers with hold | ⟨rfl, rfl⟩
      · exact .inl ⟨others, hold, hmem⟩
      · exact .inr ⟨rfl, hmem⟩
    · rintro (⟨others, hold, hmem⟩ | ⟨rfl, hmem⟩)
      · exact ⟨others, (hreported listed others).mpr (.inl hold), hmem⟩
      · exact ⟨entries, (hreported _ _).mpr (.inr ⟨rfl, rfl⟩), hmem⟩
  refine ⟨?_, ?_, List.nodup_cons.mpr ⟨hnew, h.distinct⟩, ?_, fun path => ?_, hadded.distinct h.once⟩
  · have hexplored := h.explored
    rw [hpending, List.map_cons] at hexplored
    refine hexplored.visit (fun a b hab => (hbranch a b).mpr (.inl hab))
      (fun a b hab => ((hbranch a b).mp hab).imp_right And.left) fun b => ?_
    rw [hadded.pending b, hbranch current b]
    constructor
    · rintro (hmem | hrest)
      · exact .inl (.inr ⟨rfl, hmem⟩)
      · exact .inr hrest
    · rintro ((⟨others, hold, -⟩ | ⟨-, hmem⟩) | hrest)
      · exact absurd hold (hunknown others)
      · exact .inl hmem
      · exact .inr hrest
  · rw [List.map_append, h.calls, List.reverse_cons]
    rfl
  · intro exchange hexchange
    rcases List.mem_append.mp hexchange with hbefore | hlast
    · obtain ⟨others, hothers⟩ := h.answered exchange hbefore
      exact ⟨others, (hreported _ _).mpr (.inl hothers)⟩
    · obtain rfl := List.mem_singleton.mp hlast
      exact ⟨entries, (hreported _ _).mpr (.inr ⟨rfl, rfl⟩)⟩
  · rw [hadded.leaves path, h.leaves path]
    constructor
    · rintro (hmem | ⟨listed, others, hold, hmem⟩)
      · exact ⟨current, entries, (hreported _ _).mpr (.inr ⟨rfl, rfl⟩), hmem⟩
      · exact ⟨listed, others, (hreported _ _).mpr (.inl hold), hmem⟩
    · rintro ⟨listed, others, hothers, hmem⟩
      rcases (hreported listed others).mp hothers with hold | ⟨-, rfl⟩
      · exact .inr ⟨listed, others, hold, hmem⟩
      · exact .inl hmem

/-- What is returned when nothing is left to list. -/
theorem Searched.result (h : Searched root history visited found) (hdone : found.pending = []) {result : List String}
    (hresult : boundedLeaseResult found.leaves = .ok result) : LeaseSet root history result := by
  unfold boundedLeaseResult at hresult
  dsimp only at hresult
  split at hresult
  · cases hresult
  · next hbounds =>
      obtain rfl := Except.ok.inj hresult
      simp only [Bool.or_eq_true, decide_eq_true_eq, not_or, Nat.not_lt] at hbounds
      have hexplored := h.explored
      rw [hdone, List.map_nil] at hexplored
      have hlisted : ∀ listed, listed ∈ visited ↔ ∃ entries, Reported history listed entries := by
        intro listed
        rw [← List.mem_reverse, ← h.calls]
        constructor
        · intro hmem
          obtain ⟨exchange, hexchange, rfl⟩ := List.mem_map.mp hmem
          exact h.answered exchange hexchange
        · rintro ⟨_, _, hmem, -⟩
          exact List.mem_map_of_mem (f := fun exchange => exchange.request.under) hmem
      refine ⟨?_, fun path => ?_, fun path hpath => ?_, hbounds.1, hbounds.2⟩
      · have hsorted := List.pairwise_insertionSort (fun a b : String => a ≤ b) found.leaves
        have hnodup := (List.perm_insertionSort (fun a b : String => a ≤ b) found.leaves).nodup_iff.mpr h.once
        exact (hsorted.and hnodup).imp fun hpair => lt_of_le_of_ne hpair.1 hpair.2
      · rw [List.mem_insertionSort, h.leaves path]
        constructor
        · rintro ⟨listed, entries, hreported, hmem⟩
          exact ⟨listed, (hexplored.complete listed).mp ((hlisted listed).mpr ⟨entries, hreported⟩), entries,
            hreported, hmem⟩
        · rintro ⟨listed, -, hleaf⟩
          exact ⟨listed, hleaf⟩
      · exact (hlisted path).mp ((hexplored.complete path).mpr hpath)

/-- What can be said of a preview at any moment, and at its end. -/
structure Previewed (root : String) (history : LeaseHistory) (rest : LeaseDialogue (List String)) : Prop where
  calls : history.length ≤ 256
  once : (history.map fun exchange => exchange.request.under).Nodup
  returned : ∀ result, rest = .done (.ok result) → LeaseSet root history result
  raised : ∀ error, rest = .done (.error error) → Conflict error ∨ ∃ exchange ∈ history, exchange.answer = .error error

theorem Previewed.of_calls {calls : List String}
    (hcalls : history.map (fun exchange => exchange.request.under) = calls.reverse) (hdistinct : calls.Nodup)
    (hfew : calls.length ≤ 256) {rest : LeaseDialogue (List String)}
    (hreturned : ∀ result, rest = .done (.ok result) → LeaseSet root history result)
    (hraised : ∀ error, rest = .done (.error error) →
      Conflict error ∨ ∃ exchange ∈ history, exchange.answer = .error error) : Previewed root history rest where
  calls := by
    rw [← List.length_map fun exchange => exchange.request.under, hcalls, List.length_reverse]
    exact hfew
  once := by
    rw [hcalls]
    exact List.nodup_reverse.mpr hdistinct
  returned := hreturned
  raised := hraised

theorem Searched.previewed (h : Searched root history visited found) (hfew : visited.length ≤ 256)
    {rest : LeaseDialogue (List String)} (hreturned : ∀ result, rest = .done (.ok result) → LeaseSet root history result)
    (hraised : ∀ error, rest = .done (.error error) → Conflict error) : Previewed root history rest :=
  .of_calls h.calls h.distinct hfew hreturned fun error heq => .inl (hraised error heq)

/-- A listing that ends the preview. -/
theorem Searched.previewed_failed (h : Searched root history visited found) {current : String}
    (hnew : current ∉ visited) (hroom : visited.length < 256) {answer : Except Error Json} {error : Error}
    (hraised : Conflict error ∨ answer = .error error) :
    Previewed root (history ++ [⟨⟨current⟩, answer⟩]) (.done (.error error)) := by
  have hcalls : List.map (fun exchange => exchange.request.under)
      (history ++ [⟨⟨current⟩, answer⟩] : LeaseHistory) = (current :: visited).reverse := by
    rw [List.map_append, h.calls, List.reverse_cons]
    rfl
  refine .of_calls hcalls (List.nodup_cons.mpr ⟨hnew, h.distinct⟩) hroom (fun result heq => by cases heq)
    fun other heq => ?_
  obtain rfl := Except.error.inj (Dialogue.done.inj heq)
  exact hraised.imp_right fun hanswer => ⟨_, List.mem_append_right _ (List.mem_singleton_self _), hanswer⟩

theorem leaseLoop_previewed (visited : List String) (found : LeaseFound) {history later : LeaseHistory}
    (h : Searched root history visited found) (hcalls : visited.length ≤ 256) {rest : LeaseDialogue (List String)}
    (htalks : Dialogue.Talks (leaseLoop visited found) later rest) : Previewed root (history ++ later) rest := by
  induction visited, found using leaseLoop.induct generalizing history later with
  | case1 visited found hpending =>
      rw [leaseLoop, hpending] at htalks
      obtain ⟨rfl, rfl⟩ := Dialogue.Talks.done htalks
      rw [List.append_nil]
      exact h.previewed hcalls (fun result heq => h.result hpending (Dialogue.done.inj heq))
        fun error heq => boundedLeaseResult_error (Dialogue.done.inj heq)
  | case2 visited found current depth rest' hpending hfull =>
      rw [leaseLoop, hpending] at htalks
      dsimp only at htalks
      rw [if_pos hfull] at htalks
      obtain ⟨rfl, rfl⟩ := Dialogue.Talks.done htalks
      rw [List.append_nil]
      exact h.previewed hcalls (fun result heq => by cases Dialogue.done.inj heq)
        fun error heq => ⟨_, (Except.error.inj (Dialogue.done.inj heq)).symm⟩
  | case3 visited found current depth left hpending hfree ih =>
      rw [leaseLoop, hpending] at htalks
      dsimp only at htalks
      rw [if_neg hfree] at htalks
      simp only [Bool.or_eq_true, decide_eq_true_eq, not_or, List.contains_iff_mem] at hfree
      obtain ⟨⟨hnew, -⟩, hroom⟩ := hfree
      have hbefore : visited.length < 256 := Nat.not_le.mp hroom
      cases htalks with
      | start =>
          rw [List.append_nil]
          exact h.previewed hcalls (fun result heq => by cases heq) fun error heq => by cases heq
      | answered answer hrest =>
          cases answer with
          | error error =>
              obtain ⟨rfl, rfl⟩ := Dialogue.Talks.done hrest
              exact h.previewed_failed hnew hbefore (.inr rfl)
          | ok response =>
              dsimp only at hrest
              split at hrest
              · next error hfailed =>
                  obtain ⟨rfl, rfl⟩ := Dialogue.Talks.done hrest
                  refine h.previewed_failed hnew hbefore (.inl ?_)
                  rcases Fallible.bind_error hfailed with hinvalid | ⟨entries, -, hloop⟩
                  · exact leaseEntries_error hinvalid
                  · obtain ⟨_, _, -, hentry⟩ := Fallible.foldlM_error hloop
                    exact addLeaseEntry_error hentry
              · next next hlearned =>
                  obtain ⟨entries, hentries, hloop⟩ := Fallible.bind_ok hlearned
                  have hstep := h.step hpending hnew hentries (entries_added hloop)
                  rw [List.append_cons]
                  exact ih next hstep hbefore hrest

/-- Whatever the backend answers: a preview makes at most 256 LIST calls, each under another prefix, and comes to an
end. What it returns is the ascending list of all leaves that the prefix leads to by the branches reported, within the
bounds; otherwise it raises a conflict, or what a LIST call raised. -/
theorem lease_preview_complete (under : String) :
    (∀ history rest, Dialogue.Talks (leaseSet under) history rest →
      Previewed (Text.rstripSlashes under) history rest) ∧
    ∀ backend : LeaseHistory → LeaseListing → Except Error Json, ∃ history result,
      Dialogue.Ends (leaseSet under) history result ∧ Dialogue.Follows backend history :=
  ⟨fun _ _ htalks =>
      leaseLoop_previewed [] _ (.start (Text.rstripSlashes under)) (Nat.zero_le 256) htalks,
    fun backend => Dialogue.ends_against (leaseSet under) backend⟩

end Finalization

end NetboxOpenbao
