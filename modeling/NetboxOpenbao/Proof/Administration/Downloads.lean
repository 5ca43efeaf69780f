import NetboxOpenbao.Administration.Downloads
import NetboxOpenbao.Effect.Runs
import NetboxOpenbao.Proof.Administration.Snapshots

/-!
# A snapshot is handed on whole or with an error

The generator that is resumed first has handed on the bytes of a beginning of the stream, never more than the maximum,
and ends without an error exactly when the stream does, is all bytes and has the length it should have. From then on the
download is opened, so every other generator is refused when it is resumed for the first time.
-/

namespace NetboxOpenbao

open Effect

namespace Cluster

/-- The bytes of a sequence of answers. -/
def streamBytes (answers : List StreamAnswer) : List UInt8 := answers.flatMap StreamAnswer.given

def AllBytes (answers : List StreamAnswer) : Prop := ∀ answer ∈ answers, ∃ chunk, answer = .bytes chunk

/-- With `total` bytes before, the rest of a stream is as it should be. -/
def CompleteFrom (total : Nat) (coming : List StreamAnswer) (declaredSize : Option Int) : Prop :=
  AllBytes coming ∧ total + (streamBytes coming).length ≤ maxSnapshotBytes ∧
    ∀ size, declaredSize = some size → ((total + (streamBytes coming).length : Nat) : Int) = size

/-- A stream ends without an error, is all bytes, and is neither too long nor of another length than declared. -/
def Complete (upstream : List StreamAnswer) (declaredSize : Option Int) : Prop := CompleteFrom 0 upstream declaredSize

theorem streamBytes_append (before after : List StreamAnswer) :
    streamBytes (before ++ after) = streamBytes before ++ streamBytes after := List.flatMap_append

theorem AllBytes.append {before after : List StreamAnswer} (hbefore : AllBytes before) (hafter : AllBytes after) :
    AllBytes (before ++ after) := fun answer hmem => (List.mem_append.mp hmem).elim (hbefore answer) (hafter answer)

/-- What is all right so far is all right exactly if the rest is. -/
theorem completeFrom_append {before : List StreamAnswer} (hbefore : AllBytes before) (after : List StreamAnswer)
    (total : Nat) (declaredSize : Option Int) : CompleteFrom total (before ++ after) declaredSize ↔
      CompleteFrom (total + (streamBytes before).length) after declaredSize := by
  unfold CompleteFrom
  rw [streamBytes_append, List.length_append, ← Nat.add_assoc]
  refine and_congr_left fun _ => ⟨fun hall answer hmem => hall answer (List.mem_append_right before hmem), fun hafter => ?_⟩
  exact hbefore.append hafter

theorem allBytes_singleton (chunk : List UInt8) : AllBytes [.bytes chunk] :=
  fun _ hmem => ⟨chunk, List.mem_singleton.mp hmem⟩

theorem not_completeFrom_raised {total : Nat} {what : String} {coming : List StreamAnswer} {declaredSize : Option Int} :
    ¬ CompleteFrom total (.raised what :: coming) declaredSize := fun h => by
  obtain ⟨chunk, hchunk⟩ := h.1 _ List.mem_cons_self
  cases hchunk

theorem not_completeFrom_other {total : Nat} {coming : List StreamAnswer} {declaredSize : Option Int} :
    ¬ CompleteFrom total (.other :: coming) declaredSize := fun h => by
  obtain ⟨chunk, hchunk⟩ := h.1 _ List.mem_cons_self
  cases hchunk

namespace SnapshotDownload

/-! ### One `next` -/

/-- What the loop does from a place with `total` bytes so far: it stops at the next chunk that has bytes, or at the end of
the stream, or with an error, and with an error exactly if something is wrong with the rest. -/
inductive Stops (declaredSize : Option Int) (total : Nat) (coming : List StreamAnswer) :
    Resumed → ChunksFrame → List StreamAnswer → Prop where
  | yielded (passed left : List StreamAnswer) (chunk : List UInt8) (hcoming : coming = passed ++ left)
      (hpassed : AllBytes passed) (hsome : passed ≠ []) (hchunk : streamBytes passed = chunk)
      (hbound : total + chunk.length ≤ maxSnapshotBytes) :
      Stops declaredSize total coming (.yielded chunk) (.suspended (total + chunk.length)) left
  | returned (hempty : streamBytes coming = []) (hcomplete : CompleteFrom total coming declaredSize) :
      Stops declaredSize total coming .returned .finished []
  | raised (error : Error) (left : List StreamAnswer) (hincomplete : ¬ CompleteFrom total coming declaredSize) :
      Stops declaredSize total coming (.raised error) .finished left

/-- An empty chunk is passed over. -/
theorem Stops.cons_empty {declaredSize : Option Int} {total : Nat} {coming left : List StreamAnswer} {resumed : Resumed}
    {frame : ChunksFrame} (h : Stops declaredSize total coming resumed frame left) :
    Stops declaredSize total (.bytes [] :: coming) resumed frame left := by
  have hiff := completeFrom_append (allBytes_singleton []) coming total declaredSize
  cases h with
  | yielded passed _ chunk hcoming hpassed hsome hchunk hbound =>
      refine .yielded (.bytes [] :: passed) left chunk (hcoming ▸ rfl) ?_ (List.cons_ne_nil _ _) hchunk hbound
      exact (allBytes_singleton []).append hpassed
  | returned hempty hcomplete => exact .returned hempty (hiff.mpr hcomplete)
  | raised error left hincomplete => exact .raised error left fun hcomplete => hincomplete (hiff.mp hcomplete)

theorem checkLength_stops (declaredSize : Option Int) {total : Nat} (hbound : total ≤ maxSnapshotBytes) :
    Stops declaredSize total [] (checkLength declaredSize total) .finished [] := by
  have hnone : AllBytes [] := fun _ hmem => absurd hmem List.not_mem_nil
  unfold checkLength
  cases declaredSize with
  | none => exact .returned rfl ⟨hnone, hbound, nofun⟩
  | some size =>
      dsimp only
      split
      · next hdiffers =>
          refine .raised _ [] fun hcomplete => ?_
          exact bne_iff_ne.mp hdiffers (hcomplete.2.2 size rfl)
      · next hsame =>
          have hequal : (total : Int) = size := not_not.mp fun hne => hsame (bne_iff_ne.mpr hne)
          refine .returned rfl ⟨hnone, hbound, fun other hother => ?_⟩
          exact hequal.trans (Option.some.inj hother)

theorem loop_stops (declaredSize : Option Int) (coming : List StreamAnswer) {total : Nat}
    (hbound : total ≤ maxSnapshotBytes) : Stops declaredSize total coming (loop declaredSize total coming).1
      (loop declaredSize total coming).2.1 (loop declaredSize total coming).2.2 := by
  induction coming with
  | nil => exact checkLength_stops declaredSize hbound
  | cons answer coming ih =>
      cases answer with
      | raised what => exact .raised _ coming not_completeFrom_raised
      | other => exact .raised _ coming not_completeFrom_other
      | bytes chunk =>
          have hbytes : streamBytes [.bytes chunk] = chunk := List.append_nil chunk
          unfold loop
          dsimp only
          split
          · next hlong =>
              refine .raised _ coming fun hcomplete => ?_
              have hrest := (completeFrom_append (allBytes_singleton chunk) coming total declaredSize).mp hcomplete
              have hle := hrest.2.1
              rw [hbytes] at hle
              omega
          · next hshort =>
              cases chunk with
              | nil => exact ih.cons_empty
              | cons byte bytes =>
                  exact .yielded [.bytes (byte :: bytes)] coming (byte :: bytes) rfl (allBytes_singleton _)
                    (List.cons_ne_nil _ _) hbytes (Nat.not_lt.mp hshort)

end SnapshotDownload

theorem Iteration.after_eq {iteration : Iteration} (hframe : iteration.frame ≠ .finished) (resumed : Resumed)
    (frame : ChunksFrame) : iteration.after resumed frame = match resumed with
      | .yielded chunk => { iteration with frame, given := iteration.given ++ chunk }
      | .returned => { iteration with frame, ended := some (.ok ()) }
      | .raised error => { iteration with frame, ended := some (.error error) } := by
  obtain ⟨before, given, ended⟩ := iteration
  cases before with
  | finished => exact absurd rfl hframe
  | created => cases resumed <;> rfl
  | suspended total => cases resumed <;> rfl

namespace SnapshotDownload

theorem loop_length (declaredSize : Option Int) (total : Nat) (coming : List StreamAnswer) :
    (loop declaredSize total coming).2.2.length ≤ coming.length := by
  induction coming with
  | nil => exact Nat.le_refl _
  | cons answer coming ih =>
      cases answer with
      | raised what => exact Nat.le_succ _
      | other => exact Nat.le_succ _
      | bytes chunk =>
          unfold loop
          dsimp only
          split
          · exact Nat.le_succ _
          · split
            · exact Nat.le_succ _
            · next hempty =>
                have hnone : chunk = [] := by simpa using hempty
                subst hnone
                exact Nat.le_succ_of_le ih

theorem proceed_length (download : SnapshotDownload) (total : Nat) :
    (download.proceed total).2.2.response.coming.length ≤ download.response.coming.length := by
  have hloop := loop_length download.declaredSize total download.response.coming
  unfold proceed
  dsimp only
  split <;> exact hloop

/-- A generator that goes on ends, or waits at a `yield` with less of the stream to come. -/
theorem proceed_ends (download : SnapshotDownload) {total : Nat} (hbound : total ≤ maxSnapshotBytes) :
    (∃ result, ∀ iteration : Iteration, iteration.frame ≠ .finished →
      (iteration.after (download.proceed total).1 (download.proceed total).2.1).ended = some result) ∨
    ∃ chunk longer, (download.proceed total).1 = .yielded chunk ∧ (download.proceed total).2.1 = .suspended longer ∧
      longer ≤ maxSnapshotBytes ∧
      (download.proceed total).2.2.response.coming.length < download.response.coming.length := by
  have hstops := loop_stops download.declaredSize download.response.coming hbound
  unfold proceed
  revert hstops
  generalize loop download.declaredSize total download.response.coming = result
  obtain ⟨resumed, next, left⟩ := result
  intro hstops
  dsimp only at hstops ⊢
  cases hstops with
  | yielded passed _ chunk hcoming hpassed hsome hchunk hlonger =>
      refine .inr ⟨chunk, _, rfl, rfl, hlonger, ?_⟩
      have hpositive : 0 < passed.length := List.length_pos_iff.mpr hsome
      rw [hcoming, List.length_append]
      show left.length < passed.length + left.length
      omega
  | returned hempty hcomplete =>
      refine .inl ⟨.ok (), fun iteration hframe => ?_⟩
      rw [Iteration.after_eq hframe]
  | raised error _ hincomplete =>
      refine .inl ⟨.error error, fun iteration hframe => ?_⟩
      rw [Iteration.after_eq hframe]

end SnapshotDownload

/-! ### The generator that is resumed first -/

/-- How far a generator that has been resumed got with a stream, of which `left` is still to come. -/
inductive Reaches (upstream : List StreamAnswer) (declaredSize : Option Int) (response : SnapshotResponse) :
    Iteration → Prop where
  | suspended (passed : List StreamAnswer) (hupstream : upstream = passed ++ response.coming) (hpassed : AllBytes passed)
      (hbound : (streamBytes passed).length ≤ maxSnapshotBytes) :
      Reaches upstream declaredSize response ⟨.suspended (streamBytes passed).length, streamBytes passed, none⟩
  | finished (given : List UInt8) (ended : Option (Except Error Unit)) (hclosed : response.closed = true)
      (hbound : given.length ≤ maxSnapshotBytes)
      (hended : ∀ result, ended = some result → (result = .ok () ↔ Complete upstream declaredSize))
      (hgiven : ended = some (.ok ()) → given = streamBytes upstream) :
      Reaches upstream declaredSize response ⟨.finished, given, ended⟩

namespace SnapshotDownload

theorem proceed_reaches (download : SnapshotDownload) (passed : List StreamAnswer) (iteration : Iteration)
    {upstream : List StreamAnswer} (hupstream : upstream = passed ++ download.response.coming) (hpassed : AllBytes passed)
    (hbound : (streamBytes passed).length ≤ maxSnapshotBytes) (hgiven : iteration.given = streamBytes passed)
    (hended : iteration.ended = none) (hframe : iteration.frame ≠ .finished) :
    Reaches upstream download.declaredSize (download.proceed (streamBytes passed).length).2.2.response
      (iteration.after (download.proceed (streamBytes passed).length).1
        (download.proceed (streamBytes passed).length).2.1) := by
  have hstops := loop_stops download.declaredSize download.response.coming hbound
  have hiff : Complete upstream download.declaredSize ↔
      CompleteFrom (streamBytes passed).length download.response.coming download.declaredSize := by
    have happend := completeFrom_append hpassed download.response.coming 0 download.declaredSize
    rwa [Nat.zero_add, ← hupstream] at happend
  obtain ⟨frame, given, ended⟩ := iteration
  obtain rfl : given = streamBytes passed := hgiven
  obtain rfl : ended = none := hended
  rw [Iteration.after_eq hframe]
  unfold proceed
  revert hstops
  generalize loop download.declaredSize (streamBytes passed).length download.response.coming = result
  obtain ⟨resumed, next, left⟩ := result
  intro hstops
  dsimp only at hstops ⊢
  cases hstops with
  | yielded more _ chunk hcoming hmore _ hchunk hlonger =>
      have happended : streamBytes (passed ++ more) = streamBytes passed ++ chunk := by
        rw [streamBytes_append, hchunk]
      have hlength : (streamBytes (passed ++ more)).length = (streamBytes passed).length + chunk.length := by
        rw [happended, List.length_append]
      have hreaches : Reaches upstream download.declaredSize { download.response with coming := left }
          ⟨.suspended (streamBytes (passed ++ more)).length, streamBytes (passed ++ more), none⟩ :=
        .suspended (passed ++ more) (by rw [hupstream, hcoming, List.append_assoc]) (hpassed.append hmore)
          (hlength ▸ hlonger)
      rw [hlength, happended] at hreaches
      exact hreaches
  | returned hempty hcomplete =>
      have hwhole : streamBytes passed = streamBytes upstream := by
        rw [hupstream, streamBytes_append, hempty, List.append_nil]
      refine .finished _ _ rfl hbound (fun result hresult => ?_) fun _ => hwhole
      exact iff_of_true (Option.some.inj hresult).symm (hiff.mpr hcomplete)
  | raised error _ hincomplete =>
      refine .finished _ _ rfl hbound (fun result hresult => iff_of_false (fun hok => ?_) ?_) fun hok => by cases hok
      · cases hresult
        cases hok
      · exact fun hcomplete => hincomplete (hiff.mp hcomplete)

end SnapshotDownload

theorem Reaches.close {upstream : List StreamAnswer} {declaredSize : Option Int} {response : SnapshotResponse}
    {iteration : Iteration} (h : Reaches upstream declaredSize response iteration) :
    Reaches upstream declaredSize response.close iteration := by
  cases h with
  | suspended passed hupstream hpassed hbound => exact .suspended passed hupstream hpassed hbound
  | finished given ended hclosed hbound hended hgiven => exact .finished given ended rfl hbound hended hgiven

theorem Reaches.frame_ne {upstream : List StreamAnswer} {declaredSize : Option Int} {response : SnapshotResponse}
    {iteration : Iteration} (h : Reaches upstream declaredSize response iteration) : iteration.frame ≠ .created := by
  cases h with
  | suspended => exact nofun
  | finished => exact nofun

theorem Reaches.bound {upstream : List StreamAnswer} {declaredSize : Option Int} {response : SnapshotResponse}
    {iteration : Iteration} (h : Reaches upstream declaredSize response iteration) :
    iteration.given.length ≤ maxSnapshotBytes := by
  cases h with
  | suspended passed hupstream hpassed hbound => exact hbound
  | finished given ended hclosed hbound hended hgiven => exact hbound

/-- A generator that was refused at its first `next`. -/
def Iteration.refused : Iteration := ⟨.finished, [], some (.error SnapshotDownload.oneUse)⟩

/-- A generator that was never resumed, closed or not. -/
def Iteration.Untouched (iteration : Iteration) : Prop :=
  iteration.given = [] ∧ iteration.ended = none ∧ ∀ total, iteration.frame ≠ .suspended total

namespace DownloadUse

/-! ### Any use of a download -/

/-- Where the generators of a download stand: the first that was resumed follows the stream, those resumed later were
refused, the others have done nothing. -/
structure Follows (upstream : List StreamAnswer) (declaredSize : Option Int) (s : DownloadUse) : Prop where
  size : s.download.declaredSize = declaredSize
  unopened : s.started = [] → s.download.opened = false ∧ s.download.response.coming = upstream
  opened : s.started ≠ [] → s.download.opened = true
  first : ∀ i rest, s.started = i :: rest → ∃ iteration, s.iterations[i]? = some iteration ∧
    Reaches upstream declaredSize s.download.response iteration
  refused : ∀ i rest, s.started = i :: rest → ∀ j ∈ rest, s.iterations[j]? = some .refused
  untouched : ∀ i iteration, s.iterations[i]? = some iteration → i ∉ s.started → iteration.Untouched

variable {upstream : List StreamAnswer} {declaredSize : Option Int} {s : DownloadUse}

theorem Follows.init : Follows upstream declaredSize (DownloadUse.init upstream declaredSize) where
  size := rfl
  unopened _ := ⟨rfl, rfl⟩
  opened h := absurd rfl h
  first _ _ h := by cases h
  refused _ _ h := by cases h
  untouched i iteration h := by cases h

theorem Follows.frame_ne (h : Follows upstream declaredSize s) {i : Nat} {iteration : Iteration} (hin : i ∈ s.started)
    (hget : s.iterations[i]? = some iteration) : iteration.frame ≠ .created := by
  cases hstarted : s.started with
  | nil => exact absurd (hstarted ▸ hin) List.not_mem_nil
  | cons first rest =>
      rcases List.mem_cons.mp (hstarted ▸ hin) with rfl | hrest
      · obtain ⟨found, hfound, hreaches⟩ := h.first i rest hstarted
        exact Option.some.inj (hget.symm.trans hfound) ▸ hreaches.frame_ne
      · have hrefused := h.refused first rest hstarted i hrest
        exact Option.some.inj (hget.symm.trans hrefused) ▸ nofun

/-- Only the generator that was resumed first waits at a `yield`. -/
theorem Follows.suspended (h : Follows upstream declaredSize s) {i total : Nat} {iteration : Iteration}
    (hget : s.iterations[i]? = some iteration) (hframe : iteration.frame = .suspended total) :
    ∃ rest, s.started = i :: rest ∧ i ∉ rest := by
  have hin : i ∈ s.started := by
    by_contra hout
    exact (h.untouched i iteration hget hout).2.2 total hframe
  have hlater : ∀ first rest, s.started = first :: rest → i ∉ rest := by
    intro first rest hstarted hrest
    have hrefused := Option.some.inj (hget.symm.trans (h.refused first rest hstarted i hrest))
    rw [hrefused] at hframe
    cases hframe
  cases hstarted : s.started with
  | nil => exact absurd (hstarted ▸ hin) List.not_mem_nil
  | cons first rest =>
      rcases List.mem_cons.mp (hstarted ▸ hin) with rfl | hrest
      · exact ⟨rest, rfl, hlater i rest hstarted⟩
      · exact absurd hrest (hlater first rest hstarted)

theorem Follows.advance (h : Follows upstream declaredSize s) {i : Nat} {rest : List Nat} {iteration after : Iteration}
    {download : SnapshotDownload} (hstarted : s.started = i :: rest) (hout : i ∉ rest)
    (hget : s.iterations[i]? = some iteration) (hsize : download.declaredSize = declaredSize)
    (hopened : download.opened = true) (hreaches : Reaches upstream declaredSize download.response after) :
    Follows upstream declaredSize { s with download, iterations := s.iterations.set i after } where
  size := hsize
  unopened hnone := by
    rw [hstarted] at hnone
    cases hnone
  opened _ := hopened
  first first others hfirst := by
    obtain ⟨rfl, rfl⟩ := List.cons.inj (hstarted.symm.trans hfirst)
    exact ⟨after, List.getElem?_set_self (List.getElem?_eq_some_iff.mp hget).1, hreaches⟩
  refused first others hfirst j hj := by
    obtain ⟨rfl, rfl⟩ := List.cons.inj (hstarted.symm.trans hfirst)
    have hne : i ≠ j := fun hsame => hout (hsame ▸ hj)
    exact (List.getElem?_set_ne hne).trans (h.refused i rest hstarted j hj)
  untouched j found hfound hj := by
    have hne : i ≠ j := fun hsame => hj (hsame ▸ hstarted ▸ List.mem_cons_self)
    exact h.untouched j found ((List.getElem?_set_ne hne).symm.trans hfound) hj

theorem Follows.begin (h : Follows upstream declaredSize s) {i : Nat} {iteration after : Iteration}
    {download : SnapshotDownload} (hstarted : s.started = []) (hget : s.iterations[i]? = some iteration)
    (hsize : download.declaredSize = declaredSize) (hopened : download.opened = true)
    (hreaches : Reaches upstream declaredSize download.response after) :
    Follows upstream declaredSize ⟨download, s.iterations.set i after, [i]⟩ where
  size := hsize
  unopened hnone := absurd hnone (List.cons_ne_nil _ _)
  opened _ := hopened
  first first rest hfirst := by
    obtain ⟨rfl, -⟩ := List.cons.inj hfirst
    exact ⟨after, List.getElem?_set_self (List.getElem?_eq_some_iff.mp hget).1, hreaches⟩
  refused first rest hfirst j hj := by
    obtain ⟨-, rfl⟩ := List.cons.inj hfirst
    exact absurd hj List.not_mem_nil
  untouched j found hfound hj := by
    have hne : i ≠ j := fun hsame => hj (hsame ▸ List.mem_cons_self)
    exact h.untouched j found ((List.getElem?_set_ne hne).symm.trans hfound) (hstarted ▸ List.not_mem_nil)

theorem Follows.refuse (h : Follows upstream declaredSize s) {i : Nat} {iteration : Iteration}
    (hstarted : s.started ≠ []) (hout : i ∉ s.started) (hget : s.iterations[i]? = some iteration) :
    Follows upstream declaredSize ⟨s.download, s.iterations.set i .refused, s.started ++ [i]⟩ where
  size := h.size
  unopened hnone := absurd (List.append_eq_nil_iff.mp hnone).1 hstarted
  opened _ := h.opened hstarted
  first first rest hfirst := by
    obtain ⟨head, tail, hcons⟩ := List.exists_cons_of_ne_nil hstarted
    dsimp only at hfirst
    rw [hcons, List.cons_append] at hfirst
    obtain ⟨rfl, -⟩ := List.cons.inj hfirst
    obtain ⟨found, hfound, hreaches⟩ := h.first head tail hcons
    have hne : i ≠ head := fun hsame => hout (hsame ▸ hcons ▸ List.mem_cons_self)
    exact ⟨found, (List.getElem?_set_ne hne).trans hfound, hreaches⟩
  refused first rest hfirst j hj := by
    obtain ⟨head, tail, hcons⟩ := List.exists_cons_of_ne_nil hstarted
    dsimp only at hfirst
    rw [hcons, List.cons_append] at hfirst
    obtain ⟨-, rfl⟩ := List.cons.inj hfirst
    rcases List.mem_append.mp hj with htail | hlast
    · have hne : i ≠ j := fun hsame => hout (hsame ▸ hcons ▸ List.mem_cons_of_mem head htail)
      exact (List.getElem?_set_ne hne).trans (h.refused head tail hcons j htail)
    · obtain rfl := List.mem_singleton.mp hlast
      exact List.getElem?_set_self (List.getElem?_eq_some_iff.mp hget).1
  untouched j found hfound hj := by
    have hne : i ≠ j := fun hsame => hj (hsame ▸ List.mem_append_right _ List.mem_cons_self)
    exact h.untouched j found ((List.getElem?_set_ne hne).symm.trans hfound) fun hin => hj (List.mem_append_left _ hin)

theorem Follows.leave (h : Follows upstream declaredSize s) {i : Nat} {after : Iteration} (hout : i ∉ s.started)
    (hafter : after.Untouched) : Follows upstream declaredSize { s with iterations := s.iterations.set i after } where
  size := h.size
  unopened := h.unopened
  opened := h.opened
  first first rest hfirst := by
    obtain ⟨found, hfound, hreaches⟩ := h.first first rest hfirst
    have hne : i ≠ first := fun hsame => hout (hsame ▸ hfirst ▸ List.mem_cons_self)
    exact ⟨found, (List.getElem?_set_ne hne).trans hfound, hreaches⟩
  refused first rest hfirst j hj := by
    have hne : i ≠ j := fun hsame => hout (hsame ▸ hfirst ▸ List.mem_cons_of_mem first hj)
    exact (List.getElem?_set_ne hne).trans (h.refused first rest hfirst j hj)
  untouched j found hfound hj := by
    by_cases hsame : i = j
    · subst hsame
      obtain ⟨hbound, hget⟩ := List.getElem?_eq_some_iff.mp hfound
      rw [List.getElem_set_self] at hget
      exact hget ▸ hafter
    · exact h.untouched j found ((List.getElem?_set_ne hsame).symm.trans hfound) hj

theorem Follows.unchanged (h : Follows upstream declaredSize s) {i : Nat} {iteration : Iteration}
    (hget : s.iterations[i]? = some iteration) : Follows upstream declaredSize
      { s with iterations := s.iterations.set i iteration } := by
  obtain ⟨hbound, hsame⟩ := List.getElem?_eq_some_iff.mp hget
  rw [← hsame, List.set_getElem_self]
  exact h

theorem Follows.next (h : Follows upstream declaredSize s) (i : Nat) :
    Follows upstream declaredSize (s.step (.next i)) := by
  unfold step
  dsimp only
  cases hget : s.iterations[i]? with
  | none => exact h
  | some iteration =>
      obtain ⟨frame, given, ended⟩ := iteration
      cases frame with
      | created =>
          have hout : i ∉ s.started := fun hin => h.frame_ne hin hget rfl
          obtain ⟨hgiven, hended, -⟩ := h.untouched i _ hget hout
          obtain rfl : given = [] := hgiven
          obtain rfl : ended = none := hended
          by_cases hstarted : s.started = []
          · obtain ⟨hopened, hcoming⟩ := h.unopened hstarted
            have hproceeds := SnapshotDownload.proceed_reaches { s.download with opened := true } [] .fresh hcoming.symm
              (fun _ hmem => absurd hmem List.not_mem_nil) (Nat.zero_le _) rfl rfl nofun
            unfold SnapshotDownload.resume
            dsimp only
            rw [hopened, if_neg Bool.false_ne_true, if_pos rfl, hstarted]
            exact h.begin hstarted hget h.size rfl (h.size ▸ hproceeds)
          · unfold SnapshotDownload.resume
            dsimp only
            rw [h.opened hstarted, if_pos rfl, if_pos rfl]
            exact h.refuse hstarted hout hget
      | suspended total =>
          obtain ⟨rest, hstarted, hout⟩ := h.suspended hget rfl
          obtain ⟨found, hfound, hreaches⟩ := h.first i rest hstarted
          obtain rfl := Option.some.inj (hget.symm.trans hfound)
          cases hreaches with
          | suspended passed hupstream hpassed hbound =>
              have hopened : s.download.opened = true := h.opened (hstarted ▸ List.cons_ne_nil _ _)
              have hproceeds := SnapshotDownload.proceed_reaches s.download passed
                ⟨.suspended (streamBytes passed).length, streamBytes passed, none⟩ hupstream hpassed hbound rfl rfl nofun
              unfold SnapshotDownload.resume
              dsimp only
              rw [if_neg nofun]
              exact h.advance hstarted hout hget h.size hopened (h.size ▸ hproceeds)
      | finished =>
          unfold SnapshotDownload.resume
          dsimp only
          rw [if_neg nofun]
          exact h.unchanged hget

theorem Follows.step (h : Follows upstream declaredSize s) (action : DownloadAction) :
    Follows upstream declaredSize (s.step action) := by
  cases action with
  | chunks =>
      have hkept : ∀ {i : Nat} {iteration : Iteration}, s.iterations[i]? = some iteration →
          (s.iterations ++ [.fresh])[i]? = some iteration := by
        intro i iteration hget
        rw [List.getElem?_append_left (List.getElem?_eq_some_iff.mp hget).1]
        exact hget
      refine ⟨h.size, h.unopened, h.opened, fun i rest hstarted => ?_, fun i rest hstarted j hj => ?_, ?_⟩
      · obtain ⟨iteration, hget, hreaches⟩ := h.first i rest hstarted
        exact ⟨iteration, hkept hget, hreaches⟩
      · exact hkept (h.refused i rest hstarted j hj)
      · intro i iteration hget hout
        have happend : (s.iterations ++ [Iteration.fresh])[i]? = some iteration := hget
        rw [List.getElem?_append] at happend
        split at happend
        · exact h.untouched i iteration happend hout
        · obtain rfl := List.mem_singleton.mp (List.mem_of_getElem? happend)
          exact ⟨rfl, rfl, nofun⟩
  | next i => exact h.next i
  | abandon i =>
      unfold DownloadUse.step
      dsimp only
      cases hget : s.iterations[i]? with
      | none => exact h
      | some iteration =>
          obtain ⟨frame, given, ended⟩ := iteration
          cases frame with
          | created =>
              have hout : i ∉ s.started := fun hin => h.frame_ne hin hget rfl
              obtain ⟨hgiven, hended, -⟩ := h.untouched i _ hget hout
              exact h.leave hout ⟨hgiven, hended, nofun⟩
          | suspended total =>
              obtain ⟨rest, hstarted, hout⟩ := h.suspended hget rfl
              obtain ⟨found, hfound, hreaches⟩ := h.first i rest hstarted
              obtain rfl := Option.some.inj (hget.symm.trans hfound)
              cases hreaches with
              | suspended passed hupstream hpassed hbound =>
                  refine h.advance hstarted hout hget h.size (h.opened (hstarted ▸ List.cons_ne_nil _ _)) ?_
                  exact .finished _ none rfl hbound nofun nofun
          | finished => exact h.unchanged hget
  | close =>
      refine ⟨h.size, h.unopened, h.opened, fun i rest hstarted => ?_, h.refused, h.untouched⟩
      obtain ⟨iteration, hget, hreaches⟩ := h.first i rest hstarted
      exact ⟨iteration, hget, hreaches.close⟩

/-- What one `next` makes of a generator that is not over: it ends, or waits at a `yield` with less to come. -/
theorem Follows.next_ends (h : Follows upstream declaredSize s) {i : Nat} {iteration : Iteration}
    (hget : s.iterations[i]? = some iteration) (hframe : iteration.frame ≠ .finished) :
    (∃ last result, (s.step (.next i)).iterations[i]? = some last ∧ last.ended = some result) ∨
    ∃ last total, (s.step (.next i)).iterations[i]? = some last ∧ last.frame = .suspended total ∧
      (s.step (.next i)).download.response.coming.length < s.download.response.coming.length := by
  have hset : ∀ after : Iteration, (s.iterations.set i after)[i]? = some after :=
    fun _ => List.getElem?_set_self (List.getElem?_eq_some_iff.mp hget).1
  have hproceeds : ∀ (download : SnapshotDownload) (total : Nat), total ≤ maxSnapshotBytes →
      s.download.resume iteration.frame = download.proceed total → download.response = s.download.response →
      (∃ last result, (s.step (.next i)).iterations[i]? = some last ∧ last.ended = some result) ∨
      ∃ last total, (s.step (.next i)).iterations[i]? = some last ∧ last.frame = .suspended total ∧
        (s.step (.next i)).download.response.coming.length < s.download.response.coming.length := by
    intro download total hbound hresume hresponse
    have hiterations : (s.step (.next i)).iterations =
        s.iterations.set i (iteration.after (download.proceed total).1 (download.proceed total).2.1) := by
      unfold DownloadUse.step
      dsimp only
      rw [hget, ← hresume]
    have hdownload : (s.step (.next i)).download = (download.proceed total).2.2 := by
      unfold DownloadUse.step
      dsimp only
      rw [hget, ← hresume]
    rw [hiterations, hdownload, ← hresponse]
    rcases download.proceed_ends hbound with ⟨result, hends⟩ | ⟨chunk, longer, hyielded, hnext, -, hless⟩
    · exact .inl ⟨_, result, hset _, hends iteration hframe⟩
    · refine .inr ⟨_, longer, hset _, ?_, hless⟩
      rw [Iteration.after_eq hframe, hyielded, hnext]
  obtain ⟨frame, given, ended⟩ := iteration
  cases frame with
  | created =>
      cases hopened : s.download.opened with
      | false =>
          refine hproceeds { s.download with opened := true } 0 (Nat.zero_le _) ?_ rfl
          unfold SnapshotDownload.resume
          dsimp only
          rw [hopened, if_neg Bool.false_ne_true]
      | true =>
          refine .inl ⟨⟨.finished, given, some (.error SnapshotDownload.oneUse)⟩, _, ?_, rfl⟩
          unfold DownloadUse.step SnapshotDownload.resume
          dsimp only
          rw [hget]
          dsimp only
          rw [hopened, if_pos rfl]
          exact hset _
  | suspended total =>
      obtain ⟨rest, hstarted, hout⟩ := h.suspended hget rfl
      obtain ⟨found, hfound, hreaches⟩ := h.first i rest hstarted
      obtain rfl := Option.some.inj (hget.symm.trans hfound)
      cases hreaches with
      | suspended passed hupstream hpassed hbound => exact hproceeds s.download _ hbound rfl rfl
  | finished => exact absurd rfl hframe

theorem Follows.frame_finished (h : Follows upstream declaredSize s) {i : Nat} {iteration : Iteration}
    {result : Except Error Unit} (hget : s.iterations[i]? = some iteration) (hended : iteration.ended = some result) :
    iteration.frame = .finished := by
  obtain ⟨frame, given, ended⟩ := iteration
  obtain rfl : ended = some result := hended
  cases frame with
  | created =>
      have hout : i ∉ s.started := fun hin => h.frame_ne hin hget rfl
      cases (h.untouched i _ hget hout).2.1
  | suspended total =>
      obtain ⟨rest, hstarted, hout⟩ := h.suspended hget rfl
      obtain ⟨found, hfound, hreaches⟩ := h.first i rest hstarted
      obtain rfl := Option.some.inj (hget.symm.trans hfound)
      cases hreaches
  | finished => rfl

/-- Another `next` changes nothing about a generator that ended. -/
theorem Follows.next_ended (h : Follows upstream declaredSize s) {i : Nat} {iteration : Iteration}
    {result : Except Error Unit} (hget : s.iterations[i]? = some iteration) (hended : iteration.ended = some result) :
    (s.step (.next i)).iterations[i]? = some iteration := by
  have hframe := h.frame_finished hget hended
  obtain ⟨frame, given, ended⟩ := iteration
  obtain rfl : frame = .finished := hframe
  unfold DownloadUse.step
  dsimp only
  rw [hget]
  exact List.getElem?_set_self (List.getElem?_eq_some_iff.mp hget).1

theorem Follows.nexts_ended (h : Follows upstream declaredSize s) {i : Nat} {iteration : Iteration}
    {result : Except Error Unit} (n : Nat) (hget : s.iterations[i]? = some iteration)
    (hended : iteration.ended = some result) :
    (Runs.final DownloadUse.step s (List.replicate n (.next i))).iterations[i]? = some iteration := by
  induction n generalizing s with
  | zero => exact hget
  | succ n ih => exact ih (h.step (.next i)) (h.next_ended hget hended)

/-- A generator that is resumed again and again ends. -/
theorem Follows.nexts_end (h : Follows upstream declaredSize s) {i n : Nat} {iteration : Iteration}
    (hget : s.iterations[i]? = some iteration) (hframe : iteration.frame ≠ .finished)
    (hlength : s.download.response.coming.length < n) : ∃ last result,
      (Runs.final DownloadUse.step s (List.replicate n (.next i))).iterations[i]? = some last ∧
        last.ended = some result := by
  induction n generalizing s iteration with
  | zero => exact absurd hlength (Nat.not_lt_zero _)
  | succ n ih =>
      rcases h.next_ends hget hframe with ⟨last, result, hlast, hended⟩ | ⟨last, total, hlast, hsuspended, hless⟩
      · exact ⟨last, result, (h.step (.next i)).nexts_ended n hlast hended, hended⟩
      · exact ih (h.step (.next i)) hlast (hsuspended ▸ nofun) (Nat.lt_of_lt_of_le hless (Nat.le_of_lt_succ hlength))

/-- What is still to come never grows. -/
theorem step_coming (s : DownloadUse) (action : DownloadAction) :
    (s.step action).download.response.coming.length ≤ s.download.response.coming.length := by
  cases action with
  | chunks => exact Nat.le_refl _
  | close => exact Nat.le_refl _
  | abandon i =>
      unfold step
      dsimp only
      cases s.iterations[i]? with
      | none => exact Nat.le_refl _
      | some iteration =>
          obtain ⟨frame, given, ended⟩ := iteration
          cases frame <;> exact Nat.le_refl _
  | next i =>
      unfold step
      dsimp only
      cases s.iterations[i]? with
      | none => exact Nat.le_refl _
      | some iteration =>
          obtain ⟨frame, given, ended⟩ := iteration
          cases frame with
          | created =>
              unfold SnapshotDownload.resume
              dsimp only
              split
              · exact Nat.le_refl _
              · exact SnapshotDownload.proceed_length { s.download with opened := true } 0
          | suspended total => exact s.download.proceed_length total
          | finished => exact Nat.le_refl _

theorem coming_length (upstream : List StreamAnswer) (declaredSize : Option Int) (actions : List DownloadAction) :
    (Runs.final DownloadUse.step (DownloadUse.init upstream declaredSize) actions).download.response.coming.length ≤
      upstream.length :=
  (Runs.throughout_of_step (P := fun s : DownloadUse => s.download.response.coming.length ≤ upstream.length)
    (fun s action h => Nat.le_trans (step_coming s action) h) (Nat.le_refl _) actions).final

theorem follows (upstream : List StreamAnswer) (declaredSize : Option Int) (actions : List DownloadAction) :
    Follows upstream declaredSize
      (Runs.final DownloadUse.step (DownloadUse.init upstream declaredSize) actions) :=
  (Runs.throughout_of_step (fun _ action h => h.step action) Follows.init actions).final

/-- However a download is used: the generator that is resumed first ends without an error exactly if the stream ends
without one, is all bytes and has the right length, has then given those bytes, and has closed the response once it is
over. Every other one is refused when it is resumed. No more bytes are given than the maximum, and a generator that is
resumed often enough ends. -/
theorem snapshot_download (upstream : List StreamAnswer) (declaredSize : Option Int) (actions : List DownloadAction) :
    let s := Runs.final DownloadUse.step (DownloadUse.init upstream declaredSize) actions
    (∀ i rest, s.started = i :: rest → (∃ iteration, s.iterations[i]? = some iteration ∧
        (∀ result, iteration.ended = some result → (result = .ok () ↔ Complete upstream declaredSize)) ∧
        (iteration.ended = some (.ok ()) → iteration.given = streamBytes upstream) ∧
        (iteration.frame = .finished → s.download.response.closed = true)) ∧
      ∀ j ∈ rest, s.iterations[j]? = some .refused) ∧
    (∀ i iteration, s.iterations[i]? = some iteration →
      iteration.given.length ≤ maxSnapshotBytes ∧ (s.started.head? ≠ some i → iteration.given = [])) ∧
    ∀ i iteration, s.iterations[i]? = some iteration → iteration.frame ≠ .finished → ∃ last result,
      (Runs.final DownloadUse.step s (List.replicate (upstream.length + 1) (.next i))).iterations[i]? = some last ∧
        last.ended = some result := by
  intro s
  have h : Follows upstream declaredSize s := follows upstream declaredSize actions
  refine ⟨fun i rest hstarted => ⟨?_, h.refused i rest hstarted⟩, fun i iteration hget => ?_, ?_⟩
  · obtain ⟨iteration, hget, hreaches⟩ := h.first i rest hstarted
    refine ⟨iteration, hget, ?_⟩
    cases hreaches with
    | suspended passed => exact ⟨nofun, nofun, nofun⟩
    | finished given ended hclosed hbound hended hgiven => exact ⟨hended, hgiven, fun _ => hclosed⟩
  · by_cases hin : i ∈ s.started
    · cases hstarted : s.started with
      | nil => exact absurd (hstarted ▸ hin) List.not_mem_nil
      | cons first rest =>
          rcases List.mem_cons.mp (hstarted ▸ hin) with rfl | hrest
          · obtain ⟨found, hfound, hreaches⟩ := h.first i rest hstarted
            obtain rfl := Option.some.inj (hget.symm.trans hfound)
            exact ⟨hreaches.bound, fun hhead => absurd rfl hhead⟩
          · obtain rfl := Option.some.inj (hget.symm.trans (h.refused first rest hstarted i hrest))
            exact ⟨Nat.zero_le _, fun _ => rfl⟩
    · have hgiven := (h.untouched i iteration hget hin).1
      exact ⟨hgiven ▸ Nat.zero_le _, fun _ => hgiven⟩
  · intro i iteration hget hframe
    exact h.nexts_end hget hframe (Nat.lt_succ_of_le (coming_length upstream declaredSize actions))

end DownloadUse

end Cluster

end NetboxOpenbao
