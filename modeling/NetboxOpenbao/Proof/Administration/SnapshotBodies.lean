import NetboxOpenbao.Proof.Administration.LifecycleViews

/-!
# The body of a snapshot download

What the server does with the body of the response to a download decides the row about it: the response is closed
exactly if the row has been tried, and the row tells a success exactly if the whole stream was handed on. The view that
hands the body out is authorized like the other lifecycle actions.
-/

namespace NetboxOpenbao

open Effect Dialogue

namespace Cluster

/-! ### The stream behind a body -/

/-- What goes on from a place where `passed` has been handed on and `left` is to come: the next chunk, the end of a
stream that is as it should be, or an error in one that is not. -/
inductive Proceeds (upstream : List StreamAnswer) (declaredSize : Option Int) (passed left : List StreamAnswer) :
    Resumed × ChunksFrame × SnapshotDownload → Prop where
  | yielded (more rest : List StreamAnswer) (chunk : List UInt8) (hupstream : upstream = more ++ rest)
      (hmore : AllBytes more) (hgiven : streamBytes more = streamBytes passed ++ chunk)
      (hbound : (streamBytes more).length ≤ maxSnapshotBytes) (hless : rest.length < left.length) :
      Proceeds upstream declaredSize passed left
        (.yielded chunk, .suspended (streamBytes more).length, ⟨⟨rest, false⟩, declaredSize, true⟩)
  | returned (download : SnapshotDownload) (hcomplete : Complete upstream declaredSize)
      (hgiven : streamBytes passed = streamBytes upstream) :
      Proceeds upstream declaredSize passed left (.returned, .finished, download)
  | raised (error : Error) (download : SnapshotDownload) (hincomplete : ¬ Complete upstream declaredSize) :
      Proceeds upstream declaredSize passed left (.raised error, .finished, download)

section

variable {upstream passed left : List StreamAnswer} {declaredSize : Option Int}

theorem proceed_proceeds (hupstream : upstream = passed ++ left) (hpassed : AllBytes passed)
    (hbound : (streamBytes passed).length ≤ maxSnapshotBytes) :
    Proceeds upstream declaredSize passed left
      (SnapshotDownload.proceed ⟨⟨left, false⟩, declaredSize, true⟩ (streamBytes passed).length) := by
  have hstops := SnapshotDownload.loop_stops declaredSize left hbound
  have hiff : Complete upstream declaredSize ↔ CompleteFrom (streamBytes passed).length left declaredSize := by
    have happend := completeFrom_append hpassed left 0 declaredSize
    rwa [Nat.zero_add, ← hupstream] at happend
  unfold SnapshotDownload.proceed
  dsimp only
  revert hstops
  generalize SnapshotDownload.loop declaredSize (streamBytes passed).length left = stopped
  obtain ⟨resumed, frame, coming⟩ := stopped
  intro hstops
  dsimp only at hstops ⊢
  cases hstops with
  | yielded more _ chunk hcoming hmore hsome hchunk hlonger =>
      have hgiven : streamBytes (passed ++ more) = streamBytes passed ++ chunk := by
        rw [streamBytes_append, hchunk]
      have hlength : (streamBytes (passed ++ more)).length = (streamBytes passed).length + chunk.length := by
        rw [hgiven, List.length_append]
      have hless : coming.length < left.length := by
        have hpositive : 0 < more.length := List.length_pos_iff.mpr hsome
        rw [hcoming, List.length_append]
        omega
      rw [if_neg ChunksFrame.noConfusion, ← hlength]
      refine .yielded (passed ++ more) coming chunk ?_ (hpassed.append hmore) hgiven (hlength ▸ hlonger) hless
      rw [hupstream, hcoming, List.append_assoc]
  | returned hempty hcomplete =>
      refine .returned _ (hiff.mpr hcomplete) ?_
      rw [hupstream, streamBytes_append, hempty, List.append_nil]
  | raised error _ hincomplete => exact .raised error _ fun hcomplete => hincomplete (hiff.mp hcomplete)

end

/-! ### The body -/

namespace BodyUse

/-- How far a body got with a stream: it has not begun, it waits at a `yield`, it was closed before it began, or it is
over. -/
inductive Follows (upstream : List StreamAnswer) (declaredSize : Option Int) (method reason : String) :
    BodyUse → Prop where
  | created : Follows upstream declaredSize method reason
      ⟨⟨⟨⟨upstream, false⟩, declaredSize, false⟩, .created⟩, [], none, []⟩
  | suspended (passed left : List StreamAnswer) (hupstream : upstream = passed ++ left) (hpassed : AllBytes passed)
      (hbound : (streamBytes passed).length ≤ maxSnapshotBytes) : Follows upstream declaredSize method reason
      ⟨⟨⟨⟨left, false⟩, declaredSize, true⟩, .suspended (.suspended (streamBytes passed).length)⟩, streamBytes passed,
        none, []⟩
  | unread : Follows upstream declaredSize method reason
      ⟨⟨⟨⟨upstream, false⟩, declaredSize, false⟩, .finished⟩, [], none, []⟩
  | closed (download : SnapshotDownload) (given : List UInt8) (ended : Option (Except Error Unit)) (success : Bool)
      (hclosed : download.response.closed = true) (hgiven : given <+: streamBytes upstream)
      (hbound : given.length ≤ maxSnapshotBytes) (hsuccess : success = true ↔ ended = some (.ok ()))
      (hended : ∀ result, ended = some result → (result = .ok () ↔ Complete upstream declaredSize))
      (hall : success = true → given = streamBytes upstream) : Follows upstream declaredSize method reason
      ⟨⟨download, .finished⟩, given, ended, [streamedEntry method reason success]⟩

/-- A body is over with its row, or it goes on with less than `count` answers to come. -/
def Nears (upstream : List StreamAnswer) (declaredSize : Option Int) (method reason : String) (count : Nat)
    (s : BodyUse) : Prop :=
  (∃ success, s.rows = [streamedEntry method reason success] ∧ s.stream.frame = .finished ∧
    (success = true ↔ Complete upstream declaredSize)) ∨
  s.stream.frame ≠ .finished ∧ s.stream.download.response.coming.length < count

section

variable {upstream passed left : List StreamAnswer} {declaredSize : Option Int} {method reason : String}
  {s : BodyUse}

/-- A `next` that goes on with the stream, by what the generator behind the body did. -/
theorem follows_proceed (stream : SnapshotBody) (chunks : ChunksFrame) (hframe : stream.frame ≠ .finished)
    (hresume : stream.resume = stream.proceed chunks)
    (hproceeds : Proceeds upstream declaredSize passed left (stream.download.resume chunks))
    (hbegins : streamBytes passed <+: streamBytes upstream)
    (hbound : (streamBytes passed).length ≤ maxSnapshotBytes) :
    Follows upstream declaredSize method reason (step method reason ⟨stream, streamBytes passed, none, []⟩ .next) ∧
      Nears upstream declaredSize method reason left.length
        (step method reason ⟨stream, streamBytes passed, none, []⟩ .next) := by
  unfold step
  dsimp only
  rw [hresume, if_neg hframe]
  unfold SnapshotBody.proceed
  generalize stream.download.resume chunks = out at hproceeds ⊢
  cases hproceeds with
  | yielded more rest chunk hupstream hmore hgiven hlonger hless =>
      refine ⟨?_, .inr ⟨BodyFrame.noConfusion, hless⟩⟩
      show Follows _ _ _ _ ⟨_, streamBytes passed ++ chunk, none, []⟩
      rw [← hgiven]
      exact .suspended more rest hupstream hmore hlonger
  | returned download hcomplete hgiven =>
      refine ⟨?_, .inl ⟨true, rfl, rfl, iff_of_true rfl hcomplete⟩⟩
      show Follows _ _ _ _ ⟨_, streamBytes passed ++ [], some (.ok ()), [streamedEntry method reason true]⟩
      rw [List.append_nil]
      refine .closed _ _ _ true rfl hbegins hbound (iff_of_true rfl rfl) ?_ fun _ => hgiven
      intro result hresult
      exact iff_of_true (Option.some.inj hresult).symm hcomplete
  | raised error download hincomplete =>
      refine ⟨?_, .inl ⟨false, rfl, rfl, iff_of_false Bool.false_ne_true hincomplete⟩⟩
      show Follows _ _ _ _ ⟨_, streamBytes passed ++ [], some (.error error), [streamedEntry method reason false]⟩
      rw [List.append_nil]
      have hfailed : (Except.error error : Except Error Unit) ≠ .ok () := fun h => by cases h
      refine .closed _ _ _ false rfl hbegins hbound ?_ ?_ fun h => absurd h Bool.false_ne_true
      · exact iff_of_false Bool.false_ne_true fun h => hfailed (Option.some.inj h)
      · intro result hresult
        obtain rfl := Option.some.inj hresult
        exact iff_of_false hfailed hincomplete

theorem step_next_finished (hframe : s.stream.frame = .finished) : s.step method reason .next = s := by
  obtain ⟨⟨download, frame⟩, given, ended, rows⟩ := s
  obtain rfl : frame = .finished := hframe
  unfold step
  dsimp only [SnapshotBody.resume, Resumed.chunk, Option.map_none, Option.toList_none]
  rw [List.append_nil, List.append_nil, if_pos rfl]

theorem prefix_streamBytes (hupstream : upstream = passed ++ left) : streamBytes passed <+: streamBytes upstream := by
  rw [hupstream, streamBytes_append]
  exact List.prefix_append _ _

/-- One `next` on a body that is not over. -/
theorem Follows.proceeds (h : Follows upstream declaredSize method reason s) (hframe : s.stream.frame ≠ .finished) :
    Follows upstream declaredSize method reason (s.step method reason .next) ∧
      Nears upstream declaredSize method reason s.stream.download.response.coming.length
        (s.step method reason .next) := by
  cases h with
  | created =>
      have hproceeds : Proceeds upstream declaredSize [] upstream
          (SnapshotDownload.proceed ⟨⟨upstream, false⟩, declaredSize, true⟩ 0) :=
        proceed_proceeds rfl (fun _ hmem => absurd hmem List.not_mem_nil) (Nat.zero_le _)
      exact follows_proceed ⟨⟨⟨upstream, false⟩, declaredSize, false⟩, .created⟩ .created hframe rfl hproceeds
        List.nil_prefix (Nat.zero_le _)
  | suspended passed left hupstream hpassed hbound =>
      exact follows_proceed ⟨⟨⟨left, false⟩, declaredSize, true⟩, .suspended (.suspended (streamBytes passed).length)⟩
        (.suspended (streamBytes passed).length) hframe rfl (proceed_proceeds hupstream hpassed hbound)
        (prefix_streamBytes hupstream) hbound
  | unread => exact absurd rfl hframe
  | closed => exact absurd rfl hframe

theorem Follows.next (h : Follows upstream declaredSize method reason s) :
    Follows upstream declaredSize method reason (s.step method reason .next) := by
  by_cases hframe : s.stream.frame = .finished
  · rwa [step_next_finished hframe]
  · exact (h.proceeds hframe).1

theorem Follows.step (h : Follows upstream declaredSize method reason s) (action : BodyAction) :
    Follows upstream declaredSize method reason (s.step method reason action) := by
  cases action with
  | next => exact h.next
  | close =>
      cases h with
      | created => exact .unread
      | unread => exact .unread
      | suspended passed left hupstream hpassed hbound =>
          have hnone : ∀ result, (none : Option (Except Error Unit)) ≠ some result := fun _ h => by cases h
          exact .closed _ _ none false rfl (prefix_streamBytes hupstream) hbound
            (iff_of_false Bool.false_ne_true (hnone _)) (fun result h => absurd h (hnone result))
            fun h => absurd h Bool.false_ne_true
      | closed download given ended success hclosed hgiven hbound hsuccess hended hall =>
          exact .closed download given ended success hclosed hgiven hbound hsuccess hended hall

theorem nexts_finished (hframe : s.stream.frame = .finished) (n : Nat) :
    Runs.final (step method reason) s (List.replicate n .next) = s := by
  induction n with
  | zero => rfl
  | succ n ih =>
      show Runs.final (step method reason) (s.step method reason .next) (List.replicate n .next) = s
      rw [step_next_finished hframe, ih]

/-- A body that is read on and on is over with its row. -/
theorem Follows.nexts_end {n : Nat} (h : Follows upstream declaredSize method reason s)
    (hframe : s.stream.frame ≠ .finished) (hlength : s.stream.download.response.coming.length < n) :
    ∃ success, (Runs.final (BodyUse.step method reason) s (List.replicate n .next)).rows =
      [streamedEntry method reason success] ∧ (success = true ↔ Complete upstream declaredSize) := by
  induction n generalizing s with
  | zero => exact absurd hlength (Nat.not_lt_zero _)
  | succ n ih =>
      show ∃ success, (Runs.final (BodyUse.step method reason) (s.step method reason .next)
        (List.replicate n .next)).rows = [streamedEntry method reason success] ∧ _
      obtain ⟨hfollows, ⟨success, hrows, hfinished, hcomplete⟩ | ⟨hon, hless⟩⟩ := h.proceeds hframe
      · rw [nexts_finished hfinished]
        exact ⟨success, hrows, hcomplete⟩
      · exact ih hfollows hon (Nat.lt_of_lt_of_le hless (Nat.le_of_lt_succ hlength))

theorem Follows.coming_length (h : Follows upstream declaredSize method reason s)
    (hframe : s.stream.frame ≠ .finished) : s.stream.download.response.coming.length ≤ upstream.length := by
  cases h with
  | created => exact Nat.le_refl _
  | suspended passed left hupstream hpassed hbound =>
      rw [hupstream, List.length_append]
      exact Nat.le_add_left _ _
  | unread => exact absurd rfl hframe
  | closed => exact absurd rfl hframe

/-- What a body has to show for itself. -/
structure Accounted (upstream : List StreamAnswer) (declaredSize : Option Int) (method reason : String)
    (s : BodyUse) : Prop where
  handed : s.given <+: streamBytes upstream
  bound : s.given.length ≤ maxSnapshotBytes
  closed : s.stream.download.response.closed = true ↔ s.rows ≠ []
  unread : s.stream.frame = .finished → s.rows = [] → s.stream.download.opened = false
  row : s.rows ≠ [] → ∃ success, s.rows = [streamedEntry method reason success] ∧
    (success = true ↔ s.ended = some (.ok ())) ∧
    (success = true → Complete upstream declaredSize ∧ s.given = streamBytes upstream)

theorem Follows.accounted (h : Follows upstream declaredSize method reason s) :
    Accounted upstream declaredSize method reason s := by
  cases h with
  | created =>
      exact ⟨List.nil_prefix, Nat.zero_le _, iff_of_false Bool.false_ne_true fun h => h rfl,
        fun hframe => BodyFrame.noConfusion hframe, fun h => absurd rfl h⟩
  | unread =>
      exact ⟨List.nil_prefix, Nat.zero_le _, iff_of_false Bool.false_ne_true fun h => h rfl,
        fun _ _ => rfl, fun h => absurd rfl h⟩
  | suspended passed left hupstream hpassed hbound =>
      exact ⟨prefix_streamBytes hupstream, hbound, iff_of_false Bool.false_ne_true fun h => h rfl,
        fun hframe => BodyFrame.noConfusion hframe, fun h => absurd rfl h⟩
  | closed download given ended success hclosed hgiven hbound hsuccess hended hall =>
      refine ⟨hgiven, hbound, iff_of_true hclosed (List.cons_ne_nil _ _),
        fun _ hrows => absurd hrows (List.cons_ne_nil _ _), fun _ => ⟨success, rfl, hsuccess, fun htrue => ?_⟩⟩
      exact ⟨(hended _ (hsuccess.mp htrue)).mp rfl, hall htrue⟩

end

end BodyUse

theorem downloadRaftSnapshot_ok {response : SnapshotResponse} {contentEncoding : Option String}
    {contentLength : Option (Option Int)} {download : SnapshotDownload}
    (h : downloadRaftSnapshot response contentEncoding contentLength = .ok download) :
    download = .init response download.declaredSize := by
  unfold downloadRaftSnapshot at h
  dsimp only at h
  split at h
  · cases h
  · cases contentLength with
    | none =>
        obtain rfl := Except.ok.inj h
        rfl
    | some length =>
        cases length with
        | none => cases h
        | some size =>
            dsimp only at h
            split at h
            · obtain rfl := Except.ok.inj h
              rfl
            · cases h

/-- However the server uses the body of a download: what it was given is a beginning of the stream and never more than
the maximum. The response is closed exactly if the row was tried, which is once at most, and a body that is over without
a row was never begun. The row tells a success exactly if the body ended without an error; the stream was whole then,
and all of it was given. A body that is read on comes to its row, which tells a success exactly if the stream was
whole. -/
theorem snapshot_body {response : SnapshotResponse} {contentEncoding : Option String}
    {contentLength : Option (Option Int)} {download : SnapshotDownload} (hopen : response.closed = false)
    (hdownload : downloadRaftSnapshot response contentEncoding contentLength = .ok download) (method reason : String)
    (actions : List BodyAction) :
    let s := Runs.final (BodyUse.step method reason) (BodyUse.init download) actions
    s.given <+: streamBytes response.coming ∧ s.given.length ≤ maxSnapshotBytes ∧
    (s.stream.download.response.closed = true ↔ s.rows ≠ []) ∧
    (s.stream.frame = .finished → s.rows = [] → s.stream.download.opened = false) ∧
    (s.rows ≠ [] → ∃ success, s.rows = [streamedEntry method reason success] ∧
      (success = true ↔ s.ended = some (.ok ())) ∧
      (success = true → Complete response.coming download.declaredSize ∧ s.given = streamBytes response.coming)) ∧
    (s.stream.frame ≠ .finished → ∃ success,
      (Runs.final (BodyUse.step method reason) s (List.replicate (response.coming.length + 1) .next)).rows =
        [streamedEntry method reason success] ∧
      (success = true ↔ Complete response.coming download.declaredSize)) := by
  intro s
  obtain ⟨upstream, closed⟩ := response
  obtain rfl : closed = false := hopen
  have hfollows : BodyUse.Follows upstream download.declaredSize method reason s := by
    refine (Runs.throughout_of_step (fun _ action h => h.step action) ?_ actions).final
    rw [downloadRaftSnapshot_ok hdownload]
    exact .created
  obtain ⟨hhanded, hbound, hclosed, hunread, hrow⟩ := hfollows.accounted
  refine ⟨hhanded, hbound, hclosed, hunread, hrow, fun hframe => ?_⟩
  exact hfollows.nexts_end hframe (Nat.lt_succ_of_le (hfollows.coming_length hframe))

namespace Sample

def drillResponse : SnapshotResponse := ⟨[.bytes [1, 2], .bytes [], .bytes [3]], false⟩

def drill : SnapshotDownload := ⟨drillResponse, some 3, false⟩

theorem drill_admitted : downloadRaftSnapshot drillResponse none (some (some 3)) = .ok drill := by
  unfold downloadRaftSnapshot
  have hencoding : (Text.lower (Text.strip ((none : Option String).getD "")) != "" &&
      Text.lower (Text.strip ((none : Option String).getD "")) != "identity") = false := by decide +kernel
  dsimp only
  rw [hencoding]
  rfl

end Sample

/-- The server closes a body after its first chunk, and reads another one on from there. -/
theorem snapshot_body_abandoned :
    let abandoned := Runs.final (BodyUse.step "GET" "") (BodyUse.init Sample.drill) [.next, .close]
    let begun := Runs.final (BodyUse.step "GET" "") (BodyUse.init Sample.drill) [.next]
    abandoned.given <+: streamBytes Sample.drillResponse.coming ∧ abandoned.given.length ≤ maxSnapshotBytes ∧
    (abandoned.stream.download.response.closed = true ↔ abandoned.rows ≠ []) ∧
    (abandoned.stream.frame = .finished → abandoned.rows = [] → abandoned.stream.download.opened = false) ∧
    (abandoned.rows ≠ [] → ∃ success, abandoned.rows = [streamedEntry "GET" "" success] ∧
      (success = true ↔ abandoned.ended = some (.ok ())) ∧
      (success = true → Complete Sample.drillResponse.coming Sample.drill.declaredSize ∧
        abandoned.given = streamBytes Sample.drillResponse.coming)) ∧
    ∃ success, (Runs.final (BodyUse.step "GET" "") begun (List.replicate 4 .next)).rows =
        [streamedEntry "GET" "" success] ∧
      (success = true ↔ Complete Sample.drillResponse.coming Sample.drill.declaredSize) := by
  intro abandoned begun
  obtain ⟨hgiven, hbound, hclosed, hunread, hrow, -⟩ := snapshot_body rfl Sample.drill_admitted "GET" "" [.next, .close]
  obtain ⟨-, -, -, -, -, hreadOn⟩ := snapshot_body rfl Sample.drill_admitted "GET" "" [.next]
  refine ⟨hgiven, hbound, hclosed, hunread, hrow, hreadOn ?_⟩
  intro hfinished
  cases hfinished

end Cluster

/-! ### The view of a download -/

section

variable [Packaging]

/-- What the view of a download has seen and done when it comes to its call. -/
structure DownloadAuthorized (mode : ConnectionMode) (request : PlaneRequest) (method : String)
    (sessionAuthenticated : Bool) (attrs : ConfirmClusterAttrs) (h : List LifecycleExchange) (cluster : OpenBaoCluster)
    (status : SealStatus) (leader : LeaderStatus) : Prop where
  outermost : mode.inAtomicBlock = false
  session : method = "GET" → sessionAuthenticated = false
  confirmed : method = "POST" → attrs.confirmation = "DOWNLOAD SNAPSHOT " ++ cluster.slug
  version : Packaging.supported status.version = true
  unsealed : status.initialized = true ∧ status.isSealed = false ∧ status.storageType = "raft"
  leads : leader.haEnabled = true → leader.isSelf = true
  history : h = [⟨.plane (.cluster "download_raft_snapshot"), .ok cluster⟩, ⟨.plane .backend, .ok ()⟩,
      ⟨.plane .sealStatus, .ok status⟩, ⟨.plane .leaderStatus, .ok leader⟩] ++
    (durableBlock mode ((downloadAuthorized method (if method == "POST" then attrs.reason else "")).row cluster
      request)).map ClusterAdmin.exchanged

variable {mode : ConnectionMode} {request : PlaneRequest} {method reason : String} {cluster : OpenBaoCluster}

omit [Packaging] in
theorem answerDownload_avoids (outcome : Except Error Cluster.SnapshotDownload) :
    (answerDownload mode cluster request reason outcome).Avoids LifecycleAsk.Changes := by
  cases outcome with
  | error error =>
      unfold answerDownload
      dsimp only
      split
      · exact ClusterAdmin.plane_avoids _
      · exact Avoids.raise _
  | ok snapshot => exact Avoids.pure _

/-- The `try` of a download at its call. -/
theorem runDownload_pending {h : List LifecycleExchange} {e : ClusterAdmin Cluster.SnapshotDownload}
    (ht : Talks (runDownload mode cluster request method reason) h e) {r : LifecycleAsk} (hr : e.pending = some r)
    (hchanges : r.Changes) : ∃ status reading, mode.inAtomicBlock = false ∧ Ends checkRaft reading (.ok status) ∧
      r = .downloadRaftSnapshot ∧ h = ⟨.plane .backend, .ok ()⟩ ::
        (reading ++ (durableBlock mode ((downloadAuthorized method reason).row cluster request)).map
          ClusterAdmin.exchanged) := by
  obtain ⟨h₁, h₂, u, rfl, hbackend, hchecking⟩ :=
    ht.bind_pending (P := LifecycleAsk.Changes) (Avoids.request id) hr hchanges
  obtain rfl := Ends.request hbackend
  obtain ⟨reading, h₃, status, rfl, hchecked, hauthorizing⟩ := hchecking.bind_pending checkRaft_avoids hr hchanges
  obtain ⟨block, h₄, u', rfl, hblock, hcalling⟩ :=
    hauthorizing.bind_pending (ClusterAdmin.plane_avoids _) hr hchanges
  obtain ⟨houtermost, rfl⟩ := ClusterAdmin.durable_ends hblock
  obtain ⟨rfl, rfl⟩ := Talks.request hcalling hr
  exact ⟨status, reading, houtermost, hchecked, rfl, by rw [List.append_nil]; rfl⟩

/-- Whatever the backend and the database answer: a view that comes to a call which hands out what a server keeps has
looked its cluster up, has had it confirmed or was not made in a session, has read that the server is an unsealed leader
that stores its data in Raft, and the row about the download is durable. -/
theorem download_call_authorized {sessionAuthenticated : Bool} {attrs : ConfirmClusterAttrs}
    {h : List LifecycleExchange} {e : ClusterAdmin Cluster.SnapshotDownload}
    (ht : Talks (OpenBaoClusterViewSet.downloadRaftSnapshot mode request method sessionAuthenticated attrs) h e)
    {r : LifecycleAsk} (hr : e.pending = some r) (hchanges : r.Changes) : ∃ cluster status leader,
      DownloadAuthorized mode request method sessionAuthenticated attrs h cluster status leader ∧
      r = .downloadRaftSnapshot := by
  obtain ⟨h₁, h₂, u, rfl, hraised, hlooking⟩ :=
    ht.bind_pending (P := LifecycleAsk.Changes) (ClusterAdmin.raiseIf_avoids _ _) hr hchanges
  obtain ⟨hsession, rfl⟩ := ClusterAdmin.raiseIf_ends hraised
  obtain ⟨h₃, h₄, cluster, rfl, hlooked, hconfirming⟩ :=
    hlooking.bind_pending (P := LifecycleAsk.Changes) (Avoids.request id) hr hchanges
  obtain rfl := Ends.request hlooked
  obtain ⟨h₅, h₆, u', rfl, hchecked, hrunning⟩ :=
    hconfirming.bind_pending (P := LifecycleAsk.Changes) (Avoids.done _) hr hchanges
  obtain ⟨rfl, hconfirmed⟩ := Talks.done hchecked
  obtain ⟨d', hrun, hd'⟩ := hrunning.attempt_pending (P := LifecycleAsk.Changes) answerDownload_avoids hr hchanges
  obtain ⟨status, reading, houtermost, hread, rfl, rfl⟩ := runDownload_pending hrun hd' hchanges
  obtain ⟨leader, hversion, hinitialized, hunsealed, hraft, hleader, rfl⟩ := checkRaft_ends hread
  refine ⟨cluster, status, leader, ⟨houtermost, fun hget => ?_, fun hpost => ?_, hversion,
    ⟨hinitialized, hunsealed, hraft⟩, hleader, rfl⟩, rfl⟩
  · subst hget
    simpa using hsession
  · subst hpost
    exact validateConfirmation_ok (Dialogue.done.inj hconfirmed).symm

end

namespace Sample

def downloading : ConfirmClusterAttrs := ⟨"recovery drill", "DOWNLOAD SNAPSHOT bao"⟩

def downloadReading : List LifecycleExchange :=
  [⟨.plane .sealStatus, .ok unsealed⟩, ⟨.plane .leaderStatus, .ok selfLed⟩]

theorem download_checked : Ends (@checkRaft packaging) downloadReading (.ok unsealed) := by
  iterate 2 refine Talks.of_ask rfl _ ?_
  exact .start _

def downloadCalling : List LifecycleExchange :=
  [] ++ ([⟨.plane (.cluster "download_raft_snapshot"), .ok openBaoCluster⟩] ++ ([] ++ ([⟨.plane .backend, .ok ()⟩] ++
    (downloadReading ++ (restoreLogged (downloadAuthorized "POST" "recovery drill") ++ [])))))

theorem download_waits :
    Waits (@OpenBaoClusterViewSet.downloadRaftSnapshot packaging ⟨false, true⟩ planeRequest "POST" true downloading)
      downloadCalling .downloadRaftSnapshot := by
  refine Ends.waits (a := ()) (.start _) (Ends.waits (a := openBaoCluster) (.answered (.ok _) (.start _)) ?_)
  refine Ends.waits (a := ()) (.start _) (Waits.bind (Waits.attempt ?_))
  refine Ends.waits (a := ()) (.answered (.ok _) (.start _)) (Ends.waits download_checked ?_)
  exact Ends.waits (restoreRow _ _ (by decide)) (Waits.request _)

end Sample

theorem download_call_authorized_drill : ∃ cluster status leader,
    @DownloadAuthorized Sample.packaging ⟨false, true⟩ Sample.planeRequest "POST" true Sample.downloading
      Sample.downloadCalling cluster status leader := by
  obtain ⟨e, ht, hr⟩ := Sample.download_waits
  obtain ⟨cluster, status, leader, hauthorized, -⟩ :=
    @download_call_authorized Sample.packaging _ _ _ _ _ _ _ ht _ hr trivial
  exact ⟨cluster, status, leader, hauthorized⟩

end NetboxOpenbao
