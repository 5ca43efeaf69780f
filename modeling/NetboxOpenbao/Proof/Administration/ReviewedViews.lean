import NetboxOpenbao.Administration.ReviewedViews
import NetboxOpenbao.Proof.Administration.Explorer
import NetboxOpenbao.Proof.Administration.Guards
import NetboxOpenbao.Proof.Administration.Schema
import NetboxOpenbao.Proof.Administration.Sorted

/-!
# What a reviewed request has to pass

The server it was written for, and the fields that confirm it.
-/

namespace NetboxOpenbao

open Effect Dialogue

variable [Packaging]

/-- What was seen of a server that is ready, and whose document is the one of this digest. -/
def ReviewedPreflight (digest : String) (document : CapabilityDocument) (h : List PlaneExchange) : Prop :=
  ∃ status, h = [⟨.backend, .ok ()⟩, ⟨.sealStatus, .ok status⟩, ⟨.discoverCapabilities, .ok document⟩] ∧
    Packaging.supported status.version = true ∧ status.initialized = true ∧ status.isSealed = false ∧
    Packaging.supported document.productVersion = true ∧ document.digest = digest

theorem reviewedDocument_ends {notReady changed digest : String} {h : List PlaneExchange}
    {document : CapabilityDocument} (he : Ends (reviewedDocument notReady changed digest) h (.ok document)) :
    ReviewedPreflight digest document h := by
  obtain ⟨⟨⟩, h₁, rfl, hstatus⟩ := Ends.request_bind he
  obtain ⟨status, h₂, rfl, hversioned⟩ := Ends.request_bind hstatus
  obtain ⟨hversion, hreadied⟩ := Admin.raiseIf_ok hversioned
  obtain ⟨hready, hdiscovered⟩ := Admin.raiseIf_ok hreadied
  obtain ⟨found, h₃, rfl, hdocument⟩ := Ends.request_bind hdiscovered
  obtain ⟨hproduct, hchecked⟩ := Admin.raiseIf_ok hdocument
  obtain ⟨hdigest, hreturned⟩ := Admin.raiseIf_ok hchecked
  obtain ⟨rfl, rfl⟩ := Ends.pure_ok hreturned
  obtain ⟨hinitialized, hunsealed⟩ := Bool.or_eq_false_iff.mp hready
  refine ⟨status, rfl, ?_, ?_, hunsealed, ?_, ?_⟩
  · simpa using hversion
  · simpa using hinitialized
  · simpa using hproduct
  · simpa using hdigest

/-- A request that is neither a question about the server nor part of a row. -/
def AdminAsk.Executes : AdminAsk → Prop
  | .executeFinalOperation _ | .executeAccessOperation _ => True
  | _ => False

theorem ReviewedPreflight.quiet {digest : String} {document : CapabilityDocument} {h : List PlaneExchange}
    (preflight : ReviewedPreflight digest document h) : ∀ x ∈ h, ¬ x.request.Executes := by
  obtain ⟨status, rfl, -⟩ := preflight
  simp [AdminAsk.Executes]

theorem reviewedDocument_avoids (notReady changed digest : String) :
    (reviewedDocument notReady changed digest).Avoids AdminAsk.Executes :=
  Avoids.bind (Admin.ask_avoids id) fun _ =>
    Avoids.bind (Admin.ask_avoids id) fun _ =>
    Avoids.bind (requireBaseline_avoids _) fun _ =>
    Avoids.bind (Admin.raiseIf_avoids _ _) fun _ =>
    Avoids.bind (Admin.ask_avoids id) fun _ =>
    Avoids.bind (Admin.raiseIf_avoids _ _) fun _ =>
    Avoids.bind (Admin.raiseIf_avoids _ _) fun _ => Avoids.pure _

omit [Packaging] in
theorem writesLog_executes (r : AdminAsk) (hlog : r.writesLog = true) : ¬ r.Executes := by
  cases r <;> first | exact id | cases hlog

omit [Packaging] in
/-- A reviewed view acts after two lookups of its cluster: one to validate what it was sent, and one under the permission
that the operation asks for. -/
theorem reviewed_pending {α β : Type} {P : AdminAsk → Prop} (hlookup : ∀ action, ¬ P (.cluster action)) {action : String}
    {validate : OpenBaoCluster → Except Error α} {permission : α → String}
    {acting : OpenBaoCluster → α → OpenBaoCluster → Admin β} {h : List PlaneExchange} {e : Admin β}
    (ht : Talks (Admin.ask (.cluster action) >>= fun viewed => Admin.ofExcept (validate viewed) >>= fun data =>
      Admin.ask (.cluster (permission data)) >>= fun cluster => acting viewed data cluster) h e)
    {r : AdminAsk} (hr : e.pending = some r) (hP : P r) :
    ∃ viewed data cluster rest, validate viewed = .ok data ∧
      h = ⟨.cluster action, .ok viewed⟩ :: ⟨.cluster (permission data), .ok cluster⟩ :: rest ∧
      Talks (acting viewed data cluster) rest e := by
  obtain ⟨h₁, h₂, viewed, rfl, hviewed, hvalidating⟩ := ht.bind_pending (Admin.ask_avoids (hlookup _)) hr hP
  obtain rfl := Ends.request hviewed
  obtain ⟨h₃, h₄, data, rfl, hvalid, hlooking⟩ := hvalidating.bind_pending (Admin.ofExcept_avoids _) hr hP
  obtain ⟨rfl, hsame⟩ := Talks.done hvalid
  obtain ⟨h₅, rest, cluster, rfl, hlooked, hacting⟩ := hlooking.bind_pending (Admin.ask_avoids (hlookup _)) hr hP
  obtain rfl := Ends.request hlooked
  exact ⟨viewed, data, cluster, rest, (Dialogue.done.inj hsame).symm, rfl, hacting⟩

omit [Packaging] in
/-- The only entry of a key in a dict that is the same. -/
theorem Json.Same.only {entries others : JsonObject} (h : (Json.dict entries).Same (.dict others)) {key : String}
    {value other : Json} (hmem : (key, value) ∈ entries) (honly : ∀ v, (key, v) ∈ others → v = other) :
    value.Same other := by
  obtain ⟨found, hfound, hsame⟩ := h.entry hmem
  rwa [honly found hfound] at hsame

omit [Packaging] in
theorem contracted_ok {α : Type} {result : Except Error α} {a : α} (h : contracted result = .ok a) : result = .ok a := by
  cases result with
  | ok b => exact h
  | error error => cases error <;> cases h

omit [Packaging] in
/-- A destructive request was given both fields that confirm it, and another request neither. -/
theorem checkConfirmation_ok {destructive : Bool} {expected : String} {attrs : ReviewedAttrs}
    (h : checkConfirmation destructive expected attrs = .ok ()) :
    (destructive = true → attrs.impactDigest.getD "" ≠ "" ∧ attrs.confirmation = some expected) ∧
      (destructive = false → attrs.impactDigest.getD "" = "") := by
  unfold checkConfirmation at h
  cases destructive with
  | true =>
      rw [if_pos rfl] at h
      split at h
      · cases h
      · split at h
        · cases h
        · next hdigest hconfirmed =>
            refine ⟨fun _ => ⟨by simpa using hdigest, by simpa using hconfirmed⟩, ?_⟩
            intro hfalse
            cases hfalse
  | false =>
      rw [if_neg Bool.false_ne_true] at h
      split at h
      · cases h
      · next hnone =>
          refine ⟨?_, fun _ => ?_⟩
          · intro htrue
            cases htrue
          have hempty := (not_or.mp (by simpa only [Bool.or_eq_true] using hnone)).1
          simpa using hempty

/-- A call is the one that was previewed, and the impact read before it the one that was shown. -/
structure Confirms (previewed call : ReviewedCall) (impact current : JsonObject) : Prop where
  method : call.method = previewed.method
  path : call.path = previewed.path
  material : call.material = previewed.material
  payload : (Json.dict call.payload).Same (.dict previewed.payload)
  impact : (Json.dict impact).Same (.dict current)

section

variable [DocumentHashing]

/-- Two impacts of one digest whose texts differ. -/
def Collide (impact other : JsonObject) : Prop :=
  impactDigest impact = impactDigest other ∧ (Json.dict impact).canonical ≠ (Json.dict other).canonical

omit [Packaging] in
theorem same_of_impactDigest {impact other : JsonObject} (hdigest : impactDigest impact = impactDigest other)
    (hapart : ¬ Collide impact other) : (Json.dict impact).Same (.dict other) :=
  (canonical_eq_iff _ _).mp (Classical.byContradiction fun hne => hapart ⟨hdigest, hne⟩)

end

end NetboxOpenbao
