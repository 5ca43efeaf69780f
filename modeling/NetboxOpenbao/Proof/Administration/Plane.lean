import NetboxOpenbao.Administration.Plane

/-!
# Steps of the administration plane

How the small parts of an administrative view end, and which requests they make.
-/

namespace NetboxOpenbao

open Effect Dialogue

abbrev PlaneExchange : Type := Exchange Error AdminAsk AdminAsk.Answer

variable {α β : Type} {h : List PlaneExchange} {P : AdminAsk → Prop}

namespace Admin

/-! ### What a first step leaves of a program that returns -/

variable {f : α → Admin β} {b : β}

theorem ask_ok {r : AdminAsk} {f : r.Answer → Admin β} (he : Ends (ask r >>= f) h (.ok b)) :
    ∃ a rest, h = ⟨r, .ok a⟩ :: rest ∧ Ends (f a) rest (.ok b) := by
  obtain ⟨h₁, rest, a, rfl, hfirst, hrest⟩ := he.bind_ok
  obtain rfl := Ends.request hfirst
  exact ⟨a, rest, rfl, hrest⟩

theorem ofExcept_ok {checked : Except Error α} (he : Ends (ofExcept checked >>= f) h (.ok b)) :
    ∃ a, checked = .ok a ∧ Ends (f a) h (.ok b) := by
  obtain ⟨h₁, rest, a, rfl, hfirst, hrest⟩ := he.bind_ok
  obtain ⟨rfl, hsame⟩ := Talks.done hfirst
  exact ⟨a, (Dialogue.done.inj hsame).symm, hrest⟩

theorem raiseIf_ok {condition : Bool} {error : Error} {f : Unit → Admin β}
    (he : Ends (raiseIf condition error >>= f) h (.ok b)) : condition = false ∧ Ends (f ()) h (.ok b) := by
  cases condition with
  | true => exact absurd he Ends.raise_ok
  | false => exact ⟨rfl, he⟩

/-! ### Histories of a program, built from those of its steps -/

variable {result : Except Error β}

theorem asked {r : AdminAsk} {f : r.Answer → Admin β} {a : r.Answer} (he : Ends (f a) h result) :
    Ends (ask r >>= f) (⟨r, .ok a⟩ :: h) result :=
  Ends.andThen (Talks.answered (.ok a) (.start _)) he

theorem passed {checked : Except Error α} {a : α} (hchecked : checked = .ok a) (he : Ends (f a) h result) :
    Ends (ofExcept checked >>= f) h result := by
  subst hchecked
  exact he

theorem unraised {condition : Bool} {error : Error} {f : Unit → Admin β} (hcondition : condition = false)
    (he : Ends (f ()) h result) : Ends (raiseIf condition error >>= f) h result := by
  subst hcondition
  exact he

/-! ### Requests a step does not make -/

theorem ask_avoids {r : AdminAsk} (hr : ¬ P r) : (ask r).Avoids P := Avoids.request hr

theorem raise_avoids (error : Error) : (raise error : Admin α).Avoids P := trivial

theorem ofExcept_avoids (checked : Except Error α) : (ofExcept checked).Avoids P := trivial

theorem raiseIf_avoids (condition : Bool) (error : Error) : (raiseIf condition error).Avoids P := by
  cases condition with
  | true => trivial
  | false => trivial

end Admin

/-! ### Writing an audit row -/

/-- The requests a block and the audit row in it consist of. -/
def AdminAsk.writesLog : AdminAsk → Bool
  | .begin | .savepoint | .insertLog _ | .commit | .releaseSavepoint | .rollback | .rollbackToSavepoint => true
  | _ => false

section

variable {mode : ConnectionMode} {cluster : OpenBaoCluster} {request : PlaneRequest}

theorem atomicBlock_avoids (hP : ∀ r : AdminAsk, r.writesLog = true → ¬ P r) (durable : Bool) {body : Admin Unit}
    (hbody : body.Avoids P) : (atomicBlock mode durable body).Avoids P := by
  unfold atomicBlock
  split
  · exact Admin.raise_avoids _
  · split
    · refine Avoids.bind (Admin.ask_avoids (hP _ rfl)) fun _ => Avoids.bind hbody.attempt fun outcome => ?_
      cases outcome with
      | ok u => exact Admin.ask_avoids (hP _ rfl)
      | error error =>
          exact Avoids.bind (Admin.ask_avoids (hP _ rfl)).attempt fun _ => Admin.raise_avoids _
    · refine Avoids.bind (Admin.ask_avoids (hP _ rfl)) fun _ => Avoids.bind ?_ fun outcome => ?_
      · exact (Avoids.bind hbody fun _ => Admin.ask_avoids (hP _ rfl)).attempt
      · cases outcome with
        | ok u => exact Avoids.pure _
        | error error =>
            exact Avoids.bind (Admin.ask_avoids (hP _ rfl)).attempt fun _ => Admin.raise_avoids _

theorem logAdministration_avoids (hP : ∀ r : AdminAsk, r.writesLog = true → ¬ P r) (entry : AuditEntry)
    (requireDurable : Bool) : (logAdministration mode cluster request entry requireDurable).Avoids P := by
  unfold logAdministration
  refine Avoids.bind (Avoids.attempt (atomicBlock_avoids hP _ ?_)) fun outcome => ?_
  · split
    · exact Admin.raise_avoids _
    · exact Admin.ask_avoids (hP _ rfl)
  · cases outcome with
    | ok u => exact Avoids.pure _
    | error error => exact Admin.raise_avoids _

theorem logBestEffort_avoids (hP : ∀ r : AdminAsk, r.writesLog = true → ¬ P r) (entry : AuditEntry) :
    (logBestEffort mode cluster request entry).Avoids P := by
  unfold logBestEffort
  refine Avoids.bind (logAdministration_avoids hP entry false).attempt fun outcome => ?_
  cases outcome with
  | ok u => exact Avoids.pure _
  | error error =>
      dsimp only
      split
      · exact Avoids.pure _
      · exact Admin.raise_avoids _

theorem backendFailure_avoids (hP : ∀ r : AdminAsk, r.writesLog = true → ¬ P r) (action reason riskLevel : String)
    (error : Error) : (backendFailure mode cluster request action reason riskLevel error : Admin α).Avoids P :=
  Avoids.bind (logBestEffort_avoids hP _) fun _ => Admin.raise_avoids _

end

variable [Packaging]

theorem requireBaseline_avoids (status : SealStatus) : (requireBaseline status).Avoids P :=
  Admin.raiseIf_avoids _ _

end NetboxOpenbao
