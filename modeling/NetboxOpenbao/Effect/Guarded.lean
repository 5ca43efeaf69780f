import Mathlib.Data.List.Forall2
import NetboxOpenbao.Effect.Dialogue

/-!
# Programs around one request

A program that makes at most one request of a kind, and programs of one set of requests as programs of a larger set.
-/

namespace Effect.Dialogue

variable {ε ρ ρ' : Type} {val : ρ → Type} {val' : ρ' → Type} {α β : Type}

theorem request_bind_pure (r : ρ) : (request r >>= pure) = (request r : Dialogue ε ρ val (val r)) := by
  show ask r _ = ask r _
  congr
  funext answer
  cases answer with
  | ok a => rfl
  | error e => rfl

theorem Ends.request_bind {r : ρ} {f : val r → Dialogue ε ρ val β} {h : List (Exchange ε ρ val)} {b : β}
    (he : Ends (Dialogue.request r >>= f) h (.ok b)) :
    ∃ a rest, h = ⟨r, .ok a⟩ :: rest ∧ Ends (f a) rest (.ok b) := by
  obtain ⟨h₁, h₂, a, rfl, hasked, hrest⟩ := he.bind_ok
  obtain rfl := Ends.request hasked
  exact ⟨a, h₂, rfl, hrest⟩

/-- An attempt that is over, and what was done about its outcome. -/
theorem Ends.bind_attempt {d : Dialogue ε ρ val α} {k : Except ε α → Dialogue ε ρ val β}
    {h : List (Exchange ε ρ val)} {result : Except ε β} (he : Ends (d.attempt >>= k) h result) :
    ∃ h₁ h₂ outcome, h = h₁ ++ h₂ ∧ Ends d h₁ outcome ∧ Ends (k outcome) h₂ result := by
  rcases he.bind with ⟨err, hattempt, -⟩ | ⟨h₁, h₂, outcome, hsplit, hattempt, hend⟩
  · obtain ⟨inner, hinner, hsame⟩ := Ends.attempt hattempt
    cases hsame
  · obtain ⟨inner, hinner, hsame⟩ := Ends.attempt hattempt
    obtain rfl := Except.ok.inj hsame
    exact ⟨h₁, h₂, outcome, hsplit, hinner, hend⟩

theorem Ends.unique {d : Dialogue ε ρ val α} {h : List (Exchange ε ρ val)} {result result' : Except ε α}
    (he : Ends d h result) (he' : Ends d h result') : result = result' := by
  induction d generalizing h with
  | done outcome =>
      obtain ⟨-, hsame⟩ := Talks.done he
      obtain ⟨-, hsame'⟩ := Talks.done he'
      exact Dialogue.done.inj (hsame.trans hsame'.symm)
  | ask r next ih =>
      cases he with
      | answered answer later =>
          cases he' with
          | answered _ later' => exact ih answer later later'

/-- What `d` raises is as `P` says, or was the answer to one of its requests. -/
def Passes (P : ε → Prop) (d : Dialogue ε ρ val α) : Prop :=
  ∀ h error, Ends d h (.error error) → P error ∨ ∃ x ∈ h, x.answer = .error error

section

variable {P : ε → Prop} {d : Dialogue ε ρ val α} {f : α → Dialogue ε ρ val β}

theorem Passes.pure (a : α) : (pure a : Dialogue ε ρ val α).Passes P := by
  intro h error he
  obtain ⟨-, hsame⟩ := Talks.done he
  cases hsame

theorem Passes.raise {error : ε} (hP : P error) : (raise error : Dialogue ε ρ val α).Passes P := by
  intro h error' he
  obtain ⟨-, hsame⟩ := Talks.done he
  cases hsame
  exact .inl hP

theorem Passes.request (r : ρ) : (Dialogue.request r : Dialogue ε ρ val (val r)).Passes P := by
  intro h error he
  obtain rfl := Ends.request he
  exact .inr ⟨_, List.mem_singleton_self _, rfl⟩

theorem Passes.bind (hd : d.Passes P) (hf : ∀ a, (f a).Passes P) : (d >>= f).Passes P := by
  intro h error he
  rcases he.bind with ⟨err, hfirst, hsame⟩ | ⟨h₁, h₂, a, rfl, -, hsecond⟩
  · cases hsame
    exact hd h error hfirst
  · rcases hf a h₂ error hsecond with hP | ⟨x, hx, hanswer⟩
    · exact .inl hP
    · exact .inr ⟨x, List.mem_append_right _ hx, hanswer⟩

end

/-- A kind of which there is no request. -/
theorem Avoids.never {P : ρ → Prop} (hnone : ∀ r, ¬ P r) (d : Dialogue ε ρ val α) : d.Avoids P := by
  induction d with
  | done result => trivial
  | ask r next ih => exact ⟨hnone r, ih⟩

/-! ### At most one request of a kind -/

/-- `d` makes at most one request of the kind `P`, whatever it is answered. -/
def Once (P : ρ → Prop) : Dialogue ε ρ val α → Prop
  | .done _ => True
  | .ask r next => (P r → ∀ answer, (next answer).Avoids P) ∧ (¬ P r → ∀ answer, (next answer).Once P)

variable {P : ρ → Prop} {d : Dialogue ε ρ val α} {f : α → Dialogue ε ρ val β} {h : List (Exchange ε ρ val)}

theorem Avoids.once (hd : d.Avoids P) : d.Once P := by
  induction d with
  | done result => trivial
  | ask r next ih => exact ⟨fun hr => absurd hr hd.1, fun _ answer => ih answer (hd.2 answer)⟩

theorem Once.request (r : ρ) : (Dialogue.request r : Dialogue ε ρ val (val r)).Once P :=
  ⟨fun _ _ => trivial, fun _ _ => trivial⟩

theorem Once.bind (hd : d.Once P) (hf : ∀ a, (f a).Avoids P) : (d >>= f).Once P := by
  induction d with
  | done result =>
      cases result with
      | ok a => exact (hf a).once
      | error err => trivial
  | ask r next ih =>
      exact ⟨fun hr answer => (hd.1 hr answer).bind hf, fun hr answer => ih answer (hd.2 hr answer)⟩

theorem Avoids.bind_once (hd : d.Avoids P) (hf : ∀ a, (f a).Once P) : (d >>= f).Once P := by
  induction d with
  | done result =>
      cases result with
      | ok a => exact hf a
      | error err => trivial
  | ask r next ih => exact ⟨fun hr => absurd hr hd.1, fun _ answer => ih answer (hd.2 answer)⟩

/-- Around a request of the kind there is none, and none comes after it. -/
theorem Once.talks (hd : d.Once P) {e : Dialogue ε ρ val α} (ht : Talks d h e)
    {earlier later : List (Exchange ε ρ val)} {x : Exchange ε ρ val} (hsplit : h = earlier ++ x :: later)
    (hx : P x.request) :
    (∀ y ∈ earlier, ¬ P y.request) ∧ (∀ y ∈ later, ¬ P y.request) ∧ ∀ r, e.pending = some r → ¬ P r := by
  induction ht generalizing earlier with
  | start d => cases earlier <;> cases hsplit
  | @answered r next answer past e rest ih =>
      cases earlier with
      | nil =>
          obtain ⟨rfl, rfl⟩ := List.cons.inj hsplit
          obtain ⟨hlater, hpending⟩ := (hd.1 hx answer).talks rest
          exact ⟨fun y hy => absurd hy List.not_mem_nil, hlater, hpending⟩
      | cons first earlier =>
          obtain ⟨rfl, htail⟩ := List.cons.inj hsplit
          have hfirst : ¬ P r := by
            intro hfirst
            refine (hd.1 hfirst answer).talks rest |>.1 x ?_ hx
            rw [htail]
            exact List.mem_append_right _ List.mem_cons_self
          obtain ⟨hearlier, hlater, hpending⟩ := ih (hd.2 hfirst answer) htail
          exact ⟨List.forall_mem_cons.mpr ⟨hfirst, hearlier⟩, hlater, hpending⟩

/-- A program that waits for a request of the kind has made none before. -/
theorem Once.pending (hd : d.Once P) {e : Dialogue ε ρ val α} (ht : Talks d h e) {r : ρ} (hr : e.pending = some r)
    (hP : P r) : ∀ x ∈ h, ¬ P x.request := by
  intro x hx hearlier
  obtain ⟨earlier, later, hsplit⟩ := List.append_of_mem hx
  exact (hd.talks ht hsplit hearlier).2.2 r hr hP

/-- What a sequence waits for, after a first part that makes no request of the kind. -/
theorem Talks.bind_pending {e : Dialogue ε ρ val β} (ha : d.Avoids P) (ht : Talks (d >>= f) h e) {r : ρ}
    (hr : e.pending = some r) (hP : P r) :
    ∃ h₁ h₂ a, h = h₁ ++ h₂ ∧ Ends d h₁ (.ok a) ∧ Talks (f a) h₂ e := by
  obtain ⟨h₁, h₂, a, hsplit, hfirst, hsecond, -⟩ := ht.bind_reaches ha (.inr ⟨r, hr, hP⟩)
  exact ⟨h₁, h₂, a, hsplit, hfirst, hsecond⟩

theorem Talks.request {r r' : ρ} {e : Dialogue ε ρ val (val r)}
    (ht : Talks (Dialogue.request r : Dialogue ε ρ val (val r)) h e) (hr : e.pending = some r') : h = [] ∧ r' = r := by
  cases ht with
  | start => exact ⟨rfl, (Option.some.inj hr).symm⟩
  | answered answer later =>
      obtain ⟨-, rfl⟩ := Talks.done later
      cases hr

/-- A program that begins with a request waits for it, or has gone on. -/
theorem Talks.request_pending {r r' : ρ} {f : val r → Dialogue ε ρ val β} {e : Dialogue ε ρ val β}
    (hf : ∀ a, (f a).Avoids P) (ht : Talks (Dialogue.request r >>= f) h e) (hr : e.pending = some r') (hP : P r') :
    h = [] ∧ r' = r := by
  have hask : Talks (.ask r fun answer => Dialogue.done answer >>= f) h e := ht
  cases hask with
  | start => exact ⟨rfl, (Option.some.inj hr).symm⟩
  | answered answer later =>
      cases answer with
      | ok a => exact absurd hP (((hf a).talks later).2 r' hr)
      | error error =>
          obtain ⟨-, rfl⟩ := Talks.done later
          cases hr

/-- What an attempt waits for, before a second part that makes no request of the kind. -/
theorem Talks.attempt_pending {k : Except ε α → Dialogue ε ρ val β} {e : Dialogue ε ρ val β}
    (hk : ∀ result, (k result).Avoids P) (ht : Talks (d.attempt >>= k) h e) {r : ρ} (hr : e.pending = some r)
    (hP : P r) : ∃ d', Talks d h d' ∧ d'.pending = some r := by
  rcases ht.bind with ⟨e', he', rfl⟩ | ⟨h₁, h₂, outcome, -, -, hsecond⟩
  · obtain ⟨d', hd, rfl⟩ := Talks.attempt he'
    refine ⟨d', hd, ?_⟩
    cases d' with
    | ask r' next => exact hr
    | done outcome => exact absurd hP (((hk outcome).talks (.start _)).2 r hr)
  · exact absurd hP (((hk outcome).talks hsecond).2 r hr)

/-! ### What became of the requests of a kind -/

/-- An outcome tells what became of the requests of the kind `P`: it is a result exactly if one was made and each was
answered with one, and the exception that one was answered with. -/
structure Accounted (P : ρ → Prop) (h : List (Exchange ε ρ val)) (outcome : Except ε α) : Prop where
  ok_iff : (∃ a, outcome = .ok a) ↔
    (∃ x ∈ h, P x.request) ∧ ∀ x ∈ h, P x.request → ∃ a, x.answer = .ok a
  raised : ∀ x ∈ h, P x.request → ∀ error, x.answer = .error error → outcome = .error error

/-- `d` ends with such an outcome, whatever it is answered. -/
def Accounts (P : ρ → Prop) (d : Dialogue ε ρ val α) : Prop :=
  ∀ h outcome, Ends d h outcome → Accounted P h outcome

theorem Accounted.quiet {error : ε} (hquiet : ∀ x ∈ h, ¬ P x.request) : Accounted P h (.error error : Except ε α) where
  ok_iff := by
    constructor
    · rintro ⟨a, hsame⟩
      cases hsame
    · rintro ⟨⟨x, hx, hP⟩, -⟩
      exact absurd hP (hquiet x hx)
  raised x hx hP := absurd hP (hquiet x hx)

/-- Only the requests of the kind matter. -/
theorem Accounted.after {before : List (Exchange ε ρ val)} {outcome : Except ε α}
    (hquiet : ∀ x ∈ before, ¬ P x.request) (accounted : Accounted P h outcome) : Accounted P (before ++ h) outcome := by
  have hmem : ∀ x : Exchange ε ρ val, P x.request → (x ∈ before ++ h ↔ x ∈ h) := by
    intro x hP
    constructor
    · intro hx
      exact (List.mem_append.mp hx).resolve_left fun hbefore => hquiet x hbefore hP
    · exact List.mem_append_right _
  constructor
  · rw [accounted.ok_iff]
    constructor
    · rintro ⟨⟨x, hx, hP⟩, hall⟩
      exact ⟨⟨x, (hmem x hP).mpr hx, hP⟩, fun y hy hy' => hall y ((hmem y hy').mp hy) hy'⟩
    · rintro ⟨⟨x, hx, hP⟩, hall⟩
      exact ⟨⟨x, (hmem x hP).mp hx, hP⟩, fun y hy hy' => hall y ((hmem y hy').mpr hy) hy'⟩
  · exact fun x hx hP => accounted.raised x ((hmem x hP).mp hx) hP

theorem Accounts.after (hd : d.Avoids P) (hf : ∀ a, Accounts P (f a)) : Accounts P (d >>= f) := by
  intro h outcome he
  rcases he.bind with ⟨err, hfirst, rfl⟩ | ⟨h₁, h₂, a, rfl, hfirst, hsecond⟩
  · exact .quiet (hd.ends hfirst)
  · exact (hf a h₂ outcome hsecond).after (hd.ends hfirst)

theorem Accounts.request {r : ρ} (hr : P r) (g : val r → β) :
    Accounts P (Dialogue.request r >>= fun a => (pure (g a) : Dialogue ε ρ val β)) := by
  intro h outcome he
  rcases he.bind with ⟨err, hfirst, rfl⟩ | ⟨h₁, h₂, a, rfl, hfirst, hsecond⟩
  · obtain rfl := Ends.request hfirst
    constructor
    · simp [hr]
    · simp
  · obtain rfl := Ends.request hfirst
    obtain ⟨rfl, hsame⟩ := Talks.done hsecond
    obtain rfl := Dialogue.done.inj hsame
    constructor
    · simp [hr]
    · simp

theorem Accounts.two {r r' : ρ} (hr : P r) (hr' : P r') (g : val r → val r' → β) :
    Accounts P (Dialogue.request r >>= fun a =>
      Dialogue.request r' >>= fun b => (pure (g a b) : Dialogue ε ρ val β)) := by
  intro h outcome he
  rcases he.bind with ⟨err, hfirst, rfl⟩ | ⟨h₁, h₂, a, rfl, hfirst, hsecond⟩
  · obtain rfl := Ends.request hfirst
    constructor
    · simp [hr]
    · simp
  · obtain rfl := Ends.request hfirst
    have accounted := Accounts.request hr' (g a) h₂ outcome hsecond
    have hmade : ∃ x ∈ h₂, P x.request := by
      rcases hsecond.bind with ⟨err, hasked, -⟩ | ⟨h₃, h₄, b, rfl, hasked, -⟩
      · rw [Ends.request hasked]
        exact ⟨_, List.mem_singleton_self _, hr'⟩
      · rw [Ends.request hasked]
        exact ⟨_, List.mem_cons_self, hr'⟩
    constructor
    · rw [accounted.ok_iff]
      constructor
      · rintro ⟨-, hall⟩
        exact ⟨⟨_, List.mem_cons_self, hr⟩, List.forall_mem_cons.mpr ⟨fun _ => ⟨a, rfl⟩, hall⟩⟩
      · rintro ⟨-, hall⟩
        exact ⟨hmade, (List.forall_mem_cons.mp hall).2⟩
    · intro x hx hP error herror
      rcases List.mem_cons.mp hx with rfl | hx
      · cases herror
      · exact accounted.raised x hx hP error herror

/-! ### What a program can come to wait for -/

/-- After these exchanges `d` may wait for an answer to `r`. -/
def Waits (d : Dialogue ε ρ val α) (h : List (Exchange ε ρ val)) (r : ρ) : Prop :=
  ∃ e, Talks d h e ∧ e.pending = some r

theorem Waits.request (r : ρ) : Waits (Dialogue.request r : Dialogue ε ρ val (val r)) [] r := ⟨_, .start _, rfl⟩

theorem Waits.bind {r : ρ} (hd : Waits d h r) : Waits (d >>= f) h r := by
  obtain ⟨e, ht, hr⟩ := hd
  induction ht with
  | start e =>
      cases e with
      | done result => cases hr
      | ask r' next => exact ⟨_, .start _, hr⟩
  | answered answer later ih =>
      obtain ⟨e', ht', hr'⟩ := ih hr
      exact ⟨e', .answered answer ht', hr'⟩

theorem Waits.attempt {r : ρ} (hd : Waits d h r) : Waits (attempt d) h r := by
  obtain ⟨e, ht, hr⟩ := hd
  induction ht with
  | start e => exact ⟨_, .start _, (pending_attempt e).trans hr⟩
  | answered answer later ih =>
      obtain ⟨e', ht', hr'⟩ := ih hr
      exact ⟨e', .answered answer ht', hr'⟩

theorem Ends.attempted {result : Except ε α} (he : Ends d h result) : Ends (Dialogue.attempt d) h (.ok result) := by
  induction d generalizing h with
  | done outcome =>
      obtain ⟨rfl, hsame⟩ := Talks.done he
      obtain rfl := Dialogue.done.inj hsame
      exact .start _
  | ask r next ih =>
      cases he with
      | answered answer later => exact .answered answer (ih answer later)

/-- A first part that returns, and what the second part waits for after it. -/
theorem Ends.waits {h₁ h₂ : List (Exchange ε ρ val)} {a : α} {r : ρ} (hfirst : Ends d h₁ (.ok a))
    (hsecond : Waits (f a) h₂ r) : Waits (d >>= f) (h₁ ++ h₂) r := by
  induction d generalizing h₁ with
  | done outcome =>
      obtain ⟨rfl, hsame⟩ := Talks.done hfirst
      cases hsame
      exact hsecond
  | ask r' next ih =>
      cases hfirst with
      | answered answer later =>
          obtain ⟨e, ht, hr⟩ := ih answer later
          exact ⟨e, .answered answer ht, hr⟩

/-! ### Programs of a larger set of requests -/

/-- `d`, with each of its requests made as the one it stands for. -/
def embed (made : ρ → ρ') (read : ∀ r, val' (made r) → val r) : Dialogue ε ρ val α → Dialogue ε ρ' val' α
  | .done result => .done result
  | .ask r next => .ask (made r) fun answer => (next (answer.map (read r))).embed made read

variable {made : ρ → ρ'} {read : ∀ r, val' (made r) → val r} {P' : ρ' → Prop}

theorem Avoids.embed (hP : ∀ r, P' (made r) → P r) (hd : d.Avoids P) : (d.embed made read).Avoids P' := by
  induction d with
  | done result => trivial
  | ask r next ih => exact ⟨fun hr => hd.1 (hP r hr), fun answer => ih _ (hd.2 _)⟩

/-- A history of the embedded program is one of the program, exchange by exchange. -/
theorem Talks.of_embed {h' : List (Exchange ε ρ' val')} {e' : Dialogue ε ρ' val' α}
    (ht : Talks (d.embed made read) h' e') :
    ∃ h e, Talks d h e ∧ e' = e.embed made read ∧
      List.Forall₂ (fun x x' => ∃ answer, x' = ⟨made x.request, answer⟩ ∧ x.answer = answer.map (read x.request))
        h h' := by
  induction d generalizing h' with
  | done result =>
      obtain ⟨rfl, rfl⟩ := Talks.done ht
      exact ⟨[], .done result, .start _, rfl, .nil⟩
  | ask r next ih =>
      have hask : Talks (.ask (made r) fun answer => (next (answer.map (read r))).embed made read) h' e' := ht
      cases hask with
      | start => exact ⟨[], .ask r next, .start _, rfl, .nil⟩
      | answered answer later =>
          obtain ⟨h, e, hd, he, hsame⟩ := ih _ later
          exact ⟨⟨r, answer.map (read r)⟩ :: h, e, .answered _ hd, he, .cons ⟨answer, rfl, rfl⟩ hsame⟩

theorem Ends.of_embed {h' : List (Exchange ε ρ' val')} {result : Except ε α}
    (he : Ends (d.embed made read) h' result) :
    ∃ h, Ends d h result ∧
      List.Forall₂ (fun x x' => ∃ answer, x' = ⟨made x.request, answer⟩ ∧ x.answer = answer.map (read x.request))
        h h' := by
  obtain ⟨h, e, hd, hsame, hall⟩ := Talks.of_embed he
  cases e with
  | done inner =>
      obtain rfl : result = inner := Dialogue.done.inj hsame
      exact ⟨h, hd, hall⟩
  | ask r next => cases hsame

/-- When answers are read as they are, the exchanges are those of the program. -/
theorem Ends.of_embed_same {d : Dialogue ε ρ (fun r => val' (made r)) α} {h' : List (Exchange ε ρ' val')}
    {result : Except ε α} (he : Ends (d.embed made fun _ answer => answer) h' result) :
    ∃ h, Ends d h result ∧ h' = h.map fun x => ⟨made x.request, x.answer⟩ := by
  obtain ⟨h, hd, hall⟩ := Ends.of_embed he
  refine ⟨h, hd, ?_⟩
  clear he hd
  induction hall with
  | nil => rfl
  | @cons x x' past past' hsame _ ih =>
      obtain ⟨answer, rfl, hanswer⟩ := hsame
      have hid : x.answer = answer := by
        rw [hanswer]
        cases answer with
        | ok a => rfl
        | error error => rfl
      rw [List.map_cons, ← ih, hid]

/-- A program that is embedded as it is comes to the same end. -/
theorem Ends.embed_same {d : Dialogue ε ρ (fun r => val' (made r)) α}
    {h : List (Exchange ε ρ fun r => val' (made r))} {result : Except ε α} (he : Ends d h result) :
    Ends (d.embed made fun _ answer => answer) (h.map fun x => ⟨made x.request, x.answer⟩) result := by
  induction d generalizing h with
  | done outcome =>
      obtain ⟨rfl, hsame⟩ := Talks.done he
      obtain rfl := Dialogue.done.inj hsame
      exact .start _
  | ask r next ih =>
      cases he with
      | answered answer hlater =>
          have hrest := ih answer hlater
          cases answer with
          | ok a => exact Talks.answered (.ok a) hrest
          | error error => exact Talks.answered (.error error) hrest

end Effect.Dialogue
