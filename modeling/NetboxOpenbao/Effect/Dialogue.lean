/-!
# Programs as dialogues

A program asks its surroundings one request after another and goes on with each answer; an answer may be an
exception, and the program ends by returning or raising. Nothing is said about who answers, or how. A history
lists the exchanges of a dialogue so far, so that what a program can have done is what its histories are like.
-/

namespace Effect

/-- A request together with the answer it got. -/
structure Exchange (ε ρ : Type) (val : ρ → Type) where
  request : ρ
  answer : Except ε (val request)

inductive Dialogue (ε ρ : Type) (val : ρ → Type) (α : Type) where
  | done (result : Except ε α)
  | ask (request : ρ) (next : Except ε (val request) → Dialogue ε ρ val α)

namespace Dialogue

variable {ε ρ : Type} {val : ρ → Type} {α β : Type}

/-- What `d` does, and `f` after it unless `d` raises. -/
def andThen (d : Dialogue ε ρ val α) (f : α → Dialogue ε ρ val β) : Dialogue ε ρ val β :=
  match d with
  | .done (.ok a) => f a
  | .done (.error e) => .done (.error e)
  | .ask r next => .ask r fun answer => (next answer).andThen f

instance : Monad (Dialogue ε ρ val) where
  pure a := .done (.ok a)
  bind := andThen

def raise (e : ε) : Dialogue ε ρ val α := .done (.error e)

def request (r : ρ) : Dialogue ε ρ val (val r) := .ask r .done

/-- The outcome of `d` as a value. -/
def attempt (d : Dialogue ε ρ val α) : Dialogue ε ρ val (Except ε α) :=
  match d with
  | .done result => .done (.ok result)
  | .ask r next => .ask r fun answer => (next answer).attempt

/-- The request `d` waits for an answer to. -/
def pending : Dialogue ε ρ val α → Option ρ
  | .done _ => none
  | .ask r _ => some r

theorem done_bind (a : α) (f : α → Dialogue ε ρ val β) : (Dialogue.done (.ok a) >>= f) = f a := rfl

theorem ask_bind (r : ρ) (next : Except ε (val r) → Dialogue ε ρ val α) (f : α → Dialogue ε ρ val β) :
    (ask r next >>= f) = ask r fun answer => next answer >>= f := rfl

theorem bind_assoc {γ : Type} (d : Dialogue ε ρ val α) (f : α → Dialogue ε ρ val β) (g : β → Dialogue ε ρ val γ) :
    (d >>= f) >>= g = d >>= fun a => f a >>= g := by
  induction d with
  | done result =>
      cases result with
      | ok a => rfl
      | error err => rfl
  | ask r next ih =>
      rw [ask_bind, ask_bind, ask_bind]
      exact congrArg (ask r) (funext ih)

/-! ### Histories -/

/-- After the exchanges of a history, what is left of `d`. -/
inductive Talks : Dialogue ε ρ val α → List (Exchange ε ρ val) → Dialogue ε ρ val α → Prop
  | start (d : Dialogue ε ρ val α) : Talks d [] d
  | answered {r : ρ} {next : Except ε (val r) → Dialogue ε ρ val α} (answer : Except ε (val r))
      {h : List (Exchange ε ρ val)} {e : Dialogue ε ρ val α} (rest : Talks (next answer) h e) :
      Talks (.ask r next) (⟨r, answer⟩ :: h) e

/-- One more exchange of a program that begins with a request. -/
theorem Talks.of_ask {d : Dialogue ε ρ val α} {r : ρ} {next : Except ε (val r) → Dialogue ε ρ val α}
    (hd : d = .ask r next) (answer : Except ε (val r)) {h : List (Exchange ε ρ val)} {e : Dialogue ε ρ val α}
    (rest : Talks (next answer) h e) : Talks d (⟨r, answer⟩ :: h) e := by
  subst hd
  exact .answered answer rest

/-- The history of a dialogue that is over. -/
def Ends (d : Dialogue ε ρ val α) (h : List (Exchange ε ρ val)) (result : Except ε α) : Prop :=
  Talks d h (.done result)

variable {d : Dialogue ε ρ val α} {f : α → Dialogue ε ρ val β} {h : List (Exchange ε ρ val)}

/-- One more answer. -/
theorem Talks.next {r : ρ} {next : Except ε (val r) → Dialogue ε ρ val α} (ht : Talks d h (.ask r next))
    (answer : Except ε (val r)) : Talks d (h ++ [⟨r, answer⟩]) (next answer) := by
  generalize hask : Dialogue.ask r next = e at ht
  induction ht with
  | start d =>
      subst hask
      exact .answered answer (.start _)
  | answered given _ ih => exact .answered given (ih hask)

theorem Talks.done {result : Except ε α} {e : Dialogue ε ρ val α} (ht : Talks (.done result) h e) :
    h = [] ∧ e = .done result := by
  cases ht
  exact ⟨rfl, rfl⟩

/-- A sequence is still in its first part, or the first part has returned. -/
theorem Talks.bind {e : Dialogue ε ρ val β} (ht : Talks (d >>= f) h e) :
    (∃ d', Talks d h d' ∧ e = d' >>= f) ∨
      ∃ h₁ h₂ a, h = h₁ ++ h₂ ∧ Ends d h₁ (.ok a) ∧ Talks (f a) h₂ e := by
  induction d generalizing h with
  | done result =>
      cases result with
      | ok a => exact .inr ⟨[], h, a, rfl, .start _, ht⟩
      | error err =>
          obtain ⟨rfl, rfl⟩ := Talks.done ht
          exact .inl ⟨.done (.error err), .start _, rfl⟩
  | ask r next ih =>
      rw [ask_bind] at ht
      cases ht with
      | start => exact .inl ⟨.ask r next, .start _, rfl⟩
      | answered answer rest =>
          rcases ih answer rest with ⟨d', hd, he⟩ | ⟨h₁, h₂, a, hsplit, hfirst, hsecond⟩
          · exact .inl ⟨d', .answered answer hd, he⟩
          · refine .inr ⟨⟨r, answer⟩ :: h₁, h₂, a, ?_, .answered answer hfirst, hsecond⟩
            rw [hsplit, List.cons_append]

/-- A sequence that is over: its first part raised, or returned and the second part ended as the whole did. -/
theorem Ends.bind {result : Except ε β} (he : Ends (d >>= f) h result) :
    (∃ err, Ends d h (.error err) ∧ result = .error err) ∨
      ∃ h₁ h₂ a, h = h₁ ++ h₂ ∧ Ends d h₁ (.ok a) ∧ Ends (f a) h₂ result := by
  rcases Talks.bind he with ⟨d', hd, hsame⟩ | hright
  · cases d' with
    | done first =>
        cases first with
        | ok a => exact .inr ⟨h, [], a, by simp, hd, by rw [Ends, hsame]; exact .start _⟩
        | error err => exact .inl ⟨err, hd, by cases hsame; rfl⟩
    | ask r next =>
        rw [ask_bind] at hsame
        cases hsame
  · exact .inr hright

theorem Ends.bind_ok {b : β} (he : Ends (d >>= f) h (.ok b)) :
    ∃ h₁ h₂ a, h = h₁ ++ h₂ ∧ Ends d h₁ (.ok a) ∧ Ends (f a) h₂ (.ok b) := by
  rcases he.bind with ⟨err, -, hsame⟩ | hright
  · cases hsame
  · exact hright

/-- A first part that returns, and the second part after it. -/
theorem Ends.andThen {h₁ h₂ : List (Exchange ε ρ val)} {a : α} {result : Except ε β} (hfirst : Ends d h₁ (.ok a))
    (hsecond : Ends (f a) h₂ result) : Ends (d >>= f) (h₁ ++ h₂) result := by
  induction d generalizing h₁ with
  | done first =>
      obtain ⟨rfl, hsame⟩ := Talks.done hfirst
      cases hsame
      exact hsecond
  | ask r next ih =>
      cases hfirst with
      | answered answer rest => exact .answered answer (ih answer rest)

theorem Ends.pure_ok {a b : α} (he : Ends (pure a : Dialogue ε ρ val α) h (.ok b)) : h = [] ∧ a = b := by
  obtain ⟨rfl, hsame⟩ := Talks.done he
  cases hsame
  exact ⟨rfl, rfl⟩

theorem Ends.raise_ok {err : ε} {a : α} (he : Ends (raise err : Dialogue ε ρ val α) h (.ok a)) : False := by
  obtain ⟨-, hsame⟩ := Talks.done he
  cases hsame

theorem Ends.request {r : ρ} {result : Except ε (val r)}
    (he : Ends (Dialogue.request r : Dialogue ε ρ val (val r)) h result) : h = [⟨r, result⟩] := by
  cases he with
  | answered answer rest =>
      obtain ⟨rfl, hsame⟩ := Talks.done rest
      cases hsame
      rfl

/-- What is left of an attempt is an attempt of what is left. -/
theorem Talks.attempt {e : Dialogue ε ρ val (Except ε α)} (ht : Talks (attempt d) h e) :
    ∃ d', Talks d h d' ∧ e = d'.attempt := by
  induction d generalizing h with
  | done result =>
      obtain ⟨rfl, rfl⟩ := Talks.done ht
      exact ⟨.done result, .start _, rfl⟩
  | ask r next ih =>
      have hask : Talks (.ask r fun answer => (next answer).attempt) h e := ht
      cases hask with
      | start => exact ⟨.ask r next, .start _, rfl⟩
      | answered answer rest =>
          obtain ⟨d', hd, hsame⟩ := ih answer rest
          exact ⟨d', .answered answer hd, hsame⟩

theorem Ends.attempt {result : Except ε (Except ε α)} (he : Ends (attempt d) h result) :
    ∃ inner, Ends d h inner ∧ result = .ok inner := by
  obtain ⟨d', hd, hsame⟩ := Talks.attempt he
  cases d' with
  | done inner =>
      cases hsame
      exact ⟨inner, hd, rfl⟩
  | ask r next => cases hsame

/-- Every answer of `h` is the one that `backend` gives, by what has been exchanged before. -/
def Follows (backend : List (Exchange ε ρ val) → (r : ρ) → Except ε (val r)) (h : List (Exchange ε ρ val)) : Prop :=
  ∀ before x after, h = before ++ x :: after → x.answer = backend before x.request

/-- A dialogue comes to an end, whoever answers. -/
theorem ends_against (d : Dialogue ε ρ val α) (backend : List (Exchange ε ρ val) → (r : ρ) → Except ε (val r)) :
    ∃ h result, Ends d h result ∧ Follows backend h := by
  induction d generalizing backend with
  | done result => exact ⟨[], result, .start _, fun before x after heq => absurd heq (by simp)⟩
  | ask r next ih =>
      obtain ⟨h, result, hends, hfollows⟩ := ih (backend [] r) fun past => backend (⟨r, backend [] r⟩ :: past)
      refine ⟨⟨r, backend [] r⟩ :: h, result, .answered _ hends, ?_⟩
      intro before x after heq
      cases before with
      | nil =>
          obtain ⟨rfl, -⟩ := List.cons.inj heq
          rfl
      | cons first before =>
          obtain ⟨rfl, htail⟩ := List.cons.inj heq
          exact hfollows before x after htail

/-! ### Requests a program does not make -/

/-- No request of `d` is of the kind `P`, whatever it is answered. -/
def Avoids (P : ρ → Prop) : Dialogue ε ρ val α → Prop
  | .done _ => True
  | .ask r next => ¬ P r ∧ ∀ answer, (next answer).Avoids P

variable {P : ρ → Prop}

theorem Avoids.pure (a : α) : (pure a : Dialogue ε ρ val α).Avoids P := trivial

theorem Avoids.raise (e : ε) : (raise e : Dialogue ε ρ val α).Avoids P := trivial

theorem Avoids.done (result : Except ε α) : (.done result : Dialogue ε ρ val α).Avoids P := trivial

theorem Avoids.request {r : ρ} (hr : ¬ P r) : (Dialogue.request r : Dialogue ε ρ val (val r)).Avoids P :=
  ⟨hr, fun _ => trivial⟩

theorem Avoids.bind (hd : d.Avoids P) (hf : ∀ a, (f a).Avoids P) : (d >>= f).Avoids P := by
  induction d with
  | done result =>
      cases result with
      | ok a => exact hf a
      | error err => trivial
  | ask r next ih => exact ⟨hd.1, fun answer => ih answer (hd.2 answer)⟩

theorem Avoids.attempt (hd : d.Avoids P) : (attempt d).Avoids P := by
  induction d with
  | done result => trivial
  | ask r next ih => exact ⟨hd.1, fun answer => ih answer (hd.2 answer)⟩

/-- What a history of such a program shows, and what it waits for. -/
theorem Avoids.talks (hd : d.Avoids P) {e : Dialogue ε ρ val α} (ht : Talks d h e) :
    (∀ x ∈ h, ¬ P x.request) ∧ ∀ r, e.pending = some r → ¬ P r := by
  induction ht with
  | start d =>
      refine ⟨(fun _ hx => by cases hx), fun r hr => ?_⟩
      cases d with
      | done result => cases hr
      | ask r' next =>
          obtain rfl := Option.some.inj hr
          exact hd.1
  | answered answer rest ih =>
      obtain ⟨hhistory, hpending⟩ := ih (hd.2 answer)
      refine ⟨fun x hx => ?_, hpending⟩
      rcases List.mem_cons.mp hx with rfl | hold
      · exact hd.1
      · exact hhistory x hold

theorem Avoids.ends (hd : d.Avoids P) {result : Except ε α} (he : Ends d h result) : ∀ x ∈ h, ¬ P x.request :=
  (hd.talks he).1

theorem Avoids.mono {Q : ρ → Prop} (hPQ : ∀ r, Q r → P r) (hd : d.Avoids P) : d.Avoids Q := by
  induction d with
  | done result => trivial
  | ask r next ih => exact ⟨fun hr => hd.1 (hPQ r hr), fun answer => ih answer (hd.2 answer)⟩

/-- The dialogue has come to a request of the kind `P`, answered or not. -/
def Reaches (P : ρ → Prop) (h : List (Exchange ε ρ val)) (d : Dialogue ε ρ val α) : Prop :=
  (∃ x ∈ h, P x.request) ∨ ∃ r, d.pending = some r ∧ P r

theorem Avoids.not_reaches (hd : d.Avoids P) {e : Dialogue ε ρ val α} (ht : Talks d h e) : ¬ Reaches P h e := by
  obtain ⟨hhistory, hpending⟩ := hd.talks ht
  rintro (⟨x, hx, hP⟩ | ⟨r, hr, hP⟩)
  · exact hhistory x hx hP
  · exact hpending r hr hP

/-- A sequence whose first part makes no request of a kind has left that part when it comes to one. -/
theorem Talks.bind_reaches {e : Dialogue ε ρ val β} (ha : d.Avoids P) (ht : Talks (d >>= f) h e)
    (hreaches : Reaches P h e) :
    ∃ h₁ h₂ a, h = h₁ ++ h₂ ∧ Ends d h₁ (.ok a) ∧ Talks (f a) h₂ e ∧ Reaches P h₂ e := by
  rcases ht.bind with ⟨d', hd, he⟩ | ⟨h₁, h₂, a, hsplit, hfirst, hsecond⟩
  · obtain ⟨hhistory, hpending⟩ := ha.talks hd
    have hnow : ∃ r, e.pending = some r ∧ P r := by
      rcases hreaches with ⟨x, hx, hP⟩ | hnow
      · exact absurd hP (hhistory x hx)
      · exact hnow
    cases d' with
    | ask r next =>
        obtain ⟨r', hr', hP⟩ := hnow
        rw [he] at hr'
        obtain rfl : r = r' := Option.some.inj hr'
        exact absurd hP (hpending r rfl)
    | done result =>
        cases result with
        | ok a =>
            rw [done_bind] at he
            refine ⟨h, [], a, by simp, hd, ?_, .inr hnow⟩
            rw [he]
            exact .start _
        | error err =>
            obtain ⟨r', hr', -⟩ := hnow
            rw [he] at hr'
            cases hr'
  · refine ⟨h₁, h₂, a, hsplit, hfirst, hsecond, ?_⟩
    rcases hreaches with ⟨x, hx, hP⟩ | hnow
    · rw [hsplit] at hx
      rcases List.mem_append.mp hx with hx | hx
      · exact absurd hP (ha.ends hfirst x hx)
      · exact .inl ⟨x, hx, hP⟩
    · exact .inr hnow

theorem pending_attempt (d : Dialogue ε ρ val α) : d.attempt.pending = d.pending := by
  cases d with
  | done result => rfl
  | ask r next => rfl

/-- An attempt followed by what makes no request of a kind: the attempt is what comes to one. -/
theorem Talks.attempt_reaches {k : Except ε α → Dialogue ε ρ val β} {e : Dialogue ε ρ val β}
    (hk : ∀ result, (k result).Avoids P) (ht : Talks (d.attempt >>= k) h e) (hreaches : Reaches P h e) :
    ∃ h₁ h₂ d', h = h₁ ++ h₂ ∧ Talks d h₁ d' ∧ Reaches P h₁ d' ∧
      (h₂ = [] ∨ ∃ result, Ends d h₁ result ∧ Talks (k result) h₂ e) := by
  rcases ht.bind with ⟨e', he', he⟩ | ⟨h₁, h₂, result, hsplit, hfirst, hsecond⟩
  · obtain ⟨d', hd, rfl⟩ := Talks.attempt he'
    refine ⟨h, [], d', by simp, hd, ?_, .inl rfl⟩
    rcases hreaches with hx | ⟨r, hr, hP⟩
    · exact .inl hx
    · cases d' with
      | ask r' next =>
          rw [he] at hr
          exact .inr ⟨r, hr, hP⟩
      | done result =>
          have he : e = k result := he
          rw [he] at hr
          exact absurd hP (((hk result).talks (.start _)).2 r hr)
  · obtain ⟨inner, hd, hsame⟩ := Ends.attempt hfirst
    obtain rfl := Except.ok.inj hsame
    refine ⟨h₁, h₂, .done result, hsplit, hd, ?_, .inr ⟨result, hd, hsecond⟩⟩
    obtain ⟨hhistory, hpending⟩ := (hk result).talks hsecond
    rcases hreaches with ⟨x, hx, hP⟩ | ⟨r, hr, hP⟩
    · rw [hsplit] at hx
      rcases List.mem_append.mp hx with hx | hx
      · exact .inl ⟨x, hx, hP⟩
      · exact absurd hP (hhistory x hx)
    · exact absurd hP (hpending r hr)

end Dialogue

end Effect
