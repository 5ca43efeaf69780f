import Mathlib.Data.List.Forall2
import Mathlib.Logic.Basic

/-!
# Sequences that may fail

What the success of a sequence of `Except` steps says of each of them, and the invariant of a loop that ends at the
first failure.
-/

namespace Effect.Fallible

variable {ε α β σ : Type}

theorem ok_of_toOption {result : Except ε α} {a : α} (h : result.toOption = some a) : result = .ok a := by
  cases result with
  | error error => cases h
  | ok b => exact congrArg Except.ok (Option.some.inj h)

theorem ok_bind (a : α) (next : α → Except ε β) : Except.ok a >>= next = next a := rfl

theorem ok_then {first : Except ε α} {next : α → Except ε β} {a : α} {b : β} (hfirst : first = .ok a)
    (hnext : next a = .ok b) : first >>= next = .ok b := by
  subst hfirst
  exact hnext

theorem bind_ok {first : Except ε α} {next : α → Except ε β} {b : β} (h : first >>= next = .ok b) :
    ∃ a, first = .ok a ∧ next a = .ok b := by
  cases first with
  | error error => cases h
  | ok a => exact ⟨a, rfl, h⟩

theorem bind_error {first : Except ε α} {next : α → Except ε β} {e : ε} (h : first >>= next = .error e) :
    first = .error e ∨ ∃ a, first = .ok a ∧ next a = .error e := by
  cases first with
  | error error => exact .inl (congrArg Except.error (Except.error.inj h))
  | ok a => exact .inr ⟨a, rfl, h⟩

theorem map_bind (first : Except ε α) (next : α → Except ε β) (g : β → σ) :
    (first >>= next).map g = first >>= fun a => (next a).map g := by
  cases first with
  | error error => rfl
  | ok a => rfl

/-- A sequence of steps that succeed where `P` holds, and have the results of `g` there. -/
theorem mapM_ok_iff {f : α → Except ε β} {P : α → Prop} {g : α → β} (hf : ∀ a b, f a = .ok b ↔ P a ∧ b = g a)
    (xs : List α) (ys : List β) : xs.mapM f = .ok ys ↔ (∀ a ∈ xs, P a) ∧ ys = xs.map g := by
  induction xs generalizing ys with
  | nil =>
      rw [List.mapM_nil]
      constructor
      · intro h
        exact ⟨fun a ha => absurd ha List.not_mem_nil, (Except.ok.inj h).symm⟩
      · rintro ⟨-, rfl⟩
        rfl
  | cons a xs ih =>
      rw [List.mapM_cons]
      constructor
      · intro h
        obtain ⟨b, hfirst, h⟩ := bind_ok h
        obtain ⟨bs, hrest, h⟩ := bind_ok h
        obtain ⟨ha, rfl⟩ := (hf a b).mp hfirst
        obtain ⟨hxs, rfl⟩ := (ih bs).mp hrest
        exact ⟨List.forall_mem_cons.mpr ⟨ha, hxs⟩, (Except.ok.inj h).symm⟩
      · rintro ⟨hall, rfl⟩
        obtain ⟨ha, hxs⟩ := List.forall_mem_cons.mp hall
        rw [(hf a (g a)).mpr ⟨ha, rfl⟩, (ih (xs.map g)).mpr ⟨hxs, rfl⟩]
        rfl

/-- Every result of a sequence is that of one of its steps. -/
theorem mapM_ok_mem {f : α → Except ε β} {xs : List α} {ys : List β} (h : xs.mapM f = .ok ys) :
    ∀ b ∈ ys, ∃ a, a ∈ xs ∧ f a = .ok b := by
  induction xs generalizing ys with
  | nil =>
      rw [List.mapM_nil] at h
      obtain rfl := Except.ok.inj h
      exact fun b hb => absurd hb List.not_mem_nil
  | cons a xs ih =>
      rw [List.mapM_cons] at h
      obtain ⟨first, hfirst, h₁⟩ := bind_ok h
      obtain ⟨rest, hrest, h₂⟩ := bind_ok h₁
      obtain rfl := Except.ok.inj h₂
      intro b hb
      cases List.mem_cons.mp hb with
      | inl heq => exact ⟨a, List.mem_cons_self, heq ▸ hfirst⟩
      | inr hmem =>
          obtain ⟨other, hother, hresult⟩ := ih hrest b hmem
          exact ⟨other, List.mem_cons_of_mem a hother, hresult⟩

/-- The invariant of a loop, over what it has gone through. -/
theorem foldlM_ok {step : σ → α → Except ε σ} (P : List α → σ → Prop) {all : List α} {start finish : σ}
    (hstep : ∀ done a rest s s', all = done ++ a :: rest → P done s → step s a = .ok s' → P (done ++ [a]) s')
    (hstart : P [] start) (hrun : all.foldlM step start = .ok finish) : P all finish := by
  have hfrom : ∀ rest done s, all = done ++ rest → P done s → rest.foldlM step s = .ok finish → P all finish := by
    intro rest
    induction rest with
    | nil =>
        intro done s hall h hrun
        obtain rfl := Except.ok.inj hrun
        rw [hall, List.append_nil]
        exact h
    | cons a rest ih =>
        intro done s hall h hrun
        rw [List.foldlM_cons] at hrun
        obtain ⟨between, hfirst, hrest⟩ := bind_ok hrun
        have hnext : all = (done ++ [a]) ++ rest := by rw [hall, List.append_assoc, List.singleton_append]
        exact ih (done ++ [a]) between hnext (hstep done a rest s between hall h hfirst) hrest
  exact hfrom all [] start rfl hstart hrun

/-- When every step that has gone well so far goes well, so does the whole loop. -/
theorem foldlM_exists {step : σ → α → Except ε σ} (P : List α → σ → Prop) {all : List α} {start : σ}
    (hstep : ∀ done a rest s, all = done ++ a :: rest → P done s → ∃ s', step s a = .ok s' ∧ P (done ++ [a]) s')
    (hstart : P [] start) : ∃ finish, all.foldlM step start = .ok finish ∧ P all finish := by
  have hfrom : ∀ rest done s, all = done ++ rest → P done s →
      ∃ finish, rest.foldlM step s = .ok finish ∧ P all finish := by
    intro rest
    induction rest with
    | nil =>
        intro done s hall hdone
        rw [List.append_nil] at hall
        exact ⟨s, rfl, hall ▸ hdone⟩
    | cons a rest ih =>
        intro done s hall hdone
        obtain ⟨s', hs', hnext⟩ := hstep done a rest s hall hdone
        obtain ⟨finish, hfinish, hP⟩ := ih (done ++ [a]) s' (by rw [hall, List.append_assoc, List.singleton_append]) hnext
        refine ⟨finish, ?_, hP⟩
        rw [List.foldlM_cons, hs', ok_bind]
        exact hfinish
  exact hfrom all [] start rfl hstart

theorem mapM_forall₂ {f : α → Except ε β} {xs : List α} {ys : List β} (h : xs.mapM f = .ok ys) :
    List.Forall₂ (fun a b => f a = .ok b) xs ys := by
  induction xs generalizing ys with
  | nil =>
      rw [List.mapM_nil] at h
      obtain rfl := Except.ok.inj h
      exact .nil
  | cons a xs ih =>
      rw [List.mapM_cons] at h
      obtain ⟨first, hfirst, h₁⟩ := bind_ok h
      obtain ⟨rest, hrest, h₂⟩ := bind_ok h₁
      obtain rfl := Except.ok.inj h₂
      exact .cons hfirst (ih hrest)

theorem mapM_of_forall₂ {f : α → Except ε β} {xs : List α} {ys : List β}
    (h : List.Forall₂ (fun a b => f a = .ok b) xs ys) : xs.mapM f = .ok ys := by
  induction h with
  | nil => rfl
  | cons hfirst _ ih =>
      rw [List.mapM_cons, hfirst, ok_bind, ih]
      rfl

/-- Steps that differ in what `g` does to a result. -/
theorem mapM_map {f f' : α → Except ε β} {g : β → β} (hf : ∀ a, f' a = (f a).map g) (xs : List α) :
    xs.mapM f' = (xs.mapM f).map (List.map g) := by
  induction xs with
  | nil => rfl
  | cons a xs ih =>
      rw [List.mapM_cons, List.mapM_cons, hf, ih]
      cases f a with
      | error error => rfl
      | ok b =>
          cases xs.mapM f with
          | error error => rfl
          | ok bs => rfl

theorem mapM_ok_exists {f : α → Except ε β} {xs : List α} :
    (∃ ys, xs.mapM f = .ok ys) ↔ ∀ a ∈ xs, ∃ b, f a = .ok b := by
  induction xs with
  | nil => exact iff_of_true ⟨[], rfl⟩ fun a ha => absurd ha List.not_mem_nil
  | cons a xs ih =>
      rw [List.forall_mem_cons, ← ih]
      constructor
      · rintro ⟨ys, h⟩
        rw [List.mapM_cons] at h
        obtain ⟨first, hfirst, h₁⟩ := bind_ok h
        obtain ⟨rest, hrest, -⟩ := bind_ok h₁
        exact ⟨⟨first, hfirst⟩, rest, hrest⟩
      · rintro ⟨⟨first, hfirst⟩, rest, hrest⟩
        refine ⟨first :: rest, ?_⟩
        rw [List.mapM_cons, hfirst, ok_bind, hrest]
        rfl

theorem mapM_error {f : α → Except ε β} {xs : List α} {e : ε} (h : xs.mapM f = .error e) :
    ∃ a ∈ xs, f a = .error e := by
  induction xs with
  | nil =>
      rw [List.mapM_nil] at h
      cases h
  | cons a xs ih =>
      rw [List.mapM_cons] at h
      rcases bind_error h with hfirst | ⟨b, -, h₁⟩
      · exact ⟨a, List.mem_cons_self, hfirst⟩
      · rcases bind_error h₁ with hrest | ⟨bs, -, h₂⟩
        · obtain ⟨other, hmem, hother⟩ := ih hrest
          exact ⟨other, List.mem_cons_of_mem a hmem, hother⟩
        · cases h₂

theorem foldlM_error {step : σ → α → Except ε σ} {xs : List α} {start : σ} {e : ε}
    (h : xs.foldlM step start = .error e) : ∃ s, ∃ a ∈ xs, step s a = .error e := by
  induction xs generalizing start with
  | nil => cases h
  | cons a xs ih =>
      rw [List.foldlM_cons] at h
      rcases bind_error h with hfirst | ⟨between, -, hrest⟩
      · exact ⟨start, a, List.mem_cons_self, hfirst⟩
      · obtain ⟨s, other, hmem, hother⟩ := ih hrest
        exact ⟨s, other, List.mem_cons_of_mem a hmem, hother⟩

/-- A loop that appends what `f` gives for each element, up to a length, is `f` on all of them. -/
theorem foldlM_append_iff {step : List β → α → Except ε (List β)} {f : α → Except ε (List β)} {most : Nat}
    (hstep : ∀ s a t, s.length ≤ most → (step s a = .ok t ↔ ∃ added, f a = .ok added ∧ t = s ++ added ∧ t.length ≤ most))
    (xs : List α) {s t : List β} (hs : s.length ≤ most) :
    xs.foldlM step s = .ok t ↔ ∃ parts, xs.mapM f = .ok parts ∧ t = s ++ parts.flatten ∧ t.length ≤ most := by
  induction xs generalizing s with
  | nil =>
      constructor
      · intro h
        obtain rfl := Except.ok.inj h
        exact ⟨[], rfl, (List.append_nil s).symm, hs⟩
      · rintro ⟨parts, hparts, rfl, -⟩
        rw [List.mapM_nil] at hparts
        obtain rfl := Except.ok.inj hparts
        rw [List.flatten_nil, List.append_nil]
        rfl
  | cons a xs ih =>
      constructor
      · intro h
        rw [List.foldlM_cons] at h
        obtain ⟨between, hfirst, hrest⟩ := bind_ok h
        obtain ⟨added, hadded, rfl, hbound⟩ := (hstep s a between hs).mp hfirst
        obtain ⟨parts, hparts, rfl, hlength⟩ := (ih hbound).mp hrest
        refine ⟨added :: parts, ?_, ?_, hlength⟩
        · rw [List.mapM_cons, hadded, ok_bind, hparts]
          rfl
        · rw [List.flatten_cons, List.append_assoc]
      · rintro ⟨parts, hparts, rfl, hlength⟩
        rw [List.mapM_cons] at hparts
        obtain ⟨added, hadded, h₁⟩ := bind_ok hparts
        obtain ⟨others, hothers, h₂⟩ := bind_ok h₁
        obtain rfl := Except.ok.inj h₂
        have hsame : s ++ (added :: others).flatten = (s ++ added) ++ others.flatten := by
          rw [List.flatten_cons, List.append_assoc]
        have hbound : (s ++ added).length ≤ most := by
          have hall := hlength
          rw [hsame, List.length_append] at hall
          exact Nat.le_trans (Nat.le_add_right _ _) hall
        rw [List.foldlM_cons, (hstep s a (s ++ added) hs).mpr ⟨added, hadded, rfl, hbound⟩, ok_bind]
        exact (ih hbound).mpr ⟨others, hothers, hsame, hlength⟩

end Effect.Fallible
