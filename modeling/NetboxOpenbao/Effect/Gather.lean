import NetboxOpenbao.Effect.Fallible

/-!
# Collecting results up to order

A sequence of steps that each give a list, all lists in one. In another order, or with steps whose lists differ in
order only, it fails and succeeds alike, and collects the same items.
-/

namespace Effect.Fallible

variable {ε α β γ σ : Type}

theorem mapM_congr_map {f : β → Except ε γ} {f' : α → Except ε γ} {g : α → β} {xs : List α}
    (h : ∀ a ∈ xs, f (g a) = f' a) : (xs.map g).mapM f = xs.mapM f' := by
  induction xs with
  | nil => rfl
  | cons a xs ih =>
      obtain ⟨hfirst, hrest⟩ := List.forall_mem_cons.mp h
      rw [List.map_cons, List.mapM_cons, List.mapM_cons, hfirst, ih hrest]

theorem foldlM_congr_map {step : σ → β → Except ε σ} {step' : σ → α → Except ε σ} {g : α → β} {xs : List α}
    (h : ∀ s, ∀ a ∈ xs, step s (g a) = step' s a) (start : σ) : (xs.map g).foldlM step start = xs.foldlM step' start := by
  induction xs generalizing start with
  | nil => rfl
  | cons a xs ih =>
      rw [List.map_cons, List.foldlM_cons, List.foldlM_cons, h start a List.mem_cons_self]
      exact congrArg _ (funext fun s => ih (fun s a ha => h s a (List.mem_cons_of_mem _ ha)) s)

/-- What the steps give, one list after the other. -/
def gather (f : α → Except ε (List β)) (xs : List α) : Except ε (List β) := do
  let parts ← xs.mapM f
  return parts.flatten

theorem gather_cons (f : α → Except ε (List β)) (a : α) (xs : List α) :
    gather f (a :: xs) = f a >>= fun part => (gather f xs).map (part ++ ·) := by
  unfold gather
  rw [List.mapM_cons]
  cases f a with
  | error error => rfl
  | ok part =>
      cases xs.mapM f with
      | error error => rfl
      | ok parts => rfl

theorem gather_cons_ok {f : α → Except ε (List β)} {a : α} {xs : List α} {all : List β}
    (h : gather f (a :: xs) = .ok all) : ∃ part rest, f a = .ok part ∧ gather f xs = .ok rest ∧ all = part ++ rest := by
  rw [gather_cons] at h
  obtain ⟨part, hpart, hrest⟩ := bind_ok h
  cases hothers : gather f xs with
  | error error =>
      rw [hothers] at hrest
      cases hrest
  | ok rest =>
      rw [hothers] at hrest
      exact ⟨part, rest, hpart, rfl, (Except.ok.inj hrest).symm⟩

theorem gather_mem {f : α → Except ε (List β)} {xs : List α} {all : List β} (h : gather f xs = .ok all) (b : β) :
    b ∈ all ↔ ∃ a ∈ xs, ∃ part, f a = .ok part ∧ b ∈ part := by
  induction xs generalizing all with
  | nil =>
      obtain rfl := Except.ok.inj h
      refine iff_of_false List.not_mem_nil ?_
      rintro ⟨a, ha, -⟩
      exact List.not_mem_nil ha
  | cons a xs ih =>
      obtain ⟨part, rest, hpart, hrest, rfl⟩ := gather_cons_ok h
      rw [List.mem_append, ih hrest]
      constructor
      · rintro (hfirst | ⟨other, hother, found, hfound, hmem⟩)
        · exact ⟨a, List.mem_cons_self, part, hpart, hfirst⟩
        · exact ⟨other, List.mem_cons_of_mem _ hother, found, hfound, hmem⟩
      · rintro ⟨other, hother, found, hfound, hmem⟩
        cases List.mem_cons.mp hother with
        | inl heq =>
            subst heq
            obtain rfl := Except.ok.inj (hpart.symm.trans hfound)
            exact .inl hmem
        | inr htail => exact .inr ⟨other, htail, found, hfound, hmem⟩

/-- Both fail, or both give the same items in some order. -/
inductive SameItems : Except ε (List β) → Except ε (List β) → Prop
  | error (e e' : ε) : SameItems (.error e) (.error e')
  | ok {xs ys : List β} (h : xs.Perm ys) : SameItems (.ok xs) (.ok ys)

theorem SameItems.refl (result : Except ε (List β)) : SameItems result result := by
  cases result with
  | error e => exact .error e e
  | ok xs => exact .ok (.refl xs)

theorem SameItems.symm {first second : Except ε (List β)} (h : SameItems first second) : SameItems second first := by
  cases h with
  | error e e' => exact .error e' e
  | ok h => exact .ok h.symm

theorem SameItems.trans {first second third : Except ε (List β)} (h : SameItems first second)
    (h' : SameItems second third) : SameItems first third := by
  cases h with
  | error e e' =>
      cases h' with
      | error _ e'' => exact .error e e''
  | ok h =>
      cases h' with
      | ok h' => exact .ok (h.trans h')

theorem SameItems.exists_ok {first : Except ε (List β)} {second : Except ε (List β)} {xs : List β}
    (h : SameItems first second) (hfirst : first = .ok xs) : ∃ ys, second = .ok ys ∧ xs.Perm ys := by
  subst hfirst
  cases h with
  | ok h => exact ⟨_, rfl, h⟩

theorem SameItems.append {first first' second second' : Except ε (List β)} (h : SameItems first second)
    (h' : SameItems first' second') :
    SameItems (first >>= fun part => first'.map (part ++ ·)) (second >>= fun part => second'.map (part ++ ·)) := by
  cases h with
  | error e e' => exact .error e e'
  | ok h =>
      cases h' with
      | error e e' => exact .error e e'
      | ok h' => exact .ok (h.append h')

theorem gather_map {f : α → Except ε (List γ)} {f' : β → Except ε (List γ)} {g : α → β} {xs : List α}
    (h : ∀ a ∈ xs, SameItems (f a) (f' (g a))) : SameItems (gather f xs) (gather f' (xs.map g)) := by
  induction xs with
  | nil => exact .refl _
  | cons a xs ih =>
      obtain ⟨hfirst, hrest⟩ := List.forall_mem_cons.mp h
      rw [List.map_cons, gather_cons, gather_cons]
      exact hfirst.append (ih hrest)

theorem gather_perm (f : α → Except ε (List β)) {xs ys : List α} (hperm : xs.Perm ys) :
    SameItems (gather f xs) (gather f ys) := by
  induction hperm with
  | nil => exact .refl _
  | cons a _ ih =>
      rw [gather_cons, gather_cons]
      exact (SameItems.refl (f a)).append ih
  | swap a b xs =>
      rw [gather_cons, gather_cons, gather_cons, gather_cons]
      -- either order meets both steps before the rest
      cases f a with
      | error e =>
          cases f b with
          | error e' => exact .error e' e
          | ok part => exact .error e e
      | ok part =>
          cases f b with
          | error e' => exact .error e' e'
          | ok part' =>
              cases gather f xs with
              | error e => exact .error e e
              | ok rest =>
                  refine .ok ?_
                  dsimp only
                  rw [← List.append_assoc, ← List.append_assoc]
                  exact List.perm_append_comm.append_right rest
  | trans _ _ ih ih' => exact ih.trans ih'

end Effect.Fallible
