import Mathlib.Algebra.Ring.Nat

/-!
# Texts that can be read back

A writer gives every value a text. When one text can neither be the beginning of another nor, with what follows it, be
taken for one, what was written can be read back. That carries over from the parts of a text to the whole: to a
sequence up to a terminator, and to a sequence with separators.
-/

namespace Coding

variable {α β σ : Type}

/-- `r` is empty, or its first symbol is one of `stops`. -/
def Starts (stops : σ → Prop) (r : List σ) : Prop := ∀ c rest, r = c :: rest → stops c

theorem Starts.nil {stops : σ → Prop} : Starts stops [] := nofun

theorem Starts.cons {stops : σ → Prop} {c : σ} (hc : stops c) (rest : List σ) : Starts stops (c :: rest) := by
  rintro _ _ ⟨⟩
  exact hc

/-- The text of `a`, with anything after it that begins with one of `stops`, is no other value's text with anything of
the kind after it. -/
def Reads (write : α → List σ) (stops : σ → Prop) (a : α) : Prop :=
  ∀ b r s, Starts stops r → Starts stops s → write a ++ r = write b ++ s → a = b ∧ r = s

/-- The same, whatever comes after. -/
def Closed (write : α → List σ) (a : α) : Prop := ∀ b r s, write a ++ r = write b ++ s → a = b ∧ r = s

/-- A text without stops ends where the first stop stands. -/
theorem eq_of_clear {stops : σ → Prop} {xs ys r s : List σ} (hxs : ∀ c ∈ xs, ¬ stops c) (hys : ∀ c ∈ ys, ¬ stops c)
    (hr : Starts stops r) (hs : Starts stops s) (hsame : xs ++ r = ys ++ s) : xs = ys ∧ r = s := by
  induction xs generalizing ys with
  | nil =>
      cases ys with
      | nil => exact ⟨rfl, hsame⟩
      | cons d ys => exact absurd (hr d (ys ++ s) hsame) (hys d List.mem_cons_self)
  | cons c xs ih =>
      cases ys with
      | nil => exact absurd (hs c (xs ++ r) hsame.symm) (hxs c List.mem_cons_self)
      | cons d ys =>
          obtain ⟨rfl, hrest⟩ := List.cons.inj hsame
          obtain ⟨rfl, hrs⟩ := ih (fun c hc => hxs c (List.mem_cons_of_mem _ hc))
            (fun c hc => hys c (List.mem_cons_of_mem _ hc)) hrest
          exact ⟨rfl, hrs⟩

/-! ### A sequence and its terminator -/

section

variable {write : α → List σ} {stop : σ}

/-- A sequence of closed texts ends at a symbol no text begins with. -/
theorem flatMap_closed (hclosed : ∀ a, Closed write a) (hhead : ∀ a, ∃ c rest, write a = c :: rest ∧ c ≠ stop)
    (xs : List α) : Closed (fun xs => xs.flatMap write ++ [stop]) xs := by
  induction xs with
  | nil =>
      intro ys r s hsame
      cases ys with
      | nil => exact ⟨rfl, (List.cons.inj hsame).2⟩
      | cons b ys =>
          obtain ⟨c, rest, hb, hc⟩ := hhead b
          simp only [List.flatMap_nil, List.nil_append, List.flatMap_cons, List.append_assoc, hb,
            List.cons_append, List.cons.injEq] at hsame
          exact absurd hsame.1.symm hc
  | cons a xs ih =>
      intro ys r s hsame
      cases ys with
      | nil =>
          obtain ⟨c, rest, ha, hc⟩ := hhead a
          simp only [List.flatMap_nil, List.nil_append, List.flatMap_cons, List.append_assoc, ha,
            List.cons_append, List.cons.injEq] at hsame
          exact absurd hsame.1 hc
      | cons b ys =>
          simp only [List.flatMap_cons, List.append_assoc] at hsame
          obtain ⟨rfl, hrest⟩ := hclosed a b _ _ hsame
          obtain ⟨rfl, hrs⟩ := ih ys r s (by simpa only [List.append_assoc] using hrest)
          exact ⟨rfl, hrs⟩

end

/-! ### A sequence with separators -/

/-- The texts of `xs` with `separator` between them. -/
def separated (write : α → List σ) (separator : σ) : List α → List σ
  | [] => []
  | [a] => write a
  | a :: b :: rest => write a ++ separator :: separated write separator (b :: rest)

/-- The length of a sequence does not tell the order of what is in it. -/
theorem separated_length (write : α → List σ) (separator : σ) (xs : List α) :
    (separated write separator xs).length = (xs.map fun a => (write a).length).sum + (xs.length - 1) := by
  induction xs with
  | nil => rfl
  | cons a rest ih =>
      cases rest with
      | nil => rfl
      | cons b rest =>
          simp only [separated, List.length_append, List.length_cons, ih, List.map_cons, List.sum_cons]
          omega

theorem joined_length (separator : String) (texts : List String) :
    (separator.intercalate texts).length = (texts.map String.length).sum + (texts.length - 1) * separator.length := by
  induction texts with
  | nil => simp
  | cons text rest ih =>
      cases rest with
      | nil => simp
      | cons next rest =>
          rw [String.intercalate_cons_cons, String.length_append, String.length_append, ih]
          simp only [List.map_cons, List.sum_cons, List.length_cons, Nat.add_sub_cancel, Nat.add_mul]
          omega

/-- What follows the first text of a sequence: the terminator, or a separator and the others. -/
def closing (write : α → List σ) (separator stop : σ) : List α → List σ
  | [] => [stop]
  | a :: rest => separator :: (separated write separator (a :: rest) ++ [stop])

section

variable {write : α → List σ} {stops : σ → Prop} {separator stop : σ}

theorem separated_cons (a : α) (xs : List α) :
    separated write separator (a :: xs) ++ [stop] = write a ++ closing write separator stop xs := by
  cases xs with
  | nil => rfl
  | cons b xs => rw [separated, closing, List.append_assoc, List.cons_append]

theorem closing_starts (hseparator : stops separator) (hstop : stops stop) (xs : List α) (r : List σ) :
    Starts stops (closing write separator stop xs ++ r) := by
  cases xs with
  | nil => exact Starts.cons hstop _
  | cons a xs => exact Starts.cons hseparator _

/-- A sequence is read back text by text: a text ends at a separator or at the terminator, and none begins with the
terminator. -/
theorem separated_closed (hseparator : stops separator) (hstop : stops stop) (hne : separator ≠ stop)
    (hhead : ∀ a, ∃ c rest, write a = c :: rest ∧ c ≠ stop) {xs : List α} (hreads : ∀ a ∈ xs, Reads write stops a) :
    Closed (fun xs => separated write separator xs ++ [stop]) xs := by
  induction xs with
  | nil =>
      intro ys r s hsame
      cases ys with
      | nil => exact ⟨rfl, (List.cons.inj hsame).2⟩
      | cons b ys =>
          obtain ⟨c, rest, hb, hc⟩ := hhead b
          simp only [separated_cons, hb, separated, List.nil_append, List.cons_append, List.cons.injEq] at hsame
          exact absurd hsame.1.symm hc
  | cons a xs ih =>
      intro ys r s hsame
      cases ys with
      | nil =>
          obtain ⟨c, rest, ha, hc⟩ := hhead a
          simp only [separated_cons, ha, separated, List.nil_append, List.cons_append, List.cons.injEq] at hsame
          exact absurd hsame.1 hc
      | cons b ys =>
          simp only [separated_cons, List.append_assoc] at hsame
          obtain ⟨rfl, hrest⟩ := hreads a List.mem_cons_self b _ _ (closing_starts hseparator hstop xs r)
            (closing_starts hseparator hstop ys s) hsame
          -- what follows the first text tells whether there is a second
          cases xs with
          | nil =>
              cases ys with
              | nil => exact ⟨rfl, (List.cons.inj hrest).2⟩
              | cons c ys => exact absurd (List.cons.inj hrest).1.symm hne
          | cons c xs =>
              cases ys with
              | nil => exact absurd (List.cons.inj hrest).1 hne
              | cons d ys =>
                  obtain ⟨hsame, hrs⟩ := ih (fun a ha => hreads a (List.mem_cons_of_mem _ ha)) (d :: ys) r s
                    (List.cons.inj hrest).2
                  exact ⟨by rw [hsame], hrs⟩

end

/-! ### Numbers -/

theorem toDigits_inj {m n : Nat} (h : Nat.toDigits 10 m = Nat.toDigits 10 n) : m = n := by
  rw [← Nat.ofDigitChars_ten_toDigits (n := m), h, Nat.ofDigitChars_ten_toDigits]

/-! ### Two texts one after the other -/

theorem pair_reads {first : α → List σ} {second : β → List σ} {mark : σ} {stops : σ → Prop} {a : α} {b : β}
    (hfirst : Closed first a) (hsecond : Reads second stops b) :
    Reads (fun entry : α × β => first entry.1 ++ mark :: second entry.2) stops (a, b) := by
  rintro ⟨a', b'⟩ r s hr hs hsame
  simp only [List.append_assoc, List.cons_append] at hsame
  obtain ⟨rfl, hrest⟩ := hfirst a' _ _ hsame
  obtain ⟨rfl, hrs⟩ := hsecond b' r s hr hs (List.cons.inj hrest).2
  exact ⟨rfl, hrs⟩

end Coding
