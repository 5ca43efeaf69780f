import NetboxOpenbao.Administration.Capabilities
import NetboxOpenbao.Administration.Templates
import NetboxOpenbao.Coding.Delimited
import NetboxOpenbao.Coding.Holes

/-!
# Texts of templates

The segments of a path, and what replacing placeholders in a template comes to: while no value holds a brace, one
placeholder after another is the same as all of them at once.
-/

namespace NetboxOpenbao

open Coding

namespace Text

/-! ### Segments -/

theorem segments_slash (cs : List Char) : segments ('/' :: cs) = [] :: segments cs := rfl

theorem segments_cons {c : Char} {cs first : List Char} {others : List (List Char)} (hc : c ≠ '/')
    (h : segments cs = first :: others) : segments (c :: cs) = (c :: first) :: others := by
  have hslash : (c == '/') = false := beq_eq_false_iff_ne.mpr hc
  rw [segments, hslash, h]
  rfl

theorem segments_ne_nil (cs : List Char) : ∃ first others, segments cs = first :: others := by
  induction cs with
  | nil => exact ⟨[], [], rfl⟩
  | cons c cs ih =>
      obtain ⟨first, others, hcs⟩ := ih
      by_cases hc : c = '/'
      · subst hc
        exact ⟨[], segments cs, rfl⟩
      · exact ⟨c :: first, others, segments_cons hc hcs⟩

/-- The segments of a text, and of what follows a slash after it. -/
theorem segments_append (xs : List Char) {r : List Char} {rest : List (List Char)} (h : segments r = [] :: rest) :
    segments (xs ++ r) = segments xs ++ rest := by
  induction xs with
  | nil => exact h
  | cons c xs ih =>
      by_cases hc : c = '/'
      · subst hc
        rw [List.cons_append, segments_slash, segments_slash, ih, List.cons_append]
      · obtain ⟨first, others, hxs⟩ := segments_ne_nil xs
        rw [hxs, List.cons_append] at ih
        rw [List.cons_append, segments_cons hc ih, segments_cons hc hxs, List.cons_append]

theorem segments_slashed (parts : List (List Char)) :
    segments (parts.flatMap fun part => '/' :: part) = [] :: parts.flatMap segments := by
  induction parts with
  | nil => rfl
  | cons part parts ih =>
      rw [List.flatMap_cons, List.cons_append, segments_slash, segments_append part ih, List.flatMap_cons]

theorem segments_clear {cs : List Char} (h : '/' ∉ cs) : segments cs = [cs] := by
  induction cs with
  | nil => rfl
  | cons c cs ih =>
      have hc : c ≠ '/' := fun hc => h (hc ▸ List.mem_cons_self)
      exact segments_cons hc (ih fun hmem => h (List.mem_cons_of_mem c hmem))

/-- A text is its segments with slashes between them. -/
theorem eq_of_segments {cs first : List Char} {others : List (List Char)} (h : segments cs = first :: others) :
    cs = first ++ others.flatMap fun part => '/' :: part := by
  induction cs generalizing first others with
  | nil =>
      obtain ⟨rfl, rfl⟩ := List.cons.inj h
      rfl
  | cons c cs ih =>
      obtain ⟨head, tail, hcs⟩ := segments_ne_nil cs
      by_cases hc : c = '/'
      · subst hc
        rw [segments_slash] at h
        obtain ⟨rfl, rfl⟩ := List.cons.inj h
        rw [hcs, List.flatMap_cons, List.nil_append, List.cons_append, ← ih hcs]
      · rw [segments_cons hc hcs] at h
        obtain ⟨rfl, rfl⟩ := List.cons.inj h
        rw [List.cons_append, ← ih hcs]

theorem intercalate_slash (first : List Char) (others : List (List Char)) :
    ['/'].intercalate (first :: others) = first ++ others.flatMap fun part => '/' :: part := by
  induction others generalizing first with
  | nil => rw [List.intercalate_singleton, List.flatMap_nil, List.append_nil]
  | cons next others ih =>
      rw [List.intercalate_cons_cons, ih, List.flatMap_cons, List.append_assoc]
      rfl

theorem intercalate_segments (cs : List Char) : ['/'].intercalate (segments cs) = cs := by
  obtain ⟨first, others, hcs⟩ := segments_ne_nil cs
  rw [hcs, intercalate_slash, ← eq_of_segments hcs]

theorem not_slash_mem_segments {cs segment : List Char} (h : segment ∈ segments cs) : '/' ∉ segment := by
  induction cs generalizing segment with
  | nil =>
      obtain rfl := List.mem_singleton.mp h
      exact List.not_mem_nil
  | cons c cs ih =>
      obtain ⟨first, others, hcs⟩ := segments_ne_nil cs
      by_cases hc : c = '/'
      · subst hc
        rw [segments_slash] at h
        cases List.mem_cons.mp h with
        | inl hnil => exact hnil ▸ List.not_mem_nil
        | inr hmem => exact ih hmem
      · rw [segments_cons hc hcs] at h
        cases List.mem_cons.mp h with
        | inl hfirst =>
            have hslash : '/' ∉ first := ih (hcs ▸ List.mem_cons_self)
            rw [hfirst]
            exact fun hmem => (List.mem_cons.mp hmem).elim (fun heq => hc heq.symm) hslash
        | inr hmem => exact ih (hcs ▸ List.mem_cons_of_mem first hmem)

/-! ### Where a segment stands -/

theorem occursIn_of_prefix {sub cs : List Char} (h : sub <+: cs) : occursIn sub cs = true := by
  cases cs with
  | nil =>
      rw [List.prefix_nil.mp h]
      rfl
  | cons c cs =>
      unfold occursIn
      rw [List.isPrefixOf_iff_prefix.mpr h, Bool.true_or]

theorem occursIn_append {sub r : List Char} (xs : List Char) (h : sub <+: r) : occursIn sub (xs ++ r) = true := by
  induction xs with
  | nil => exact occursIn_of_prefix h
  | cons c xs ih =>
      rw [List.cons_append]
      unfold occursIn
      rw [ih, Bool.or_true]

/-- A segment after the first stands between two slashes, once the text has a slash at its end. -/
theorem occursIn_segment {cs first part : List Char} {others : List (List Char)} (h : segments cs = first :: others)
    (hpart : part ∈ others) : occursIn ('/' :: (part ++ ['/'])) (cs ++ ['/']) = true := by
  obtain ⟨before, after, rfl⟩ := List.append_of_mem hpart
  have hend : ∃ rest, (after.flatMap fun part => '/' :: part) ++ ['/'] = '/' :: rest := by
    cases after with
    | nil => exact ⟨[], rfl⟩
    | cons next after => exact ⟨_, rfl⟩
  obtain ⟨rest, hrest⟩ := hend
  have hcs : cs ++ ['/'] = (first ++ before.flatMap fun part => '/' :: part) ++ ('/' :: (part ++ '/' :: rest)) := by
    rw [eq_of_segments h, List.flatMap_append, List.flatMap_cons]
    simp only [List.append_assoc, List.cons_append, hrest]
  rw [hcs]
  refine occursIn_append _ ⟨rest, ?_⟩
  rw [List.cons_append, List.append_assoc, List.singleton_append]

/-- A text without slashes belongs to the first segment of what follows it. -/
theorem segments_clear_append {xs r first : List Char} {others : List (List Char)} (hxs : '/' ∉ xs)
    (h : segments r = first :: others) : segments (xs ++ r) = (xs ++ first) :: others := by
  induction xs with
  | nil => exact h
  | cons c xs ih =>
      have hc : c ≠ '/' := fun hc => hxs (hc ▸ List.mem_cons_self)
      exact segments_cons hc (ih fun hmem => hxs (List.mem_cons_of_mem c hmem))

/-! ### Replacement -/

variable {old new : List Char}

theorem replaceFrom_skip (xs r : List Char) :
    replaceFrom old new xs.length (xs ++ r) = replaceFrom old new 0 r := by
  induction xs with
  | nil => rfl
  | cons c xs ih => exact ih

theorem replaceFrom_self {c : Char} {rest : List Char} (r : List Char) :
    replaceFrom (c :: rest) new 0 (c :: rest ++ r) = new ++ replaceFrom (c :: rest) new 0 r := by
  have hpre : (c :: rest).isPrefixOf (c :: (rest ++ r)) = true :=
    List.isPrefixOf_iff_prefix.mpr ⟨r, rfl⟩
  rw [List.cons_append, replaceFrom, hpre]
  exact congrArg (new ++ ·) (replaceFrom_skip rest r)

theorem replaceFrom_cons_ne {c d : Char} {rest : List Char} (hcd : d ≠ c) (cs : List Char) :
    replaceFrom (c :: rest) new 0 (d :: cs) = d :: replaceFrom (c :: rest) new 0 cs := by
  have hpre : (c :: rest).isPrefixOf (d :: cs) = false := by
    rw [List.isPrefixOf_cons_cons, beq_eq_false_iff_ne.mpr (Ne.symm hcd), Bool.false_and]
  rw [replaceFrom, hpre]
  rfl

theorem replaceFrom_clear {c : Char} {rest xs : List Char} (hxs : c ∉ xs) (r : List Char) :
    replaceFrom (c :: rest) new 0 (xs ++ r) = xs ++ replaceFrom (c :: rest) new 0 r := by
  induction xs with
  | nil => rfl
  | cons d xs ih =>
      have hd : d ≠ c := fun hd => hxs (hd ▸ List.mem_cons_self)
      rw [List.cons_append, replaceFrom_cons_ne hd, ih fun hmem => hxs (List.mem_cons_of_mem d hmem), List.cons_append]

/-! ### Placeholders -/

/-- A placeholder as it stands in a template. -/
def braced (name : String) : List Char := '{' :: (name.toList ++ ['}'])

def braceFree (cs : List Char) : Prop := '{' ∉ cs ∧ '}' ∉ cs

theorem braced_append_inj {name other : String} {r s : List Char} (hname : braceFree name.toList)
    (hother : braceFree other.toList) (h : braced name ++ r = braced other ++ s) : name = other := by
  unfold braced at h
  rw [List.cons_append, List.cons_append, List.append_assoc, List.append_assoc] at h
  have hstop : ∀ t : List Char, Starts (· = '}') (['}'] ++ t) := fun t => @Starts.cons Char (· = '}') '}' rfl t
  have hclear : ∀ {n : String}, braceFree n.toList → ∀ c ∈ n.toList, ¬ c = '}' := by
    intro n hn c hc heq
    exact hn.2 (heq ▸ hc)
  obtain ⟨hsame, -⟩ := eq_of_clear (hclear hname) (hclear hother) (hstop r) (hstop s) (List.cons.inj h).2
  exact String.toList_inj.mp hsame

theorem replaceFrom_braced_ne {name other : String} (hname : braceFree name.toList) (hother : braceFree other.toList)
    (hne : other ≠ name) (r : List Char) :
    replaceFrom (braced name) new 0 (braced other ++ r) = braced other ++ replaceFrom (braced name) new 0 r := by
  have hpre : (braced name).isPrefixOf ('{' :: (other.toList ++ ['}'] ++ r)) = false := by
    refine Bool.eq_false_iff.mpr fun hpre => ?_
    obtain ⟨s, hs⟩ := List.isPrefixOf_iff_prefix.mp hpre
    exact hne (braced_append_inj (r := s) (s := r) hname hother hs).symm
  have hrest : '{' ∉ other.toList ++ ['}'] := by
    intro hmem
    cases List.mem_append.mp hmem with
    | inl hname => exact hother.1 hname
    | inr hclose => exact absurd (List.mem_singleton.mp hclose) (by decide)
  have hcopied : replaceFrom (braced name) new 0 (other.toList ++ ['}'] ++ r) =
      other.toList ++ ['}'] ++ replaceFrom (braced name) new 0 r := replaceFrom_clear hrest r
  show replaceFrom (braced name) new 0 ('{' :: (other.toList ++ ['}'] ++ r)) = _
  rw [replaceFrom, hpre]
  exact congrArg ('{' :: ·) hcopied

/-- A piece that holds no brace but those of its placeholder. -/
def clean : Piece Char String → Prop
  | .text symbols => braceFree symbols
  | .hole name => braceFree name.toList

/-- Replacing a placeholder fills the holes of its name. -/
theorem replaceFrom_written {name : String} (hname : braceFree name.toList) {ps : List (Piece Char String)}
    (hps : ∀ p ∈ ps, clean p) :
    replaceFrom (braced name) new 0 (written braced ps) = written braced (ps.map (Piece.fillOne name new)) := by
  induction ps with
  | nil => rfl
  | cons p ps ih =>
      have hrest := ih fun q hq => hps q (List.mem_cons_of_mem p hq)
      have hp := hps p List.mem_cons_self
      unfold written at hrest ⊢
      rw [List.flatMap_cons, List.map_cons, List.flatMap_cons, ← hrest]
      cases p with
      | text symbols => exact replaceFrom_clear hp.1 _
      | hole other =>
          by_cases hsame : other = name
          · subst hsame
            rw [Piece.fillOne_hole_self]
            exact replaceFrom_self _
          · rw [Piece.fillOne_hole_ne hsame]
            exact replaceFrom_braced_ne hname hp hsame _

/-- Replacing one placeholder after another fills the holes of all of them at once. -/
theorem foldl_replace_written {values : List (String × String)}
    (hvalues : ∀ entry ∈ values, braceFree entry.1.toList ∧ braceFree entry.2.toList) {ps : List (Piece Char String)}
    (hps : ∀ p ∈ ps, clean p) {text : String} (htext : text.toList = written braced ps) :
    (values.foldl (fun text entry => replace text ("\x7b" ++ entry.1 ++ "\x7d") entry.2) text).toList =
      written braced (ps.map (Piece.fill fun name => (values.map fun e => (e.1, e.2.toList)).lookup name)) := by
  rw [← Piece.foldl_fillOne]
  induction values generalizing text ps with
  | nil => exact htext
  | cons entry values ih =>
      have hentry := hvalues entry List.mem_cons_self
      refine ih (fun e he => hvalues e (List.mem_cons_of_mem entry he)) ?_ ?_
      · intro q hq
        obtain ⟨p, hp, rfl⟩ := List.mem_map.mp hq
        cases p with
        | text symbols => exact hps _ hp
        | hole other =>
            by_cases hsame : other = entry.1
            · subst hsame
              rw [Piece.fillOne_hole_self]
              exact hentry.2
            · rw [Piece.fillOne_hole_ne hsame]
              exact hps _ hp
      · have hbraced : ("\x7b" ++ entry.1 ++ "\x7d").toList = braced entry.1 := by
          simp only [String.toList_append, braced]
          rfl
        unfold replace
        rw [String.toList_ofList, hbraced, htext]
        exact replaceFrom_written hentry.1 hps

end Text

end NetboxOpenbao
