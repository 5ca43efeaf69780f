import NetboxOpenbao.Coding.Delimited
import NetboxOpenbao.ImportSources

/-!
# Every marker is held by one row

Whatever is cut off a value, what follows the last `#` of a candidate tells its row and its attempt. So there is always
an unused one, and a row that is renamed never meets another. The oldest row of a value is left alone, and at the end
it is the only one to hold that value.
-/

namespace NetboxOpenbao.Migration

open Effect

/-! ### Candidates -/

/-- What follows the `#` of a suffix. -/
def suffixTail (pk attempt : Nat) : List Char :=
  "duplicate-".toList ++ Nat.toDigits 10 pk ++ if attempt = 0 then [] else '-' :: Nat.toDigits 10 attempt

theorem suffix_eq (pk attempt : Nat) : suffix pk attempt = '#' :: suffixTail pk attempt := rfl

theorem digits_clear (n : Nat) : ∀ c ∈ Nat.toDigits 10 n, ¬ c = '#' := by
  rintro c hc rfl
  exact absurd (Nat.isDigit_of_mem_toDigits (by decide) (by decide) hc) (by decide)

theorem suffixTail_clear (pk attempt : Nat) : ∀ c ∈ suffixTail pk attempt, ¬ c = '#' := by
  intro c hc
  unfold suffixTail at hc
  rcases List.mem_append.mp hc with hfront | hattempt
  · rcases List.mem_append.mp hfront with hname | hpk
    · rintro rfl
      exact absurd hname (by decide)
    · exact digits_clear pk c hpk
  · split at hattempt
    · exact absurd hattempt List.not_mem_nil
    · rcases List.mem_cons.mp hattempt with rfl | hdigits
      · decide
      · exact digits_clear attempt c hdigits

/-- What follows the last `#` is the same in equal texts. -/
theorem tail_eq {before other tail rest : List Char} (htail : ∀ c ∈ tail, ¬ c = '#') (hrest : ∀ c ∈ rest, ¬ c = '#')
    (h : before ++ '#' :: tail = other ++ '#' :: rest) : tail = rest := by
  have hreverse := congrArg List.reverse h
  simp only [List.reverse_append, List.reverse_cons, List.append_assoc, List.singleton_append] at hreverse
  have hstarts : ∀ text : List Char, Coding.Starts (· = '#') ('#' :: text) := by
    rintro text _ _ ⟨⟩
    rfl
  obtain ⟨hsame, -⟩ := Coding.eq_of_clear (fun c hc => htail c (List.mem_reverse.mp hc))
    (fun c hc => hrest c (List.mem_reverse.mp hc)) (hstarts before.reverse) (hstarts other.reverse) hreverse
  exact List.reverse_inj.mp hsame

/-- Candidates tell their attempt, wherever the value is cut. -/
theorem candidate_inj {value : String} {pk m n : Nat} (h : candidate value pk m = candidate value pk n) : m = n := by
  have hlist := String.ofList_injective h
  rw [suffix_eq, suffix_eq] at hlist
  have htail := tail_eq (suffixTail_clear pk m) (suffixTail_clear pk n) hlist
  unfold suffixTail at htail
  have hattempt := List.append_cancel_left htail
  split at hattempt
  · next hm =>
      split at hattempt
      · next hn => rw [hm, hn]
      · cases hattempt
  · split at hattempt
    · cases hattempt
    · exact Coding.toDigits_inj (List.cons.inj hattempt).2

theorem candidate_ne (value : String) (pk attempt : Nat) : candidate value pk attempt ≠ "" := by
  intro hempty
  have hlist := congrArg String.toList hempty
  rw [candidate, String.toList_ofList, suffix_eq] at hlist
  exact absurd (List.append_eq_nil_iff.mp hlist).2 (List.cons_ne_nil _ _)

theorem suffix_length {pk attempt : Nat} (hpk : pk < 2 ^ 63) (hattempt : attempt < 10 ^ 100) :
    (suffix pk attempt).length ≤ 200 := by
  have hpkDigits : (Nat.toDigits 10 pk).length ≤ 19 :=
    (Nat.length_toDigits_le_iff (by decide) (by decide)).mpr (Nat.lt_of_lt_of_le hpk (by decide))
  have hattemptDigits : (Nat.toDigits 10 attempt).length ≤ 100 :=
    (Nat.length_toDigits_le_iff (by decide) (by decide)).mpr hattempt
  have hname : "#duplicate-".toList.length = 11 := by decide
  unfold suffix
  rw [List.length_append, List.length_append, hname]
  split
  · rw [List.length_nil]
    omega
  · rw [List.length_cons]
    omega

theorem slice_length (value : String) {bound : Int} (hbound : 0 ≤ bound) :
    (slice value bound).length ≤ bound.natAbs := by
  unfold slice
  rw [if_neg (Int.not_lt.mpr hbound)]
  exact List.length_take_le _ _

theorem candidate_length {value : String} {pk attempt : Nat} (hpk : pk < 2 ^ 63) (hattempt : attempt < 10 ^ 100) :
    (candidate value pk attempt).length ≤ 200 := by
  have hsuffix := suffix_length hpk hattempt
  have hslice := slice_length value (show (0 : Int) ≤ 200 - (suffix pk attempt).length by omega)
  rw [candidate, String.length_ofList, List.length_append]
  omega

/-- There is an unused value, and it fits. -/
theorem unusedValue_some (value : String) {pk : Nat} {occupied : List String} (hpk : pk < 2 ^ 63)
    (hoccupied : occupied.length < 10 ^ 100) : ∃ unused, unusedValue value pk occupied = some unused ∧
      unused ∉ occupied ∧ unused ≠ "" ∧ unused.length ≤ 200 := by
  obtain ⟨n, hn, hfree, hsearch⟩ := Fresh.search_exists
    (fun m n (hsame : candidate value pk m = candidate value pk n) => candidate_inj hsame) occupied
  exact ⟨_, hsearch, hfree, candidate_ne value pk n, candidate_length hpk (Nat.lt_of_le_of_lt hn hoccupied)⟩

/-! ### The later rows of one value -/

theorem save_self (table : Credentials) (pk : Nat) (value : String) : (table.save pk value).importSource pk = value := by
  unfold Credentials.save
  exact Function.update_self pk value table.importSource

theorem save_of_ne (table : Credentials) {pk other : Nat} (hne : other ≠ pk) (value : String) :
    (table.save pk value).importSource other = table.importSource other := by
  unfold Credentials.save
  exact Function.update_of_ne hne value table.importSource

/-- What renaming some rows does: each has a value nobody had, no two of them the same, and the others are as they were. -/
structure Renamed (pks : List Nat) (table : Credentials) (occupied : List String) (after : Credentials)
    (taken : List String) : Prop where
  rows : after.pks = table.pks
  others : ∀ pk, pk ∉ pks → after.importSource pk = table.importSource pk
  fresh : ∀ pk ∈ pks, after.importSource pk ∉ occupied
  noted : ∀ pk ∈ pks, after.importSource pk ∈ taken
  filled : ∀ pk ∈ pks, after.importSource pk ≠ ""
  fits : ∀ pk ∈ pks, (after.importSource pk).length ≤ 200
  distinct : ∀ p ∈ pks, ∀ q ∈ pks, after.importSource p = after.importSource q → p = q
  grows : ∀ value ∈ occupied, value ∈ taken
  length : taken.length = occupied.length + pks.length

theorem Renamed.nil (table : Credentials) (occupied : List String) : Renamed [] table occupied table occupied where
  rows := rfl
  others _ _ := rfl
  fresh _ hpk := absurd hpk List.not_mem_nil
  noted _ hpk := absurd hpk List.not_mem_nil
  filled _ hpk := absurd hpk List.not_mem_nil
  fits _ hpk := absurd hpk List.not_mem_nil
  distinct _ hp := absurd hp List.not_mem_nil
  grows _ hvalue := hvalue
  length := rfl

/-- One row, and then the rest. -/
theorem Renamed.cons {pk : Nat} {pks : List Nat} {table after : Credentials} {occupied taken : List String}
    {unused : String} (hpk : pk ∉ pks) (hfree : unused ∉ occupied) (hfilled : unused ≠ "") (hfits : unused.length ≤ 200)
    (h : Renamed pks (table.save pk unused) (unused :: occupied) after taken) :
    Renamed (pk :: pks) table occupied after taken := by
  have hsaved : after.importSource pk = unused :=
    (h.others pk hpk).trans (save_self table pk unused)
  have hlater : ∀ q ∈ pks, after.importSource q ≠ unused := fun q hq hsame =>
    h.fresh q hq (hsame ▸ List.mem_cons_self)
  constructor
  · exact h.rows
  · intro q hq
    have hne : q ≠ pk := fun hsame => hq (hsame ▸ List.mem_cons_self)
    exact (h.others q fun hmem => hq (List.mem_cons_of_mem pk hmem)).trans (save_of_ne table hne unused)
  · refine List.forall_mem_cons.mpr ⟨hsaved ▸ hfree, fun q hq hmem => ?_⟩
    exact h.fresh q hq (List.mem_cons_of_mem unused hmem)
  · exact List.forall_mem_cons.mpr ⟨hsaved ▸ h.grows unused List.mem_cons_self, h.noted⟩
  · exact List.forall_mem_cons.mpr ⟨hsaved ▸ hfilled, h.filled⟩
  · exact List.forall_mem_cons.mpr ⟨hsaved ▸ hfits, h.fits⟩
  · intro p hp q hq hsame
    rcases List.mem_cons.mp hp with rfl | hpRest
    · rcases List.mem_cons.mp hq with rfl | hqRest
      · rfl
      · exact absurd (hsame.symm.trans hsaved) (hlater q hqRest)
    · rcases List.mem_cons.mp hq with rfl | hqRest
      · exact absurd (hsame.trans hsaved) (hlater p hpRest)
      · exact h.distinct p hpRest q hqRest hsame
  · exact fun value hvalue => h.grows value (List.mem_cons_of_mem unused hvalue)
  · rw [h.length, List.length_cons, List.length_cons]
    omega

theorem renames (value : String) (table : Credentials) {pks : List Nat} {occupied : List String} (hnodup : pks.Nodup)
    (hpks : ∀ pk ∈ pks, pk < 2 ^ 63) (hlength : occupied.length + pks.length < 10 ^ 100) :
    ∃ after taken, pks.foldlM (rename value) (table, occupied) = some (after, taken) ∧
      Renamed pks table occupied after taken := by
  induction pks generalizing table occupied with
  | nil => exact ⟨table, occupied, rfl, .nil table occupied⟩
  | cons pk pks ih =>
      obtain ⟨hhead, hrest⟩ := List.nodup_cons.mp hnodup
      rw [List.length_cons] at hlength
      obtain ⟨unused, hunused, hfree, hfilled, hfits⟩ := unusedValue_some value (hpks pk List.mem_cons_self)
        (show occupied.length < 10 ^ 100 by omega)
      have hlater : (unused :: occupied).length + pks.length < 10 ^ 100 := by
        rw [List.length_cons]
        omega
      have hnext : ∃ after taken, pks.foldlM (rename value) (table.save pk unused, unused :: occupied) =
          some (after, taken) ∧ Renamed pks (table.save pk unused) (unused :: occupied) after taken :=
        ih (table.save pk unused) hrest (fun q hq => hpks q (List.mem_cons_of_mem pk hq)) hlater
      obtain ⟨after, taken, hafter, hrenamed⟩ := hnext
      refine ⟨after, taken, ?_, .cons hhead hfree hfilled hfits hrenamed⟩
      rw [List.foldlM_cons]
      unfold rename
      dsimp only
      rw [hunused]
      exact hafter

/-! ### One value after another -/

theorem mem_rows {table : Credentials} {value : String} {pk : Nat} :
    pk ∈ table.rows value ↔ pk ∈ table.pks ∧ table.importSource pk = value := by
  unfold Credentials.rows
  rw [(List.perm_insertionSort _ _).mem_iff, List.mem_filter, beq_iff_eq]

theorem rows_nodup (table : Credentials) (value : String) : (table.rows value).Nodup :=
  (List.perm_insertionSort _ _).nodup_iff.mpr (table.distinct.filter _)

theorem rows_length (table : Credentials) (value : String) : (table.rows value).length ≤ table.pks.length := by
  unfold Credentials.rows
  rw [(List.perm_insertionSort _ _).length_eq]
  exact List.length_filter_le _ _

theorem mem_drop_one {numbers : List Nat} (hsorted : numbers.Pairwise (· ≤ ·)) (hnodup : numbers.Nodup) {n : Nat} :
    n ∈ numbers.drop 1 ↔ n ∈ numbers ∧ ∃ other ∈ numbers, other < n := by
  cases numbers with
  | nil => exact iff_of_false List.not_mem_nil fun h => List.not_mem_nil h.1
  | cons first rest =>
      obtain ⟨hleast, -⟩ := List.pairwise_cons.mp hsorted
      obtain ⟨hout, -⟩ := List.nodup_cons.mp hnodup
      rw [List.drop_one, List.tail_cons]
      constructor
      · intro hrest
        have hne : first ≠ n := fun hsame => hout (hsame ▸ hrest)
        exact ⟨List.mem_cons_of_mem first hrest, first, List.mem_cons_self, Nat.lt_of_le_of_ne (hleast n hrest) hne⟩
      · rintro ⟨hmem, other, hother, hless⟩
        rcases List.mem_cons.mp hmem with rfl | hrest
        · rcases List.mem_cons.mp hother with rfl | hlater
          · exact absurd hless (Nat.lt_irrefl _)
          · exact absurd (hleast other hlater) (Nat.not_le.mpr hless)
        · exact hrest

/-- The rows of a value but the oldest. -/
theorem mem_later {table : Credentials} {value : String} {pk : Nat} : pk ∈ (table.rows value).drop 1 ↔
    pk ∈ table.rows value ∧ ∃ other ∈ table.rows value, other < pk :=
  mem_drop_one (List.pairwise_insertionSort _ _) (rows_nodup table value)

/-- At most one row of a value is not among the later ones. -/
theorem eq_of_not_later {table : Credentials} {value : String} {p q : Nat} (hp : p ∈ table.rows value)
    (hq : q ∈ table.rows value) (hpFirst : p ∉ (table.rows value).drop 1) (hqFirst : q ∉ (table.rows value).drop 1) :
    p = q := by
  rcases Nat.lt_trichotomy p q with hless | hsame | hmore
  · exact absurd (mem_later.mpr ⟨hq, p, hp, hless⟩) hqFirst
  · exact hsame
  · exact absurd (mem_later.mpr ⟨hp, q, hq, hmore⟩) hpFirst

/-- What holds between two values: `pending` have still to be done. -/
structure Between (table : Credentials) (pending : List String) (now : Credentials) (occupied : List String) : Prop where
  pks : now.pks = table.pks
  noted : ∀ pk ∈ table.pks, now.importSource pk ≠ "" → now.importSource pk ∈ occupied
  awaited : ∀ value ∈ pending, value ∈ occupied ∧ value ≠ ""
  untouched : ∀ value ∈ pending, ∀ pk ∈ table.pks, now.importSource pk = value ↔ table.importSource pk = value
  single : ∀ p ∈ table.pks, ∀ q ∈ table.pks, now.importSource p ≠ "" → now.importSource p = now.importSource q →
    p = q ∨ now.importSource p ∈ pending
  fits : ∀ pk ∈ table.pks, (now.importSource pk).length ≤ 200
  kept : ∀ pk ∈ table.pks, (table.importSource pk = "" ∨
    ∀ q ∈ table.pks, table.importSource q = table.importSource pk → pk ≤ q) → now.importSource pk = table.importSource pk

/-- A value of two rows is counted twice. -/
theorem two_rows {table : Credentials} {p q : Nat} (hp : p ∈ table.pks) (hq : q ∈ table.pks) (hne : p ≠ q)
    (hfilled : table.importSource p ≠ "") (hsame : table.importSource p = table.importSource q) :
    1 < table.sources.count (table.importSource p) := by
  have hcount : table.sources.count (table.importSource p) =
      (table.pks.filter fun pk => table.importSource pk == table.importSource p).length := by
    have hkept : table.sources.count (table.importSource p) =
        (table.pks.map table.importSource).count (table.importSource p) :=
      List.count_filter (show (fun value => value != "") (table.importSource p) = true from bne_iff_ne.mpr hfilled)
    rw [hkept, List.count_eq_countP, List.countP_map, List.countP_eq_length_filter]
    rfl
  have hnodup : [p, q].Nodup := by
    rw [List.nodup_cons, List.mem_singleton]
    exact ⟨hne, List.nodup_singleton q⟩
  have hsubset : [p, q] ⊆ table.pks.filter fun pk => table.importSource pk == table.importSource p := by
    refine List.cons_subset.mpr ⟨List.mem_filter.mpr ⟨hp, beq_self_eq_true _⟩, ?_⟩
    exact List.cons_subset.mpr ⟨List.mem_filter.mpr ⟨hq, beq_iff_eq.mpr hsame.symm⟩, List.nil_subset _⟩
  rw [hcount]
  exact (List.subperm_of_subset hnodup hsubset).length_le

theorem Between.init {table : Credentials} {order : List String} (horder : order.Perm table.duplicated)
    (hfits : ∀ pk ∈ table.pks, (table.importSource pk).length ≤ 200) : Between table order table table.sources := by
  have hnoted : ∀ pk ∈ table.pks, table.importSource pk ≠ "" → table.importSource pk ∈ table.sources :=
    fun pk hpk hfilled => List.mem_filter.mpr ⟨List.mem_map_of_mem hpk, bne_iff_ne.mpr hfilled⟩
  have hduplicated : ∀ value, value ∈ order ↔ value ∈ table.sources ∧ 1 < table.sources.count value := by
    intro value
    rw [horder.mem_iff, Credentials.duplicated, List.mem_filter, List.mem_dedup, decide_eq_true_eq]
  refine ⟨rfl, hnoted, fun value hvalue => ?_, fun _ _ _ _ => Iff.rfl, ?_, hfits, fun _ _ _ => rfl⟩
  · have hsource := ((hduplicated value).mp hvalue).1
    exact ⟨hsource, bne_iff_ne.mp (List.mem_filter.mp hsource).2⟩
  · intro p hp q hq hfilled hsame
    by_cases heq : p = q
    · exact .inl heq
    · exact .inr ((hduplicated _).mpr ⟨hnoted p hp hfilled, two_rows hp hq heq hfilled hsame⟩)

theorem Between.next {table now after : Credentials} {value : String} {pending occupied taken : List String}
    (h : Between table (value :: pending) now occupied) (hnodup : (value :: pending).Nodup)
    (hrenamed : Renamed ((now.rows value).drop 1) now occupied after taken) : Between table pending after taken := by
  have hmem : ∀ pk, pk ∈ now.rows value ↔ pk ∈ table.pks ∧ table.importSource pk = value := by
    intro pk
    rw [mem_rows, h.pks]
    exact and_congr_right fun hpk => h.untouched value List.mem_cons_self pk hpk
  have hold : ∀ pk ∈ (now.rows value).drop 1, pk ∈ table.pks ∧ table.importSource pk = value :=
    fun pk hpk => (hmem pk).mp (List.mem_of_mem_drop hpk)
  have hout : ∀ other ∈ pending, other ≠ value :=
    fun other hother hsame => (List.nodup_cons.mp hnodup).1 (hsame ▸ hother)
  have hsame : ∀ pk, pk ∉ (now.rows value).drop 1 → after.importSource pk = now.importSource pk := hrenamed.others
  constructor
  · exact hrenamed.rows.trans h.pks
  · intro pk hpk hfilled
    by_cases hlater : pk ∈ (now.rows value).drop 1
    · exact hrenamed.noted pk hlater
    · rw [hsame pk hlater] at hfilled ⊢
      exact hrenamed.grows _ (h.noted pk hpk hfilled)
  · intro other hother
    obtain ⟨hnoted, hfilled⟩ := h.awaited other (List.mem_cons_of_mem value hother)
    exact ⟨hrenamed.grows other hnoted, hfilled⟩
  · intro other hother pk hpk
    by_cases hlater : pk ∈ (now.rows value).drop 1
    · refine iff_of_false (fun hafter => ?_) fun hbefore => hout other hother (hbefore.symm.trans (hold pk hlater).2)
      exact hrenamed.fresh pk hlater (hafter ▸ (h.awaited other (List.mem_cons_of_mem value hother)).1)
    · rw [hsame pk hlater]
      exact h.untouched other (List.mem_cons_of_mem value hother) pk hpk
  · intro p hp q hq hfilled hequal
    by_cases hpLater : p ∈ (now.rows value).drop 1
    · by_cases hqLater : q ∈ (now.rows value).drop 1
      · exact .inl (hrenamed.distinct p hpLater q hqLater hequal)
      · have hnoted : now.importSource q ∈ occupied := by
          rw [hequal, hsame q hqLater] at hfilled
          exact h.noted q hq hfilled
        exact absurd ((hequal.trans (hsame q hqLater)) ▸ hnoted) (hrenamed.fresh p hpLater)
    · rw [hsame p hpLater] at hfilled hequal ⊢
      by_cases hqLater : q ∈ (now.rows value).drop 1
      · exact absurd (hequal ▸ h.noted p hp hfilled) (hrenamed.fresh q hqLater)
      · rw [hsame q hqLater] at hequal
        rcases h.single p hp q hq hfilled hequal with heq | hpending
        · exact .inl heq
        · rcases List.mem_cons.mp hpending with hvalue | hrest
          · have hpRow : p ∈ now.rows value := mem_rows.mpr ⟨h.pks ▸ hp, hvalue⟩
            have hqRow : q ∈ now.rows value := mem_rows.mpr ⟨h.pks ▸ hq, hequal.symm.trans hvalue⟩
            exact .inl (eq_of_not_later hpRow hqRow hpLater hqLater)
          · exact .inr hrest
  · intro pk hpk
    by_cases hlater : pk ∈ (now.rows value).drop 1
    · exact hrenamed.fits pk hlater
    · rw [hsame pk hlater]
      exact h.fits pk hpk
  · intro pk hpk hfirst
    have hnot : pk ∉ (now.rows value).drop 1 := by
      intro hlater
      obtain ⟨-, other, hother, hless⟩ := mem_later.mp hlater
      obtain ⟨hotherPk, hotherValue⟩ := (hmem other).mp hother
      have hvalue := (hold pk hlater).2
      rcases hfirst with hblank | hleast
      · exact (h.awaited value List.mem_cons_self).2 (hvalue.symm.trans hblank)
      · exact absurd (hleast other hotherPk (hotherValue.trans hvalue.symm)) (Nat.not_le.mpr hless)
    exact (hsame pk hnot).trans (h.kept pk hpk hfirst)

/-- All the values, one after another. -/
theorem disambiguates {table now : Credentials} {pending occupied : List String}
    (h : Between table pending now occupied) (hnodup : pending.Nodup)
    (hlength : occupied.length + pending.length * table.pks.length < 10 ^ 100) :
    ∃ after taken, pending.foldlM disambiguate (now, occupied) = some (after, taken) ∧ Between table [] after taken := by
  induction pending generalizing now occupied with
  | nil => exact ⟨now, occupied, rfl, h⟩
  | cons value pending ih =>
      have hpks : ∀ pk ∈ (now.rows value).drop 1, pk < 2 ^ 63 :=
        fun pk hpk => now.bounded pk (mem_rows.mp (List.mem_of_mem_drop hpk)).1
      have hrows : ((now.rows value).drop 1).length ≤ table.pks.length :=
        Nat.le_trans (List.drop_sublist 1 _).length_le (h.pks ▸ rows_length now value)
      rw [List.length_cons, Nat.add_mul, Nat.one_mul] at hlength
      obtain ⟨middle, taken, hmiddle, hrenamed⟩ := renames value now (rows_nodup now value).drop hpks
        (show occupied.length + ((now.rows value).drop 1).length < 10 ^ 100 by omega)
      have htaken := hrenamed.length
      obtain ⟨after, final, hafter, hbetween⟩ := ih (h.next hnodup hrenamed) (List.nodup_cons.mp hnodup).2
        (show taken.length + pending.length * table.pks.length < 10 ^ 100 by omega)
      refine ⟨after, final, ?_, hbetween⟩
      rw [List.foldlM_cons]
      unfold disambiguate
      dsimp only
      rw [hmiddle]
      exact hafter

/-- The step ends, whichever order the database gives the duplicated values in. After it every marker that is not blank is
held by one row and fits its column, the oldest row of each value has kept it, and so has every row that was blank or
alone. -/
theorem import_sources_disambiguated (table : Credentials) (order : List String)
    (horder : order.Perm table.duplicated) (hfits : ∀ pk ∈ table.pks, (table.importSource pk).length ≤ 200) :
    ∃ after, disambiguateDuplicateImportSources order table = some after ∧ after.pks = table.pks ∧
      (∀ p ∈ table.pks, ∀ q ∈ table.pks, after.importSource p ≠ "" → after.importSource p = after.importSource q →
        p = q) ∧
      (∀ pk ∈ table.pks, (after.importSource pk).length ≤ 200) ∧
      ∀ pk ∈ table.pks, (table.importSource pk = "" ∨
        ∀ q ∈ table.pks, table.importSource q = table.importSource pk → pk ≤ q) →
        after.importSource pk = table.importSource pk := by
  have hnodup : order.Nodup := horder.nodup_iff.mpr ((List.nodup_dedup _).filter _)
  have hrows : table.pks.length ≤ 2 ^ 63 := by
    have hsubset : table.pks ⊆ List.range (2 ^ 63) := fun pk hpk => List.mem_range.mpr (table.bounded pk hpk)
    have hle := (List.subperm_of_subset table.distinct hsubset).length_le
    rwa [List.length_range] at hle
  have hsources : table.sources.length ≤ table.pks.length :=
    Nat.le_trans (List.length_filter_le _ _) (Nat.le_of_eq (List.length_map _))
  have hvalues : order.length ≤ table.pks.length := by
    rw [horder.length_eq]
    exact Nat.le_trans (List.length_filter_le _ _) (Nat.le_trans (List.dedup_sublist _).length_le hsources)
  have hproduct : order.length * table.pks.length ≤ 2 ^ 63 * 2 ^ 63 :=
    Nat.mul_le_mul (Nat.le_trans hvalues hrows) hrows
  obtain ⟨after, taken, hafter, hbetween⟩ := disambiguates (.init horder hfits) hnodup
    (show table.sources.length + order.length * table.pks.length < 10 ^ 100 by omega)
  refine ⟨after, ?_, hbetween.pks, fun p hp q hq hfilled hsame => ?_, hbetween.fits, hbetween.kept⟩
  · unfold disambiguateDuplicateImportSources
    rw [hafter]
    rfl
  · exact (hbetween.single p hp q hq hfilled hsame).resolve_right List.not_mem_nil

namespace Sample

/-- Two copies of a marker, a row that already looks renamed, and one that nobody imported. -/
def copies : Credentials where
  pks := [1, 2, 3, 4]
  importSource pk := if pk = 4 then "" else if pk = 3 then "nms.Device:1#duplicate-2" else "nms.Device:1"
  distinct := by decide
  bounded := by decide

end Sample

theorem copies_disambiguated : ["nms.Device:1"].Perm Sample.copies.duplicated ∧
    (∀ pk ∈ Sample.copies.pks, (Sample.copies.importSource pk).length ≤ 200) ∧
    ∃ after, disambiguateDuplicateImportSources ["nms.Device:1"] Sample.copies = some after ∧
      after.importSource 1 = "nms.Device:1" := by
  have horder : ["nms.Device:1"].Perm Sample.copies.duplicated := by decide +kernel
  have hfits : ∀ pk ∈ Sample.copies.pks, (Sample.copies.importSource pk).length ≤ 200 := by decide +kernel
  obtain ⟨after, hafter, -, -, -, hkept⟩ := import_sources_disambiguated Sample.copies ["nms.Device:1"] horder hfits
  refine ⟨horder, hfits, after, hafter, ?_⟩
  exact hkept 1 (by decide) (.inr (by decide +kernel))

end NetboxOpenbao.Migration
