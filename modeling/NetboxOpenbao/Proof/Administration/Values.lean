import NetboxOpenbao.Administration.Values
import NetboxOpenbao.Effect.Fallible

/-!
# When a value can be encoded

A value without objects of other types is written by `json.dumps` unless it holds an integer with too many digits, and
what is written can be encoded unless one of its strings or keys holds a surrogate. The text is never shorter than the
strings and keys in it.
-/

namespace NetboxOpenbao

open Effect

namespace Python

/-! ### Texts -/

theorem codePoint_val (c : Char) : (codePoint c).val = c.toNat := by
  have hvalid : c.toNat < 0xd800 ∨ 0xdfff < c.toNat ∧ c.toNat < 0x110000 := c.valid
  have hsmall : c.toNat < 0x110000 := by omega
  exact Nat.mod_eq_of_lt hsmall

theorem codePoint_not_surrogate (c : Char) : surrogate (codePoint c) = false := by
  have hvalid : c.toNat < 0xd800 ∨ 0xdfff < c.toNat ∧ c.toNat < 0x110000 := c.valid
  unfold surrogate
  rw [codePoint_val]
  simp only [Bool.and_eq_false_iff, decide_eq_false_iff_not]
  omega

theorem map_codePoint_clear (cs : List Char) : (cs.map codePoint).any surrogate = false := by
  rw [List.any_map, List.any_eq_false]
  exact fun c _ => Bool.eq_false_iff.mp (codePoint_not_surrogate c)

theorem utf8Size_pos (c : CodePoint) : 1 ≤ utf8Size c := by
  unfold utf8Size
  split
  · exact Nat.le_refl 1
  · split
    · decide
    · split
      · decide
      · decide

@[simp] theorem textBytes_cons (c : CodePoint) (s : Text) : textBytes (c :: s) = utf8Size c + textBytes s := by
  unfold textBytes
  rw [List.map_cons, List.sum_cons]

@[simp] theorem textBytes_append (s t : Text) : textBytes (s ++ t) = textBytes s + textBytes t := by
  unfold textBytes
  rw [List.map_append, List.sum_append]

/-- What stands for a code point holds a surrogate if it is one, and has as many bytes at least. -/
theorem escaped_facts (c : CodePoint) :
    (escaped c).any surrogate = surrogate c ∧ utf8Size c ≤ textBytes (escaped c) := by
  unfold escaped
  split
  · next letter hshort =>
      have hlow : c.val < 0x80 := by
        unfold shortEscape at hshort
        obtain ⟨escape, hfound, -⟩ := Option.map_eq_some_iff.mp hshort
        have hmem := List.mem_of_find?_eq_some hfound
        have hsome := List.find?_some hfound
        have hval : escape.1.toNat = c.val := beq_iff_eq.mp hsome
        have hall : ∀ escape ∈ shortEscapes, escape.1.toNat < 0x80 := by decide
        rw [← hval]
        exact hall escape hmem
      constructor
      · have hclear : surrogate c = false := by
          unfold surrogate
          simp only [Bool.and_eq_false_iff, decide_eq_false_iff_not]
          omega
        rw [hclear]
        exact map_codePoint_clear ['\\', letter]
      · have hone : utf8Size c = 1 := by
          unfold utf8Size
          rw [if_pos hlow]
        rw [hone, textBytes_cons]
        exact le_trans (utf8Size_pos _) (Nat.le_add_right _ _)
  · split
    · next hcontrol =>
        constructor
        · have hclear : surrogate c = false := by
            unfold surrogate
            simp only [Bool.and_eq_false_iff, decide_eq_false_iff_not]
            omega
          rw [hclear, List.any_append, map_codePoint_clear, Bool.or_false]
          exact map_codePoint_clear _
        · have hone : utf8Size c = 1 := by
            unfold utf8Size
            rw [if_pos (by omega)]
          have hfirst : ascii "\\u" = codePoint '\\' :: [codePoint 'u'] := rfl
          rw [hone, textBytes_append, hfirst, textBytes_cons]
          have hpos := utf8Size_pos (codePoint '\\')
          omega
    · constructor
      · rw [List.any_cons, List.any_nil, Bool.or_false]
      · rw [textBytes_cons]
        exact Nat.le_add_right _ _

theorem quoted_facts (s : Text) : (quoted s).any surrogate = s.any surrogate ∧ textBytes s ≤ textBytes (quoted s) := by
  have hbody : (s.flatMap escaped).any surrogate = s.any surrogate ∧ textBytes s ≤ textBytes (s.flatMap escaped) := by
    induction s with
    | nil => exact ⟨rfl, Nat.le_refl _⟩
    | cons c s ih =>
        obtain ⟨hany, hbytes⟩ := escaped_facts c
        rw [List.flatMap_cons, List.any_append, List.any_cons, hany, ih.1, textBytes_append, textBytes_cons]
        exact ⟨rfl, Nat.add_le_add hbytes ih.2⟩
  unfold quoted
  rw [List.any_cons, List.any_append, hbody.1, List.any_cons, codePoint_not_surrogate, textBytes_cons, textBytes_append]
  refine ⟨by simp, ?_⟩
  have hle := hbody.2
  omega

theorem joined_facts (parts : List Text) : (joined parts).any surrogate = parts.any (fun part => part.any surrogate) ∧
    (parts.map textBytes).sum ≤ textBytes (joined parts) := by
  induction parts with
  | nil => exact ⟨rfl, Nat.le_refl _⟩
  | cons part rest ih =>
      cases rest with
      | nil =>
          rw [joined, List.any_cons, List.any_nil, Bool.or_false]
          exact ⟨rfl, Nat.le_refl _⟩
      | cons next rest =>
          have hjoined : joined (part :: next :: rest) = part ++ codePoint ',' :: joined (next :: rest) := rfl
          rw [hjoined, List.any_append, List.any_cons, codePoint_not_surrogate, Bool.false_or, ih.1, List.any_cons,
            List.map_cons, List.sum_cons, textBytes_append, textBytes_cons]
          refine ⟨rfl, ?_⟩
          have hle := ih.2
          omega

/-! ### Trees of values -/

mutual

/-- The sum of `weight` over the nodes of a tree. -/
def Value.sum (weight : Value → Nat) (value : Value) : Nat :=
  weight value + match value with
    | .list items => itemsSum weight items
    | .dict entries => entriesSum weight entries
    | .null | .bool _ | .int _ | .float _ | .str _ | .tuple _ | .other => 0

def itemsSum (weight : Value → Nat) : List Value → Nat
  | [] => 0
  | item :: rest => item.sum weight + itemsSum weight rest

def entriesSum (weight : Value → Nat) : List (Key × Value) → Nat
  | [] => 0
  | (_, value) :: rest => value.sum weight + entriesSum weight rest

end

theorem itemsSum_eq (weight : Value → Nat) (items : List Value) :
    itemsSum weight items = (items.map (Value.sum weight)).sum := by
  induction items with
  | nil => rfl
  | cons item rest ih => rw [itemsSum, List.map_cons, List.sum_cons, ih]

theorem entriesSum_eq (weight : Value → Nat) (entries : List (Key × Value)) :
    entriesSum weight entries = ((entries.map Prod.snd).map (Value.sum weight)).sum := by
  induction entries with
  | nil => rfl
  | cons entry rest ih => rw [entriesSum, List.map_cons, List.map_cons, List.sum_cons, ih]

theorem sum_totals (weight : Value → Nat) : rose.Totals weight (Value.sum weight) := by
  intro value
  cases value with
  | list items =>
      rw [Value.sum]
      exact congrArg (weight (.list items) + ·) (itemsSum_eq weight items)
  | dict entries =>
      rw [Value.sum]
      exact congrArg (weight (.dict entries) + ·) (entriesSum_eq weight entries)
  | null | bool b | int n | float x | str s | tuple items | other =>
      rw [Value.sum]
      rfl

/-! ### What a node has to be -/

/-- A node of a JSON type: a dict has strings for keys, a float is finite. -/
def Plain (value : Value) : Prop :=
  match value with
  | .float x => x.isFinite = true
  | .dict entries => ∀ entry ∈ entries, ∃ key, entry.1 = .str key
  | .tuple _ | .other => False
  | .null | .bool _ | .int _ | .str _ | .list _ => True

/-- The digits of an integer are no more than are written. -/
def Short (value : Value) : Prop :=
  match value with
  | .int n => (Nat.toDigits 10 n.natAbs).length ≤ maxStrDigits
  | _ => True

/-- The text of a key. -/
def Key.text : Key → Text
  | .str text => text
  | .other _ => []

/-- The strings of a node: itself, or its keys. -/
def Value.texts : Value → List Text
  | .str s => [s]
  | .dict entries => entries.map fun entry => entry.1.text
  | .null | .bool _ | .int _ | .float _ | .list _ | .tuple _ | .other => []

/-- No string of the node holds a surrogate. -/
def Clear (value : Value) : Prop := ∀ text ∈ value.texts, text.any surrogate = false

/-- The bytes of the strings of a node. -/
def Value.textSize (value : Value) : Nat := (value.texts.map textBytes).sum

/-! ### Dumps -/

/-- What a dict or a list holds, each with what is written before it. -/
def Value.members : Value → List (Text × Value)
  | .list items => items.map fun item => ([], item)
  | .dict entries => entries.map fun entry => (quoted entry.1.text ++ [codePoint ':'], entry.2)
  | .null | .bool _ | .int _ | .float _ | .str _ | .tuple _ | .other => []

theorem members_children (value : Value) : value.members.map Prod.snd = value.children := by
  cases value with
  | list items =>
      show (items.map fun item => (([] : Text), item)).map Prod.snd = items
      rw [List.map_map]
      exact List.map_id items
  | dict entries =>
      show (entries.map fun entry => (quoted entry.1.text ++ [codePoint ':'], entry.2)).map Prod.snd = _
      rw [List.map_map]
      rfl
  | null | bool b | int n | float x | str s | tuple items | other => rfl

/-- A member as it is written. -/
def memberDump (entry : Text × Value) : Except Error Text := do
  return entry.1 ++ (← entry.2.dumps)

theorem dumpsItems_eq (items : List Value) : dumpsItems items = (Value.list items).members.mapM memberDump := by
  induction items with
  | nil => rfl
  | cons item rest ih =>
      show dumpsItems (item :: rest) = (([], item) :: (Value.list rest).members).mapM memberDump
      rw [List.mapM_cons, ← ih, dumpsItems]
      unfold memberDump
      cases item.dumps with
      | error error => rfl
      | ok part => rfl

theorem dumpsEntries_eq {entries : List (Key × Value)} (hplain : Plain (.dict entries)) :
    dumpsEntries entries = (Value.dict entries).members.mapM memberDump := by
  induction entries with
  | nil => rfl
  | cons entry rest ih =>
      obtain ⟨⟨key, hkey⟩, hrest⟩ := List.forall_mem_cons.mp hplain
      obtain ⟨name, value⟩ := entry
      obtain rfl : name = .str key := hkey
      show dumpsEntries ((.str key, value) :: rest) =
        ((quoted key ++ [codePoint ':'], value) :: (Value.dict rest).members).mapM memberDump
      rw [List.mapM_cons, ← ih hrest, dumpsEntries]
      unfold memberDump dumpedKey
      cases value.dumps with
      | error error => rfl
      | ok part =>
          show (dumpsEntries rest >>= fun others => pure ((quoted key ++ codePoint ':' :: part) :: others)) =
            dumpsEntries rest >>= fun others => pure (((quoted key ++ [codePoint ':']) ++ part) :: others)
          rw [List.append_assoc]
          rfl

/-- A dict or a list is written member by member, between two brackets. -/
theorem container_dumps {value : Value} (hplain : Plain value)
    (hcontainer : (∃ items, value = .list items) ∨ ∃ entries, value = .dict entries) :
    ∃ opening closing : Char, value.dumps = (value.members.mapM memberDump >>= fun parts =>
      pure (codePoint opening :: (joined parts ++ [codePoint closing]))) := by
  rcases hcontainer with ⟨items, rfl⟩ | ⟨entries, rfl⟩
  · refine ⟨'[', ']', ?_⟩
    rw [← dumpsItems_eq, Value.dumps]
  · refine ⟨'{', '}', ?_⟩
    rw [← dumpsEntries_eq hplain, Value.dumps]

/-- What the members of a node are written as, by what each of them is. -/
theorem parts_facts {members : List (Text × Value)} {parts : List Text} {C : Value → Prop} {S : Value → Nat}
    (hparts : List.Forall₂ (fun entry part => memberDump entry = .ok part) members parts)
    (hmembers : ∀ entry ∈ members, ∀ text, entry.2.dumps = .ok text →
      (text.any surrogate = false ↔ C entry.2) ∧ S entry.2 ≤ textBytes text) :
    ((parts.any fun part => part.any surrogate) = false ↔
        ∀ entry ∈ members, entry.1.any surrogate = false ∧ C entry.2) ∧
      (members.map fun entry => textBytes entry.1 + S entry.2).sum ≤ (parts.map textBytes).sum := by
  induction hparts with
  | nil => exact ⟨iff_of_true rfl fun _ hmem => absurd hmem List.not_mem_nil, Nat.le_refl _⟩
  | cons hpart _ ih =>
      obtain ⟨hfirst, hrest⟩ := List.forall_mem_cons.mp hmembers
      obtain ⟨text, htext, hwritten⟩ := Fallible.bind_ok hpart
      obtain rfl := Except.ok.inj hwritten
      obtain ⟨hclear, hbytes⟩ := hfirst text htext
      obtain ⟨hothers, hsum⟩ := ih hrest
      rw [List.any_cons, Bool.or_eq_false_iff, hothers, List.forall_mem_cons, List.any_append, Bool.or_eq_false_iff,
        hclear, List.map_cons, List.sum_cons, List.map_cons, List.sum_cons, textBytes_append]
      exact ⟨Iff.rfl, by omega⟩

/-- The strings of a container are clear when what stands before its members is, and have no more bytes. -/
theorem members_texts {value : Value} (hcontainer : (∃ items, value = .list items) ∨ ∃ entries, value = .dict entries) :
    (Clear value ↔ ∀ entry ∈ value.members, entry.1.any surrogate = false) ∧
      value.textSize ≤ (value.members.map fun entry => textBytes entry.1).sum := by
  rcases hcontainer with ⟨items, rfl⟩ | ⟨entries, rfl⟩
  · refine ⟨iff_of_true (fun _ hmem => absurd hmem List.not_mem_nil) ?_, Nat.zero_le _⟩
    intro entry hentry
    obtain ⟨item, -, rfl⟩ := List.mem_map.mp hentry
    rfl
  · constructor
    · show (∀ text ∈ entries.map fun entry => entry.1.text, text.any surrogate = false) ↔
        ∀ member ∈ entries.map fun entry => (quoted entry.1.text ++ [codePoint ':'], entry.2),
          member.1.any surrogate = false
      rw [List.forall_mem_map, List.forall_mem_map]
      refine forall_congr' fun entry => imp_congr_right fun _ => ?_
      rw [List.any_append, (quoted_facts entry.1.text).1, List.any_cons, codePoint_not_surrogate]
      simp
    · show ((entries.map fun entry => entry.1.text).map textBytes).sum ≤
        ((entries.map fun entry => (quoted entry.1.text ++ [codePoint ':'], entry.2)).map
          fun member => textBytes member.1).sum
      rw [List.map_map, List.map_map]
      refine List.sum_le_sum fun entry _ => ?_
      show textBytes entry.1.text ≤ textBytes (quoted entry.1.text ++ [codePoint ':'])
      rw [textBytes_append]
      exact le_trans (quoted_facts entry.1.text).2 (Nat.le_add_right _ _)

/-- What is written of a value, and whether it is. -/
structure Written (value : Value) (depth : Nat) : Prop where
  written : (∃ text, value.dumps = .ok text) ↔ rose.All (fun node _ => Short node) value depth
  encodable : ∀ text, value.dumps = .ok text →
    (text.any surrogate = false ↔ rose.All (fun node _ => Clear node) value depth) ∧
      value.sum Value.textSize ≤ textBytes text

/-- A node without members. -/
theorem written_leaf {value : Value} {depth : Nat} (hleaf : value.children = [])
    (hwritten : (∃ text, value.dumps = .ok text) ↔ Short value)
    (htext : ∀ text, value.dumps = .ok text →
      (text.any surrogate = false ↔ Clear value) ∧ value.textSize ≤ textBytes text) : Written value depth := by
  have hall : ∀ P : Value → Prop, rose.All (fun node _ => P node) value depth ↔ P value := by
    intro P
    rw [rose.all_iff]
    refine and_iff_left fun c hc => ?_
    rw [show rose.children value = [] from hleaf] at hc
    exact absurd hc List.not_mem_nil
  have hsum : value.sum Value.textSize = value.textSize := by
    rw [sum_totals Value.textSize value, show rose.children value = [] from hleaf]
    rfl
  refine ⟨hwritten.trans (hall Short).symm, fun text hdumps => ?_⟩
  rw [hall Clear, hsum]
  exact htext text hdumps

/-- A text of plain characters, for a node without strings. -/
theorem written_plain {value : Value} {depth : Nat} (cs : List Char) (hleaf : value.children = [])
    (htexts : value.texts = []) (hshort : Short value) (hdumps : value.dumps = .ok (cs.map codePoint)) :
    Written value depth := by
  refine written_leaf hleaf (iff_of_true ⟨_, hdumps⟩ hshort) fun text htext => ?_
  obtain rfl := Except.ok.inj (hdumps.symm.trans htext)
  refine ⟨iff_of_true (map_codePoint_clear cs) ?_, ?_⟩
  · unfold Clear
    rw [htexts]
    exact fun _ hmem => absurd hmem List.not_mem_nil
  · unfold Value.textSize
    rw [htexts]
    exact Nat.zero_le _

theorem written_container {value : Value} {depth : Nat} (hplain : Plain value)
    (hcontainer : (∃ items, value = .list items) ∨ ∃ entries, value = .dict entries)
    (ih : ∀ c ∈ value.children, Written c (depth + 1)) : Written value depth := by
  obtain ⟨opening, closing, hdumps⟩ := container_dumps hplain hcontainer
  have hchildren : ∀ Q : Value → Prop, (∀ entry ∈ value.members, Q entry.2) ↔ ∀ c ∈ value.children, Q c := by
    intro Q
    rw [← members_children, List.forall_mem_map]
  have hshort : Short value := by
    rcases hcontainer with ⟨items, rfl⟩ | ⟨entries, rfl⟩
    · trivial
    · trivial
  obtain ⟨htexts, hsize⟩ := members_texts hcontainer
  constructor
  · have hparts : (∃ text, value.dumps = .ok text) ↔ ∃ parts, value.members.mapM memberDump = .ok parts := by
      rw [hdumps]
      constructor
      · rintro ⟨text, htext⟩
        obtain ⟨parts, hparts, -⟩ := Fallible.bind_ok htext
        exact ⟨parts, hparts⟩
      · rintro ⟨parts, hparts⟩
        rw [hparts]
        exact ⟨_, rfl⟩
    have hmember : ∀ entry : Text × Value, (∃ part, memberDump entry = .ok part) ↔ ∃ text, entry.2.dumps = .ok text := by
      intro entry
      constructor
      · rintro ⟨part, hpart⟩
        obtain ⟨text, htext, -⟩ := Fallible.bind_ok hpart
        exact ⟨text, htext⟩
      · rintro ⟨text, htext⟩
        unfold memberDump
        rw [htext]
        exact ⟨_, rfl⟩
    rw [hparts, Fallible.mapM_ok_exists, rose.all_iff, and_iff_right hshort]
    simp only [hmember]
    rw [hchildren fun c => ∃ text, c.dumps = .ok text]
    exact forall_congr' fun c => imp_congr_right fun hc => (ih c hc).written
  · intro text htext
    rw [hdumps] at htext
    obtain ⟨parts, hparts, hwritten⟩ := Fallible.bind_ok htext
    obtain rfl := Except.ok.inj hwritten
    obtain ⟨hclear, hsum⟩ := parts_facts (C := fun c => rose.All (fun node _ => Clear node) c (depth + 1))
      (S := Value.sum Value.textSize) (Fallible.mapM_forall₂ hparts) ((hchildren fun c => ∀ text, c.dumps = .ok text →
        (text.any surrogate = false ↔ rose.All (fun node _ => Clear node) c (depth + 1)) ∧
          c.sum Value.textSize ≤ textBytes text).mpr fun c hc => (ih c hc).encodable)
    obtain ⟨hany, hbytes⟩ := joined_facts parts
    constructor
    · rw [List.any_cons, codePoint_not_surrogate, List.any_append, List.any_cons, codePoint_not_surrogate, hany,
        rose.all_iff, htexts]
      simp only [List.any_nil, Bool.or_false, Bool.false_or]
      rw [hclear]
      show (∀ entry ∈ value.members, entry.1.any surrogate = false ∧ _) ↔ _ ∧ ∀ c ∈ value.children, _
      rw [← hchildren fun c => rose.All (fun node _ => Clear node) c (depth + 1)]
      exact ⟨fun h => ⟨fun entry hentry => (h entry hentry).1, fun entry hentry => (h entry hentry).2⟩,
        fun h entry hentry => ⟨h.1 entry hentry, h.2 entry hentry⟩⟩
    · have htotal : value.sum Value.textSize = value.textSize +
          (value.members.map fun entry => entry.2.sum Value.textSize).sum := by
        rw [sum_totals Value.textSize value]
        show _ + ((value.children).map _).sum = _
        rw [← members_children, List.map_map]
        rfl
      have hsplit : (value.members.map fun entry => textBytes entry.1 + entry.2.sum Value.textSize).sum =
          (value.members.map fun entry => textBytes entry.1).sum +
            (value.members.map fun entry => entry.2.sum Value.textSize).sum := List.sum_map_add
      rw [textBytes_cons, textBytes_append, htotal]
      omega

/-- What is written of a value without objects of other types. -/
theorem written (value : Value) : ∀ depth, rose.All (fun node _ => Plain node) value depth → Written value depth := by
  induction value using rose.induct with
  | node value ih =>
      intro depth hall
      obtain ⟨hplain, hbelow⟩ := rose.all_iff.mp hall
      have hchildren : ∀ c ∈ value.children, Written c (depth + 1) := fun c hc => ih c hc (depth + 1) (hbelow c hc)
      cases value with
      | null => exact written_plain "null".toList rfl rfl trivial rfl
      | bool b =>
          cases b with
          | true => exact written_plain "true".toList rfl rfl trivial rfl
          | false => exact written_plain "false".toList rfl rfl trivial rfl
      | int n =>
          by_cases hshort : Short (.int n)
          · refine written_plain (dumpedInt n) rfl rfl hshort ?_
            show dumpedNumber n = _
            unfold dumpedNumber
            rw [if_neg (Nat.not_lt.mpr hshort)]
          · have hlong : (Value.int n).dumps = raised "ValueError" := by
              show dumpedNumber n = _
              unfold dumpedNumber
              rw [if_pos (Nat.not_le.mp hshort)]
            refine written_leaf rfl (iff_of_false ?_ hshort) ?_
            · rintro ⟨text, htext⟩
              rw [hlong] at htext
              cases htext
            · intro text htext
              rw [hlong] at htext
              cases htext
      | float x =>
          refine written_plain x.repr.toList rfl rfl trivial ?_
          have hfinite : x.isFinite = true := hplain
          show (if x.isFinite then Except.ok (ascii x.repr) else raised "ValueError") = _
          rw [if_pos hfinite]
          rfl
      | str s =>
          refine written_leaf rfl (iff_of_true ⟨quoted s, rfl⟩ trivial) fun text htext => ?_
          obtain rfl : quoted s = text := Except.ok.inj htext
          obtain ⟨hany, hbytes⟩ := quoted_facts s
          refine ⟨?_, ?_⟩
          · rw [hany]
            exact (List.forall_mem_singleton (p := fun text : Text => text.any surrogate = false)).symm
          · show textBytes s + 0 ≤ _
            exact hbytes
      | list items => exact written_container hplain (.inl ⟨items, rfl⟩) hchildren
      | dict entries => exact written_container hplain (.inr ⟨entries, rfl⟩) hchildren
      | tuple items => exact hplain.elim
      | other => exact hplain.elim

theorem dumpsItems_clear {items : List Value} {parts : List Text} (h : dumpsItems items = .ok parts)
    (hclear : (parts.any fun part => part.any surrogate) = false) :
    ∀ item ∈ items, ∃ text, item.dumps = .ok text ∧ text.any surrogate = false := by
  induction items generalizing parts with
  | nil => exact fun _ hmem => absurd hmem List.not_mem_nil
  | cons item rest ih =>
      unfold dumpsItems at h
      obtain ⟨part, hpart, h₁⟩ := Fallible.bind_ok h
      obtain ⟨others, hothers, h₂⟩ := Fallible.bind_ok h₁
      obtain rfl := Except.ok.inj h₂
      rw [List.any_cons, Bool.or_eq_false_iff] at hclear
      exact List.forall_mem_cons.mpr ⟨⟨part, hpart, hclear.1⟩, ih hothers hclear.2⟩

theorem dumpsEntries_clear {entries : List (Key × Value)} {parts : List Text} (h : dumpsEntries entries = .ok parts)
    (hclear : (parts.any fun part => part.any surrogate) = false) :
    ∀ entry ∈ entries, entry.1.text.any surrogate = false ∧
      ∃ text, entry.2.dumps = .ok text ∧ text.any surrogate = false := by
  induction entries generalizing parts with
  | nil => exact fun _ hmem => absurd hmem List.not_mem_nil
  | cons entry rest ih =>
      obtain ⟨key, value⟩ := entry
      unfold dumpsEntries at h
      obtain ⟨name, hname, h₁⟩ := Fallible.bind_ok h
      obtain ⟨part, hpart, h₂⟩ := Fallible.bind_ok h₁
      obtain ⟨others, hothers, h₃⟩ := Fallible.bind_ok h₂
      obtain rfl := Except.ok.inj h₃
      rw [List.any_cons, Bool.or_eq_false_iff, List.any_append, Bool.or_eq_false_iff, List.any_cons,
        Bool.or_eq_false_iff] at hclear
      obtain ⟨⟨hquoted, -, hwritten⟩, hrest⟩ := hclear
      refine List.forall_mem_cons.mpr ⟨⟨?_, part, hpart, hwritten⟩, ih hothers hrest⟩
      cases key with
      | other written => rfl
      | str text =>
          obtain rfl := Except.ok.inj hname
          rw [(quoted_facts text).1] at hquoted
          exact hquoted

/-- A value of any type whose text can be encoded has clear nodes. -/
theorem clear_of_dumps (value : Value) : ∀ depth text, value.dumps = .ok text → text.any surrogate = false →
    rose.All (fun node _ => Clear node) value depth := by
  induction value using rose.induct with
  | node value ih =>
      intro depth text h hclear
      have hleaf : value.children = [] → value.texts = [] → rose.All (fun node _ => Clear node) value depth := by
        intro hchildren htexts
        refine .node (fun text htext => ?_) fun c hc => ?_
        · rw [htexts] at htext
          exact absurd htext List.not_mem_nil
        · have hc' : c ∈ value.children := hc
          rw [hchildren] at hc'
          exact absurd hc' List.not_mem_nil
      cases value with
      | list items =>
          unfold Value.dumps at h
          obtain ⟨parts, hparts, h₁⟩ := Fallible.bind_ok h
          obtain rfl := Except.ok.inj h₁
          rw [List.any_cons, Bool.or_eq_false_iff, List.any_append, Bool.or_eq_false_iff, (joined_facts parts).1] at hclear
          refine .node (fun _ hmem => absurd hmem List.not_mem_nil) fun c hc => ?_
          obtain ⟨part, hpart, hpartClear⟩ := dumpsItems_clear hparts hclear.2.1 c hc
          exact ih c hc (depth + 1) part hpart hpartClear
      | dict entries =>
          unfold Value.dumps at h
          obtain ⟨parts, hparts, h₁⟩ := Fallible.bind_ok h
          obtain rfl := Except.ok.inj h₁
          rw [List.any_cons, Bool.or_eq_false_iff, List.any_append, Bool.or_eq_false_iff, (joined_facts parts).1] at hclear
          have hentries := dumpsEntries_clear hparts hclear.2.1
          refine .node ?_ fun c hc => ?_
          · exact List.forall_mem_map.mpr fun entry hentry => (hentries entry hentry).1
          · obtain ⟨entry, hentry, rfl⟩ := List.mem_map.mp hc
            obtain ⟨-, part, hpart, hpartClear⟩ := hentries entry hentry
            exact ih entry.2 hc (depth + 1) part hpart hpartClear
      | str s =>
          obtain rfl : quoted s = text := Except.ok.inj h
          rw [(quoted_facts s).1] at hclear
          exact .node (List.forall_mem_singleton.mpr hclear) fun c hc => absurd hc List.not_mem_nil
      | null => exact hleaf rfl rfl
      | bool b => exact hleaf rfl rfl
      | int n => exact hleaf rfl rfl
      | float x => exact hleaf rfl rfl
      | tuple items => exact hleaf rfl rfl
      | other => exact hleaf rfl rfl

/-- What the encoder raises. -/
theorem dumps_error (value : Value) : ∀ depth error, rose.All (fun node _ => Plain node) value depth →
    value.dumps = .error error → ∃ what, error = .raised what := by
  induction value using rose.induct with
  | node value ih =>
      intro depth error hall h
      obtain ⟨hplain, hbelow⟩ := rose.all_iff.mp hall
      have hcontainer : (∃ items, value = .list items) ∨ (∃ entries, value = .dict entries) →
          ∃ what, error = .raised what := by
        intro hshape
        obtain ⟨opening, closing, hdumps⟩ := container_dumps hplain hshape
        rw [hdumps] at h
        rcases Fallible.bind_error h with hparts | ⟨_, -, hrest⟩
        · obtain ⟨entry, hentry, hfailed⟩ := Fallible.mapM_error hparts
          have hchild : entry.2 ∈ rose.children value := by
            show entry.2 ∈ value.children
            rw [← members_children]
            exact List.mem_map_of_mem hentry
          rcases Fallible.bind_error hfailed with hdump | ⟨_, -, hrest⟩
          · exact ih entry.2 hchild (depth + 1) error (hbelow entry.2 hchild) hdump
          · cases hrest
        · cases hrest
      cases value with
      | int n =>
          have hnumber : dumpedNumber n = .error error := h
          unfold dumpedNumber at hnumber
          split at hnumber
          · exact ⟨_, (Except.error.inj hnumber).symm⟩
          · cases hnumber
      | bool b => cases b <;> cases h
      | float x =>
          have hfinite : x.isFinite = true := hplain
          have hnumber : (if x.isFinite then Except.ok (ascii x.repr) else raised "ValueError") = .error error := h
          rw [if_pos hfinite] at hnumber
          cases hnumber
      | list items => exact hcontainer (.inl ⟨items, rfl⟩)
      | dict entries => exact hcontainer (.inr ⟨entries, rfl⟩)
      | tuple items => exact hplain.elim
      | other => exact hplain.elim
      | null | str s => cases h

/-- A node that can be written and encoded. -/
def Encodable (value : Value) : Prop := Short value ∧ Clear value

/-- A value has an encoded size exactly when each of its nodes can be encoded, and its strings fit into it. -/
theorem encodedSize_facts {value : Value} (hall : rose.All (fun node _ => Plain node) value 0) :
    ((∃ size, value.encodedSize = .ok size) ↔ rose.All (fun node _ => Encodable node) value 0) ∧
      ∀ size, value.encodedSize = .ok size → value.sum Value.textSize ≤ size := by
  obtain ⟨hwritten, hencodable⟩ := written value 0 hall
  have hsize : ∀ size, value.encodedSize = .ok size ↔ ∃ text, value.dumps = .ok text ∧ text.any surrogate = false ∧
      size = textBytes text := by
    intro size
    unfold Value.encodedSize encodedLength
    constructor
    · intro h
      obtain ⟨text, htext, h₁⟩ := Fallible.bind_ok h
      split at h₁
      · cases h₁
      · next hclear => exact ⟨text, htext, Bool.eq_false_iff.mpr hclear, (Except.ok.inj h₁).symm⟩
    · rintro ⟨text, htext, hclear, rfl⟩
      rw [htext, Fallible.ok_bind, hclear]
      rfl
  constructor
  · constructor
    · rintro ⟨size, h⟩
      obtain ⟨text, htext, hclear, -⟩ := (hsize size).mp h
      exact (hwritten.mp ⟨text, htext⟩).and rose ((hencodable text htext).1.mp hclear)
    · intro h
      obtain ⟨text, htext⟩ := hwritten.mpr (h.mono rose fun _ _ hnode => hnode.1)
      exact ⟨_, (hsize _).mpr ⟨text, htext, (hencodable text htext).1.mpr (h.mono rose fun _ _ hnode => hnode.2), rfl⟩⟩
  · intro size h
    obtain ⟨text, htext, -, rfl⟩ := (hsize size).mp h
    exact (hencodable text htext).2

end Python

end NetboxOpenbao
