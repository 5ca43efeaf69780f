import Mathlib.Data.List.Sort
import NetboxOpenbao.Administration.Dumps
import NetboxOpenbao.Coding.Characters

/-!
# What a dump tells of its value

The text `json.dumps` writes determines the value, and the text it writes with sorted keys determines the value up to
the order of its dicts' entries. Numbers and names end at a delimiter; strings, lists and dicts end where they close.
-/

namespace NetboxOpenbao

open Coding

/-- An induction over a JSON value that reaches into lists and dicts. -/
@[elab_as_elim]
theorem Json.induct {motive : Json → Prop} (null : motive .null) (bool : ∀ b, motive (.bool b))
    (int : ∀ n, motive (.int n)) (float : ∀ x, motive (.float x)) (str : ∀ s, motive (.str s))
    (list : ∀ items, (∀ item ∈ items, motive item) → motive (.list items))
    (dict : ∀ entries, (∀ entry ∈ entries, motive entry.2) → motive (.dict entries)) (v : Json) : motive v := by
  refine @Json.rec motive (fun items => ∀ item ∈ items, motive item) (fun entries => ∀ entry ∈ entries, motive entry.2)
    (fun entry => motive entry.2)
    null bool int float str list dict ?_ ?_ ?_ ?_ ?_ v
  · exact nofun
  · intro item rest hitem hrest
    exact List.forall_mem_cons.mpr ⟨hitem, hrest⟩
  · exact nofun
  · intro entry rest hentry hrest
    exact List.forall_mem_cons.mpr ⟨hentry, hrest⟩
  · intro key value hvalue
    exact hvalue

/-! ### Strings -/

theorem digitChar_inj : ∀ a < 16, ∀ b < 16, Nat.digitChar a = Nat.digitChar b → a = b := by decide

/-- Four digits give the number back. -/
theorem hex4_closed {n : Nat} (hn : n < 65536) {m : Nat} (hm : m < 65536) {r s : List Char}
    (hsame : hex4 n ++ r = hex4 m ++ s) : n = m ∧ r = s := by
  simp only [hex4, List.cons_append, List.nil_append, List.cons.injEq] at hsame
  obtain ⟨h₁, h₂, h₃, h₄, hrest⟩ := hsame
  have h₁ := digitChar_inj _ (by omega) _ (by omega) h₁
  have h₂ := digitChar_inj _ (by omega) _ (by omega) h₂
  have h₃ := digitChar_inj _ (by omega) _ (by omega) h₃
  have h₄ := digitChar_inj _ (by omega) _ (by omega) h₄
  exact ⟨by omega, hrest⟩

theorem toNat_valid (c : Char) : c.toNat < 0xd800 ∨ 0xdfff < c.toNat ∧ c.toNat < 0x110000 := c.valid

theorem unicodeUnits_closed (c : Char) : Closed unicodeUnits c := by
  intro d r s hsame
  have hc := toNat_valid c
  have hd := toNat_valid d
  unfold unicodeUnits at hsame
  split at hsame
  · split at hsame
    · obtain ⟨hn, hrest⟩ := hex4_closed (by omega) (by omega) hsame
      exact ⟨Char.toNat_inj.mp hn, hrest⟩
    · rw [List.append_assoc] at hsame
      have hn := (hex4_closed (by omega) (by omega) hsame).1
      omega
  · split at hsame
    · rw [List.append_assoc] at hsame
      have hn := (hex4_closed (by omega) (by omega) hsame).1
      omega
    · simp only [List.append_assoc, List.cons_append] at hsame
      obtain ⟨hhigh, hrest⟩ := hex4_closed (by omega) (by omega) hsame
      obtain ⟨hlow, hrest⟩ := hex4_closed (by omega) (by omega) (List.cons.inj (List.cons.inj hrest).2).2
      exact ⟨Char.toNat_inj.mp (by omega), hrest⟩

theorem shortEscapes_inj : ∀ x ∈ shortEscapes, ∀ y ∈ shortEscapes, x.2 = y.2 → x.1 = y.1 := by decide

/-- The three forms of a character in a string. -/
theorem escapedChar_cases (ascii : Bool) (c : Char) :
    (∃ letter, (c, letter) ∈ shortEscapes ∧ escapedChar ascii c = ['\\', letter]) ∨
      escapedChar ascii c = '\\' :: 'u' :: unicodeUnits c ∨
      (escapedChar ascii c = [c] ∧ c ≠ '\\' ∧ c ≠ '"') := by
  unfold escapedChar
  cases hlookup : shortEscapes.lookup c with
  | some letter =>
      obtain ⟨before, after, hsplit, -⟩ := List.lookup_eq_some_iff.mp hlookup
      exact .inl ⟨letter, by rw [hsplit]; exact List.mem_append_right _ List.mem_cons_self, rfl⟩
  | none =>
      dsimp only
      split
      · exact .inr (.inl rfl)
      · refine .inr (.inr ⟨rfl, ?_, ?_⟩)
        · rintro rfl
          cases hlookup
        · rintro rfl
          cases hlookup

theorem escapedChar_head (ascii : Bool) (c : Char) : ∃ d rest, escapedChar ascii c = d :: rest ∧ d ≠ '"' := by
  rcases escapedChar_cases ascii c with ⟨letter, -, h⟩ | h | ⟨h, -, hquote⟩
  · exact ⟨'\\', [letter], h, by decide⟩
  · exact ⟨'\\', _, h, by decide⟩
  · exact ⟨c, [], h, hquote⟩

theorem escapedChar_closed (ascii : Bool) (c : Char) : Closed (escapedChar ascii) c := by
  have hletter : ∀ x ∈ shortEscapes, x.2 ≠ 'u' := by decide
  intro d r s hsame
  rcases escapedChar_cases ascii c with ⟨letter, hmem, hc⟩ | hc | ⟨hc, hne, -⟩ <;>
    rcases escapedChar_cases ascii d with ⟨other, hother, hd⟩ | hd | ⟨hd, hne', -⟩ <;>
      rw [hc, hd] at hsame <;>
      simp only [List.cons_append, List.nil_append, List.cons.injEq, true_and] at hsame
  · exact ⟨shortEscapes_inj _ hmem _ hother hsame.1, hsame.2⟩
  · exact absurd hsame.1 (hletter _ hmem)
  · exact absurd hsame.1.symm hne'
  · exact absurd hsame.1.symm (hletter _ hother)
  · exact unicodeUnits_closed c d r s hsame
  · exact absurd hsame.1.symm hne'
  · exact absurd hsame.1 hne
  · exact absurd hsame.1 hne
  · exact hsame

theorem dumpedString_closed (ascii : Bool) (s : String) : Closed (dumpedString ascii) s := by
  intro t r r' hsame
  obtain ⟨hchars, hrest⟩ := flatMap_closed (escapedChar_closed ascii) (escapedChar_head ascii) s.toList t.toList r r'
    (List.cons.inj hsame).2
  exact ⟨String.toList_inj.mp hchars, hrest⟩

/-! ### Numbers and names -/

/-- What ends a number or a name. -/
def Delimits (c : Char) : Prop := c ∈ [',', ']', '}']

/-- The text of a value that is no string, list or dict. -/
def Json.atom? : Json → Option (List Char)
  | .null => some ['n', 'u', 'l', 'l']
  | .bool true => some ['t', 'r', 'u', 'e']
  | .bool false => some ['f', 'a', 'l', 's', 'e']
  | .int n => some (dumpedInt n)
  | .float x => some (dumpedFloat x)
  | .str _ | .list _ | .dict _ => none

theorem Json.encode_atom {v : Json} {text : List Char} (h : v.atom? = some text) (ascii : Bool) :
    v.encode ascii = text := by
  cases v with
  | bool b =>
      cases b with
      | true => exact Option.some.inj h
      | false => exact Option.some.inj h
  | null | int n | float x => exact Option.some.inj h
  | str s | list items | dict entries => cases h

/-- The characters of an integer. -/
def IntChar (c : Char) : Prop := c.isDigit = true ∨ c = '-'

theorem dumpedInt_chars (n : Int) : ∀ c ∈ dumpedInt n, IntChar c := by
  intro c hc
  cases n with
  | ofNat k => exact .inl (Nat.isDigit_of_mem_toDigits (by decide) (by decide) hc)
  | negSucc k =>
      rcases List.mem_cons.mp hc with rfl | hrest
      · exact .inr rfl
      · exact .inl (Nat.isDigit_of_mem_toDigits (by decide) (by decide) hrest)

theorem toDigits_ne_minus (n : Nat) (rest : List Char) : Nat.toDigits 10 n ≠ '-' :: rest := by
  intro hsame
  have hdigit : ('-' : Char).isDigit = true :=
    Nat.isDigit_of_mem_toDigits (b := 10) (n := n) (by decide) (by decide) (by rw [hsame]; exact List.mem_cons_self)
  exact absurd hdigit (by decide)

theorem dumpedInt_inj {n m : Int} (h : dumpedInt n = dumpedInt m) : n = m := by
  cases n with
  | ofNat k =>
      cases m with
      | ofNat l => rw [Coding.toDigits_inj h]
      | negSucc l => exact absurd h (toDigits_ne_minus k _)
  | negSucc k =>
      cases m with
      | ofNat l => exact absurd h.symm (toDigits_ne_minus l _)
      | negSucc l => rw [Nat.succ.inj (Coding.toDigits_inj (List.cons.inj h).2)]

/-- The texts of the floats that are not finite. -/
def nonFinite : List (String × List Char) :=
  [("nan", ['N', 'a', 'N']), ("inf", ['I', 'n', 'f', 'i', 'n', 'i', 't', 'y']),
   ("-inf", ['-', 'I', 'n', 'f', 'i', 'n', 'i', 't', 'y'])]

/-- A float is dumped as one of the names, or as its digits with a point or an exponent. -/
theorem dumpedFloat_cases (x : Double) :
    (x.repr, dumpedFloat x) ∈ nonFinite ∨
      (dumpedFloat x = x.repr.toList ∧
        (∀ c ∈ x.repr.toList, c.isDigit = true ∨ c ∈ ['.', 'e', '+', '-']) ∧
        ∃ c ∈ x.repr.toList, c = '.' ∨ c = 'e') := by
  unfold dumpedFloat
  by_cases hnan : x.repr = "nan"
  · left
    rw [hnan]
    exact List.mem_cons_self
  by_cases hinf : x.repr = "inf"
  · left
    rw [hinf]
    exact List.mem_cons_of_mem _ List.mem_cons_self
  by_cases hneg : x.repr = "-inf"
  · left
    rw [hneg]
    exact List.mem_cons_of_mem _ (List.mem_cons_of_mem _ List.mem_cons_self)
  right
  have hrepr := x.isRepr
  simp only [floatRepr, Bool.or_eq_true, beq_iff_eq, hnan, hinf, hneg, or_false, false_or, Bool.and_eq_true,
    List.all_eq_true, List.any_eq_true, List.contains_iff_mem] at hrepr
  refine ⟨?_, hrepr.1, hrepr.2⟩
  simp only [beq_iff_eq, hnan, hinf, hneg, if_false]

theorem nonFinite_facts : ∀ entry ∈ nonFinite,
    (∀ c ∈ entry.2, ¬ Delimits c ∧ c ≠ 'u' ∧ c ≠ 'l' ∧ c ≠ '"' ∧ c ≠ '[' ∧ c ≠ '{') ∧
      ∃ c ∈ entry.2, ¬ IntChar c := by
  unfold Delimits IntChar
  decide

/-- The characters of a number are no delimiters, open nothing and are in no name. -/
def NumberChar (c : Char) : Prop := ¬ Delimits c ∧ c ≠ 'u' ∧ c ≠ 'l' ∧ c ≠ '"' ∧ c ≠ '[' ∧ c ≠ '{'

theorem numberChar_of_digit {c : Char} (hc : c.isDigit = true) : NumberChar c := by
  refine ⟨?_, ?_, ?_, ?_, ?_, ?_⟩ <;> rintro h
  · exact (by decide : ∀ c ∈ [',', ']', '}'], ¬ c.isDigit = true) c h hc
  all_goals
    subst h
    exact absurd hc (by decide)

theorem dumpedInt_numberChar (n : Int) : ∀ c ∈ dumpedInt n, NumberChar c := by
  intro c hc
  rcases dumpedInt_chars n c hc with hdigit | rfl
  · exact numberChar_of_digit hdigit
  · unfold NumberChar Delimits
    decide

theorem dumpedFloat_numberChar (x : Double) : ∀ c ∈ dumpedFloat x, NumberChar c := by
  intro c hc
  rcases dumpedFloat_cases x with hname | ⟨htext, hchars, -⟩
  · exact (nonFinite_facts _ hname).1 c hc
  · rcases hchars c (htext ▸ hc) with hdigit | hsign
    · exact numberChar_of_digit hdigit
    · have hall : ∀ c ∈ ['.', 'e', '+', '-'], NumberChar c := by
        unfold NumberChar Delimits
        decide
      exact hall c hsign

theorem dumpedFloat_not_int (x : Double) : ∃ c ∈ dumpedFloat x, ¬ IntChar c := by
  rcases dumpedFloat_cases x with hname | ⟨htext, -, c, hc, hmark⟩
  · exact (nonFinite_facts _ hname).2
  · refine ⟨c, htext ▸ hc, ?_⟩
    unfold IntChar
    rcases hmark with rfl | rfl
    · decide
    · decide

theorem dumpedFloat_inj {x y : Double} (h : dumpedFloat x = dumpedFloat y) : x = y := by
  have hrepr : x.repr = y.repr := by
    have hname : ∀ z z' : Double, (z.repr, dumpedFloat z) ∈ nonFinite → dumpedFloat z = dumpedFloat z' →
        dumpedFloat z' ≠ z'.repr.toList ∨ ¬ ∀ c ∈ z'.repr.toList, c.isDigit = true ∨ c ∈ ['.', 'e', '+', '-'] := by
      intro z z' hz hsame
      by_contra hnot
      rw [not_or, not_not, not_not] at hnot
      have hother : ∀ entry ∈ nonFinite, ∃ c ∈ entry.2, ¬ (c.isDigit = true ∨ c ∈ ['.', 'e', '+', '-']) := by decide
      obtain ⟨c, hc, hbad⟩ := hother _ hz
      exact hbad (hnot.2 c (hnot.1 ▸ hsame ▸ hc))
    have hinj : ∀ a ∈ nonFinite, ∀ b ∈ nonFinite, a.2 = b.2 → a.1 = b.1 := by decide
    rcases dumpedFloat_cases x with hx | ⟨hx, hxchars, -⟩
    · rcases dumpedFloat_cases y with hy | ⟨hy, hychars, -⟩
      · exact hinj _ hx _ hy h
      · rcases hname x y hx h with hne | hne
        · exact absurd hy hne
        · exact absurd hychars hne
    · rcases dumpedFloat_cases y with hy | ⟨hy, hychars, -⟩
      · rcases hname y x hy h.symm with hne | hne
        · exact absurd hx hne
        · exact absurd hxchars hne
      · exact String.toList_inj.mp (hx ▸ hy ▸ h)
  cases x
  cases y
  cases hrepr
  rfl

def names : List (List Char) := [['n', 'u', 'l', 'l'], ['t', 'r', 'u', 'e'], ['f', 'a', 'l', 's', 'e']]

theorem not_name {text : List Char} (h : ∀ c ∈ text, NumberChar c) : text ∉ names := by
  intro hmem
  have hletter : ∀ name ∈ names, ∃ c ∈ name, c = 'u' ∨ c = 'l' := by decide
  obtain ⟨c, hc, hu | hl⟩ := hletter text hmem
  · exact (h c hc).2.1 hu
  · exact (h c hc).2.2.1 hl

theorem Json.atom?_cases {v : Json} {text : List Char} (h : v.atom? = some text) :
    text ∈ names ∨ (∃ n, v = .int n ∧ text = dumpedInt n) ∨ ∃ x, v = .float x ∧ text = dumpedFloat x := by
  cases v with
  | null =>
      obtain rfl := Option.some.inj h
      exact .inl (by decide)
  | bool b =>
      left
      cases b with
      | true =>
          obtain rfl := Option.some.inj h
          decide
      | false =>
          obtain rfl := Option.some.inj h
          decide
  | int n => exact .inr (.inl ⟨n, rfl, (Option.some.inj h).symm⟩)
  | float x => exact .inr (.inr ⟨x, rfl, (Option.some.inj h).symm⟩)
  | str s | list items | dict entries => cases h

theorem Json.atom?_clear {v : Json} {text : List Char} (h : v.atom? = some text) :
    ∀ c ∈ text, ¬ Delimits c ∧ c ≠ '"' ∧ c ≠ '[' ∧ c ≠ '{' := by
  have hnumber : ∀ text : List Char, (∀ c ∈ text, NumberChar c) →
      ∀ c ∈ text, ¬ Delimits c ∧ c ≠ '"' ∧ c ≠ '[' ∧ c ≠ '{' :=
    fun text hall c hc => ⟨(hall c hc).1, (hall c hc).2.2.2⟩
  rcases Json.atom?_cases h with hname | ⟨n, -, rfl⟩ | ⟨x, -, rfl⟩
  · have hall : ∀ name ∈ names, ∀ c ∈ name, ¬ Delimits c ∧ c ≠ '"' ∧ c ≠ '[' ∧ c ≠ '{' := by
      unfold Delimits
      decide
    exact hall text hname
  · exact hnumber _ (dumpedInt_numberChar n)
  · exact hnumber _ (dumpedFloat_numberChar x)

theorem Json.atom?_ne_nil {v : Json} {text : List Char} (h : v.atom? = some text) : text ≠ [] := by
  rcases Json.atom?_cases h with hname | ⟨n, -, rfl⟩ | ⟨x, -, rfl⟩
  · exact (by decide : ∀ name ∈ names, name ≠ []) text hname
  · cases n with
    | ofNat k => exact Nat.toDigits_ne_nil
    | negSucc k => nofun
  · obtain ⟨c, hc, -⟩ := dumpedFloat_not_int x
    exact List.ne_nil_of_mem hc

/-- The value of a name. -/
def named (text : List Char) : Json :=
  if text = ['n', 'u', 'l', 'l'] then .null else .bool (text = ['t', 'r', 'u', 'e'])

theorem Json.eq_named {v : Json} {text : List Char} (h : v.atom? = some text) (hname : text ∈ names) :
    v = named text := by
  cases v with
  | null =>
      obtain rfl := Option.some.inj h
      rfl
  | bool b =>
      cases b with
      | true =>
          obtain rfl := Option.some.inj h
          rfl
      | false =>
          obtain rfl := Option.some.inj h
          rfl
  | int n =>
      obtain rfl := Option.some.inj h
      exact absurd hname (not_name (dumpedInt_numberChar n))
  | float x =>
      obtain rfl := Option.some.inj h
      exact absurd hname (not_name (dumpedFloat_numberChar x))
  | str s | list items | dict entries => cases h

theorem Json.atom?_inj {v w : Json} {text : List Char} (hv : v.atom? = some text) (hw : w.atom? = some text) :
    v = w := by
  rcases Json.atom?_cases hv with hname | ⟨n, rfl, rfl⟩ | ⟨x, rfl, rfl⟩
  · rw [Json.eq_named hv hname, Json.eq_named hw hname]
  · rcases Json.atom?_cases hw with hname | ⟨m, rfl, hsame⟩ | ⟨y, rfl, hsame⟩
    · exact absurd hname (not_name (dumpedInt_numberChar n))
    · rw [dumpedInt_inj hsame]
    · obtain ⟨c, hc, hnot⟩ := dumpedFloat_not_int y
      exact absurd (dumpedInt_chars n c (hsame ▸ hc)) hnot
  · rcases Json.atom?_cases hw with hname | ⟨m, rfl, hsame⟩ | ⟨y, rfl, hsame⟩
    · exact absurd hname (not_name (dumpedFloat_numberChar x))
    · obtain ⟨c, hc, hnot⟩ := dumpedFloat_not_int x
      exact absurd (dumpedInt_chars m c (hsame ▸ hc)) hnot
    · rw [dumpedFloat_inj hsame]

/-! ### Values -/

theorem encodeItems_eq (ascii : Bool) (items : List Json) :
    encodeItems ascii items = separated (Json.encode ascii) ',' items := by
  induction items with
  | nil => rfl
  | cons item rest ih =>
      cases rest with
      | nil => rfl
      | cons next others => rw [encodeItems, separated, ih]

def encodeEntry (ascii : Bool) (entry : String × Json) : List Char :=
  dumpedString ascii entry.1 ++ ':' :: entry.2.encode ascii

theorem encodeEntries_eq (ascii : Bool) (entries : JsonObject) :
    encodeEntries ascii entries = separated (encodeEntry ascii) ',' entries := by
  induction entries with
  | nil => rfl
  | cons entry rest ih =>
      cases rest with
      | nil => rfl
      | cons next others => rw [encodeEntries, separated, ih, encodeEntry]

theorem encode_list (ascii : Bool) (items : List Json) :
    (Json.list items).encode ascii = '[' :: (separated (Json.encode ascii) ',' items ++ [']']) := by
  rw [Json.encode, encodeItems_eq]

theorem encode_dict (ascii : Bool) (entries : JsonObject) :
    (Json.dict entries).encode ascii = '{' :: (separated (encodeEntry ascii) ',' entries ++ ['}']) := by
  rw [Json.encode, encodeEntries_eq]

/-- What opens a string, a list or a dict. -/
def Json.opener : Json → Option Char
  | .str _ => some '"'
  | .list _ => some '['
  | .dict _ => some '{'
  | .null | .bool _ | .int _ | .float _ => none

theorem Json.atom_of_opener {v : Json} (h : v.opener = none) : ∃ text, v.atom? = some text := by
  cases v with
  | null | int n | float x => exact ⟨_, rfl⟩
  | bool b => cases b <;> exact ⟨_, rfl⟩
  | str s | list items | dict entries => cases h

/-- The first character of a text opens the value, or is a scalar's. -/
theorem encode_head (ascii : Bool) (v : Json) :
    ∃ c rest, v.encode ascii = c :: rest ∧ ¬ Delimits c ∧
      (v.opener = some c ∨ (v.opener = none ∧ c ≠ '"' ∧ c ≠ '[' ∧ c ≠ '{')) := by
  have hopen : ∀ c ∈ ['"', '[', '{'], ¬ Delimits c := by
    unfold Delimits
    decide
  cases hopener : v.opener with
  | none =>
      obtain ⟨text, htext⟩ := Json.atom_of_opener hopener
      obtain ⟨c, rest, hcons⟩ := List.exists_cons_of_ne_nil (Json.atom?_ne_nil htext)
      obtain ⟨hclear, hnot⟩ := Json.atom?_clear htext c (hcons ▸ List.mem_cons_self)
      exact ⟨c, rest, by rw [Json.encode_atom htext, hcons], hclear, .inr ⟨rfl, hnot⟩⟩
  | some opener =>
      cases v with
      | str s => exact ⟨'"', _, rfl, hopen _ (by decide), .inl hopener.symm⟩
      | list items => exact ⟨'[', _, rfl, hopen _ (by decide), .inl hopener.symm⟩
      | dict entries => exact ⟨'{', _, rfl, hopen _ (by decide), .inl hopener.symm⟩
      | null | bool b | int n | float x => cases hopener

theorem opener_eq {ascii : Bool} {v w : Json} {r s : List Char} (h : v.encode ascii ++ r = w.encode ascii ++ s) :
    v.opener = w.opener := by
  have hopener : ∀ (u : Json) (c : Char), u.opener = some c → c = '"' ∨ c = '[' ∨ c = '{' := by
    intro u c hc
    cases u with
    | str s => exact .inl (Option.some.inj hc).symm
    | list items => exact .inr (.inl (Option.some.inj hc).symm)
    | dict entries => exact .inr (.inr (Option.some.inj hc).symm)
    | null | bool b | int n | float x => cases hc
  obtain ⟨c, rest, hv, -, hc⟩ := encode_head ascii v
  obtain ⟨d, rest', hw, -, hd⟩ := encode_head ascii w
  rw [hv, hw] at h
  obtain rfl := (List.cons.inj h).1
  rcases hc with hc | ⟨hc, hnot⟩
  · rcases hd with hd | ⟨hd, hnot⟩
    · rw [hc, hd]
    · rcases hopener v c hc with rfl | rfl | rfl
      · exact absurd rfl hnot.1
      · exact absurd rfl hnot.2.1
      · exact absurd rfl hnot.2.2
  · rcases hd with hd | ⟨hd, -⟩
    · rcases hopener w c hd with rfl | rfl | rfl
      · exact absurd rfl hnot.1
      · exact absurd rfl hnot.2.1
      · exact absurd rfl hnot.2.2
    · rw [hc, hd]

theorem atom_reads (ascii : Bool) {v : Json} (hopener : v.opener = none) : Reads (Json.encode ascii) Delimits v := by
  intro w r s hr hs hsame
  obtain ⟨text, htext⟩ := Json.atom_of_opener hopener
  obtain ⟨other, hother⟩ := Json.atom_of_opener ((opener_eq hsame).symm.trans hopener)
  rw [Json.encode_atom htext, Json.encode_atom hother] at hsame
  obtain ⟨rfl, hrest⟩ := eq_of_clear (fun c hc => (Json.atom?_clear htext c hc).1)
    (fun c hc => (Json.atom?_clear hother c hc).1) hr hs hsame
  exact ⟨Json.atom?_inj htext hother, hrest⟩

/-- A value's text, with a delimiter or nothing after it, is that of no other value. -/
theorem encode_reads (ascii : Bool) (v : Json) : Reads (Json.encode ascii) Delimits v := by
  have hcomma : Delimits ',' := by unfold Delimits; decide
  have hbracket : Delimits ']' := by unfold Delimits; decide
  have hbrace : Delimits '}' := by unfold Delimits; decide
  induction v using Json.induct with
  | null => exact atom_reads ascii rfl
  | bool b => exact atom_reads ascii rfl
  | int n => exact atom_reads ascii rfl
  | float x => exact atom_reads ascii rfl
  | str s =>
      intro w r r' _ _ hsame
      cases w with
      | str t =>
          obtain ⟨rfl, hrest⟩ := dumpedString_closed ascii s t r r' hsame
          exact ⟨rfl, hrest⟩
      | null | bool b | int n | float x | list items | dict entries => cases opener_eq hsame
  | list items ih =>
      intro w r r' _ _ hsame
      have hopener := opener_eq hsame
      cases w with
      | list others =>
          rw [encode_list, encode_list] at hsame
          have hhead : ∀ v : Json, ∃ c rest, v.encode ascii = c :: rest ∧ c ≠ ']' := by
            intro v
            obtain ⟨c, rest, hv, hc, -⟩ := encode_head ascii v
            exact ⟨c, rest, hv, fun h => hc (h ▸ hbracket)⟩
          obtain ⟨rfl, hrest⟩ := separated_closed hcomma hbracket (by decide) hhead ih others r r'
            (List.cons.inj hsame).2
          exact ⟨rfl, hrest⟩
      | null | bool b | int n | float x | str s | dict entries => cases hopener
  | dict entries ih =>
      intro w r r' _ _ hsame
      have hopener := opener_eq hsame
      cases w with
      | dict others =>
          rw [encode_dict, encode_dict] at hsame
          have hhead : ∀ entry : String × Json, ∃ c rest, encodeEntry ascii entry = c :: rest ∧ c ≠ '}' :=
            fun entry => ⟨'"', _, rfl, by decide⟩
          have hentries : ∀ entry ∈ entries, Reads (encodeEntry ascii) Delimits entry :=
            fun entry hentry => pair_reads (dumpedString_closed ascii entry.1) (ih entry hentry)
          obtain ⟨rfl, hrest⟩ := separated_closed hcomma hbrace (by decide) hhead hentries others r r'
            (List.cons.inj hsame).2
          exact ⟨rfl, hrest⟩
      | null | bool b | int n | float x | str s | list items => cases hopener

theorem dumps_injective (ascii : Bool) : Function.Injective (Json.dumps ascii) := by
  intro v w hsame
  have hencode : v.encode ascii = w.encode ascii := String.ofList_injective hsame
  exact (encode_reads ascii v w [] [] Starts.nil Starts.nil (by rw [hencode])).1

/-- Two values with one canonical text are the same up to the order of entries. -/
theorem canonical_eq_iff (v w : Json) : v.canonical = w.canonical ↔ v.Same w :=
  ⟨fun hsame => dumps_injective true hsame, congrArg (Json.dumps true)⟩

/-! ### Entries of a dict -/

theorem sortedItems_eq (items : List Json) : sortedItems items = items.map Json.sorted := by
  induction items with
  | nil => rfl
  | cons item rest ih => rw [sortedItems, List.map_cons, ih]

theorem sortedValues_eq (entries : JsonObject) :
    sortedValues entries = entries.map fun entry => (entry.1, entry.2.sorted) := by
  induction entries with
  | nil => rfl
  | cons entry rest ih => rw [sortedValues, List.map_cons, ih]

/-- An entry of a dict has its like in every dict that is the same. -/
theorem Json.Same.entry {entries others : JsonObject} (h : (Json.dict entries).Same (.dict others)) {key : String}
    {value : Json} (hmem : (key, value) ∈ entries) : ∃ other, (key, other) ∈ others ∧ value.Same other := by
  unfold Json.Same at h
  rw [Json.sorted, Json.sorted] at h
  have hsorted : (key, value.sorted) ∈ sortedEntries (sortedValues entries) := by
    unfold sortedEntries
    rw [List.mem_mergeSort, sortedValues_eq]
    exact List.mem_map_of_mem (f := fun entry : String × Json => (entry.1, entry.2.sorted)) hmem
  rw [Json.dict.inj h, sortedEntries, List.mem_mergeSort, sortedValues_eq] at hsorted
  obtain ⟨⟨otherKey, other⟩, hother, hpair⟩ := List.mem_map.mp hsorted
  obtain ⟨rfl, hvalue⟩ := Prod.mk.inj hpair
  exact ⟨other, hother, hvalue.symm⟩

theorem sortedEntries_perm (entries : JsonObject) : (sortedEntries entries).Perm entries :=
  List.mergeSort_perm entries _

/-- Sorting keys neither adds to the text of a value nor takes from it. -/
theorem sorted_encode_length (ascii : Bool) (v : Json) : (v.sorted.encode ascii).length = (v.encode ascii).length := by
  induction v using Json.induct with
  | null => rfl
  | bool b => rfl
  | int n => rfl
  | float x => rfl
  | str s => rfl
  | list items ih =>
      have hitems : (items.map fun item => (item.sorted.encode ascii).length) =
          items.map fun item => (item.encode ascii).length := List.map_congr_left ih
      rw [Json.sorted, encode_list, encode_list, List.length_cons, List.length_cons, List.length_append,
        List.length_append, separated_length, separated_length, sortedItems_eq, List.map_map, List.length_map]
      exact congrArg (fun n => n.sum + (items.length - 1) + 1 + 1) hitems
  | dict entries ih =>
      have hentries : ((sortedValues entries).map fun entry => (encodeEntry ascii entry).length) =
          entries.map fun entry => (encodeEntry ascii entry).length := by
        rw [sortedValues_eq, List.map_map]
        refine List.map_congr_left fun entry hentry => ?_
        unfold encodeEntry
        rw [Function.comp_apply, List.length_append, List.length_append, List.length_cons, List.length_cons,
          ih entry hentry]
      have hperm := (sortedEntries_perm (sortedValues entries)).map fun entry => (encodeEntry ascii entry).length
      have hlength : (sortedValues entries).length = entries.length := by rw [sortedValues_eq, List.length_map]
      rw [Json.sorted, encode_dict, encode_dict, List.length_cons, List.length_cons, List.length_append,
        List.length_append, separated_length, separated_length, hperm.sum_nat, hentries,
        (sortedEntries_perm (sortedValues entries)).length_eq, hlength]

theorem canonical_length (v : Json) : v.canonical.length = (v.encode true).length := by
  unfold Json.canonical Json.dumps
  rw [String.length_ofList, sorted_encode_length]

theorem Json.Same.str {s t : String} (h : (Json.str s).Same (.str t)) : s = t := by
  unfold Json.Same at h
  rw [Json.sorted, Json.sorted] at h
  exact Json.str.inj h

end NetboxOpenbao
