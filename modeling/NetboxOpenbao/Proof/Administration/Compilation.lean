import NetboxOpenbao.Administration.Schema
import NetboxOpenbao.Effect.Fallible
import NetboxOpenbao.Proof.Administration.Explorer
import NetboxOpenbao.Proof.Administration.Schema
import NetboxOpenbao.Proof.Administration.Sorted
import NetboxOpenbao.Proof.Administration.Templates
import NetboxOpenbao.Coding.Characters

/-!
# The path an operation is sent to

What `compile_operation_path` makes of a template that an accepted document advertises: the template with every
placeholder's value in it, below the mount and nowhere else.
-/

namespace NetboxOpenbao

open Effect Coding

namespace Engines

/-! ### Values -/

/-- The characters of a literal or of a value, which stand for themselves in the path of a URL. -/
def pathChar (c : Char) : Bool := c.isAlphanum || ['_', '.', ':', '@', '+', '~', '-'].contains c

/-- Where a URL parser takes a URL apart once its path has begun. -/
def urlSeparators : List Char := ['/', '\\', '?', '#', ';', '&', '=', '%', ',', '[', ']', ' ', '\t', '\n', '\r', '\x00']

theorem pathChar_not_separator {c : Char} (hc : pathChar c = true) : c ∉ '{' :: '}' :: urlSeparators := by
  intro hmem
  have hall : ('{' :: '}' :: urlSeparators).all (fun c => !pathChar c) = true := by decide
  have hnot := List.all_eq_true.mp hall c hmem
  rw [hc] at hnot
  cases hnot

theorem quote_eq_self {safe : List Char} {s : String}
    (h : ∀ c ∈ s.toList, (c.isAlphanum || ['_', '.', '-', '~'].contains c || safe.contains c) = true) :
    Text.quote safe s = s := by
  have hsame : ∀ cs : List Char,
      (∀ c ∈ cs, (c.isAlphanum || ['_', '.', '-', '~'].contains c || safe.contains c) = true) →
      (cs.flatMap fun c =>
        if c.isAlphanum || ['_', '.', '-', '~'].contains c || safe.contains c then [c]
        else (String.utf8EncodeChar c).flatMap fun b => '%' :: Text.hexByte b) = cs := by
    intro cs
    induction cs with
    | nil => intro _; rfl
    | cons c cs ih =>
        intro hcs
        rw [List.flatMap_cons, if_pos (hcs c List.mem_cons_self), ih fun d hd => hcs d (List.mem_cons_of_mem c hd)]
        rfl
  unfold Text.quote
  rw [hsame s.toList h, String.ofList_toList]

/-- A token has a first character, and only characters of its kind. -/
theorem token_chars {extra : List Char} {rest : Nat} {s : String} (h : Text.token extra rest s = true) :
    s.toList ≠ [] ∧ (∀ c ∈ s.toList.head?, c.isAlphanum = true) ∧
      ∀ c ∈ s.toList, c.isAlphanum = true ∨ c ∈ extra := by
  unfold Text.token at h
  cases hchars : s.toList with
  | nil =>
      rw [hchars] at h
      cases h
  | cons first others =>
      rw [hchars] at h
      simp only [Bool.and_eq_true, List.all_eq_true, Bool.or_eq_true, List.contains_iff_mem] at h
      obtain ⟨⟨hfirst, -⟩, hothers⟩ := h
      refine ⟨List.cons_ne_nil first others, ?_, ?_⟩
      · intro c hc
        obtain rfl := Option.mem_some.mp hc
        exact hfirst
      · intro c hc
        cases List.mem_cons.mp hc with
        | inl heq => exact .inl (heq ▸ hfirst)
        | inr hrest => exact hothers c hrest

/-- A segment that is its own encoding, and leads nowhere else. -/
structure Plain (segment : List Char) : Prop where
  chars : ∀ c ∈ segment, pathChar c = true
  nonempty : segment ≠ []
  notDots : segment ≠ ['.'] ∧ segment ≠ ['.', '.']

theorem plain_of_alphanum {segment : List Char} (hchars : ∀ c ∈ segment, pathChar c = true) (hne : segment ≠ [])
    (hfirst : ∀ c ∈ segment.head?, c.isAlphanum = true) : Plain segment := by
  have hdot : segment.head? ≠ some '.' := by
    intro hhead
    have h := hfirst '.' (Option.mem_def.mpr hhead)
    exact absurd h (by decide)
  refine ⟨hchars, hne, ?_, ?_⟩
  · rintro rfl
    exact hdot rfl
  · rintro rfl
    exact hdot rfl

theorem plain_of_token {extra : List Char} {rest : Nat} {s : String} (h : Text.token extra rest s = true)
    (hextra : ∀ c ∈ extra, pathChar c = true) : Plain s.toList := by
  obtain ⟨hne, hfirst, hchars⟩ := token_chars h
  refine plain_of_alphanum ?_ hne hfirst
  intro c hc
  cases hchars c hc with
  | inl halnum => exact Bool.or_eq_true_iff.mpr (.inl halnum)
  | inr hmem => exact hextra c hmem

theorem Plain.not_slash {segment : List Char} (h : Plain segment) : '/' ∉ segment := fun hmem =>
  pathChar_not_separator (h.chars '/' hmem) (by decide)

/-- The characters of a text with plain segments. -/
theorem chars_of_plain {cs : List Char} (h : ∀ part ∈ Text.segments cs, Plain part) :
    ∀ c ∈ cs, c = '/' ∨ pathChar c = true := by
  obtain ⟨first, others, hcs⟩ := Text.segments_ne_nil cs
  rw [hcs] at h
  intro c hc
  rw [Text.eq_of_segments hcs] at hc
  cases List.mem_append.mp hc with
  | inl hfirst => exact .inr ((h first List.mem_cons_self).chars c hfirst)
  | inr hrest =>
      obtain ⟨part, hpart, hc⟩ := List.mem_flatMap.mp hrest
      cases List.mem_cons.mp hc with
      | inl hslash => exact .inl hslash
      | inr hmem => exact .inr ((h part (List.mem_cons_of_mem first hpart)).chars c hmem)

theorem not_brace {c : Char} (h : c = '/' ∨ pathChar c = true) : c ≠ '{' ∧ c ≠ '}' := by
  cases h with
  | inl hslash => exact hslash ▸ (by decide)
  | inr hchar =>
      have hnot := pathChar_not_separator hchar
      refine ⟨fun heq => hnot (heq ▸ List.mem_cons_self), fun heq => hnot ?_⟩
      exact heq ▸ List.mem_cons_of_mem '{' List.mem_cons_self

theorem braceFree_of_chars {cs : List Char} (h : ∀ c ∈ cs, c = '/' ∨ pathChar c = true) : Text.braceFree cs :=
  ⟨fun hmem => (not_brace (h '{' hmem)).1 rfl, fun hmem => (not_brace (h '}' hmem)).2 rfl⟩

/-- The characters `quote` leaves alone in a value. -/
def valueSafe : List Char := ['-', '.', '_', '~', ':', '@', '+']

theorem quote_value {s : String} (h : Plain s.toList) : Text.quote valueSafe s = s := by
  refine quote_eq_self fun c hc => ?_
  have hchar := h.chars c hc
  unfold pathChar at hchar
  cases halnum : c.isAlphanum with
  | true => rfl
  | false =>
      rw [halnum, Bool.false_or, List.contains_iff_mem] at hchar
      exact (by decide : ∀ c ∈ ['_', '.', ':', '@', '+', '~', '-'],
        (false || ['_', '.', '-', '~'].contains c || valueSafe.contains c) = true) c hchar

theorem quote_mount {mount : String} (h : mountRe mount = true) :
    Text.quote ['-', '.', '_', '~'] mount = mount := by
  refine quote_eq_self fun c hc => ?_
  cases mountRe_chars h c hc with
  | inl halnum => rw [halnum]; rfl
  | inr hmem =>
      have hsafe : ['_', '.', '-', '~'].contains c = true :=
        (by decide : ∀ c ∈ ['_', '.', '-'], ['_', '.', '-', '~'].contains c = true) c hmem
      rw [hsafe, Bool.or_true, Bool.true_or]

/-! ### Templates -/

theorem placeholderName_braceFree {name : List Char} (h : placeholderName name = true) : Text.braceFree name := by
  unfold placeholderName at h
  cases name with
  | nil => exact ⟨List.not_mem_nil, List.not_mem_nil⟩
  | cons first others =>
      simp only [Bool.and_eq_true, List.all_eq_true] at h
      obtain ⟨⟨hfirst, -⟩, hothers⟩ := h
      constructor
      · intro hmem
        cases List.mem_cons.mp hmem with
        | inl heq => exact absurd (heq ▸ hfirst) (by decide)
        | inr hrest => exact absurd (hothers _ hrest) (by decide)
      · intro hmem
        cases List.mem_cons.mp hmem with
        | inl heq => exact absurd (heq ▸ hfirst) (by decide)
        | inr hrest => exact absurd (hothers _ hrest) (by decide)

theorem placeholder_eq_some {segment : List Char} {name : String} (h : placeholder? segment = some name) :
    segment = Text.braced name ∧ Text.braceFree name.toList := by
  unfold placeholder? at h
  split at h
  · next rest =>
      split at h
      · next inner hreverse =>
          split at h
          · next hname =>
              obtain rfl := Option.some.inj h
              have hrest : rest = inner.reverse ++ ['}'] := by
                rw [← List.reverse_reverse rest, hreverse, List.reverse_cons]
              rw [hrest]
              unfold Text.braced
              rw [String.toList_ofList]
              exact ⟨rfl, placeholderName_braceFree hname⟩
          · cases h
      · cases h
  · cases h

theorem literalSegment_chars {segment : List Char} (h : literalSegment segment = true) :
    segment ≠ [] ∧ ∀ c ∈ segment, pathChar c = true := by
  unfold literalSegment at h
  obtain ⟨hne, hchars⟩ := Bool.and_eq_true_iff.mp h
  refine ⟨?_, List.all_eq_true.mp hchars⟩
  rintro rfl
  cases hne

/-- A template that `_MOUNTED_TEMPLATE_RE` matches, by its segments. -/
structure Mounted (template : String) (others : List (List Char)) : Prop where
  segments : Text.segments template.toList = [] :: Text.braced "secret_mount_path" :: others
  parts : ∀ part ∈ others, literalSegment part = true ∨ (placeholder? part).isSome = true

theorem mounted_of_re {template : String} (h : mountedTemplateRe template = true) :
    ∃ others, Mounted template others := by
  unfold mountedTemplateRe at h
  split at h
  · next mount others hsegments =>
      obtain ⟨hmount, hothers⟩ := Bool.and_eq_true_iff.mp h
      obtain ⟨rfl, -⟩ := placeholder_eq_some (beq_iff_eq.mp hmount)
      refine ⟨others, hsegments, fun part hpart => ?_⟩
      exact Bool.or_eq_true_iff.mp (List.all_eq_true.mp hothers part hpart)
  · cases h

theorem placeholder_mount : placeholder? (Text.braced "secret_mount_path") = some "secret_mount_path" := by
  decide +kernel

/-- Every segment after the leading slash is a literal or a placeholder. -/
theorem Mounted.part {template : String} {others : List (List Char)} (h : Mounted template others)
    {part : List Char} (hpart : part ∈ Text.braced "secret_mount_path" :: others) :
    (literalSegment part = true ∧ placeholder? part = none) ∨ ∃ name, placeholder? part = some name := by
  cases hplaceholder : placeholder? part with
  | some name => exact .inr ⟨name, rfl⟩
  | none =>
      refine .inl ⟨?_, rfl⟩
      cases List.mem_cons.mp hpart with
      | inl hmount =>
          rw [hmount, placeholder_mount] at hplaceholder
          cases hplaceholder
      | inr hother =>
          cases h.parts part hother with
          | inl hliteral => exact hliteral
          | inr hsome =>
              rw [hplaceholder] at hsome
              cases hsome

/-- A segment with the value of its placeholder in place of it. -/
def filledSegment (value : String → String) (segment : List Char) : List Char :=
  match placeholder? segment with
  | some name => (value name).toList
  | none => segment

/-- A template with all its placeholders replaced at once. -/
def substitute (value : String → String) (template : String) : String :=
  String.ofList (['/'].intercalate ((Text.segments template.toList).map (filledSegment value)))

/-- A segment as pieces, with the slash before it. -/
def segmentPieces (segment : List Char) : List (Piece Char String) :=
  [.text ['/'], match placeholder? segment with
    | some name => .hole name
    | none => .text segment]

theorem written_segmentPieces (parts : List (List Char)) :
    written Text.braced (parts.flatMap segmentPieces) = parts.flatMap fun part => '/' :: part := by
  unfold written
  rw [List.flatMap_assoc]
  refine congrArg (List.flatMap · parts) (funext fun part => ?_)
  unfold segmentPieces
  cases hplaceholder : placeholder? part with
  | some name =>
      rw [(placeholder_eq_some hplaceholder).1]
      exact congrArg ('/' :: ·) (List.append_nil _)
  | none => exact congrArg ('/' :: ·) (List.append_nil _)

/-! ### Replacements -/

/-- A value a path parameter may have. -/
def ParameterAdmitted (value : Json) : Prop :=
  ∃ text, parameterText value = some text ∧ resourceSegmentRe text = true ∧ text ≠ "." ∧ text ≠ ".."

def encodedParameter (value : Json) : String := Text.quote valueSafe ((parameterText value).getD "")

def encodedResource (resource : String) : String :=
  "/".intercalate ((Text.segments resource.toList).map fun part => Text.quote valueSafe (String.ofList part))

def encodedMount (mount : String) : String := Text.quote ['-', '.', '_', '~'] mount

/-- What a placeholder stands for. -/
def placeholderValue (mount resource : String) (pathParameters : JsonObject) (name : String) : String :=
  if name = "secret_mount_path" then encodedMount mount
  else if name = "path" then encodedResource resource
  else encodedParameter (JsonObject.get pathParameters name .null)

theorem plain_of_parameterAdmitted {value : Json} (h : ParameterAdmitted value) :
    Plain (encodedParameter value).toList := by
  obtain ⟨text, htext, hre, -⟩ := h
  have hplain : Plain text.toList := plain_of_token hre (by decide)
  unfold encodedParameter
  rw [htext, Option.getD_some, quote_value hplain]
  exact hplain

theorem normalizeResourcePath_ok {resourcePath resource : String}
    (h : normalizeResourcePath resourcePath = .ok resource) :
    resource = resourcePath ∧ ∀ part ∈ Text.segments resourcePath.toList, Plain part := by
  unfold normalizeResourcePath at h
  dsimp only at h
  split at h
  · cases h
  · next hvalid =>
      refine ⟨(Except.ok.inj h).symm, fun part hpart => ?_⟩
      simp only [Bool.or_eq_true, List.any_map, List.any_eq_true, not_or, not_exists, not_and,
        Function.comp_apply, Bool.not_eq_true'] at hvalid
      obtain ⟨⟨hre, -⟩, -⟩ := hvalid.2 part hpart
      have hplain := plain_of_token (Bool.not_eq_false _ ▸ hre) (by decide)
      rw [String.toList_ofList] at hplain
      exact hplain

/-- What a request has to have for a template with these placeholders. -/
structure Matches (names : List String) (mountPath resourcePath : String) (pathParameters : JsonObject)
    (mount : String) : Prop where
  mount : normalizeMountPath mountPath = .ok mount
  resource : resourcePath ≠ "" → normalizeResourcePath resourcePath = .ok resourcePath
  keys : sameSet (pathParameters.map Prod.fst)
    (names.filter fun name => name != "secret_mount_path" && name != "path") = true
  path : names.contains "path" = (resourcePath != "")
  values : ∀ entry ∈ pathParameters, ParameterAdmitted entry.2

/-- The replacements for it, in the order in which they are made. -/
def replacements (names : List String) (mount resourcePath : String) (pathParameters : JsonObject) :
    List (String × String) :=
  [("secret_mount_path", encodedMount mount)] ++
    (if names.contains "path" then [("path", encodedResource resourcePath)] else []) ++
    pathParameters.map fun entry => (entry.1, encodedParameter entry.2)

theorem replaceable_iff (entry : String × Json) (replacement : String × String) :
    (match parameterText entry.2 with
      | some text =>
          if resourceSegmentRe text && text != "." && text != ".." then
            (.ok (entry.1, Text.quote ['-', '.', '_', '~', ':', '@', '+'] text) : Except Error (String × String))
          else .error invalidParameters
      | none => .error invalidParameters) = .ok replacement ↔
      ParameterAdmitted entry.2 ∧ replacement = (entry.1, encodedParameter entry.2) := by
  unfold ParameterAdmitted encodedParameter
  cases htext : parameterText entry.2 with
  | none => simp
  | some text =>
      dsimp only
      constructor
      · intro h
        split at h
        · next hvalid =>
            simp only [Bool.and_eq_true, bne_iff_ne] at hvalid
            exact ⟨⟨text, rfl, hvalid.1.1, hvalid.1.2, hvalid.2⟩, (Except.ok.inj h).symm⟩
        · cases h
      · rintro ⟨⟨other, hother, hre, hdot, hdots⟩, rfl⟩
        obtain rfl := Option.some.inj hother
        rw [if_pos]
        · rfl
        · simp only [Bool.and_eq_true, bne_iff_ne]
          exact ⟨⟨hre, hdot⟩, hdots⟩

theorem normalizedResource_iff (resourcePath resource : String) :
    (if resourcePath != "" then normalizeResourcePath resourcePath else .ok "") = .ok resource ↔
      (resourcePath ≠ "" → normalizeResourcePath resourcePath = .ok resourcePath) ∧ resource = resourcePath := by
  by_cases hempty : resourcePath = ""
  · subst hempty
    simp [eq_comm]
  · rw [if_pos (bne_iff_ne.mpr hempty)]
    constructor
    · intro h
      obtain ⟨rfl, -⟩ := normalizeResourcePath_ok h
      exact ⟨fun _ => h, rfl⟩
    · rintro ⟨h, rfl⟩
      exact h hempty

theorem operationReplacements_ok_iff (names : List String) (mountPath resourcePath : String)
    (pathParameters : JsonObject) (made : List (String × String)) :
    operationReplacements names mountPath resourcePath pathParameters = .ok made ↔
      ∃ mount, Matches names mountPath resourcePath pathParameters mount ∧
        made = replacements names mount resourcePath pathParameters := by
  unfold operationReplacements
  constructor
  · intro h
    obtain ⟨mount, hmount, hafter⟩ := Fallible.bind_ok h
    obtain ⟨resource, hresource, hchecked⟩ := Fallible.bind_ok hafter
    obtain ⟨hvalid, rfl⟩ := (normalizedResource_iff _ _).mp hresource
    dsimp only at hchecked
    split at hchecked
    · cases hchecked
    · next hkeys =>
        obtain ⟨given, hgiven, hmade⟩ := Fallible.bind_ok hchecked
        obtain ⟨hvalues, rfl⟩ := (Fallible.mapM_ok_iff replaceable_iff _ _).mp hgiven
        simp only [Bool.or_eq_true, Bool.not_eq_true', bne_iff_ne, not_or, Bool.not_eq_false, not_not] at hkeys
        exact ⟨mount, ⟨hmount, hvalid, hkeys.1, hkeys.2, hvalues⟩, (Except.ok.inj hmade).symm⟩
  · rintro ⟨mount, hmatches, rfl⟩
    rw [hmatches.mount, Fallible.ok_bind, (normalizedResource_iff _ _).mpr ⟨hmatches.resource, rfl⟩, Fallible.ok_bind]
    dsimp only
    have hgiven := (Fallible.mapM_ok_iff replaceable_iff pathParameters _).mpr ⟨hmatches.values, rfl⟩
    rw [if_neg]
    · exact congrArg (· >>= fun given => Except.ok (_ ++ given)) hgiven
    · rw [hmatches.keys, hmatches.path]
      simp

theorem encodedResource_eq {resource : String} (h : ∀ part ∈ Text.segments resource.toList, Plain part) :
    encodedResource resource = resource := by
  have hparts : ((Text.segments resource.toList).map
      fun part => Text.quote valueSafe (String.ofList part)).map String.toList = Text.segments resource.toList := by
    rw [List.map_map]
    refine (List.map_congr_left fun part hpart => ?_).trans (List.map_id _)
    have hplain : Plain (String.ofList part).toList := by
      rw [String.toList_ofList]
      exact h part hpart
    rw [Function.comp_apply, quote_value hplain, String.toList_ofList]
    rfl
  unfold encodedResource
  rw [← String.toList_inj, String.toList_intercalate, hparts]
  exact Text.intercalate_segments resource.toList

/-! ### What a replacement is made with -/

section

variable {names : List String} {mountPath resourcePath mount : String} {pathParameters : JsonObject}

theorem lookup_map_snd {α β : Type} (f : α → β) (entries : List (String × α)) (name : String) :
    (entries.map fun entry => (entry.1, f entry.2)).lookup name = (entries.lookup name).map f := by
  induction entries with
  | nil => rfl
  | cons entry entries ih =>
      rw [List.map_cons, List.lookup_cons, List.lookup_cons]
      cases hname : name == entry.1 with
      | true => rfl
      | false => exact ih

theorem Matches.mem_of_key (h : Matches names mountPath resourcePath pathParameters mount) {entry : String × Json}
    (hentry : entry ∈ pathParameters) :
    entry.1 ∈ names ∧ entry.1 ≠ "secret_mount_path" ∧ entry.1 ≠ "path" := by
  obtain ⟨hgiven, -⟩ := Bool.and_eq_true_iff.mp h.keys
  have hkey := List.all_eq_true.mp hgiven entry.1 (List.mem_map_of_mem hentry)
  obtain ⟨hmem, hother⟩ := List.mem_filter.mp (List.contains_iff_mem.mp hkey)
  obtain ⟨hmount, hpath⟩ := Bool.and_eq_true_iff.mp hother
  exact ⟨hmem, bne_iff_ne.mp hmount, bne_iff_ne.mp hpath⟩

/-- A placeholder that is neither the mount's nor the resource's has a parameter. -/
theorem Matches.parameter (h : Matches names mountPath resourcePath pathParameters mount) {name : String}
    (hname : name ∈ names) (hmount : name ≠ "secret_mount_path") (hpath : name ≠ "path") :
    ∃ value, pathParameters.lookup name = some value ∧ ParameterAdmitted value := by
  have hexpected : name ∈ names.filter fun name => name != "secret_mount_path" && name != "path" :=
    List.mem_filter.mpr ⟨hname, Bool.and_eq_true_iff.mpr ⟨bne_iff_ne.mpr hmount, bne_iff_ne.mpr hpath⟩⟩
  have hgiven := List.all_eq_true.mp (Bool.and_eq_true_iff.mp h.keys).2 name hexpected
  cases hvalue : pathParameters.lookup name with
  | none =>
      obtain ⟨entry, hentry, rfl⟩ := List.mem_map.mp (List.contains_iff_mem.mp hgiven)
      exact absurd rfl (bne_iff_ne.mp (List.lookup_eq_none_iff.mp hvalue entry hentry))
  | some value =>
      obtain ⟨before, after, hsplit, -⟩ := List.lookup_eq_some_iff.mp hvalue
      have hentry : (name, value) ∈ pathParameters := by
        rw [hsplit]
        exact List.mem_append_right before List.mem_cons_self
      exact ⟨value, rfl, h.values (name, value) hentry⟩

/-- Every placeholder of the template is replaced, by what it stands for. -/
theorem Matches.lookup (h : Matches names mountPath resourcePath pathParameters mount) {name : String}
    (hname : name ∈ names) :
    (replacements names mount resourcePath pathParameters).lookup name =
      some (placeholderValue mount resourcePath pathParameters name) := by
  unfold replacements placeholderValue
  by_cases hmount : name = "secret_mount_path"
  · subst hmount
    rw [if_pos rfl]
    exact List.lookup_cons_self
  · have hfirst : (name == "secret_mount_path") = false := beq_eq_false_iff_ne.mpr hmount
    rw [if_neg hmount, List.append_assoc, List.cons_append, List.lookup_cons, hfirst, List.nil_append]
    by_cases hpath : name = "path"
    · subst hpath
      rw [if_pos rfl, if_pos (List.contains_iff_mem.mpr hname)]
      exact List.lookup_cons_self
    · have hsecond : (name == "path") = false := beq_eq_false_iff_ne.mpr hpath
      have hskip : ∀ rest : List (String × String),
          ((if names.contains "path" then [("path", encodedResource resourcePath)] else []) ++ rest).lookup name =
            rest.lookup name := by
        intro rest
        cases names.contains "path" with
        | true => rw [if_pos rfl, List.cons_append, List.lookup_cons, hsecond, List.nil_append]
        | false => rw [if_neg Bool.false_ne_true, List.nil_append]
      rw [if_neg hpath, hskip, lookup_map_snd]
      obtain ⟨value, hvalue, -⟩ := h.parameter hname hmount hpath
      unfold JsonObject.get
      rw [hvalue]
      rfl

end

/-! ### A template and its replacements -/

section

variable {template mountPath resourcePath mount : String} {others : List (List Char)} {pathParameters : JsonObject}

theorem mem_placeholders {name : String} {part : List Char} (hpart : part ∈ Text.segments template.toList)
    (hname : placeholder? part = some name) : name ∈ placeholders template :=
  List.mem_filterMap.mpr ⟨part, hpart, hname⟩

theorem placeholders_braceFree {name : String} (hname : name ∈ placeholders template) :
    Text.braceFree name.toList := by
  obtain ⟨part, -, hpart⟩ := List.mem_filterMap.mp hname
  exact (placeholder_eq_some hpart).2

theorem Mounted.mem_segments (h : Mounted template others) {part : List Char}
    (hpart : part ∈ Text.braced "secret_mount_path" :: others) : part ∈ Text.segments template.toList := by
  rw [h.segments]
  exact List.mem_cons_of_mem [] hpart

theorem Mounted.written_eq (h : Mounted template others) :
    template.toList =
      written Text.braced ((Text.braced "secret_mount_path" :: others).flatMap segmentPieces) := by
  have hparts := Text.eq_of_segments h.segments
  rw [written_segmentPieces]
  exact hparts

theorem Mounted.pieces_clean (h : Mounted template others) :
    ∀ p ∈ (Text.braced "secret_mount_path" :: others).flatMap segmentPieces, Text.clean p := by
  intro p hp
  obtain ⟨part, hpart, hp⟩ := List.mem_flatMap.mp hp
  cases List.mem_cons.mp hp with
  | inl hslash =>
      rw [hslash]
      exact ⟨by decide, by decide⟩
  | inr hrest =>
      obtain rfl := List.mem_singleton.mp hrest
      cases h.part hpart with
      | inl hliteral =>
          rw [hliteral.2]
          exact braceFree_of_chars fun c hc => .inr ((literalSegment_chars hliteral.1).2 c hc)
      | inr hplaceholder =>
          obtain ⟨name, hname⟩ := hplaceholder
          rw [hname]
          exact (placeholder_eq_some hname).2

/-- What a placeholder stands for has segments of its own that lead nowhere else. -/
theorem Matches.plain (h : Matches (placeholders template) mountPath resourcePath pathParameters mount)
    {name : String} (hname : name ∈ placeholders template) :
    ∀ part ∈ Text.segments (placeholderValue mount resourcePath pathParameters name).toList, Plain part := by
  have hone : ∀ {s : String}, Plain s.toList → ∀ part ∈ Text.segments s.toList, Plain part := by
    intro s hs part hpart
    rw [Text.segments_clear hs.not_slash] at hpart
    exact List.mem_singleton.mp hpart ▸ hs
  unfold placeholderValue
  by_cases hmount : name = "secret_mount_path"
  · have hvalid := normalizeMountPath_valid h.mount
    rw [if_pos hmount, encodedMount, quote_mount hvalid]
    exact hone (plain_of_token hvalid (by decide))
  · rw [if_neg hmount]
    by_cases hpath : name = "path"
    · subst hpath
      have hne : resourcePath ≠ "" := by
        have hpresent := h.path
        rw [List.contains_iff_mem.mpr hname] at hpresent
        exact bne_iff_ne.mp hpresent.symm
      obtain ⟨-, hparts⟩ := normalizeResourcePath_ok (h.resource hne)
      rw [if_pos rfl, encodedResource_eq hparts]
      exact hparts
    · rw [if_neg hpath]
      obtain ⟨value, hvalue, hadmitted⟩ := h.parameter hname hmount hpath
      unfold JsonObject.get
      rw [hvalue]
      exact hone (plain_of_parameterAdmitted hadmitted)

theorem ownNames_braceFree : Text.braceFree "secret_mount_path".toList ∧ Text.braceFree "path".toList :=
  ⟨⟨by decide, by decide⟩, by decide, by decide⟩

/-- No replacement holds a brace, and neither does its name. -/
theorem Matches.braceFree (h : Matches (placeholders template) mountPath resourcePath pathParameters mount) :
    ∀ entry ∈ replacements (placeholders template) mount resourcePath pathParameters,
      Text.braceFree entry.1.toList ∧ Text.braceFree entry.2.toList := by
  intro entry hentry
  cases List.mem_append.mp hentry with
  | inr hgiven =>
      obtain ⟨given, hmem, rfl⟩ := List.mem_map.mp hgiven
      have hvalue := (plain_of_parameterAdmitted (h.values given hmem)).chars
      exact ⟨placeholders_braceFree (h.mem_of_key hmem).1, braceFree_of_chars fun c hc => .inr (hvalue c hc)⟩
  | inl hown =>
      cases List.mem_append.mp hown with
      | inl hfirst =>
          obtain rfl := List.mem_singleton.mp hfirst
          have hvalid := normalizeMountPath_valid h.mount
          have hmount : Plain mount.toList := plain_of_token hvalid (by decide)
          refine ⟨ownNames_braceFree.1, ?_⟩
          rw [encodedMount, quote_mount hvalid]
          exact braceFree_of_chars fun c hc => .inr (hmount.chars c hc)
      | inr hsecond =>
          cases hpath : (placeholders template).contains "path" with
          | false =>
              rw [if_neg (by rw [hpath]; exact Bool.false_ne_true)] at hsecond
              exact absurd hsecond List.not_mem_nil
          | true =>
              rw [if_pos hpath] at hsecond
              obtain rfl := List.mem_singleton.mp hsecond
              have hplain := h.plain (List.contains_iff_mem.mp hpath)
              exact ⟨ownNames_braceFree.2, braceFree_of_chars (chars_of_plain hplain)⟩

/-- The replacements one after another come to all of them at once. -/
theorem Mounted.replaced (hmounted : Mounted template others)
    (h : Matches (placeholders template) mountPath resourcePath pathParameters mount) :
    (replacements (placeholders template) mount resourcePath pathParameters).foldl
        (fun compiled entry => Text.replace compiled ("\x7b" ++ entry.1 ++ "\x7d") entry.2) template =
      substitute (placeholderValue mount resourcePath pathParameters) template := by
  rw [← String.toList_inj, Text.foldl_replace_written h.braceFree hmounted.pieces_clean hmounted.written_eq]
  have hfilled : ∀ part ∈ Text.braced "secret_mount_path" :: others,
      written Text.braced ((segmentPieces part).map (Piece.fill fun name =>
        ((replacements (placeholders template) mount resourcePath pathParameters).map
          fun e => (e.1, e.2.toList)).lookup name)) =
        '/' :: filledSegment (placeholderValue mount resourcePath pathParameters) part := by
    intro part hpart
    unfold segmentPieces filledSegment
    cases hname : placeholder? part with
    | none => exact congrArg ('/' :: ·) (List.append_nil part)
    | some name =>
        have hvalue := h.lookup (mem_placeholders (hmounted.mem_segments hpart) hname)
        have hlooked := (lookup_map_snd String.toList _ name).trans (congrArg (Option.map String.toList) hvalue)
        have hfill : (Piece.hole name : Piece Char String).fill (fun name =>
            ((replacements (placeholders template) mount resourcePath pathParameters).map
              fun e => (e.1, e.2.toList)).lookup name) =
              .text (placeholderValue mount resourcePath pathParameters name).toList := Piece.fill_hole_some hlooked
        dsimp only
        rw [List.map_cons, List.map_cons, List.map_nil, Piece.fill_text, hfill]
        exact congrArg ('/' :: ·) (List.append_nil _)
  unfold substitute
  rw [String.toList_ofList, hmounted.segments, List.map_cons, Text.intercalate_slash, List.flatMap_map, List.map_flatMap]
  unfold written at hfilled ⊢
  rw [List.flatMap_assoc]
  exact List.flatMap_congr hfilled

end

/-! ### The path itself -/

/-- What a path that was compiled from a template is: the template with every placeholder's value in it at once, below
the mount and nowhere else. -/
structure Compiled (template mountPath resourcePath : String) (pathParameters : JsonObject) (mount result : String) :
    Prop where
  normalized : normalizeMountPath mountPath = .ok mount
  substituted : result = substitute (placeholderValue mount resourcePath pathParameters) template
  /-- A mapping has no order. -/
  unordered : ∀ reordered, reordered.Perm pathParameters → (reordered.map Prod.fst).Nodup →
    compileOperationPath template mountPath resourcePath reordered = .ok result
  first : ∃ rest, Text.segments result.toList = [] :: (encodedMount mount).toList :: rest
  /-- The fixed segments are the template's, each in its place; only the resource can become several. -/
  fixed : Text.segments result.toList = (Text.segments template.toList).flatMap fun segment =>
    match placeholder? segment with
    | some name => Text.segments (placeholderValue mount resourcePath pathParameters name).toList
    | none => [segment]
  segments : ∀ segment ∈ (Text.segments result.toList).tail, segment ≠ [] ∧ segment ≠ ['.'] ∧ segment ≠ ['.', '.']
  chars : ∀ c ∈ result.toList, c ≠ '{' ∧ c ≠ '}' ∧ (c ≠ '/' → c ∉ urlSeparators)

section

variable {template mountPath resourcePath mount : String} {others : List (List Char)} {pathParameters : JsonObject}

/-- A filled segment, as the segments of the path. -/
theorem Mounted.segments_filled (hmounted : Mounted template others) (value : String → String) {part : List Char}
    (hpart : part ∈ Text.braced "secret_mount_path" :: others) :
    Text.segments (filledSegment value part) = match placeholder? part with
      | some name => Text.segments (value name).toList
      | none => [part] := by
  unfold filledSegment
  cases hname : placeholder? part with
  | some name => rfl
  | none => exact Text.segments_clear (Text.not_slash_mem_segments (hmounted.mem_segments hpart))

theorem Mounted.substitute_toList (hmounted : Mounted template others) (value : String → String) :
    (substitute value template).toList =
      (Text.braced "secret_mount_path" :: others).flatMap fun part => '/' :: filledSegment value part := by
  unfold substitute
  rw [String.toList_ofList, hmounted.segments, List.map_cons, Text.intercalate_slash, List.flatMap_map]
  rfl

theorem Mounted.segments_substitute (hmounted : Mounted template others) (value : String → String) :
    Text.segments (substitute value template).toList = (Text.segments template.toList).flatMap fun segment =>
      match placeholder? segment with
      | some name => Text.segments (value name).toList
      | none => [segment] := by
  have hslashed := Text.segments_slashed ((Text.braced "secret_mount_path" :: others).map (filledSegment value))
  rw [List.flatMap_map, List.flatMap_map] at hslashed
  rw [hmounted.substitute_toList value, hmounted.segments]
  exact hslashed.trans
    (congrArg ([] :: ·) (List.flatMap_congr fun part hpart => hmounted.segments_filled value hpart))

/-- The characters of a filled segment. -/
theorem Mounted.filled_chars (hmounted : Mounted template others)
    (h : Matches (placeholders template) mountPath resourcePath pathParameters mount) {part : List Char}
    (hpart : part ∈ Text.braced "secret_mount_path" :: others) :
    ∀ c ∈ filledSegment (placeholderValue mount resourcePath pathParameters) part, c = '/' ∨ pathChar c = true := by
  unfold filledSegment
  cases hmounted.part hpart with
  | inl hliteral =>
      rw [hliteral.2]
      exact fun c hc => .inr ((literalSegment_chars hliteral.1).2 c hc)
  | inr hplaceholder =>
      obtain ⟨name, hname⟩ := hplaceholder
      rw [hname]
      exact chars_of_plain (h.plain (mem_placeholders (hmounted.mem_segments hpart) hname))

theorem Mounted.substitute_chars (hmounted : Mounted template others)
    (h : Matches (placeholders template) mountPath resourcePath pathParameters mount) :
    ∀ c ∈ (substitute (placeholderValue mount resourcePath pathParameters) template).toList,
      c = '/' ∨ pathChar c = true := by
  rw [hmounted.substitute_toList]
  intro c hc
  obtain ⟨part, hpart, hc⟩ := List.mem_flatMap.mp hc
  cases List.mem_cons.mp hc with
  | inl hslash => exact .inl hslash
  | inr hmem => exact hmounted.filled_chars h hpart c hmem

/-- What compiling a template takes, and what it gives. -/
theorem compileOperationPath_ok_iff (hmounted : Mounted template others) (hre : mountedTemplateRe template = true)
    (result : String) :
    compileOperationPath template mountPath resourcePath pathParameters = .ok result ↔
      pathParameters.length ≤ 16 ∧ ∃ mount, Matches (placeholders template) mountPath resourcePath pathParameters mount ∧
        result = substitute (placeholderValue mount resourcePath pathParameters) template := by
  unfold compileOperationPath
  rw [if_neg (by rw [hre]; exact Bool.false_ne_true)]
  constructor
  · intro h
    split at h
    · cases h
    · next hlength =>
        obtain ⟨made, hmade, hafter⟩ := Fallible.bind_ok h
        obtain ⟨mount, hmatches, rfl⟩ := (operationReplacements_ok_iff _ _ _ _ _).mp hmade
        dsimp only at hafter
        rw [hmounted.replaced hmatches] at hafter
        split at hafter
        · cases hafter
        · exact ⟨Nat.le_of_not_lt hlength, mount, hmatches, (Except.ok.inj hafter).symm⟩
  · rintro ⟨hlength, mount, hmatches, rfl⟩
    have hmade := (operationReplacements_ok_iff _ _ _ _ _).mpr ⟨mount, hmatches, rfl⟩
    have hclear : ((substitute (placeholderValue mount resourcePath pathParameters) template).toList.any
        fun c => c == '{' || c == '}') = false := by
      refine List.any_eq_false.mpr fun c hc => ?_
      obtain ⟨hopen, hclose⟩ := not_brace (hmounted.substitute_chars hmatches c hc)
      simp [hopen, hclose]
    rw [if_neg (Nat.not_lt.mpr hlength), hmade, Fallible.ok_bind]
    dsimp only
    rw [hmounted.replaced hmatches, if_neg (by rw [hclear]; exact Bool.false_ne_true)]

/-! ### The same mapping in another order -/

theorem placeholderValue_perm {reordered : JsonObject} (hperm : reordered.Perm pathParameters)
    (hnodup : (reordered.map Prod.fst).Nodup) :
    placeholderValue mount resourcePath reordered = placeholderValue mount resourcePath pathParameters := by
  funext name
  unfold placeholderValue JsonObject.get
  rw [lookup_perm hperm hnodup]

theorem Matches.perm {names : List String} (h : Matches names mountPath resourcePath pathParameters mount)
    {reordered : JsonObject} (hperm : reordered.Perm pathParameters) :
    Matches names mountPath resourcePath reordered mount := by
  obtain ⟨hgiven, hexpected⟩ := Bool.and_eq_true_iff.mp h.keys
  have hkeys := hperm.map Prod.fst
  refine ⟨h.mount, h.resource, Bool.and_eq_true_iff.mpr ⟨?_, ?_⟩, h.path, fun entry hentry => ?_⟩
  · exact List.all_eq_true.mpr fun key hkey => List.all_eq_true.mp hgiven key (hkeys.mem_iff.mp hkey)
  · refine List.all_eq_true.mpr fun name hname => List.contains_iff_mem.mpr (hkeys.mem_iff.mpr ?_)
    exact List.contains_iff_mem.mp (List.all_eq_true.mp hexpected name hname)
  · exact h.values entry (hperm.mem_iff.mp hentry)

/-! ### Below the mount -/

theorem Matches.segments_mount (h : Matches (placeholders template) mountPath resourcePath pathParameters mount) :
    Text.segments (placeholderValue mount resourcePath pathParameters "secret_mount_path").toList =
      [(encodedMount mount).toList] := by
  have hvalid := normalizeMountPath_valid h.mount
  have hplain : Plain mount.toList := plain_of_token hvalid (by decide)
  unfold placeholderValue
  rw [if_pos rfl, encodedMount, quote_mount hvalid]
  exact Text.segments_clear hplain.not_slash

theorem Mounted.first (hmounted : Mounted template others)
    (h : Matches (placeholders template) mountPath resourcePath pathParameters mount) :
    ∃ rest, Text.segments (substitute (placeholderValue mount resourcePath pathParameters) template).toList =
      [] :: (encodedMount mount).toList :: rest := by
  have hsegments := hmounted.segments_substitute (placeholderValue mount resourcePath pathParameters)
  rw [hmounted.segments, List.flatMap_cons, List.flatMap_cons, placeholder_mount] at hsegments
  dsimp only at hsegments
  rw [h.segments_mount] at hsegments
  exact ⟨_, hsegments⟩

/-- No segment after the first slash leads elsewhere, if no literal of the template does. -/
theorem Mounted.plain (hmounted : Mounted template others)
    (h : Matches (placeholders template) mountPath resourcePath pathParameters mount)
    (hliterals : ∀ part ∈ Text.segments template.toList, ¬ Schema.dots part) :
    ∀ segment ∈ (Text.segments (substitute (placeholderValue mount resourcePath pathParameters) template).toList).tail,
      Plain segment := by
  rw [hmounted.segments_substitute, hmounted.segments]
  intro segment hsegment
  obtain ⟨part, hpart, hmem⟩ := List.mem_flatMap.mp (show segment ∈ (Text.braced "secret_mount_path" :: others).flatMap
    (fun part => match placeholder? part with
      | some name => Text.segments (placeholderValue mount resourcePath pathParameters name).toList
      | none => [part]) from hsegment)
  have htemplate := hmounted.mem_segments hpart
  cases hmounted.part hpart with
  | inr hplaceholder =>
      obtain ⟨name, hname⟩ := hplaceholder
      rw [hname] at hmem
      exact h.plain (mem_placeholders htemplate hname) segment hmem
  | inl hliteral =>
      rw [hliteral.2] at hmem
      obtain rfl := List.mem_singleton.mp hmem
      obtain ⟨hne, hchars⟩ := literalSegment_chars hliteral.1
      have hdots := hliterals segment htemplate
      exact ⟨hchars, hne, fun heq => hdots (.inl heq), fun heq => hdots (.inr heq)⟩

end

theorem executable_re {capabilities : CapabilityDocument} {operation : ExplorerOperation}
    (h : operation ∈ classifyExplorerOperations capabilities) (hexecutable : operation.executable = true) :
    mountedTemplateRe operation.pathTemplate = true := by
  obtain ⟨discovered, -, rfl⟩ := mem_classifyExplorerOperations h
  obtain ⟨-, hgeneric⟩ := Bool.and_eq_true_iff.mp hexecutable
  unfold genericTemplate at hgeneric
  simp only [Bool.and_eq_true] at hgeneric
  exact hgeneric.1.1.2

/-- The path of an executable operation of an accepted document, whatever the mount, the resource and the parameters
it is compiled with. -/
theorem compiled_path_stays_in_mount [DocumentHashing] {document : Json} {capabilities : CapabilityDocument}
    (haccepted : Schema.normalizeOpenapiDocument document = .ok capabilities) {operation : ExplorerOperation}
    (hlisted : operation ∈ classifyExplorerOperations capabilities) (hexecutable : operation.executable = true)
    {mountPath resourcePath : String} {pathParameters : JsonObject} {result : String}
    (hcompiled : compileOperationPath operation.pathTemplate mountPath resourcePath pathParameters = .ok result) :
    ∃ mount, Compiled operation.pathTemplate mountPath resourcePath pathParameters mount result := by
  obtain ⟨discovered, hdiscovered, rfl⟩ := mem_classifyExplorerOperations hlisted
  obtain ⟨read⟩ := Schema.accepted_read haccepted discovered hdiscovered
  have hliterals := Schema.normalizePath_not_dots read.path
  have hre : mountedTemplateRe discovered.pathTemplate = true := executable_re hlisted hexecutable
  obtain ⟨others, hmounted⟩ := mounted_of_re hre
  obtain ⟨hlength, mount, hmatches, rfl⟩ := (compileOperationPath_ok_iff hmounted hre result).mp hcompiled
  have hsegments := hmounted.segments_substitute (placeholderValue mount resourcePath pathParameters)
  refine ⟨mount, hmatches.mount, rfl, ?_, ?_, hsegments, ?_, ?_⟩
  · intro reordered hperm hnodup
    refine (compileOperationPath_ok_iff hmounted hre _).mpr ⟨hperm.length_eq ▸ hlength, mount, hmatches.perm hperm, ?_⟩
    rw [placeholderValue_perm hperm hnodup]
  · exact hmounted.first hmatches
  · intro segment hsegment
    have hplain := hmounted.plain hmatches hliterals segment hsegment
    exact ⟨hplain.nonempty, hplain.notDots⟩
  · intro c hc
    have hchar := hmounted.substitute_chars hmatches c hc
    obtain ⟨hopen, hclose⟩ := not_brace hchar
    refine ⟨hopen, hclose, fun hslash hmem => ?_⟩
    cases hchar with
    | inl heq => exact hslash heq
    | inr hpath => exact pathChar_not_separator hpath (List.mem_cons_of_mem _ (List.mem_cons_of_mem _ hmem))

/-! ### A request for one secret -/

def kvEntries : JsonObject :=
  Sample.openapi "/\x7bteam_db_mount_path\x7d/data/\x7bpath\x7d" "get" "kv-read-data-path"
    [Sample.parameter "team_db_mount_path" "path" true, Sample.parameter "path" "path" true]

def kvDigest : String := "5959dd88d1187dd628b2ff09f2fef8e5540369389d435091f87309afb8342591"

def kvReadData : DiscoveredOperation where
  operationId := "kv-read-data-path"
  method := "GET"
  pathTemplate := "/\x7bsecret_mount_path\x7d/data/\x7bpath\x7d"
  summary := ""
  tags := ["secrets"]
  family := "mounted-secrets"
  riskLevel := "read"
  responseClass := "unreviewed"
  requiredPermission := "netbox_openbao.discover_openbaocluster"
  classified := true
  mountParameter := "team_db_mount_path"
  queryParameters := []
  requiredQueryParameters := []
  pathParameters := ["path", "secret_mount_path"]
  requiredPathParameters := ["path", "secret_mount_path"]
  pathParameterTypes := [("path", "string"), ("secret_mount_path", "string")]
  bodyFields := []
  requiredBodyFields := []
  queryParameterTypes := []
  bodyFieldTypes := []

theorem kv_path_stays_in_mount :
    ∃ mount, Compiled kvReadData.pathTemplate " team-db/" "app/db" [] mount "/team-db/data/app/db" := by
  obtain ⟨capabilities, haccepted, -, -, hoperations⟩ := @Sample.accepted_of kvDigest "2.6.2" kvEntries [kvReadData]
    (by decide +kernel) (by decide +kernel) (by decide +kernel) (by decide +kernel)
  have hlisted : explorerOperation kvReadData ∈ classifyExplorerOperations capabilities := by
    refine List.mem_mergeSort.mpr (List.mem_map_of_mem ?_)
    rw [hoperations]
    exact List.mem_singleton_self _
  have hcompiled : (compileOperationPath kvReadData.pathTemplate " team-db/" "app/db" []).toOption =
      some "/team-db/data/app/db" := by decide +kernel
  exact @compiled_path_stays_in_mount (Sample.documentHashing kvDigest) (.dict kvEntries) capabilities haccepted
    (explorerOperation kvReadData) hlisted (by decide +kernel) " team-db/" "app/db" [] "/team-db/data/app/db"
    (Fallible.ok_of_toOption hcompiled)

end Engines

end NetboxOpenbao
