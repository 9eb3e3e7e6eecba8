import BacklinkPublisher.ConfigSections

set_option autoImplicit false

/-!
# The headings that a save writes

`_toml_str` and the target heading of `_emit_target_section`, and what the next save makes of
them and of the sections that it kept.
-/
namespace BacklinkPublisher.ConfigHeadings
open TextLines TomlLayout ConfigSections

/-! ## Strings -/

/-- `value.replace(c, by)` for one character. -/
def replaceChar (c : Char) (by' value : List Char) : List Char :=
  value.flatMap fun d => if d = c then by' else [d]

def escaped (value : List Char) : List Char :=
  replaceChar '"' ['\\', '"'] (replaceChar '\\' ['\\', '\\'] value)

def tomlStr (value : List Char) : List Char :=
  '"' :: escaped value ++ ['"']

theorem escaped_append (value more : List Char) :
    escaped (value ++ more) = escaped value ++ escaped more := by
  unfold escaped replaceChar
  rw [List.flatMap_append, List.flatMap_append]

theorem escaped_backslash (value : List Char) :
    escaped ('\\' :: value) = '\\' :: '\\' :: escaped value := rfl

theorem escaped_quote (value : List Char) :
    escaped ('"' :: value) = '\\' :: '"' :: escaped value := rfl

theorem escaped_cons {c : Char} (backslash : c ≠ '\\') (quote : c ≠ '"') (value : List Char) :
    escaped (c :: value) = c :: escaped value := by
  unfold escaped replaceChar
  rw [List.flatMap_cons, if_neg backslash, List.singleton_append, List.flatMap_cons,
    if_neg quote, List.singleton_append]

theorem basicSpan_cons {c : Char} (backslash : c ≠ '\\') (quote : c ≠ '"') (rest : List Char) :
    basicSpan (c :: rest) = (basicSpan rest).map fun (span, rest) => (c :: span, rest) := by
  rw [basicSpan]
  · exact quote
  · intro d later hc
    exact absurd hc backslash

theorem unescape_cons {c : Char} (backslash : c ≠ '\\') (rest : List Char) :
    unescape .outside (c :: rest) = c :: unescape .outside rest := by
  rw [unescape]
  exact backslash

/-- An escaped text is read as one piece, whatever is after it. -/
theorem basicSpan_escaped (value rest : List Char) :
    basicSpan (escaped value ++ rest) =
      (basicSpan rest).map fun (span, rest) => (escaped value ++ span, rest) := by
  induction value with
  | nil => exact Option.map_id'.symm
  | cons c value ih =>
    by_cases backslash : c = '\\'
    · rw [backslash, escaped_backslash]
      change (basicSpan (escaped value ++ rest)).map _ = _
      rw [ih, Option.map_map]
      rfl
    · by_cases quote : c = '"'
      · rw [quote, escaped_quote]
        change (basicSpan (escaped value ++ rest)).map _ = _
        rw [ih, Option.map_map]
        rfl
      · rw [escaped_cons backslash quote, List.cons_append, basicSpan_cons backslash quote, ih,
          Option.map_map]
        rfl

theorem unescape_escaped (value : List Char) : unescape .outside (escaped value) = value := by
  induction value with
  | nil => rfl
  | cons c value ih =>
    by_cases backslash : c = '\\'
    · rw [backslash, escaped_backslash]
      exact congrArg ('\\' :: ·) ih
    · by_cases quote : c = '"'
      · rw [quote, escaped_quote]
        exact congrArg ('"' :: ·) ih
      · rw [escaped_cons backslash quote, unescape_cons backslash, ih]

/-- TOML reads a written string as its value. -/
theorem simpleKey_tomlStr (value rest : List Char) :
    simpleKey (tomlStr value ++ rest) = some (value, rest) := by
  rw [tomlStr, List.append_assoc, List.cons_append, simpleKey]
  rw [List.singleton_append, basicSpan_escaped, basicSpan]
  change some (unescape .outside (escaped value ++ []), rest) = _
  rw [List.append_nil, unescape_escaped]

/-! ## Headings with a bare root -/

/-- A key that TOML reads without quotes. -/
structure BareKey (segment : List Char) : Prop where
  nonempty : segment ≠ []
  bare : ∀ c ∈ segment, isBareKey c = true

theorem BareKey.first_ne {c d : Char} {segment : List Char} (key : BareKey (c :: segment))
    (other : isBareKey d = false) : c ≠ d := by
  intro same
  have first := key.bare c List.mem_cons_self
  rw [same, other] at first
  exact absurd first Bool.noConfusion

theorem bareSpan_bare {segment rest : List Char} {stop : Char}
    (bare : ∀ c ∈ segment, isBareKey c = true) (ends : isBareKey stop = false) :
    bareSpan (segment ++ stop :: rest) = some (segment, stop :: rest) := by
  induction segment with
  | nil => rw [List.nil_append, bareSpan, if_neg (by rw [ends]; exact Bool.noConfusion)]
  | cons c segment ih =>
    obtain ⟨first, later⟩ := List.forall_mem_cons.1 bare
    rw [List.cons_append, bareSpan, if_pos first, ih later]
    rfl

/-- The lexer takes every bare key character. -/
theorem isBare_of_isBareKey {c : Char} (h : isBareKey c = true) : isBare c = true := by
  have range : c.toNat = 0x2d ∨ 0x30 ≤ c.toNat ∧ c.toNat ≤ 0x7a ∧ c.toNat ≠ 0x5d := by
    simp only [isBareKey, Bool.or_eq_true, Bool.and_eq_true, decide_eq_true_eq, Char.le_def,
      UInt32.le_iff_toNat_le, ← Char.toNat_inj] at h
    change ((((0x61 ≤ c.toNat ∧ c.toNat ≤ 0x7a) ∨ (0x41 ≤ c.toNat ∧ c.toNat ≤ 0x5a)) ∨
      (0x30 ≤ c.toNat ∧ c.toNat ≤ 0x39)) ∨ c.toNat = 0x5f) ∨ c.toNat = 0x2d at h
    omega
  have space : isSpace c = false := by
    unfold isSpace
    simp only [List.mem_cons, List.not_mem_nil, or_false, decide_eq_false_iff_not]
    omega
  have dot : c ≠ '.' := fun same => by rw [same] at range; revert range; decide
  have bracket : c ≠ ']' := fun same => by rw [same] at range; revert range; decide
  have quote : c ≠ '"' := fun same => by rw [same] at range; revert range; decide
  simp [isBare, space, dot, bracket, quote]

/-- What ends a segment of a heading. -/
def endsSegment (c : Char) : Prop :=
  c = '.' ∨ c = ']'

theorem endsSegment_kinds {stop : Char} (ends : endsSegment stop) :
    isBareKey stop = false ∧ isBlank stop = false ∧ isBare stop = false := by
  rcases ends with dot | bracket
  · rw [dot]
    decide
  · rw [bracket]
    decide

theorem headingKey_bare {root rest : List Char} {stop : Char} (key : BareKey root)
    (ends : endsSegment stop) :
    headingKey (root ++ stop :: rest) = some (root, stop, rest) := by
  have ⟨notKey, notBlank, _⟩ := endsSegment_kinds ends
  have span : bareSpan (root ++ stop :: rest) = some (root, stop :: rest) :=
    bareSpan_bare key.bare notKey
  have ⟨c, segment, listed⟩ := List.exists_cons_of_ne_nil key.nonempty
  have other : ∀ d, isBareKey d = false → c ≠ d := fun d => BareKey.first_ne (listed ▸ key)
  have start : (root ++ stop :: rest).dropWhile isBlank = root ++ stop :: rest := by
    rw [listed]
    apply List.dropWhile_cons_of_neg
    simp [isBlank, other ' ' (by decide), other '\t' (by decide)]
  have simple : simpleKey (root ++ stop :: rest) = some (root, stop :: rest) := by
    rw [listed, List.cons_append] at span ⊢
    rw [simpleKey, span]
    · rfl
    · intro tail quote
      exact other '"' (by decide) (List.cons.inj quote).1
    · intro tail quote
      exact other '\'' (by decide) (List.cons.inj quote).1
  have left : (stop :: rest).dropWhile isBlank = stop :: rest :=
    List.dropWhile_cons_of_neg (by rw [notBlank]; exact Bool.noConfusion)
  unfold headingKey
  rw [start, simple]
  dsimp only
  rw [left]
  exact if_pos ends

theorem bareSegment_bare {root rest : List Char} {stop : Char} (key : BareKey root)
    (ends : endsSegment stop) :
    bareSegment (root ++ stop :: rest) = some (root, stop :: rest) := by
  have ⟨_, _, notBare⟩ := endsSegment_kinds ends
  have inner : ∀ c ∈ root, isBare c = true := fun c hmem => isBare_of_isBareKey (key.bare c hmem)
  have taken : (root ++ stop :: rest).takeWhile isBare = root := by
    rw [List.takeWhile_append_of_pos inner,
      List.takeWhile_cons_of_neg (by rw [notBare]; exact Bool.noConfusion)]
    exact List.append_nil _
  have left : (root ++ stop :: rest).dropWhile isBare = stop :: rest := by
    rw [List.dropWhile_append_of_pos inner]
    exact List.dropWhile_cons_of_neg (by rw [notBare]; exact Bool.noConfusion)
  have ⟨c, segment, listed⟩ := List.exists_cons_of_ne_nil key.nonempty
  unfold bareSegment
  rw [taken, left, listed]

/-- A heading with a bare root: the lexer finds the root and goes on behind it. -/
theorem tomlHeadingPath_bare {root rest : List Char} {stop : Char} (key : BareKey root)
    (ends : endsSegment stop) :
    tomlHeadingPath ('[' :: (root ++ stop :: rest)) = some (root, subSegment (stop :: rest)) := by
  have segment : bareSegment (root ++ stop :: rest) = some (root, stop :: rest) :=
    bareSegment_bare key ends
  have ⟨c, later, listed⟩ := List.exists_cons_of_ne_nil key.nonempty
  have first := isBare_of_isBareKey (key.bare c (listed ▸ List.mem_cons_self))
  have other : ∀ d, isBareKey d = false → c ≠ d := fun d => BareKey.first_ne (listed ▸ key)
  have notSpace : isSpace c = false := by
    simp only [isBare, Bool.not_eq_true', Bool.or_eq_false_iff] at first
    exact first.1.2
  rw [listed, List.cons_append] at segment ⊢
  have path : headingRest (c :: (later ++ stop :: rest)) =
      some (c :: later, subSegment (stop :: rest)) := by
    have start : (c :: (later ++ stop :: rest)).dropWhile isSpace = c :: (later ++ stop :: rest) :=
      List.dropWhile_cons_of_neg (by rw [notSpace]; exact Bool.noConfusion)
    have quoted : quotedSegment (c :: (later ++ stop :: rest)) = none := by
      rw [quotedSegment]
      intro tail quote
      exact other '"' (by decide) (List.cons.inj quote).1
    unfold headingRest
    dsimp only
    rw [start, quoted, Option.none_or, segment]
    rfl
  have bracket : ('[' :: c :: (later ++ stop :: rest)).dropWhile isSpace =
      '[' :: c :: (later ++ stop :: rest) := List.dropWhile_cons_of_neg (by decide)
  rw [tomlHeadingPath, bracket]
  split
  · rename_i same
    exact absurd (List.cons.inj (List.cons.inj same).2).1 (other '[' (by decide))
  · rename_i same
    rw [← (List.cons.inj same).2]
    exact path
  · rename_i none
    exact absurd rfl (none (c :: (later ++ stop :: rest)))

/-- The same for TOML. -/
theorem headingKeys_bare {root rest : List Char} {stop : Char} (key : BareKey root)
    (ends : endsSegment stop) :
    headingKeys ('[' :: (root ++ stop :: rest)) =
      if stop = ']' then some ⟨root, none⟩
      else (headingKey rest).map fun (second, _, _) => ⟨root, some second⟩ := by
  have ⟨c, later, listed⟩ := List.exists_cons_of_ne_nil key.nonempty
  have other : c ≠ '[' := BareKey.first_ne (listed ▸ key) (by decide)
  have keys : keysOf (root ++ stop :: rest) = if stop = ']' then some ⟨root, none⟩
      else (headingKey rest).map fun (second, _, _) => ⟨root, some second⟩ := by
    rw [keysOf, headingKey_bare key ends]
  rw [listed, List.cons_append] at keys ⊢
  have bracket : ('[' :: c :: (later ++ stop :: rest)).dropWhile isBlank =
      '[' :: c :: (later ++ stop :: rest) := List.dropWhile_cons_of_neg (by decide)
  rw [headingKeys, bracket]
  split
  · rename_i same
    exact absurd (List.cons.inj (List.cons.inj same).2).1 other
  · rename_i same
    rw [← (List.cons.inj same).2]
    exact keys
  · rename_i none
    exact absurd rfl (none (c :: (later ++ stop :: rest)))

/-! ## Root and target headings -/

/-- The heading of a section such as `[blogger]`. -/
def rootHeading (root : List Char) : List Char :=
  '[' :: (root ++ [']'])

/-- The lexer and TOML read it alike. -/
theorem reads_rootHeading (known : Known) {root : List Char} (key : BareKey root) :
    known.reads (rootHeading root) =
      (headingKeys (rootHeading root)).map fun keys => !known.manages keys := by
  unfold Known.reads rootHeading
  rw [tomlHeadingPath_bare key (.inr rfl), headingKeys_bare key (.inr rfl), if_pos rfl]
  simp [Known.keepsPath, Known.manages, subSegment]

/-- The first line of `_emit_target_section`. -/
def targetHeading (domain : List Char) : List Char :=
  '[' :: ("targets".toList ++ '.' :: (tomlStr domain ++ [']']))

theorem targets_bare : BareKey "targets".toList :=
  ⟨by decide, List.all_eq_true.1 (by decide)⟩

theorem headingKeys_targetHeading (domain : List Char) :
    headingKeys (targetHeading domain) = some ⟨"targets".toList, some domain⟩ := by
  have second : headingKey (tomlStr domain ++ [']']) = some (domain, ']', []) := by
    have start : (tomlStr domain ++ [']']).dropWhile isBlank = tomlStr domain ++ [']'] :=
      List.dropWhile_cons_of_neg (by decide)
    unfold headingKey
    rw [start, simpleKey_tomlStr]
    rfl
  rw [targetHeading, headingKeys_bare targets_bare (.inl rfl), if_neg (by decide), second]
  rfl

/-! ## The subsections of a save -/

/-- `known_subsections` of `save_config`; `oauth` is whether it writes `[blogger.oauth]`. -/
def saveKnown (platforms domains : List (List Char)) (oauth : Bool) : Known where
  roots := platforms ++ ["targets".toList, "image_gen".toList]
  subsections := (if oauth then [("blogger".toList, "oauth".toList)] else []) ++
    domains.map fun domain => ("targets".toList, tomlStr domain)

theorem targets_ne_blogger : "targets".toList ≠ "blogger".toList := by decide

theorem mem_subsections {platforms domains : List (List Char)} {oauth : Bool}
    {segment : List Char} :
    ("targets".toList, segment) ∈ (saveKnown platforms domains oauth).subsections ↔
      ∃ domain ∈ domains, tomlStr domain = segment := by
  unfold saveKnown
  dsimp only
  rw [List.mem_append, List.mem_map]
  constructor
  · rintro (blogger | ⟨domain, hdomain, same⟩)
    · split_ifs at blogger
      · have roots := congrArg Prod.fst (List.mem_singleton.1 blogger)
        exact absurd roots targets_ne_blogger
      · exact absurd blogger List.not_mem_nil
    · exact ⟨domain, hdomain, congrArg Prod.snd same⟩
  · rintro ⟨domain, hdomain, same⟩
    exact .inr ⟨domain, hdomain, by rw [same]⟩

theorem tomlStr_injective {value other : List Char} (same : tomlStr value = tomlStr other) :
    value = other := by
  have read := simpleKey_tomlStr value []
  rw [same, simpleKey_tomlStr other []] at read
  exact (Prod.mk.inj (Option.some.inj read)).1.symm

theorem quotedSegment_closed {segment rest : List Char} (some : segment ≠ [])
    (unquoted : '"' ∉ segment) :
    quotedSegment ('"' :: (segment ++ '"' :: rest)) = .some (segment, rest) := by
  have inner : ∀ c ∈ segment, decide (c ≠ '"') = true := by
    intro c hmem
    apply decide_eq_true
    intro quote
    exact unquoted (quote ▸ hmem)
  have taken : (segment ++ '"' :: rest).takeWhile (· ≠ '"') = segment := by
    rw [List.takeWhile_append_of_pos inner, List.takeWhile_cons_of_neg (by decide)]
    exact List.append_nil _
  have left : (segment ++ '"' :: rest).dropWhile (· ≠ '"') = '"' :: rest := by
    rw [List.dropWhile_append_of_pos inner]
    exact List.dropWhile_cons_of_neg (by decide)
  rw [quotedSegment, taken, left]
  cases segment with
  | nil => exact absurd rfl some
  | cons c segment => rfl

theorem quote_not_mem_escaped {value : List Char} (unquoted : '"' ∉ value) :
    '"' ∉ escaped value := by
  induction value with
  | nil => exact List.not_mem_nil
  | cons c value ih =>
    have later := ih (List.not_mem_of_not_mem_cons unquoted)
    have quote := List.ne_of_not_mem_cons unquoted
    by_cases backslash : c = '\\'
    · rw [backslash, escaped_backslash]
      exact List.not_mem_cons_of_ne_of_not_mem (by decide)
        (List.not_mem_cons_of_ne_of_not_mem (by decide) later)
    · rw [escaped_cons backslash (Ne.symm quote)]
      exact List.not_mem_cons_of_ne_of_not_mem quote later

theorem escaped_ne_nil {value : List Char} (some : value ≠ []) : escaped value ≠ [] := by
  intro none
  apply some
  rw [← unescape_escaped value, none]
  rfl

/-- The second segment that the lexer takes for a domain: it ends at the first quote. -/
theorem subSegment_tomlStr {domain : List Char} (some : domain ≠ []) :
    ∃ segment, subSegment ('.' :: (tomlStr domain ++ [']'])) = .some segment ∧
      (segment = tomlStr domain ↔ '"' ∉ domain) ∧ ('"' ∈ domain → simpleKey segment = none) := by
  by_cases quoted : '"' ∈ domain
  · have ⟨before, after, split, unquoted⟩ := List.eq_append_cons_of_mem quoted
    have written : tomlStr domain ++ [']'] =
        '"' :: (escaped before ++ ['\\'] ++ '"' :: (escaped after ++ ['"', ']'])) := by
      rw [split, tomlStr, escaped_append, escaped_quote]
      simp
    have clean : '"' ∉ escaped before ++ ['\\'] := by
      rw [List.mem_append]
      rintro (inner | last)
      · exact quote_not_mem_escaped unquoted inner
      · exact absurd (List.mem_singleton.1 last) (by decide)
    have closed : quotedSegment ('"' :: (escaped before ++ ['\\'] ++
        '"' :: (escaped after ++ ['"', ']']))) =
          .some (escaped before ++ ['\\'], escaped after ++ ['"', ']']) :=
      quotedSegment_closed (List.append_ne_nil_of_right_ne_nil _ (List.cons_ne_nil _ _)) clean
    have unread : simpleKey ('"' :: (escaped before ++ ['\\']) ++ ['"']) = none := by
      change (basicSpan (escaped before ++ ['\\'] ++ ['"'])).map _ = none
      rw [List.append_assoc, basicSpan_escaped]
      rfl
    refine ⟨'"' :: (escaped before ++ ['\\']) ++ ['"'], ?_, ?_, fun _ => unread⟩
    · rw [written, subSegment, closed]
    · refine ⟨fun same => ?_, fun h => absurd quoted h⟩
      have read := simpleKey_tomlStr domain []
      rw [List.append_nil, ← same, unread] at read
      exact absurd read.symm (Option.some_ne_none _)
  · have closed : quotedSegment ('"' :: (escaped domain ++ '"' :: [']'])) =
        .some (escaped domain, [']']) :=
      quotedSegment_closed (escaped_ne_nil some) (quote_not_mem_escaped quoted)
    refine ⟨tomlStr domain, ?_, ⟨fun _ => quoted, fun _ => rfl⟩, fun h => absurd h quoted⟩
    have written : tomlStr domain ++ [']'] = '"' :: (escaped domain ++ '"' :: [']']) := by
      simp [tomlStr]
    rw [written, subSegment, closed]
    rfl

section
variable {platforms domains : List (List Char)} {oauth : Bool} {domain : List Char}

theorem keepsPath_known {known : Known} {root : List Char} (hroot : root ∈ known.roots)
    (sub : Option (List Char)) :
    known.keepsPath (root, sub) = sub.any fun segment => (root, segment) ∉ known.subsections := by
  cases sub with
  | none => simp [Known.keepsPath, hroot]
  | some segment => simp [Known.keepsPath, hroot]

theorem reads_targetHeading (known : Known) (root : "targets".toList ∈ known.roots)
    (domain : List Char) :
    known.reads (targetHeading domain) =
      some ((subSegment ('.' :: (tomlStr domain ++ [']']))).any
        fun segment => ("targets".toList, segment) ∉ known.subsections) := by
  rw [← keepsPath_known root, Known.reads, targetHeading,
    tomlHeadingPath_bare targets_bare (.inl rfl)]
  rfl

theorem subSegment_empty : subSegment ('.' :: (tomlStr [] ++ [']'])) = none := rfl

theorem targets_mem : "targets".toList ∈ (saveKnown platforms domains oauth).roots :=
  List.mem_append_right _ List.mem_cons_self

/-- The section of a domain that a save writes anew is left out of what it keeps exactly
where the domain has no quote. -/
theorem saved_target_left_iff (saved : domain ∈ domains) :
    (saveKnown platforms domains oauth).reads (targetHeading domain) = some false ↔
      '"' ∉ domain := by
  rw [reads_targetHeading _ targets_mem]
  by_cases empty : domain = []
  · rw [empty, subSegment_empty]
    exact ⟨fun _ => List.not_mem_nil, fun _ => rfl⟩
  · have ⟨segment, lexed, plain, unread⟩ := subSegment_tomlStr empty
    rw [lexed, Option.any_some, ← plain, Option.some_inj, decide_eq_false_iff_not, not_not,
      mem_subsections]
    refine ⟨fun ⟨other, _, same⟩ => ?_, fun same => ⟨domain, saved, same.symm⟩⟩
    rw [plain]
    intro quoted
    have read := simpleKey_tomlStr other []
    rw [List.append_nil, same, unread quoted] at read
    exact absurd read.symm (Option.some_ne_none _)

/-- The section of another domain is kept exactly where the domain is not empty. -/
theorem other_target_kept_iff (other : domain ∉ domains) :
    (saveKnown platforms domains oauth).reads (targetHeading domain) = some true ↔
      domain ≠ [] := by
  rw [reads_targetHeading _ targets_mem]
  by_cases empty : domain = []
  · rw [empty, subSegment_empty]
    exact ⟨fun kept => absurd (Option.some.inj kept) Bool.noConfusion, fun h => absurd rfl h⟩
  · have ⟨segment, lexed, plain, unread⟩ := subSegment_tomlStr empty
    rw [lexed, Option.any_some, Option.some_inj, decide_eq_true_iff, mem_subsections]
    refine ⟨fun _ => empty, fun _ ⟨written, hwritten, same⟩ => ?_⟩
    by_cases quoted : '"' ∈ domain
    · have read := simpleKey_tomlStr written []
      rw [List.append_nil, same, unread quoted] at read
      exact absurd read.symm (Option.some_ne_none _)
    · rw [plain.2 quoted] at same
      exact other (tomlStr_injective same ▸ hwritten)

end

end BacklinkPublisher.ConfigHeadings
