import BacklinkPublisher.ShortArticles

set_option autoImplicit false

/-!
# Articles as they are written

What `render_zh_short_article` fills its templates to: texts and anchors in turn. On such an article
the patterns see what a browser sees.
-/
namespace BacklinkPublisher.WrittenArticles
open HtmlTokens PatternScans ShortArticles

structure Link where
  url : Text
  anchor : Text
  /-- The text that follows. -/
  prose : Text

def Link.write (link : Link) : Text := formatAnchorHtml link.url link.anchor ++ link.prose

def writeArticle (first : Text) (links : List Link) : Text := first ++ links.flatMap Link.write

/-- The text means the same to a browser. -/
def Plain (s : Text) : Prop := '<' ∉ s ∧ '&' ∉ s

structure Link.Clean (link : Link) : Prop where
  passes : passesFiltersWithRule link.anchor none = true
  reference : '&' ∉ link.anchor
  prose : Plain link.prose

variable {first : Text} {links : List Link}

/-! ## Anchor texts -/

theorem isUnsafe_of_mem {text : Text} {c : Char} (passes : passesFiltersWithRule text none = true)
    (member : c ∈ text) : isUnsafe c = false := by
  unfold passesFiltersWithRule at passes
  split_ifs at passes with _ _ found
  rw [List.any_eq_true] at found
  exact Bool.eq_false_iff.2 fun bad => found ⟨c, member, bad⟩

theorem ne_nil_of_passes {text : Text} (passes : passesFiltersWithRule text none = true) :
    text ≠ [] := by
  rintro rfl
  exact absurd passes (by decide)

theorem less_not_mem {text : Text} (passes : passesFiltersWithRule text none = true) :
    '<' ∉ text :=
  fun member => absurd (isUnsafe_of_mem passes member) (by decide)

theorem newline_not_mem {text : Text} (passes : passesFiltersWithRule text none = true) :
    '\n' ∉ text :=
  fun member => absurd (isUnsafe_of_mem passes member) (by decide)

/-! ## The patterns at an anchor -/

theorem takeWhile_mark {mark : Char} {s : Text} (clean : mark ∉ s) (rest : Text) :
    (s ++ mark :: rest).takeWhile (· ≠ mark) = s := by
  rw [List.takeWhile_append_of_pos, List.takeWhile_cons_of_neg, List.append_nil]
  · simp
  · intro c member
    exact decide_eq_true fun same => clean (same ▸ member)

theorem dropWhile_mark {mark : Char} {s : Text} (clean : mark ∉ s) (rest : Text) :
    (s ++ mark :: rest).dropWhile (· ≠ mark) = mark :: rest := by
  rw [List.dropWhile_append_of_pos, List.dropWhile_cons_of_neg]
  · simp
  · intro c member
    exact decide_eq_true fun same => clean (same ▸ member)

theorem beginsWith_anchorPattern : BeginsWith anchorPattern '<' := by
  intro c rest other
  unfold anchorPattern
  split
  · simp_all
  · rfl

theorem beginsWith_regionPattern : BeginsWith regionPattern '<' := by
  intro c rest other
  unfold regionPattern
  split
  · simp_all
  · rfl

/-- What stands in the opening tag after its name and a space. -/
def afterName (url : Text) : Text := (writtenAttrs url).drop 1

theorem greater_not_mem_afterName (url : Text) : '>' ∉ afterName url := by
  intro member
  have split : afterName url = "href=\"".toList ++ safeUrl url ++
      "\" target=\"_blank\" rel=\"noopener noreferrer\"".toList := rfl
  rw [split, List.mem_append, List.mem_append] at member
  obtain (before | inside) | after := member
  · exact absurd before (by decide)
  · exact greater_not_mem_safeUrl url inside
  · exact absurd after (by decide)

theorem formatAnchorHtml_append (url anchor rest : Text) :
    formatAnchorHtml url anchor ++ rest =
      '<' :: 'a' :: ' ' :: (afterName url ++ '>' :: (anchor ++ '<' :: ("/a>".toList ++ rest))) := by
  have split : formatAnchorHtml url anchor =
      '<' :: 'a' :: ' ' :: (afterName url ++ ">".toList) ++ anchor ++ "</a>".toList := rfl
  rw [split]
  simp only [List.append_assoc, List.cons_append]
  rfl

theorem length_formatAnchorHtml (url anchor : Text) :
    (formatAnchorHtml url anchor).length =
      2 + (writtenAttrs url).length + 1 + anchor.length + 4 := by
  unfold formatAnchorHtml openingTag
  simp only [List.length_append]
  rfl

theorem anchorPattern_formatAnchorHtml {anchor : Text} (url rest : Text) (clean : '<' ∉ anchor) :
    anchorPattern (formatAnchorHtml url anchor ++ rest) =
      some ((writtenAttrs url, anchor), (formatAnchorHtml url anchor).length) := by
  have attrs : ' ' :: afterName url = writtenAttrs url := rfl
  rw [length_formatAnchorHtml, formatAnchorHtml_append, anchorPattern,
    if_pos ⟨by decide, by decide, List.mem_append_right _ List.mem_cons_self⟩]
  dsimp only
  rw [takeWhile_mark (greater_not_mem_afterName url),
    dropWhile_mark (greater_not_mem_afterName url), List.drop_one, List.tail_cons,
    takeWhile_mark clean, dropWhile_mark clean, attrs]
  rfl

theorem closing_anchor {anchor : Text} (rest : Text) (clean : '<' ∉ anchor)
    (line : '\n' ∉ anchor) :
    closing (anchor ++ '<' :: ("/a>".toList ++ rest)) = some (anchor.length + 4) := by
  induction anchor with
  | nil => rfl
  | cons c anchor ih =>
    rw [List.mem_cons, not_or] at clean line
    have other : closesAnchor (c :: (anchor ++ '<' :: ("/a>".toList ++ rest))) = false := by
      unfold closesAnchor
      split
      · simp_all
      · rfl
    rw [List.cons_append, closing, other, if_neg Bool.false_ne_true, if_neg (Ne.symm line.1),
      ih clean.2 line.2]
    exact congrArg some (Nat.add_right_comm _ _ _)

theorem regionPattern_formatAnchorHtml {anchor : Text} (url rest : Text) (clean : '<' ∉ anchor)
    (line : '\n' ∉ anchor) :
    regionPattern (formatAnchorHtml url anchor ++ rest) =
      some (formatAnchorHtml url anchor).length := by
  have attrs : (writtenAttrs url).length = (afterName url).length + 1 := rfl
  rw [length_formatAnchorHtml, formatAnchorHtml_append, regionPattern,
    if_pos ⟨by decide, by decide, List.mem_append_right _ List.mem_cons_self⟩,
    takeWhile_mark (greater_not_mem_afterName url), dropWhile_mark (greater_not_mem_afterName url),
    List.drop_one, List.tail_cons, closing_anchor rest clean line, Option.map_some, attrs]
  exact congrArg some (by omega)

theorem formatAnchorHtml_ne_nil (url anchor : Text) : formatAnchorHtml url anchor ≠ [] := by
  intro empty
  have long := length_formatAnchorHtml url anchor
  rw [empty, List.length_nil] at long
  omega

/-! ## What the patterns find -/

theorem anchorMatches_writeArticle (plain : '<' ∉ first) (clean : ∀ link ∈ links, link.Clean) :
    anchorMatches (writeArticle first links) =
      links.map fun link => (writtenAttrs link.url, link.anchor) := by
  unfold anchorMatches writeArticle
  rw [findAll_plain beginsWith_anchorPattern plain]
  induction links with
  | nil => rfl
  | cons link links ih =>
    have ⟨here, later⟩ := List.forall_mem_cons.1 clean
    rw [List.flatMap_cons, Link.write, List.append_assoc,
      findAll_match (formatAnchorHtml_ne_nil _ _)
        (anchorPattern_formatAnchorHtml _ _ (less_not_mem here.passes)),
      findAll_plain beginsWith_anchorPattern here.prose.1, ih later, List.map_cons]

theorem withoutRegions_writeArticle (plain : '<' ∉ first) (clean : ∀ link ∈ links, link.Clean) :
    withoutRegions (writeArticle first links) = first ++ links.flatMap Link.prose := by
  unfold withoutRegions writeArticle
  rw [removeAll_plain beginsWith_regionPattern plain]
  congr 1
  induction links with
  | nil => rfl
  | cons link links ih =>
    have ⟨here, later⟩ := List.forall_mem_cons.1 clean
    rw [List.flatMap_cons, Link.write, List.append_assoc,
      removeAll_match (formatAnchorHtml_ne_nil _ _) (regionPattern_formatAnchorHtml _ _
        (less_not_mem here.passes) (newline_not_mem here.passes)),
      removeAll_plain beginsWith_regionPattern here.prose.1, ih later, List.flatMap_cons]

/-! ## What a browser reads -/

/-- An empty text is no token. -/
def textTokens (s : Text) : List Token := if s = [] then [] else [.text s]

def linkTokens (link : Link) : List Token :=
  .startTag (openingTag link.url) :: .text link.anchor :: .endTag "</a>".toList ::
    textTokens link.prose

theorem markup_openingTag (url rest : Text) :
    markup (openingTag url ++ rest) = some (.startTag (openingTag url), rest) := by
  have split := splitTag_append ('>' :: rest) (scan_openingTag url)
  have whole : splitTag {} ('a' :: (writtenAttrs url ++ ['>'] ++ rest)) =
      some ('a' :: writtenAttrs url ++ ['>'], rest) := by
    rw [List.append_assoc]
    exact split
  rw [openingTag_eq, List.cons_append, List.cons_append, List.cons_append, markup]
  · rw [if_pos (by decide), tagToken, whole]
    rfl
  · intro _ _ same
    exact absurd same (by decide)

theorem nameAt_openingTag (url : Text) : nameAt ((openingTag url).drop 1) = anchorName := rfl

theorem reads_textTokens {s rest : Text} {found : List Token} (plain : '<' ∉ s)
    (stops : rest = [] ∨ (markup rest).isSome) (reads : Reads rest found) :
    Reads (s ++ rest) (textTokens s ++ found) := by
  unfold textTokens
  split_ifs with empty
  · rw [empty]
    exact reads
  · exact reads.text empty plain stops

theorem shorter_append {opening : Text} (rest : Text) (some_ : opening ≠ []) :
    rest.length < (opening ++ rest).length := by
  have long := List.length_pos_of_ne_nil some_
  rw [List.length_append]
  omega

theorem reads_link {link : Link} {rest : Text} {found : List Token} (clean : link.Clean)
    (stops : rest = [] ∨ (markup rest).isSome) (reads : Reads rest found) :
    Reads (link.write ++ rest) (linkTokens link ++ found) := by
  have prose := reads_textTokens clean.prose.1 stops reads
  have closed : Reads ("</a>".toList ++ (link.prose ++ rest)) _ :=
    prose.endTag rfl (shorter_append _ (by decide))
  have anchor := closed.text (ne_nil_of_passes clean.passes) (less_not_mem clean.passes) (.inr rfl)
  have opened := anchor.startTag (markup_openingTag link.url _)
    (shorter_append _ (List.cons_ne_nil _ _)) (by rw [nameAt_openingTag]; unfold Ordinary; decide)
  have parts : link.write ++ rest = openingTag link.url ++
      (link.anchor ++ ("</a>".toList ++ (link.prose ++ rest))) := by
    unfold Link.write formatAnchorHtml
    simp only [List.append_assoc]
  rw [parts]
  exact opened

theorem stops_links (links : List Link) :
    links.flatMap Link.write = [] ∨ (markup (links.flatMap Link.write)).isSome := by
  cases links with
  | nil => exact .inl rfl
  | cons link links =>
    refine .inr ?_
    rw [List.flatMap_cons, Link.write, formatAnchorHtml, List.append_assoc, List.append_assoc,
      List.append_assoc, markup_openingTag]
    rfl

theorem tokens_writeArticle (plain : '<' ∉ first) (clean : ∀ link ∈ links, link.Clean) :
    tokens (writeArticle first links) = textTokens first ++ links.flatMap linkTokens := by
  have linksRead : Reads (links.flatMap Link.write) (links.flatMap linkTokens) := by
    induction links with
    | nil => exact reads_nil
    | cons link links ih =>
      have ⟨here, later⟩ := List.forall_mem_cons.1 clean
      exact reads_link here (stops_links links) (ih later)
  exact (reads_textTokens plain (stops_links links) linksRead).tokens_eq

/-! ## The page -/

def shownAnchor (link : Link) : Anchor := ⟨openingTag link.url, [link.anchor]⟩

theorem read_textTokens (s : Text) (found : List Token) :
    (read none (textTokens s ++ found)).anchors = (read none found).anchors ∧
      ∀ t ∈ (read none (textTokens s ++ found)).outside,
        t = s ∨ t ∈ (read none found).outside := by
  unfold textTokens
  split_ifs with empty
  · exact ⟨rfl, fun t member => .inr member⟩
  · exact ⟨rfl, fun t member => List.mem_cons.1 member⟩

theorem read_linkTokens (link : Link) (found : List Token) :
    read none (linkTokens link ++ found) =
      { read none (textTokens link.prose ++ found) with
        anchors := shownAnchor link :: (read none (textTokens link.prose ++ found)).anchors } := by
  unfold linkTokens
  rw [List.cons_append, List.cons_append, List.cons_append, HtmlTokens.read,
    if_pos (nameAt_openingTag _)]
  rfl

theorem read_links (links : List Link) :
    (read none (links.flatMap linkTokens)).anchors = links.map shownAnchor ∧
      ∀ t ∈ (read none (links.flatMap linkTokens)).outside, ∃ link ∈ links, t = link.prose := by
  induction links with
  | nil => exact ⟨rfl, fun t member => absurd member List.not_mem_nil⟩
  | cons link links ih =>
    have ⟨anchors, outside⟩ := read_textTokens link.prose (links.flatMap linkTokens)
    rw [List.flatMap_cons, read_linkTokens]
    refine ⟨?_, fun t member => ?_⟩
    · rw [List.map_cons, ← ih.1, ← anchors]
    · obtain here | later := outside t member
      · exact ⟨link, List.mem_cons_self, here⟩
      · have ⟨other, among, same⟩ := ih.2 t later
        exact ⟨other, List.mem_cons_of_mem _ among, same⟩

theorem pageOf_writeArticle (plain : '<' ∉ first) (clean : ∀ link ∈ links, link.Clean) :
    (pageOf (writeArticle first links)).anchors = links.map shownAnchor ∧
      ∀ t ∈ (pageOf (writeArticle first links)).outside,
        t = first ∨ ∃ link ∈ links, t = link.prose := by
  have ⟨anchors, outside⟩ := read_textTokens first (links.flatMap linkTokens)
  unfold pageOf
  rw [tokens_writeArticle plain clean]
  exact ⟨anchors.trans (read_links links).1,
    fun t member => (outside t member).imp id ((read_links links).2 t)⟩

/-! ## Soundness -/

variable {R : References} {expectedAnchors : List Text}

theorem covered_writeArticle (plain : Plain first) (clean : ∀ link ∈ links, link.Clean)
    (checks : Checks expectedAnchors (writeArticle first links)) :
    Covered R expectedAnchors (writeArticle first links) := by
  have ⟨anchors, outside⟩ := pageOf_writeArticle plain.1 clean
  have found := anchorMatches_writeArticle plain.1 clean
  refine ⟨?_, ?_, ?_⟩
  · rw [anchors, List.length_map]
    have count := checks.count
    rwa [found, List.length_map] at count
  · intro anchor member
    rw [anchors] at member
    have ⟨link, among, same⟩ := List.mem_map.1 member
    refine .inl ⟨link.url, link.anchor, (clean link among).reference, ?_, ?_, ?_⟩
    · rw [← same, shownAnchor]
    · rw [← same, shownAnchor]
    · rw [found]
      exact List.mem_map.2 ⟨link, among, rfl⟩
  · intro t member
    refine .inl ?_
    unfold SeenOutside
    rw [withoutRegions_writeArticle plain.1 clean]
    obtain rfl | ⟨link, among, rfl⟩ := outside t member
    · exact ⟨plain.2, (List.prefix_append _ _).isInfix⟩
    · refine ⟨(clean link among).prose.2, ?_⟩
      have inside : link.prose <:+: links.flatMap Link.prose :=
        List.infix_of_mem_flatten (List.mem_map.2 ⟨link, among, rfl⟩)
      exact inside.trans (List.suffix_append _ _).isInfix

/-- The validator is sound on what is written. -/
theorem sound_writeArticle (plain : Plain first) (clean : ∀ link ∈ links, link.Clean) :
    Sound R expectedAnchors (writeArticle first links) := by
  intro accepted
  have checks := validateZhShortPayload_iff.1 accepted
  exact meets_of_covered checks (covered_writeArticle plain clean checks)

end BacklinkPublisher.WrittenArticles
