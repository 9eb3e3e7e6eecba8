import BacklinkPublisher.ConfigSections
import BacklinkPublisher.UrlSplit
import BacklinkPublisher.Words

set_option autoImplicit false

/-!
# Telegraph nodes

`_TelegraphNodeBuilder` of `telegraph_node.py`, which turns a stream of HTML tokens into the nodes
that Telegraph takes.
-/
namespace BacklinkPublisher.TelegraphNodes
open ConfigSections (isSpace)
open UrlSplit Words
open scoped Texts

/-! ## The builder -/

def allowedTags : List String := ["a", "p", "h3", "ul", "ol", "li", "b", "em", "strong", "br"]

def allowedHrefSchemes : List (List Char) :=
  ["http".toList, "https".toList, "mailto".toList, "tel".toList]

def html5Void : List String :=
  ["area", "base", "br", "col", "embed", "hr", "img", "input", "link", "meta", "param", "source",
    "track", "wbr"]

def maxDepth : ℕ := 30

abbrev Attrs := List (String × Option (List Char))

/-- A void node has no `children`, and a node other than an `a` no `href`. -/
inductive Node
  | text (data : List Char)
  | void (tag : String) (href : Option (List Char))
  | element (tag : String) (href : Option (List Char)) (children : List Node)

def isSafeHref (U : UnicodeData) (href : List Char) : Bool :=
  href ≠ [] ∧ (urlsplit U href).any fun parsed => U.lower parsed.scheme ∈ allowedHrefSchemes

/-- The stripped value of the first `href`. -/
def hrefOf (attrs : Attrs) : List Char :=
  match attrs.find? fun attr => attr.1 = "href" with
  | none => []
  | some (_, value) => trim isSpace (value.getD [])

inductive Kind
  | kept
  | unwrap
  | collapse
  deriving DecidableEq

/-- `children` says how many steps, each to the children of the last node, lead from the root list
to the list that nodes inside the frame are appended to. -/
structure Frame where
  tag : String
  kind : Kind
  children : ℕ

def appendAt (node : Node) : ℕ → List Node → List Node
  | 0, nodes => nodes ++ [node]
  | steps + 1, nodes =>
    match nodes.getLast? with
    | some (.element tag href children) =>
      nodes.dropLast ++ [.element tag href (appendAt node steps children)]
    | _ => nodes

/-- The stack has its top first and leaves out the frame of the root. -/
structure Builder where
  nodes : List Node := []
  downgrades : ℕ := 0
  anchors : ℕ := 0
  downgradesByTag : String → ℕ := fun _ => 0
  stack : List Frame := []

namespace Builder

def depth (b : Builder) : ℕ := b.stack.length

def currentChildren (b : Builder) : ℕ := (b.stack.head?.map Frame.children).getD 0

def bumpDowngrade (b : Builder) (tag : String) : Builder :=
  { b with
    downgrades := b.downgrades + 1
    downgradesByTag := fun t => if t = tag then b.downgradesByTag t + 1 else b.downgradesByTag t }

def append (b : Builder) (node : Node) : Builder :=
  { b with nodes := appendAt node b.currentChildren b.nodes }

def push (b : Builder) (tag : String) (kind : Kind) (children : ℕ) : Builder :=
  { b with stack := ⟨tag, kind, children⟩ :: b.stack }

/-- Appends a node and, if it is not void, opens it. -/
def keep (b : Builder) (tag : String) (href : Option (List Char)) (void : Bool) : Builder :=
  if void then b.append (.void tag href)
  else (b.append (.element tag href [])).push tag .kept (b.currentChildren + 1)

/-- Leaves out the tag; what is inside it goes to the list that it stands in. -/
def drop (b : Builder) (tag : String) (kind : Kind) (void : Bool) : Builder :=
  if void then b.bumpDowngrade tag else (b.bumpDowngrade tag).push tag kind b.currentChildren

variable (U : UnicodeData)

def openAnchor (b : Builder) (attrs : Attrs) (void : Bool) : Builder :=
  if isSafeHref U (hrefOf attrs) then
    { b.keep "a" (some (hrefOf attrs)) void with anchors := b.anchors + 1 }
  else b.drop "a" .collapse void

def openTag (b : Builder) (tag : String) (attrs : Attrs) (void : Bool) : Builder :=
  if maxDepth ≤ b.depth then b.bumpDowngrade tag
  else if tag ∈ allowedTags then
    if tag = "a" then b.openAnchor U attrs void else b.keep tag none void
  else b.drop tag .unwrap void

def handleStarttag (b : Builder) (tag : String) (attrs : Attrs) : Builder :=
  b.openTag U tag attrs (tag ∈ html5Void)

def handleStartendtag (b : Builder) (tag : String) (attrs : Attrs) : Builder :=
  b.openTag U tag attrs true

/-- Closes the innermost frame of the tag and everything above it. -/
def handleEndtag (b : Builder) (tag : String) : Builder :=
  match b.stack.dropWhile fun frame => frame.tag ≠ tag with
  | [] => b
  | _ :: below => { b with stack := below }

def handleData (b : Builder) (data : List Char) : Builder :=
  if data = [] then b else if data.all isSpace then b else b.append (.text data)

end Builder

inductive Token
  | starttag (tag : String) (attrs : Attrs)
  | startendtag (tag : String) (attrs : Attrs)
  | endtag (tag : String)
  | data (text : List Char)

def Builder.handle (U : UnicodeData) (b : Builder) : Token → Builder
  | .starttag tag attrs => b.handleStarttag U tag attrs
  | .startendtag tag attrs => b.handleStartendtag U tag attrs
  | .endtag tag => b.handleEndtag tag
  | .data text => b.handleData text

def build (U : UnicodeData) (tokens : List Token) : Builder := tokens.foldl (Builder.handle U) {}

/-! ## Well-nested streams -/

/-- A well-nested stream: each start tag of an element that is not void has its end tag. -/
inductive Markup
  | empty
  | text (data : List Char) (next : Markup)
  | void (tag : String) (attrs : Attrs) (known : tag ∈ html5Void) (next : Markup)
  | selfClosing (tag : String) (attrs : Attrs) (next : Markup)
  | element (tag : String) (attrs : Attrs) (other : tag ∉ html5Void) (inner next : Markup)

namespace Markup

def tokens : Markup → List Token
  | empty => []
  | text data next => .data data :: next.tokens
  | void tag attrs _ next => .starttag tag attrs :: next.tokens
  | selfClosing tag attrs next => .startendtag tag attrs :: next.tokens
  | element tag attrs _ inner next =>
    .starttag tag attrs :: inner.tokens ++ .endtag tag :: next.tokens

/-- The texts in the order of the document. -/
def pieces : Markup → List (List Char)
  | empty => []
  | text data next => data :: next.pieces
  | void _ _ _ next => next.pieces
  | selfClosing _ _ next => next.pieces
  | element _ _ _ inner next => inner.pieces ++ next.pieces

def content (m : Markup) : List Char := m.pieces.flatten

end Markup

/-- Whether an element stays, and with which `href`. -/
def label (U : UnicodeData) (tag : String) (attrs : Attrs) : Option (Option (List Char)) :=
  if tag ∈ allowedTags then
    if tag = "a" then if isSafeHref U (hrefOf attrs) then some (some (hrefOf attrs)) else none
    else some none
  else none

namespace Markup

/-- What becomes of the stream at a nesting depth: of the elements that stay each is one node, with
the nodes of what is inside it. -/
def kept (U : UnicodeData) : ℕ → Markup → List Node
  | _, empty => []
  | d, text data next =>
    if data.all isSpace then next.kept U d else .text data :: next.kept U d
  | d, void tag attrs _ next =>
    match if d < maxDepth then label U tag attrs else none with
    | some href => .void tag href :: next.kept U d
    | none => next.kept U d
  | d, selfClosing tag attrs next =>
    match if d < maxDepth then label U tag attrs else none with
    | some href => .void tag href :: next.kept U d
    | none => next.kept U d
  | d, element tag attrs _ inner next =>
    match if d < maxDepth then label U tag attrs else none with
    | some href => .element tag href (inner.kept U (d + 1)) :: next.kept U d
    | none => inner.kept U (d + 1) ++ next.kept U d

/-- The elements that stay, nested as they are. -/
def outline (U : UnicodeData) : ℕ → Markup → List Node
  | _, empty => []
  | d, text _ next => next.outline U d
  | d, void tag attrs _ next =>
    match if d < maxDepth then label U tag attrs else none with
    | some href => .void tag href :: next.outline U d
    | none => next.outline U d
  | d, selfClosing tag attrs next =>
    match if d < maxDepth then label U tag attrs else none with
    | some href => .void tag href :: next.outline U d
    | none => next.outline U d
  | d, element tag attrs _ inner next =>
    match if d < maxDepth then label U tag attrs else none with
    | some href => .element tag href (inner.outline U (d + 1)) :: next.outline U d
    | none => inner.outline U (d + 1) ++ next.outline U d

/-- The links of the stream that are opened below the cap, with what is inside them. -/
def links (U : UnicodeData) : ℕ → Markup → List (List Char × List Char)
  | _, empty => []
  | d, text _ next => next.links U d
  | d, void _ _ _ next => next.links U d
  | d, selfClosing tag attrs next =>
    if d < maxDepth ∧ tag = "a" ∧ isSafeHref U (hrefOf attrs) then
      (hrefOf attrs, []) :: next.links U d
    else next.links U d
  | d, element tag attrs _ inner next =>
    (if d < maxDepth ∧ tag = "a" ∧ isSafeHref U (hrefOf attrs) then
      [(hrefOf attrs, inner.content)] else []) ++ (inner.links U (d + 1) ++ next.links U d)

/-- No element beyond the cap has the tag of an element that is `opened` around it. -/
def contained : List String → Markup → Bool
  | _, empty => true
  | opened, text _ next => next.contained opened
  | opened, void _ _ _ next => next.contained opened
  | opened, selfClosing _ _ next => next.contained opened
  | opened, element tag _ _ inner next =>
    (if opened.length < maxDepth then inner.contained (tag :: opened)
      else tag ∉ opened && inner.contained opened) && next.contained opened

end Markup

/-! ## What nodes hold -/

mutual
def Node.content : Node → List Char
  | .text data => data
  | .void _ _ => []
  | .element _ _ children => contentOf children

def contentOf : List Node → List Char
  | [] => []
  | node :: nodes => node.content ++ contentOf nodes
end

mutual
def Node.tags : Node → List String
  | .text _ => []
  | .void tag _ => [tag]
  | .element tag _ children => tag :: tagsOf children

def tagsOf : List Node → List String
  | [] => []
  | node :: nodes => node.tags ++ tagsOf nodes
end

mutual
/-- Every `a` with its link and what is inside it. -/
def Node.links : Node → List (List Char × List Char)
  | .text _ => []
  | .void tag href => if tag = "a" then [(href.getD [], [])] else []
  | .element tag href children =>
    (if tag = "a" then [(href.getD [], contentOf children)] else []) ++ linksOf children

def linksOf : List Node → List (List Char × List Char)
  | [] => []
  | node :: nodes => node.links ++ linksOf nodes
end

mutual
/-- The nodes without their texts. -/
def Node.outline : Node → List Node
  | .text _ => []
  | .void tag href => [.void tag href]
  | .element tag href children => [.element tag href (outlineOf children)]

def outlineOf : List Node → List Node
  | [] => []
  | node :: nodes => node.outline ++ outlineOf nodes
end

theorem contentOf_append (nodes others : List Node) :
    contentOf (nodes ++ others) = contentOf nodes ++ contentOf others := by
  induction nodes with
  | nil => rfl
  | cons node nodes ih => rw [List.cons_append, contentOf, ih, contentOf, List.append_assoc]

theorem tagsOf_append (nodes others : List Node) :
    tagsOf (nodes ++ others) = tagsOf nodes ++ tagsOf others := by
  induction nodes with
  | nil => rfl
  | cons node nodes ih => rw [List.cons_append, tagsOf, ih, tagsOf, List.append_assoc]

theorem linksOf_append (nodes others : List Node) :
    linksOf (nodes ++ others) = linksOf nodes ++ linksOf others := by
  induction nodes with
  | nil => rfl
  | cons node nodes ih => rw [List.cons_append, linksOf, ih, linksOf, List.append_assoc]

theorem outlineOf_append (nodes others : List Node) :
    outlineOf (nodes ++ others) = outlineOf nodes ++ outlineOf others := by
  induction nodes with
  | nil => rfl
  | cons node nodes ih => rw [List.cons_append, outlineOf, ih, outlineOf, List.append_assoc]

/-! ## Appending -/

/-- The steps lead to a list of children. -/
def Reaches : ℕ → List Node → Prop
  | 0, _ => True
  | steps + 1, nodes =>
    ∃ tag href children, nodes.getLast? = some (.element tag href children) ∧
      Reaches steps children

theorem Reaches.of_succ {steps : ℕ} {nodes : List Node} (reaches : Reaches (steps + 1) nodes) :
    Reaches steps nodes := by
  induction steps generalizing nodes with
  | zero => trivial
  | succ steps ih =>
    have ⟨tag, href, children, last, inside⟩ := reaches
    exact ⟨tag, href, children, last, ih inside⟩

theorem Reaches.of_le {steps fewer : ℕ} {nodes : List Node} (reaches : Reaches steps nodes)
    (le : fewer ≤ steps) : Reaches fewer nodes := by
  induction le with
  | refl => exact reaches
  | step _ ih => exact ih reaches.of_succ

theorem dropLast_append_last {nodes : List Node} {node : Node}
    (last : nodes.getLast? = some node) : nodes = nodes.dropLast ++ [node] := by
  rw [List.getLast?_eq_some_iff] at last
  have ⟨before, split⟩ := last
  rw [split, List.dropLast_concat]

section Append
variable {node : Node} {steps : ℕ} {nodes : List Node}

theorem contentOf_appendAt (reaches : Reaches steps nodes) :
    contentOf (appendAt node steps nodes) = contentOf nodes ++ node.content := by
  induction steps generalizing nodes with
  | zero =>
    rw [appendAt, contentOf_append, contentOf, contentOf, List.append_nil]
  | succ steps ih =>
    have ⟨tag, href, children, last, inside⟩ := reaches
    rw [appendAt, last]
    dsimp only
    conv_rhs => rw [dropLast_append_last last]
    simp only [contentOf_append, contentOf, Node.content, ih inside, List.append_nil,
      List.append_assoc]

theorem reaches_appendAt (reaches : Reaches steps nodes) :
    Reaches steps (appendAt node steps nodes) := by
  induction steps generalizing nodes with
  | zero => trivial
  | succ steps ih =>
    have ⟨tag, href, children, last, inside⟩ := reaches
    rw [appendAt, last]
    exact ⟨tag, href, appendAt node steps children, List.getLast?_concat, ih inside⟩

theorem reaches_element (tag : String) (href : Option (List Char)) (children : List Node)
    (reaches : Reaches steps nodes) :
    Reaches (steps + 1) (appendAt (.element tag href children) steps nodes) := by
  induction steps generalizing nodes with
  | zero => exact ⟨tag, href, children, List.getLast?_concat, trivial⟩
  | succ steps ih =>
    have ⟨t, h, inner, last, inside⟩ := reaches
    rw [appendAt, last]
    exact ⟨t, h, _, List.getLast?_concat, ih inside⟩

theorem mem_tagsOf_appendAt {tag : String} (mem : tag ∈ tagsOf (appendAt node steps nodes)) :
    tag ∈ tagsOf nodes ∨ tag ∈ node.tags := by
  induction steps generalizing nodes with
  | zero =>
    rw [appendAt, tagsOf_append, List.mem_append, tagsOf, tagsOf, List.append_nil] at mem
    exact mem
  | succ steps ih =>
    rw [appendAt] at mem
    split at mem
    · rename_i t href children last
      rw [tagsOf_append, List.mem_append, tagsOf, tagsOf, List.append_nil, Node.tags,
        List.mem_cons] at mem
      rw [dropLast_append_last last, tagsOf_append, List.mem_append, tagsOf, tagsOf,
        List.append_nil, Node.tags, List.mem_cons]
      rcases mem with before | same | inside
      · exact Or.inl (Or.inl before)
      · exact Or.inl (Or.inr (Or.inl same))
      · exact (ih inside).imp_left fun mem => Or.inr (Or.inr mem)
    · exact Or.inl mem

/-- Several nodes, one after the other. -/
def appendAll (added : List Node) (steps : ℕ) (nodes : List Node) : List Node :=
  added.foldl (fun nodes node => appendAt node steps nodes) nodes

theorem appendAll_zero (added nodes : List Node) : appendAll added 0 nodes = nodes ++ added := by
  induction added generalizing nodes with
  | nil => rw [List.append_nil]; rfl
  | cons node added ih =>
    change appendAll added 0 (nodes ++ [node]) = nodes ++ node :: added
    rw [ih, List.append_assoc, List.singleton_append]

theorem appendAt_inside (tag : String) (href : Option (List Char)) (children : List Node) :
    appendAt node (steps + 1) (appendAt (.element tag href children) steps nodes) =
      appendAt (.element tag href (children ++ [node])) steps nodes := by
  induction steps generalizing nodes with
  | zero =>
    change appendAt node 1 (nodes ++ [.element tag href children]) =
      nodes ++ [.element tag href (children ++ [node])]
    rw [appendAt, List.getLast?_concat]
    dsimp only
    rw [List.dropLast_concat]
    rfl
  | succ steps ih =>
    by_cases open_ : ∃ t h inner, nodes.getLast? = some (.element t h inner)
    · have ⟨t, h, inner, last⟩ := open_
      have into : ∀ x : Node, appendAt x (steps + 1) nodes =
          nodes.dropLast ++ [.element t h (appendAt x steps inner)] := by
        intro x
        rw [appendAt, last]
      rw [into, into, appendAt, List.getLast?_concat]
      dsimp only
      rw [List.dropLast_concat, ih]
    · have stays : ∀ (x : Node) (k : ℕ), appendAt x (k + 1) nodes = nodes := by
        intro x k
        rw [appendAt]
        split
        · rename_i t h inner last
          exact absurd ⟨t, h, inner, last⟩ open_
        · rfl
      rw [stays, stays, stays]

/-- Nodes appended inside a node that has just been appended are its children. -/
theorem appendAll_inside (tag : String) (href : Option (List Char)) (children added : List Node) :
    appendAll added (steps + 1) (appendAt (.element tag href children) steps nodes) =
      appendAt (.element tag href (children ++ added)) steps nodes := by
  induction added generalizing children with
  | nil => rw [List.append_nil]; rfl
  | cons node added ih =>
    change appendAll added (steps + 1)
      (appendAt node (steps + 1) (appendAt (.element tag href children) steps nodes)) = _
    rw [appendAt_inside, ih, List.append_assoc, List.singleton_append]

end Append

/-! ## What a tag does -/

section Steps
variable {U : UnicodeData} {b : Builder} {tag : String} {attrs : Attrs}

/-- A tag that opens nothing leaves at most one node behind. -/
theorem openTag_void (U : UnicodeData) (b : Builder) (tag : String) (attrs : Attrs) :
    (b.openTag U tag attrs true).stack = b.stack ∧
      (b.openTag U tag attrs true).nodes =
        match if b.depth < maxDepth then label U tag attrs else none with
        | some href => appendAt (.void tag href) b.currentChildren b.nodes
        | none => b.nodes := by
  unfold Builder.openTag label
  by_cases deep : maxDepth ≤ b.depth
  · rw [if_pos deep, if_neg (not_lt.mpr deep)]
    exact ⟨rfl, rfl⟩
  · rw [if_neg deep, if_pos (not_le.mp deep)]
    by_cases known : tag ∈ allowedTags
    · rw [if_pos known, if_pos known]
      by_cases anchor : tag = "a"
      · rw [if_pos anchor, if_pos anchor, anchor, Builder.openAnchor]
        by_cases safe : isSafeHref U (hrefOf attrs) = true
        · rw [if_pos safe, if_pos safe]
          exact ⟨rfl, rfl⟩
        · rw [if_neg safe, if_neg safe]
          exact ⟨rfl, rfl⟩
      · rw [if_neg anchor, if_neg anchor]
        exact ⟨rfl, rfl⟩
    · rw [if_neg known, if_neg known]
      exact ⟨rfl, rfl⟩

theorem openTag_deep (deep : maxDepth ≤ b.depth) (void : Bool) :
    b.openTag U tag attrs void = b.bumpDowngrade tag := by
  rw [Builder.openTag, if_pos deep]

/-- A tag that opens a frame. -/
theorem openTag_frame (U : UnicodeData) (tag : String) (attrs : Attrs)
    (shallow : b.depth < maxDepth) :
    ∃ kind children, (b.openTag U tag attrs false).stack = ⟨tag, kind, children⟩ :: b.stack ∧
      match label U tag attrs with
      | some href => children = b.currentChildren + 1 ∧
        (b.openTag U tag attrs false).nodes =
          appendAt (.element tag href []) b.currentChildren b.nodes
      | none => children = b.currentChildren ∧ (b.openTag U tag attrs false).nodes = b.nodes := by
  unfold Builder.openTag label
  rw [if_neg (not_le.mpr shallow)]
  by_cases known : tag ∈ allowedTags
  · rw [if_pos known, if_pos known]
    by_cases anchor : tag = "a"
    · rw [if_pos anchor, if_pos anchor, anchor, Builder.openAnchor]
      by_cases safe : isSafeHref U (hrefOf attrs) = true
      · rw [if_pos safe, if_pos safe]
        exact ⟨_, _, rfl, rfl, rfl⟩
      · rw [if_neg safe, if_neg safe]
        exact ⟨_, _, rfl, rfl, rfl⟩
    · rw [if_neg anchor, if_neg anchor]
      exact ⟨_, _, rfl, rfl, rfl⟩
  · rw [if_neg known, if_neg known]
    exact ⟨_, _, rfl, rfl, rfl⟩

theorem handleEndtag_nodes : (b.handleEndtag tag).nodes = b.nodes := by
  unfold Builder.handleEndtag
  split
  · rfl
  · rfl

theorem handleEndtag_top {kind : Kind} {children : ℕ} {below : List Frame}
    (top : b.stack = ⟨tag, kind, children⟩ :: below) : (b.handleEndtag tag).stack = below := by
  unfold Builder.handleEndtag
  rw [top, List.dropWhile_cons_of_neg]
  rw [decide_eq_true_eq]
  exact not_not_intro rfl

theorem handleEndtag_absent (absent : tag ∉ b.stack.map Frame.tag) :
    b.handleEndtag tag = b := by
  have dropped : b.stack.dropWhile (fun frame => frame.tag ≠ tag) = [] := by
    rw [List.dropWhile_eq_nil_iff]
    intro frame mem
    rw [decide_eq_true_eq]
    rintro rfl
    exact absent (List.mem_map_of_mem mem)
  rw [Builder.handleEndtag, dropped]

theorem handleData_blank {data : List Char} (blank : data.all isSpace = true) :
    b.handleData data = b := by
  rw [Builder.handleData, if_pos blank, ite_self]

theorem handleData_text {data : List Char} (text : ¬ data.all isSpace = true) :
    b.handleData data = b.append (.text data) := by
  rw [Builder.handleData, if_neg (ne_nil_of_text text), if_neg text]

/-! ## A well-nested stream -/

theorem depth_lt_iff {d : ℕ} (deep : b.depth = min d maxDepth) :
    b.depth < maxDepth ↔ d < maxDepth := by
  rw [deep]
  omega

/-- A stream leaves the stack as it was and appends the nodes of what stays. -/
def Walks (U : UnicodeData) (b : Builder) (d : ℕ) (m : Markup) : Prop :=
  (m.tokens.foldl (Builder.handle U) b).stack = b.stack ∧
    (m.tokens.foldl (Builder.handle U) b).nodes =
      appendAll (m.kept U d) b.currentChildren b.nodes

/-- A void tag before a stream puts its node, if it stays, before those of the stream. -/
theorem foldl_void {d : ℕ} {next : Markup} (deep : b.depth = min d maxDepth)
    (rest : Walks U (b.openTag U tag attrs true) d next) :
    (next.tokens.foldl (Builder.handle U) (b.openTag U tag attrs true)).stack = b.stack ∧
      (next.tokens.foldl (Builder.handle U) (b.openTag U tag attrs true)).nodes =
        appendAll
          (match if d < maxDepth then label U tag attrs else none with
            | some href => .void tag href :: next.kept U d
            | none => next.kept U d) b.currentChildren b.nodes := by
  have ⟨same, made⟩ := openTag_void U b tag attrs
  refine ⟨rest.1.trans same, ?_⟩
  rw [rest.2, Builder.currentChildren, same, made]
  simp only [depth_lt_iff deep]
  cases if d < maxDepth then label U tag attrs else none with
  | none => rfl
  | some href => rfl

/-- The end tag of an element below the cap closes the frame of its start tag. -/
theorem handleEndtag_walked {d : ℕ} {inner : Markup} (shallow : b.depth < maxDepth)
    (walked : Walks U (b.openTag U tag attrs false) d inner) :
    ((inner.tokens.foldl (Builder.handle U) (b.openTag U tag attrs false)).handleEndtag tag).stack =
      b.stack := by
  have ⟨kind, children, framed, _⟩ := openTag_frame U tag attrs shallow
  exact handleEndtag_top (walked.1.trans framed)

/-- What an element below the cap adds: its node with what stays inside, or only the latter. -/
theorem foldl_shallow {d : ℕ} {inner next : Markup} (shallow : b.depth < maxDepth)
    (walked : Walks U (b.openTag U tag attrs false) (d + 1) inner)
    (rest : Walks U
      ((inner.tokens.foldl (Builder.handle U) (b.openTag U tag attrs false)).handleEndtag tag)
      d next) :
    (next.tokens.foldl (Builder.handle U) ((inner.tokens.foldl (Builder.handle U)
        (b.openTag U tag attrs false)).handleEndtag tag)).nodes =
      appendAll
        (match label U tag attrs with
          | some href => .element tag href (inner.kept U (d + 1)) :: next.kept U d
          | none => inner.kept U (d + 1) ++ next.kept U d) b.currentChildren b.nodes := by
  have ⟨kind, children, framed, made⟩ := openTag_frame U tag attrs shallow
  have closed := handleEndtag_walked shallow walked
  rw [rest.2, handleEndtag_nodes, walked.2, Builder.currentChildren, closed]
  rw [Builder.currentChildren, framed, List.head?_cons, Option.map_some, Option.getD_some]
  cases stays : label U tag attrs with
  | some href =>
    rw [stays] at made
    rw [made.1, made.2, appendAll_inside, List.nil_append]
    rfl
  | none =>
    rw [stays] at made
    rw [made.1, made.2, appendAll, appendAll, appendAll, List.foldl_append]
    rfl

/-- Where no element beyond the cap has the tag of an open one, every stream walks. -/
theorem foldl_tokens (m : Markup) (b : Builder) (d : ℕ) (deep : b.depth = min d maxDepth)
    (inside : m.contained (b.stack.map Frame.tag) = true) : Walks U b d m := by
  induction m generalizing b d with
  | empty => exact ⟨rfl, rfl⟩
  | text data next ih =>
    rw [Walks, Markup.tokens, List.foldl_cons, Markup.kept]
    change (next.tokens.foldl (Builder.handle U) (b.handleData data)).stack = b.stack ∧
      (next.tokens.foldl (Builder.handle U) (b.handleData data)).nodes = _
    by_cases blank : data.all isSpace = true
    · rw [handleData_blank blank, if_pos blank]
      exact ih b d deep inside
    · rw [handleData_text blank, if_neg blank]
      exact ih (b.append (.text data)) d deep inside
  | void tag attrs known next ih =>
    rw [Walks, Markup.tokens, List.foldl_cons, Markup.kept]
    change (next.tokens.foldl (Builder.handle U)
        (b.openTag U tag attrs (decide (tag ∈ html5Void)))).stack = b.stack ∧
      (next.tokens.foldl (Builder.handle U)
        (b.openTag U tag attrs (decide (tag ∈ html5Void)))).nodes = _
    rw [decide_eq_true known]
    apply foldl_void deep
    apply ih
    · rw [Builder.depth, (openTag_void U b tag attrs).1]
      exact deep
    · rw [(openTag_void U b tag attrs).1]
      exact inside
  | selfClosing tag attrs next ih =>
    rw [Walks, Markup.tokens, List.foldl_cons, Markup.kept]
    apply foldl_void deep
    apply ih
    · rw [Builder.depth, (openTag_void U b tag attrs).1]
      exact deep
    · rw [(openTag_void U b tag attrs).1]
      exact inside
  | element tag attrs other inner next innerIh nextIh =>
    have depth : b.stack.length = min d maxDepth := deep
    rw [Markup.contained, Bool.and_eq_true, List.length_map] at inside
    rw [Walks, Markup.tokens, List.cons_append, List.foldl_cons, List.foldl_append,
      List.foldl_cons, Markup.kept]
    change (next.tokens.foldl (Builder.handle U) ((inner.tokens.foldl (Builder.handle U)
        (b.openTag U tag attrs (decide (tag ∈ html5Void)))).handleEndtag tag)).stack = b.stack ∧
      (next.tokens.foldl (Builder.handle U) ((inner.tokens.foldl (Builder.handle U)
        (b.openTag U tag attrs (decide (tag ∈ html5Void)))).handleEndtag tag)).nodes = _
    rw [decide_eq_false other]
    by_cases shallow : b.stack.length < maxDepth
    · have within := inside.1
      rw [if_pos shallow] at within
      have ⟨kind, children, framed, _⟩ := openTag_frame U tag attrs shallow
      have walked := innerIh (b.openTag U tag attrs false) (d + 1)
        (by rw [Builder.depth, framed, List.length_cons]; omega)
        (by rw [framed, List.map_cons]; exact within)
      have closed := handleEndtag_walked shallow walked
      have rest := nextIh ((inner.tokens.foldl (Builder.handle U)
        (b.openTag U tag attrs false)).handleEndtag tag) d
        (by rw [Builder.depth, closed]; exact deep) (by rw [closed]; exact inside.2)
      refine ⟨rest.1.trans closed, ?_⟩
      rw [if_pos ((depth_lt_iff deep).mp shallow)]
      exact foldl_shallow shallow walked rest
    · have beyond := inside.1
      rw [if_neg shallow, Bool.and_eq_true, decide_eq_true_eq] at beyond
      have walked := innerIh (b.bumpDowngrade tag) (d + 1)
        (by change b.stack.length = _; omega) beyond.2
      have absent : tag ∉ ((inner.tokens.foldl (Builder.handle U)
          (b.bumpDowngrade tag)).stack).map Frame.tag := by
        rw [walked.1]
        exact beyond.1
      rw [openTag_deep (not_lt.mp shallow), handleEndtag_absent absent]
      have rest := nextIh (inner.tokens.foldl (Builder.handle U) (b.bumpDowngrade tag)) d
        (by rw [Builder.depth, walked.1]; exact deep) (by rw [walked.1]; exact inside.2)
      refine ⟨rest.1.trans walked.1, ?_⟩
      rw [rest.2, walked.2, Builder.currentChildren, walked.1,
        if_neg (mt (depth_lt_iff deep).mpr shallow)]
      dsimp only
      rw [appendAll, appendAll, appendAll, List.foldl_append]
      rfl

/-! ## Any stream -/

/-- What every stream of tokens keeps. -/
structure Builder.Sound (b : Builder) : Prop where
  reaches : Reaches b.currentChildren b.nodes
  /-- Inner frames lie no higher in the tree. -/
  nested : (b.stack.map Frame.children).Pairwise (· ≥ ·)
  allowed : ∀ tag ∈ tagsOf b.nodes, tag ∈ allowedTags

/-- The builder is sound and has come to hold `text` besides. -/
def Builder.Grows (b next : Builder) (text : List Char) : Prop :=
  next.Sound ∧ contentOf next.nodes = contentOf b.nodes ++ text

theorem head_ge (sound : b.Sound) : ∀ frame ∈ b.stack, frame.children ≤ b.currentChildren := by
  have nested := sound.nested
  rw [Builder.currentChildren]
  cases stack : b.stack with
  | nil => exact fun _ mem => absurd mem List.not_mem_nil
  | cons top below =>
    rw [stack, List.map_cons, List.pairwise_cons] at nested
    intro frame mem
    rcases List.mem_cons.mp mem with rfl | under
    · exact Nat.le_refl _
    · exact nested.1 _ (List.mem_map_of_mem under)

theorem append_grows (sound : b.Sound) (node : Node) (known : ∀ tag ∈ node.tags, tag ∈ allowedTags) :
    b.Grows (b.append node) node.content := by
  refine ⟨⟨reaches_appendAt sound.reaches, sound.nested, ?_⟩, contentOf_appendAt sound.reaches⟩
  intro tag mem
  exact (mem_tagsOf_appendAt mem).elim (sound.allowed tag) (known tag)

theorem push_sound {kind : Kind} {children : ℕ} (sound : b.Sound)
    (reaches : Reaches children b.nodes) (inner : b.currentChildren ≤ children) :
    (b.push tag kind children).Sound := by
  refine ⟨reaches, ?_, sound.allowed⟩
  rw [Builder.push, List.map_cons, List.pairwise_cons]
  refine ⟨fun depth mem => ?_, sound.nested⟩
  have ⟨frame, under, same⟩ := List.mem_map.mp mem
  rw [← same]
  exact (head_ge sound frame under).trans inner

theorem keep_grows (sound : b.Sound) (known : tag ∈ allowedTags) (href : Option (List Char))
    (void : Bool) : b.Grows (b.keep tag href void) [] := by
  have only : ∀ t ∈ [tag], t ∈ allowedTags := by
    intro t mem
    rw [List.mem_singleton.mp mem]
    exact known
  cases void with
  | true => exact append_grows sound (.void tag href) only
  | false =>
    have grown := append_grows sound (.element tag href []) only
    exact ⟨push_sound grown.1 (reaches_element tag href [] sound.reaches) (Nat.le_succ _), grown.2⟩

theorem drop_grows (sound : b.Sound) (kind : Kind) (void : Bool) :
    b.Grows (b.drop tag kind void) [] := by
  have bumped : (b.bumpDowngrade tag).Sound := ⟨sound.reaches, sound.nested, sound.allowed⟩
  have same : contentOf b.nodes = contentOf b.nodes ++ [] := (List.append_nil _).symm
  cases void with
  | true => exact ⟨bumped, same⟩
  | false => exact ⟨push_sound bumped sound.reaches (Nat.le_refl _), same⟩

theorem openTag_grows (sound : b.Sound) (void : Bool) :
    b.Grows (b.openTag U tag attrs void) [] := by
  rw [Builder.openTag]
  split_ifs with deep known anchor
  · exact drop_grows sound .unwrap true
  · rw [Builder.openAnchor]
    split_ifs
    · have grown := keep_grows sound (show "a" ∈ allowedTags by decide) (some (hrefOf attrs)) void
      exact ⟨⟨grown.1.reaches, grown.1.nested, grown.1.allowed⟩, grown.2⟩
    · exact drop_grows sound .collapse void
  · exact keep_grows sound known none void
  · exact drop_grows sound .unwrap void

theorem handleEndtag_sound (sound : b.Sound) : (b.handleEndtag tag).Sound := by
  unfold Builder.handleEndtag
  split
  · exact sound
  · rename_i top below dropped
    have suffix : top :: below <:+ b.stack := by
      rw [← dropped]
      exact List.dropWhile_suffix _
    have under : below <:+ b.stack := (List.suffix_cons top below).trans suffix
    refine ⟨sound.reaches.of_le ?_, ?_, sound.allowed⟩
    · rw [Builder.currentChildren]
      cases below with
      | nil => exact Nat.zero_le _
      | cons frame below => exact head_ge sound frame (under.subset List.mem_cons_self)
    · exact sound.nested.sublist (under.map _).sublist

/-- The text of a token. -/
def Token.pieces : Token → List (List Char)
  | .data text => [text]
  | _ => []

theorem handle_grows (sound : b.Sound) (token : Token) :
    b.Grows (b.handle U token) (shown isSpace token.pieces).flatten := by
  cases token with
  | starttag tag attrs => exact openTag_grows sound _
  | startendtag tag attrs => exact openTag_grows sound _
  | endtag tag =>
    refine ⟨handleEndtag_sound sound, ?_⟩
    change contentOf (b.handleEndtag tag).nodes = _
    rw [handleEndtag_nodes]
    exact (List.append_nil _).symm
  | data text =>
    change b.Grows (b.handleData text) _
    by_cases blank : text.all isSpace = true
    · rw [handleData_blank blank, Token.pieces, shown_blank blank]
      exact ⟨sound, (List.append_nil _).symm⟩
    · rw [handleData_text blank, Token.pieces, shown_cons blank]
      have grown := append_grows sound (.text text) fun _ mem => absurd mem List.not_mem_nil
      rw [Node.content] at grown
      rw [List.flatten_cons]
      change b.Grows _ (text ++ [])
      rw [List.append_nil]
      exact grown

theorem foldl_grows (tokens : List Token) (sound : b.Sound) :
    b.Grows (tokens.foldl (Builder.handle U) b)
      (shown isSpace (tokens.flatMap Token.pieces)).flatten := by
  induction tokens generalizing b with
  | nil => exact ⟨sound, (List.append_nil _).symm⟩
  | cons token tokens ih =>
    have step := handle_grows (U := U) sound token
    have rest := ih step.1
    refine ⟨rest.1, ?_⟩
    rw [List.foldl_cons, rest.2, step.2, List.flatMap_cons, shown, shown, shown,
      List.filter_append, List.flatten_append, List.append_assoc]

theorem pieces_tokens (m : Markup) : m.tokens.flatMap Token.pieces = m.pieces := by
  induction m with
  | empty => rfl
  | text data next ih =>
    rw [Markup.tokens, List.flatMap_cons, ih]
    rfl
  | void tag attrs known next ih => exact ih
  | selfClosing tag attrs next ih => exact ih
  | element tag attrs other inner next innerIh nextIh =>
    rw [Markup.tokens, List.cons_append, List.flatMap_cons, List.flatMap_append,
      List.flatMap_cons, innerIh, nextIh]
    rfl

theorem sound_start : ({} : Builder).Sound :=
  ⟨trivial, List.Pairwise.nil, fun _ mem => absurd mem List.not_mem_nil⟩

/-- The built nodes hold the texts that are not blank, in their order. -/
theorem contentOf_build (U : UnicodeData) (m : Markup) :
    contentOf (build U m.tokens).nodes = (shown isSpace m.pieces).flatten := by
  have grown := (foldl_grows (U := U) m.tokens sound_start).2
  rw [pieces_tokens] at grown
  exact grown

theorem tags_build (U : UnicodeData) (tokens : List Token) :
    ∀ tag ∈ tagsOf (build U tokens).nodes, tag ∈ allowedTags :=
  (foldl_grows tokens sound_start).1.allowed

end Steps

/-! ## What stays of a stream -/

section Streams
variable {U : UnicodeData}

/-- An `a` that stays is one with a safe link, below the cap. -/
theorem stays_some {tag : String} {attrs : Attrs} {d : ℕ} {href : Option (List Char)}
    (stays : (if d < maxDepth then label U tag attrs else none) = some href) :
    (d < maxDepth ∧ tag = "a" ∧ isSafeHref U (hrefOf attrs) = true ↔ tag = "a") ∧
      (tag = "a" → href = some (hrefOf attrs)) := by
  split_ifs at stays with below
  have anchored : tag = "a" → isSafeHref U (hrefOf attrs) = true ∧ href = some (hrefOf attrs) := by
    intro anchor
    rw [label, anchor, if_pos (by decide), if_pos rfl] at stays
    split_ifs at stays with safe
    exact ⟨safe, (Option.some.inj stays).symm⟩
  exact ⟨⟨fun link => link.2.1, fun anchor => ⟨below, anchor, (anchored anchor).1⟩⟩,
    fun anchor => (anchored anchor).2⟩

theorem stays_none {tag : String} {attrs : Attrs} {d : ℕ}
    (dropped : (if d < maxDepth then label U tag attrs else none) = none) :
    ¬ (d < maxDepth ∧ tag = "a" ∧ isSafeHref U (hrefOf attrs) = true) := by
  rintro ⟨below, anchor, safe⟩
  rw [if_pos below, label, anchor, if_pos (by decide), if_pos rfl, if_pos safe] at dropped
  exact Option.some_ne_none _ dropped

theorem label_void {tag : String} (void : tag ∈ html5Void) : tag ≠ "a" := by
  rintro rfl
  exact absurd void (by decide)

theorem outlineOf_kept (m : Markup) (d : ℕ) : outlineOf (m.kept U d) = m.outline U d := by
  induction m generalizing d with
  | empty => rfl
  | text data next ih =>
    rw [Markup.kept, Markup.outline]
    split_ifs
    · exact ih d
    · rw [outlineOf, Node.outline, List.nil_append, ih]
  | void tag attrs known next ih =>
    rw [Markup.kept, Markup.outline]
    cases if d < maxDepth then label U tag attrs else none with
    | none => exact ih d
    | some href =>
      change [Node.void tag href] ++ outlineOf (next.kept U d) = _
      rw [ih]
      rfl
  | selfClosing tag attrs next ih =>
    rw [Markup.kept, Markup.outline]
    cases if d < maxDepth then label U tag attrs else none with
    | none => exact ih d
    | some href =>
      change [Node.void tag href] ++ outlineOf (next.kept U d) = _
      rw [ih]
      rfl
  | element tag attrs other inner next innerIh nextIh =>
    rw [Markup.kept, Markup.outline]
    cases if d < maxDepth then label U tag attrs else none with
    | none =>
      change outlineOf (inner.kept U (d + 1) ++ next.kept U d) = _
      rw [outlineOf_append, innerIh, nextIh]
    | some href =>
      change [Node.element tag href (outlineOf (inner.kept U (d + 1)))] ++
        outlineOf (next.kept U d) = _
      rw [innerIh, nextIh]
      rfl

theorem contentOf_kept (m : Markup) (d : ℕ) :
    contentOf (m.kept U d) = (shown isSpace m.pieces).flatten := by
  induction m generalizing d with
  | empty => rfl
  | text data next ih =>
    rw [Markup.kept, Markup.pieces]
    by_cases blank : data.all isSpace = true
    · rw [if_pos blank, shown_blank blank, ih]
    · rw [if_neg blank, shown_cons blank, contentOf, Node.content, ih, List.flatten_cons]
  | void tag attrs known next ih =>
    rw [Markup.kept, Markup.pieces]
    cases if d < maxDepth then label U tag attrs else none with
    | none => exact ih d
    | some href => exact ih d
  | selfClosing tag attrs next ih =>
    rw [Markup.kept, Markup.pieces]
    cases if d < maxDepth then label U tag attrs else none with
    | none => exact ih d
    | some href => exact ih d
  | element tag attrs other inner next innerIh nextIh =>
    have both : (shown isSpace (inner.pieces ++ next.pieces)).flatten =
        contentOf (inner.kept U (d + 1)) ++ contentOf (next.kept U d) := by
      rw [innerIh, nextIh, shown, shown, shown, List.filter_append, List.flatten_append]
    rw [Markup.kept, Markup.pieces, both]
    cases if d < maxDepth then label U tag attrs else none with
    | none => exact contentOf_append _ _
    | some href => rfl

/-- A link with the words inside it. -/
def linkWords (link : List Char × List Char) : List Char × List (List Char) :=
  (link.1, words isSpace link.2)

theorem linksOf_kept (m : Markup) (d : ℕ) {inside pending : Bool}
    (apart : separated isSpace inside pending m.pieces = true) :
    (linksOf (m.kept U d)).map linkWords = (m.links U d).map linkWords := by
  induction m generalizing d inside pending with
  | empty => rfl
  | text data next ih =>
    rw [Markup.kept, Markup.links]
    have rest : separated isSpace false false next.pieces = true :=
      separated_right (show separated isSpace inside pending ([data] ++ next.pieces) = true from apart)
    split_ifs
    · exact ih d rest
    · exact ih d rest
  | void tag attrs known next ih =>
    rw [Markup.kept, Markup.links]
    cases if d < maxDepth then label U tag attrs else none with
    | none => exact ih d apart
    | some href =>
      change ((Node.void tag href).links ++ linksOf (next.kept U d)).map linkWords = _
      rw [Node.links, if_neg (label_void known), List.nil_append]
      exact ih d apart
  | selfClosing tag attrs next ih =>
    rw [Markup.kept, Markup.links]
    cases stays : if d < maxDepth then label U tag attrs else none with
    | none =>
      rw [if_neg (stays_none stays)]
      exact ih d apart
    | some href =>
      change ((Node.void tag href).links ++ linksOf (next.kept U d)).map linkWords = _
      simp only [(stays_some stays).1]
      rw [Node.links]
      by_cases anchor : tag = "a"
      · rw [if_pos anchor, if_pos anchor, (stays_some stays).2 anchor, List.singleton_append,
          List.map_cons, List.map_cons, ih d apart]
        rfl
      · rw [if_neg anchor, if_neg anchor, List.nil_append, ih d apart]
  | element tag attrs other inner next innerIh nextIh =>
    have within : separated isSpace inside pending inner.pieces = true := separated_left apart
    have after : separated isSpace false false next.pieces = true := separated_right apart
    rw [Markup.kept, Markup.links, List.map_append, List.map_append, ← innerIh (d + 1) within,
      ← nextIh d after]
    cases stays : if d < maxDepth then label U tag attrs else none with
    | none =>
      rw [if_neg (stays_none stays)]
      dsimp only
      rw [linksOf_append, List.map_append]
      rfl
    | some href =>
      change ((Node.element tag href (inner.kept U (d + 1))).links ++
        linksOf (next.kept U d)).map linkWords = _
      simp only [(stays_some stays).1]
      rw [Node.links, List.map_append, List.map_append, List.append_assoc]
      by_cases anchor : tag = "a"
      · have words_same := (words_shown_iff inner.pieces).mpr (separated_weaken within)
        rw [if_pos anchor, if_pos anchor, (stays_some stays).2 anchor, contentOf_kept]
        rw [List.map_singleton, List.map_singleton, linkWords, linkWords, words_same]
        rfl
      · rw [if_neg anchor, if_neg anchor]

/-! ## No words and no links lost -/

/-- What the nodes have to say about the stream that they are built from. -/
structure Lossless (U : UnicodeData) (m : Markup) (nodes : List Node) : Prop where
  words : words isSpace (contentOf nodes) = words isSpace m.content
  links : (linksOf nodes).map linkWords = (m.links U 0).map linkWords
  tags : ∀ tag ∈ tagsOf nodes, tag ∈ allowedTags
  nesting : outlineOf nodes = m.outline U 0

/-- The blank texts of the stream part no words. -/
def Markup.separated (m : Markup) : Bool := Words.separated isSpace false false m.pieces

theorem nodes_build {m : Markup} (inside : m.contained [] = true) :
    (build U m.tokens).nodes = m.kept U 0 := by
  have built := (foldl_tokens (U := U) m {} 0 rfl inside).2
  rw [build, built]
  exact appendAll_zero _ _

/-- **Nothing lost.** Where no element beyond the depth cap has the tag of an element around it, a
well-nested stream loses nothing if and only if its blank texts part no words. -/
theorem lossless_iff (U : UnicodeData) (m : Markup) :
    (m.contained [] = true → (Lossless U m (build U m.tokens).nodes ↔ m.separated = true)) ∧
      (Lossless U m (build U m.tokens).nodes → m.separated = true) := by
  have words_iff : words isSpace (contentOf (build U m.tokens).nodes) =
      words isSpace m.content ↔ m.separated = true := by
    rw [contentOf_build]
    exact words_shown_iff m.pieces
  refine ⟨fun inside => ⟨fun whole => words_iff.mp whole.words, fun apart => ?_⟩,
    fun whole => words_iff.mp whole.words⟩
  refine ⟨words_iff.mpr apart, ?_, tags_build U m.tokens, ?_⟩
  · rw [nodes_build inside]
    exact linksOf_kept m 0 apart
  · rw [nodes_build inside]
    exact outlineOf_kept m 0

end Streams

def linkTo (href : String) (inner next : Markup) : Markup :=
  .element "a" [("title", none), ("href", some href.toList)] (by decide) inner next

def inBold (inner next : Markup) : Markup := .element "b" [] (by decide) inner next

/-- `<p>See <a href=" tel:1 ">the <b>site</b></a><br><i>!</i></p>` and a line end. -/
def sentence : Markup :=
  .element "p" [] (by decide)
    (.text "See ".toList <|
      linkTo " tel:1 " (.text "the ".toList <| inBold (.text "site".toList .empty) .empty) <|
      .void "br" [] (by decide) <|
      .element "i" [] (by decide) (.text "!".toList .empty) .empty)
    (.text "\n".toList .empty)

theorem lossless_iff_sentence :
    Lossless asciiData sentence (build asciiData sentence.tokens).nodes :=
  ((lossless_iff asciiData sentence).1 (by decide +kernel)).mpr (by decide +kernel)

/-- `<b>a</b> <em>b</em>` -/
def spacedWords : Markup :=
  inBold (.text "a".toList .empty) <| .text " ".toList <|
    .element "em" [] (by decide) (.text "b".toList .empty) .empty

/-- A link at the greatest depth, with another link and a word inside it. -/
def deepLink : Markup :=
  (List.replicate 29 ()).foldr (fun _ m => inBold m .empty)
    (linkTo "tel:1" (linkTo "tel:2" (.text "x ".toList .empty) (.text "y".toList .empty)) .empty)

/-- The space between two elements is lost, and the end of a link beyond the cap ends the one around
it. -/
theorem words_and_links_lost :
    (words isSpace (contentOf (build asciiData spacedWords.tokens).nodes) = ["ab".toList] ∧
      words isSpace spacedWords.content = ["a".toList, "b".toList] ∧
      ¬ Lossless asciiData spacedWords (build asciiData spacedWords.tokens).nodes) ∧
    (linksOf (build asciiData deepLink.tokens).nodes = [("tel:1".toList, "x ".toList)] ∧
      deepLink.links asciiData 0 = [("tel:1".toList, "x y".toList)] ∧
      ¬ Lossless asciiData deepLink (build asciiData deepLink.tokens).nodes) := by
  refine ⟨⟨by decide +kernel, by decide +kernel, fun whole => ?_⟩,
    ⟨by decide +kernel, by decide +kernel, fun whole => ?_⟩⟩
  · exact absurd whole.words (by decide +kernel)
  · exact absurd whole.links (by decide +kernel)

end BacklinkPublisher.TelegraphNodes
