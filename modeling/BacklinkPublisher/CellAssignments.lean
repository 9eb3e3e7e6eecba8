import BacklinkPublisher.PlanRows

set_option autoImplicit false

/-!
# Cell assignments

`_parse_cell_assignments` of `config/parsers/cells.py`, which reads the channels of every site, and
the gate of `plan_rows` that keeps a site to them.
-/
namespace BacklinkPublisher.CellAssignments
open JsonValues OrderedDicts OutputSchema SortedLists
open PlanRows (cellGateDrop)

abbrev Cells := List (String × List String)

/-- Which key has claimed a channel. -/
abbrev Claimed := List (String × String)

/-! ## The parser -/

def asText : Json → Option String
  | .text s => some s
  | _ => none

/-- A list of texts. -/
def asTexts : Json → Option (List String)
  | .array items => items.mapM asText
  | _ => none

section Parser
variable (host : SchemaHost)

/-- The loop over the channels of a key. An error is an `InputValidationError` with its text. -/
def claimChannels (rawDomain : String) :
    List String → Claimed × List String → Except String (Claimed × List String)
  | [], state => .ok state
  | ch :: rest, (claimed, channels) =>
    if ch ∉ host.registeredPlatforms then
      let shown := host.repr (.text ch)
      let known := host.repr (.array ((sortedBy id host.registeredPlatforms.dedup).map .text))
      .error (s!"[cells.\"{rawDomain}\"].channels: unknown channel {shown} " ++
        "(not in registered_platforms()). " ++ s!"Check for a typo; known channels: {known}")
    else
      match lookup Prod.fst ch claimed with
      | some (_, first) =>
        let shown := host.repr (.text ch)
        .error (s!"[cells] overlap: channel {shown} is assigned to both \"{first}\" and " ++
          s!"\"{rawDomain}\". Each channel must belong to at most one cell — " ++
          "a shared channel defeats containment.")
      | none => claimChannels rawDomain rest (claimed ++ [(ch, rawDomain)], channels ++ [ch])

/-- One turn of the loop over the table. -/
def parseEntry (state : Claimed × Cells) (entry : String × Json) :
    Except String (Claimed × Cells) :=
  let (rawDomain, value) := entry
  let domain := stripSlashes rawDomain
  match value with
  | .object fields =>
    match get "channels" fields with
    | none | some .null => .ok (state.1, put Prod.fst (domain, []) state.2)
    | some channelsRaw =>
      match asTexts channelsRaw with
      | none => .error s!"[cells.\"{rawDomain}\"].channels must be a list of strings"
      | some texts => do
        let (claimed, channels) ← claimChannels host rawDomain texts (state.1, [])
        return (claimed, put Prod.fst (domain, channels) state.2)
  | value =>
    let got := host.typeName value
    .error s!"[cells.\"{rawDomain}\"] must be a table, got {got}"

def parseCellAssignments : Json → Except String Cells
  | .null => .ok []
  | .object table => do
    let (_, result) ← table.foldlM (parseEntry host) ([], [])
    return result
  | cellsSection =>
    let got := host.typeName cellsSection
    .error s!"[cells] must be a table of tables, got {got}"

end Parser

/-! ## What the operator wrote -/

/-- The channels that are listed under a key. -/
def channelsOf (entry : String × Json) : List String :=
  ((entry.2.asObject.bind (get "channels")).bind asTexts).getD []

/-- The keys that are equal up to trailing slashes. -/
def SameSite (key other : String) : Prop := stripSlashes key = stripSlashes other

structure Contained (table : Fields) (cells : Cells) : Prop where
  disjoint : cells.Pairwise fun cell other => ∀ ch ∈ cell.2, ch ∉ other.2
  listed : ∀ entry ∈ table, ∀ ch ∈ channelsOf entry,
    ∃ channels, cells.lookup (stripSlashes entry.1) = some channels ∧ ch ∈ channels
  gate : ∀ mainDomain platform, cellGateDrop mainDomain platform cells = true ↔
    (∃ entry ∈ table, SameSite entry.1 mainDomain) ∧
      ∀ entry ∈ table, SameSite entry.1 mainDomain → platform ∉ channelsOf entry

/-- Of the keys that are equal up to trailing slashes only the last one lists channels. -/
def LastLists (table : Fields) : Prop :=
  table.Pairwise fun entry later => SameSite entry.1 later.1 → channelsOf entry = []

/-! ## What the parser accepts -/

variable {host : SchemaHost} {table : Fields} {cells : Cells}

/-- Every channel is claimed once. -/
def Once (claimed : Claimed) : Prop := (claimed.map Prod.fst).Nodup

theorem claimChannels_ok {rawDomain : String} {texts channels channels' : List String}
    {claimed claimed' : Claimed} (once : Once claimed)
    (ok : claimChannels host rawDomain texts (claimed, channels) = .ok (claimed', channels')) :
    channels' = channels ++ texts ∧ claimed'.map Prod.fst = claimed.map Prod.fst ++ texts ∧
      Once claimed' := by
  induction texts generalizing claimed channels with
  | nil =>
    cases ok
    exact ⟨(List.append_nil _).symm, (List.append_nil _).symm, once⟩
  | cons ch rest ih =>
    unfold claimChannels at ok
    dsimp only at ok
    split_ifs at ok
    split at ok
    · cases ok
    · rename_i fresh
      have once' : Once (claimed ++ [(ch, rawDomain)]) := by
        unfold Once
        rw [List.map_append, List.map_singleton, ← List.concat_eq_append]
        exact once.concat (not_mem_keys_of_lookup fresh)
      have ⟨listed, names, still⟩ := ih once' ok
      refine ⟨?_, ?_, still⟩
      · rw [listed, List.append_assoc]
        rfl
      · rw [names, List.map_append, List.append_assoc]
        rfl

theorem parseEntry_ok {state state' : Claimed × Cells} {entry : String × Json}
    (once : Once state.1) (ok : parseEntry host state entry = .ok state') :
    state'.2 = put Prod.fst (stripSlashes entry.1, channelsOf entry) state.2 ∧
      state'.1.map Prod.fst = state.1.map Prod.fst ++ channelsOf entry ∧ Once state'.1 := by
  have ⟨rawDomain, value⟩ := entry
  unfold parseEntry at ok
  dsimp only at ok
  split at ok
  · rename_i fields
    unfold channelsOf Json.asObject
    dsimp only
    rw [Option.bind_some]
    split at ok
    · rename_i missing
      cases ok
      rw [missing]
      exact ⟨rfl, (List.append_nil _).symm, once⟩
    · rename_i null
      cases ok
      rw [null]
      exact ⟨rfl, (List.append_nil _).symm, once⟩
    · rename_i channelsRaw _ read
      rw [read, Option.bind_some]
      split at ok
      · cases ok
      · rename_i texts made
        cases claim : claimChannels host rawDomain texts (state.1, []) with
        | error text =>
          rw [claim] at ok
          cases ok
        | ok claims =>
          rw [claim] at ok
          cases ok
          have ⟨listed, names, still⟩ := claimChannels_ok once claim
          rw [made, Option.getD_some]
          refine ⟨?_, names, still⟩
          dsimp only
          rw [listed, List.nil_append]
  · cases ok

/-- What the loop makes of the table. -/
def assigned (table : Fields) : Cells :=
  table.map fun entry => (stripSlashes entry.1, channelsOf entry)

theorem parseTable_ok {state state' : Claimed × Cells}
    (ok : table.foldlM (parseEntry host) state = .ok state') (once : Once state.1) :
    state'.2 = (assigned table).foldl (fun held cell => put Prod.fst cell held) state.2 ∧
      state'.1.map Prod.fst = state.1.map Prod.fst ++ table.flatMap channelsOf ∧
      Once state'.1 := by
  induction table generalizing state with
  | nil =>
    cases ok
    exact ⟨rfl, (List.append_nil _).symm, once⟩
  | cons entry table ih =>
    rw [List.foldlM_cons] at ok
    cases step : parseEntry host state entry with
    | error text =>
      rw [step] at ok
      cases ok
    | ok next =>
      rw [step] at ok
      have ⟨put', names', once'⟩ := parseEntry_ok once step
      have ⟨puts, names, still⟩ := ih ok once'
      refine ⟨?_, ?_, still⟩
      · rw [puts, put']
        rfl
      · rw [names, names', List.flatMap_cons, List.append_assoc]

/-- The entries are put one after the other, and no channel is listed twice. -/
theorem parse_ok (accepted : parseCellAssignments host (.object table) = .ok cells) :
    cells = (assigned table).foldl (fun held cell => put Prod.fst cell held) [] ∧
      (table.flatMap channelsOf).Nodup := by
  unfold parseCellAssignments at accepted
  dsimp only at accepted
  cases run : table.foldlM (parseEntry host) ([], []) with
  | error text =>
    rw [run] at accepted
    cases accepted
  | ok state =>
    rw [run] at accepted
    cases accepted
    have ⟨puts, names, once⟩ := parseTable_ok run List.nodup_nil
    refine ⟨puts, ?_⟩
    unfold Once at once
    rw [names] at once
    exact once

/-! ## The cell of a site -/

/-- The last key that is equal to the site is the one that counts. -/
def cellOf (table : Fields) (site : String) : Option (String × List String) :=
  lookup Prod.fst site (assigned table).reverse

theorem list_lookup (site : String) (cells : Cells) :
    cells.lookup site = (lookup Prod.fst site cells).map Prod.snd := by
  induction cells with
  | nil => rfl
  | cons cell cells ih =>
    unfold OrderedDicts.lookup at ih ⊢
    rw [List.lookup_cons, List.find?_cons, ih]
    by_cases same : cell.1 = site
    · simp [same]
    · simp [same, beq_false_of_ne (Ne.symm same)]

theorem lookup_cells (accepted : parseCellAssignments host (.object table) = .ok cells)
    (site : String) : cells.lookup site = (cellOf table site).map Prod.snd := by
  rw [list_lookup, (parse_ok accepted).1, lookup_foldl_put]
  exact congrArg _ Option.or_none

theorem cellOf_cons (entry : String × Json) (table : Fields) (site : String) :
    cellOf (entry :: table) site = (cellOf table site).or
      (if stripSlashes entry.1 = site then some (stripSlashes entry.1, channelsOf entry)
        else none) := by
  unfold cellOf assigned lookup
  rw [List.map_cons, List.reverse_cons, List.find?_append, List.find?_singleton]
  simp only [decide_eq_true_eq]

theorem mem_of_cellOf {site : String} {cell : String × List String}
    (found : cellOf table site = some cell) :
    ∃ entry ∈ table, stripSlashes entry.1 = site ∧ channelsOf entry = cell.2 := by
  unfold cellOf OrderedDicts.lookup at found
  have member := List.mem_reverse.1 (List.mem_of_find?_eq_some found)
  have ⟨entry, among, same⟩ := List.mem_map.1 member
  have key := List.find?_some found
  rw [decide_eq_true_eq, ← same] at key
  exact ⟨entry, among, key, by rw [← same]⟩

theorem cellOf_isSome {entry : String × Json} (among : entry ∈ table) :
    ∃ cell, cellOf table (stripSlashes entry.1) = some cell := by
  apply exists_lookup
  unfold assigned
  rw [← List.map_reverse, List.map_map]
  exact List.mem_map.2 ⟨entry, List.mem_reverse.2 among, rfl⟩

/-! ## Containment -/

/-- What is listed under a key is in the cell of its site. -/
def Listed (table : Fields) : Prop :=
  ∀ entry ∈ table, ∀ ch ∈ channelsOf entry,
    ∃ cell, cellOf table (stripSlashes entry.1) = some cell ∧ ch ∈ cell.2

theorem listed_cons {entry : String × Json} (nodup : ((entry :: table).flatMap channelsOf).Nodup) :
    Listed (entry :: table) ↔
      (∀ later ∈ table, SameSite entry.1 later.1 → channelsOf entry = []) ∧ Listed table := by
  rw [List.flatMap_cons, List.nodup_append'] at nodup
  have later : ∀ e ∈ table, cellOf (entry :: table) (stripSlashes e.1) =
      cellOf table (stripSlashes e.1) := by
    intro e among
    have ⟨cell, found⟩ := cellOf_isSome among
    rw [cellOf_cons, found, Option.some_or]
  constructor
  · intro listed
    refine ⟨fun e among same => ?_, fun e among ch member => ?_⟩
    · -- the cell is that of a later key, which lists no channel of this one
      apply List.eq_nil_iff_forall_not_mem.2
      intro ch member
      have ⟨cell, found, inside⟩ := listed entry List.mem_cons_self ch member
      rw [same, later e among] at found
      have ⟨other, amongOther, _, channels⟩ := mem_of_cellOf found
      exact nodup.2.2 member (List.mem_flatMap.2 ⟨other, amongOther, channels ▸ inside⟩)
    · have ⟨cell, found, inside⟩ := listed e (List.mem_cons_of_mem _ among) ch member
      exact ⟨cell, later e among ▸ found, inside⟩
  · intro ⟨empty, listed⟩ e among ch member
    obtain rfl | among := List.mem_cons.1 among
    · cases found : cellOf table (stripSlashes e.1) with
      | none =>
        rw [cellOf_cons, found, Option.none_or, if_pos rfl]
        exact ⟨_, rfl, member⟩
      | some cell =>
        have ⟨other, amongOther, same, _⟩ := mem_of_cellOf found
        rw [empty other amongOther same.symm] at member
        cases member
    · have ⟨cell, found, inside⟩ := listed e among ch member
      exact ⟨cell, (later e among).trans found, inside⟩

theorem listed_iff (nodup : (table.flatMap channelsOf).Nodup) : Listed table ↔ LastLists table := by
  induction table with
  | nil => exact iff_of_true (fun entry among => absurd among List.not_mem_nil) .nil
  | cons entry table ih =>
    have rest : (table.flatMap channelsOf).Nodup := by
      rw [List.flatMap_cons] at nodup
      exact nodup.of_append_right
    unfold LastLists
    rw [listed_cons nodup, ih rest, List.pairwise_cons]
    rfl

theorem mem_of_mem_cells {entries start : Cells} {cell : String × List String}
    (member : cell ∈ entries.foldl (fun held cell => put Prod.fst cell held) start) :
    cell ∈ entries ∨ cell ∈ start := by
  induction entries generalizing start with
  | nil => exact .inr member
  | cons entry entries ih =>
    obtain later | held := ih member
    · exact .inl (List.mem_cons_of_mem _ later)
    · obtain here | before := mem_put.1 held
      · exact .inl (here ▸ List.mem_cons_self)
      · exact .inr before.1

/-- Two cells come from two keys. -/
theorem disjoint_cells (accepted : parseCellAssignments host (.object table) = .ok cells) :
    cells.Pairwise fun cell other => ∀ ch ∈ cell.2, ch ∉ other.2 := by
  have ⟨puts, nodup⟩ := parse_ok accepted
  have keys : (cells.map Prod.fst).Nodup := by
    rw [puts]
    exact nodup_keys_foldl_put List.nodup_nil
  have source : ∀ cell ∈ cells, ∃ entry ∈ table,
      (stripSlashes entry.1, channelsOf entry) = cell := by
    intro cell member
    rw [puts] at member
    exact List.mem_map.1 ((mem_of_mem_cells member).resolve_right List.not_mem_nil)
  have apart := (List.nodup_flatMap.1 nodup).2
  have symm : Std.Symm (Function.onFun List.Disjoint channelsOf) := ⟨fun _ _ h => h.symm⟩
  refine (List.pairwise_map.1 keys).imp_of_mem fun {cell other} here there ne ch member => ?_
  have ⟨entry, among, made⟩ := source cell here
  have ⟨entry', among', made'⟩ := source other there
  have differ : entry ≠ entry' := by
    rintro rfl
    exact ne (made ▸ made' ▸ rfl)
  rw [← made] at member
  rw [← made']
  exact apart.forall among among' differ member

theorem cellGateDrop_iff {mainDomain platform : String} (listed : Listed table)
    (read : cells.lookup (stripSlashes mainDomain) =
      (cellOf table (stripSlashes mainDomain)).map Prod.snd) :
    cellGateDrop mainDomain platform cells = true ↔
      (∃ entry ∈ table, SameSite entry.1 mainDomain) ∧
        ∀ entry ∈ table, SameSite entry.1 mainDomain → platform ∉ channelsOf entry := by
  unfold cellGateDrop
  rw [read]
  cases found : cellOf table (stripSlashes mainDomain) with
  | none =>
    refine iff_of_false Bool.false_ne_true fun enrolled => ?_
    have ⟨entry, among, same⟩ := enrolled.1
    have ⟨cell, other⟩ := cellOf_isSome among
    rw [same, found] at other
    cases other
  | some cell =>
    have ⟨last, amongLast, sameLast, channels⟩ := mem_of_cellOf found
    rw [Option.map_some, decide_eq_true_eq]
    constructor
    · intro out
      refine ⟨⟨last, amongLast, sameLast⟩, fun entry among same member => ?_⟩
      have ⟨other, held, inside⟩ := listed entry among platform member
      rw [same, found] at held
      cases held
      exact out inside
    · intro free inside
      exact free.2 last amongLast sameLast (channels ▸ inside)

/-- **Cells.** The cells contain what the operator wrote exactly if, of the keys that are equal up
to trailing slashes, only the last one lists channels. -/
theorem cells_contained_iff (host : SchemaHost) (table : Fields) (cells : Cells)
    (accepted : parseCellAssignments host (.object table) = .ok cells) :
    Contained table cells ↔ LastLists table := by
  have read := lookup_cells accepted
  rw [← listed_iff (parse_ok accepted).2]
  constructor
  · intro contained entry among ch member
    have ⟨channels, found, inside⟩ := contained.listed entry among ch member
    rw [read, Option.map_eq_some_iff] at found
    have ⟨cell, held, same⟩ := found
    exact ⟨cell, held, same ▸ inside⟩
  · intro listed
    refine ⟨disjoint_cells accepted, fun entry among ch member => ?_, fun mainDomain platform =>
      cellGateDrop_iff listed (read _)⟩
    have ⟨cell, held, inside⟩ := listed entry among ch member
    exact ⟨cell.2, by rw [read, held, Option.map_some], inside⟩

def plainHost : SchemaHost where
  str := fun _ => ""
  repr := fun _ => ""
  typeName := fun _ => ""
  dumpsSize := fun _ => .ok 0
  plannedError := fun _ => none
  registeredPlatforms := ["telegraph", "rentry"]

def cellWith (channels : List String) : Json :=
  .object [("channels", .array (channels.map .text))]

def twoSites : Fields :=
  [("https://a.com/", cellWith ["telegraph"]), ("https://b.com", cellWith ["rentry"])]

theorem twoSites_contained_iff :
    Contained twoSites [("https://a.com", ["telegraph"]), ("https://b.com", ["rentry"])] ↔
      LastLists twoSites :=
  cells_contained_iff plainHost _ _ (by decide +kernel)

/-- Two keys for one site. -/
def twoKeys : Fields :=
  [("https://a.com", cellWith ["telegraph"]), ("https://a.com/", cellWith ["rentry"])]

theorem second_key_overwrites :
    parseCellAssignments plainHost (.object twoKeys) = .ok [("https://a.com", ["rentry"])] ∧
      ¬ Contained twoKeys [("https://a.com", ["rentry"])] := by
  refine ⟨by decide +kernel, fun contained => ?_⟩
  have ⟨channels, found, inside⟩ := contained.listed ("https://a.com", cellWith ["telegraph"])
    List.mem_cons_self "telegraph" (by decide +kernel)
  have only : (some ["rentry"] : Option (List String)) = some channels := found
  cases only
  exact absurd inside (by decide)

end BacklinkPublisher.CellAssignments
