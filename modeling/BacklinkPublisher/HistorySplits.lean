import BacklinkPublisher.HistoryLooks
import Mathlib.Data.List.Induction

set_option autoImplicit false

/-!
# A history in one flush or in two

A row is marked as seen where it left an event or where its flush has met a known URL,
in whatever row. A row without a usable URL is therefore marked or not by what came
before it, and a later row of its id is looked at or not.
-/
namespace BacklinkPublisher.HistorySplits
open EventStore OptionFolds ProjectionHelpers ProjectionEmit HistoryProjection HistoryLooks

/-! ## Rows, as a flush comes to them -/

def Occurs (entries : List (Option HistoryRow)) (id : String) : Prop :=
  ∃ row, some row ∈ entries ∧ nonEmptyText row.id = some id

/-- The rows of this id before have no usable URL, and the cursor does not have it. As long
as a flush has met no known URL, these are the rows that it looks at. -/
def LookedAt (seen : List String) (before : List (Option HistoryRow)) (row : HistoryRow) : Prop :=
  ∃ id, nonEmptyText row.id = some id ∧ id ∉ seen ∧
    ∀ other, some other ∈ before → nonEmptyText other.id = some id → other.Unmarked

section Conditions
variable (lib : Helpers) (articles : List Article) (seen : List String)

/-- The URL has an article, or a row before has brought it in. -/
def Linked (before : List (Option HistoryRow)) (live : String) : Prop :=
  HasLink articles live ∨ ∃ earlier row later, before = earlier ++ some row :: later ∧
    LookedAt seen earlier row ∧ Lists lib row live

/-- Some row has a URL that is known when it is looked at. -/
def MeetsKnown (entries : List (Option HistoryRow)) : Prop :=
  ∃ before row after, entries = before ++ some row :: after ∧ LookedAt seen before row ∧
    Repeats lib (Linked lib articles seen before) row

/-- All rows of this new id are without a usable URL and come before any known URL. -/
def LeftOpen (entries : List (Option HistoryRow)) (id : String) : Prop :=
  id ∉ seen ∧ Occurs entries id ∧
    ∀ before row after, entries = before ++ some row :: after → nonEmptyText row.id = some id →
      row.Unmarked ∧ ¬ MeetsKnown lib articles seen before

/-- Every id that is left open is closed again, and no row that comes for an open id
leaves an event or cannot be read. -/
structure Closed (entries : List (Option HistoryRow)) : Prop where
  closes : ∀ id, ¬ LeftOpen lib articles seen entries id
  quiet : ∀ before row after id, entries = before ++ some row :: after →
    nonEmptyText row.id = some id → LeftOpen lib articles seen before id →
    Readable lib row ∧ eventCount row = 0

end Conditions

/-! ## One more row -/

section Concat
variable {lib : Helpers} {articles : List Article} {seen : List String}
  {entries : List (Option HistoryRow)} {last : Option HistoryRow}

theorem exists_row_concat {R : List (Option HistoryRow) → HistoryRow → Prop} :
    (∃ before row after, entries ++ [last] = before ++ some row :: after ∧ R before row) ↔
      (∃ before row after, entries = before ++ some row :: after ∧ R before row) ∨
        ∃ row, last = some row ∧ R entries row := by
  have rows (entries : List (Option HistoryRow)) :
      (∃ before row after, entries = before ++ some row :: after ∧ R before row) ↔
        ∃ before entry after, entries = before ++ entry :: after ∧
          ∃ row, entry = some row ∧ R before row := by
    constructor
    · rintro ⟨before, row, after, hsplit, hR⟩
      exact ⟨before, some row, after, hsplit, row, rfl, hR⟩
    · rintro ⟨before, _, after, hsplit, row, rfl, hR⟩
      exact ⟨before, row, after, hsplit, hR⟩
  rw [rows, rows, exists_split_concat]

theorem meetsKnown_concat : MeetsKnown lib articles seen (entries ++ [last]) ↔
    MeetsKnown lib articles seen entries ∨ ∃ row, last = some row ∧ LookedAt seen entries row ∧
      Repeats lib (Linked lib articles seen entries) row :=
  exists_row_concat

theorem linked_concat {live : String} : Linked lib articles seen (entries ++ [last]) live ↔
    Linked lib articles seen entries live ∨ ∃ row, last = some row ∧ LookedAt seen entries row ∧
      Lists lib row live := by
  rw [Linked, exists_row_concat, ← or_assoc]
  rfl

theorem MeetsKnown.append {before after : List (Option HistoryRow)}
    (h : MeetsKnown lib articles seen before) : MeetsKnown lib articles seen (before ++ after) := by
  obtain ⟨earlier, row, later, rfl, looked⟩ := h
  exact ⟨earlier, row, later ++ after, by simp, looked⟩

theorem occurs_concat {id : String} :
    Occurs (entries ++ [last]) id ↔ Occurs entries id ∨ entryId last = some id := by
  simp only [Occurs, List.mem_append, List.mem_singleton, or_and_right, exists_or, entryId]
  refine or_congr_right ?_
  cases last with
  | none => simp
  | some row => simp

theorem leftOpen_concat_other {id : String} (other : entryId last ≠ some id) :
    LeftOpen lib articles seen (entries ++ [last]) id ↔ LeftOpen lib articles seen entries id := by
  refine and_congr_right fun _ => and_congr ?_ ?_
  · rw [occurs_concat, or_iff_left other]
  · constructor
    · rintro h before row after rfl
      exact h before row (after ++ [last]) (by simp)
    · intro h before row after hsplit hid
      have split := (exists_row_concat (R := fun before' row' => before' = before ∧ row' = row)).1
        ⟨before, row, after, hsplit, rfl, rfl⟩
      rcases split with ⟨_, _, after', hentries, rfl, rfl⟩ | ⟨_, rfl, -, rfl⟩
      · exact h _ _ after' hentries hid
      · exact absurd hid other

theorem leftOpen_concat_own {row : HistoryRow} {id : String} (hid : nonEmptyText row.id = some id) :
    LeftOpen lib articles seen (entries ++ [some row]) id ↔
      id ∉ seen ∧ (Occurs entries id → LeftOpen lib articles seen entries id) ∧ row.Unmarked ∧
        ¬ MeetsKnown lib articles seen entries := by
  constructor
  · rintro ⟨fresh, -, h⟩
    refine ⟨fresh, fun occurs => ⟨fresh, occurs, ?_⟩, h entries row [] rfl hid⟩
    rintro before row' after rfl
    exact h before row' (after ++ [some row]) (by simp)
  · rintro ⟨fresh, earlier, own⟩
    refine ⟨fresh, ⟨row, by simp, hid⟩, fun before row' after hsplit hid' => ?_⟩
    have split := (exists_row_concat (R := fun before' row'' => before' = before ∧ row'' = row')).1
      ⟨before, row', after, hsplit, rfl, rfl⟩
    rcases split with ⟨_, _, after', hentries, rfl, rfl⟩ | ⟨_, hrow, rfl, rfl⟩
    · have occurs : Occurs entries id := ⟨_, by simp [hentries], hid'⟩
      exact (earlier occurs).2.2 _ _ after' hentries hid'
    · obtain rfl := Option.some.inj hrow
      exact own

end Concat

/-! ## One flush -/

section Flushes
variable {lib : Helpers} {entries : List (Option HistoryRow)} {entry : Option HistoryRow}
  {p₀ p p' : Pass} {id : String}

/-- An iteration passes its entry over, or looks at a row that is not marked. -/
theorem passRow_cases (h : passRow lib p entry = some p') :
    (p' = p ∧ ∀ id, entryId entry = some id → id ∈ p.seenIds) ∨
      ∃ row id look, entry = some row ∧ nonEmptyText row.id = some id ∧ id ∉ p.seenIds ∧
        lookAt lib row p.tx = some look ∧
        p' = p.after id look := by
  unfold passRow at h
  split at h
  · refine .inl ⟨(Option.some.inj h).symm, fun id hid => ?_⟩
    cases hid
  rename_i row
  split at h
  · rename_i hnone
    refine .inl ⟨(Option.some.inj h).symm, fun id hid => ?_⟩
    have hid : nonEmptyText row.id = some id := hid
    rw [hnone] at hid
    cases hid
  rename_i id hid
  split at h
  · rename_i hseen
    refine .inl ⟨(Option.some.inj h).symm, fun other hother => ?_⟩
    obtain rfl : id = other := Option.some.inj (hid.symm.trans hother)
    exact hseen
  · rename_i hfresh
    obtain ⟨look, hlook, rfl⟩ := Option.map_eq_some_iff.1 h
    exact .inr ⟨row, id, look, rfl, hid, hfresh, hlook, rfl⟩

theorem passRow_look {row : HistoryRow} (hid : nonEmptyText row.id = some id)
    (fresh : id ∉ p.seenIds) :
    passRow lib p (some row) = (lookAt lib row p.tx).map (p.after id) := by
  simp [passRow, hid, fresh]

theorem passRow_over (h : ∀ id, entryId entry = some id → id ∈ p.seenIds) :
    passRow lib p entry = some p := by
  cases entry with
  | none => rfl
  | some row =>
    unfold passRow
    cases hid : nonEmptyText row.id with
    | none => simp [hid]
    | some id => simp [hid, h id hid]

/-- What a flush that starts its count at zero has found out after some rows. -/
structure PassFacts (lib : Helpers) (p₀ : Pass) (entries : List (Option HistoryRow)) (p : Pass) :
    Prop where
  flag : p.skipped = 0 ↔ ¬ MeetsKnown lib p₀.tx.articles p₀.seenIds entries
  seen : ∀ id, id ∈ p.seenIds ↔ id ∈ p₀.seenIds ∨
    Occurs entries id ∧ ¬ LeftOpen lib p₀.tx.articles p₀.seenIds entries id
  links : p.skipped = 0 → ∀ live, HasLink p.tx.articles live ↔
    Linked lib p₀.tx.articles p₀.seenIds entries live

/-- Without a known URL so far, an unmarked row of an open id is one that is looked at. -/
theorem PassFacts.lookedAt (facts : PassFacts lib p₀ entries p) {row : HistoryRow}
    (hid : nonEmptyText row.id = some id) (fresh : id ∉ p.seenIds) :
    LookedAt p₀.seenIds entries row ∧
      (Occurs entries id → LeftOpen lib p₀.tx.articles p₀.seenIds entries id) := by
  rw [facts.seen, not_or, not_and, not_not] at fresh
  refine ⟨⟨id, hid, fresh.1, fun other hmem hother => ?_⟩, fresh.2⟩
  obtain ⟨before, after, hsplit⟩ := List.append_of_mem hmem
  exact ((fresh.2 ⟨other, hmem, hother⟩).2.2 before other after hsplit hother).1

theorem PassFacts.not_lookedAt (facts : PassFacts lib p₀ entries p) (flag : p.skipped = 0)
    (hseen : ∀ id, entryId entry = some id → id ∈ p.seenIds) {row : HistoryRow}
    (hrow : entry = some row) : ¬ LookedAt p₀.seenIds entries row := by
  rintro ⟨id, hid, fresh, unmarked⟩
  have marked := (facts.seen id).1 (hseen id (by rw [hrow]; exact hid))
  obtain ⟨occurs, closed⟩ := marked.resolve_left fresh
  refine closed ⟨fresh, occurs, fun before other after hsplit hother => ⟨?_, fun known => ?_⟩⟩
  · exact unmarked other (by simp [hsplit]) hother
  · exact facts.flag.1 flag (hsplit ▸ MeetsKnown.append known)

theorem PassFacts.over (facts : PassFacts lib p₀ entries p)
    (hseen : ∀ id, entryId entry = some id → id ∈ p.seenIds) :
    PassFacts lib p₀ (entries ++ [entry]) p := by
  have unlooked (flag : p.skipped = 0) {row : HistoryRow} (hrow : entry = some row) :
      ¬ LookedAt p₀.seenIds entries row := facts.not_lookedAt flag hseen hrow
  refine ⟨?_, fun id => ?_, fun flag live => ?_⟩
  · by_cases flag : p.skipped = 0
    · refine iff_of_true flag fun known => ?_
      rcases meetsKnown_concat.1 known with known | ⟨row, hrow, looked, -⟩
      · exact facts.flag.1 flag known
      · exact unlooked flag hrow looked
    · have known : MeetsKnown lib p₀.tx.articles p₀.seenIds entries :=
        not_not.1 fun unknown => flag (facts.flag.2 unknown)
      exact iff_of_false flag fun unknown => unknown (MeetsKnown.append known)
  · by_cases own : entryId entry = some id
    · obtain ⟨row, hrow, hid⟩ := Option.bind_eq_some_iff.1 own
      have marked := (facts.seen id).1 (hseen id own)
      refine iff_of_true (hseen id own) (marked.imp_right fun ⟨occurs, closed⟩ => ?_)
      refine ⟨occurs_concat.2 (.inl occurs), fun opened => closed ?_⟩
      subst hrow
      exact ((leftOpen_concat_own hid).1 opened).2.1 occurs
    · rw [facts.seen, occurs_concat, or_iff_left own, leftOpen_concat_other own]
  · rw [facts.links flag, linked_concat, or_iff_left]
    rintro ⟨row, hrow, looked, -⟩
    exact unlooked flag hrow looked

theorem PassFacts.look (facts : PassFacts lib p₀ entries p) {row : HistoryRow} {look : Look}
    (hid : nonEmptyText row.id = some id) (fresh : id ∉ p.seenIds)
    (hlook : lookAt lib row p.tx = some look) :
    PassFacts lib p₀ (entries ++ [some row]) (p.after id look) := by
  have effect := lookAt_effect hlook
  obtain ⟨looked, opened⟩ := facts.lookedAt hid fresh
  have new : id ∉ p₀.seenIds := fun hmem => fresh ((facts.seen id).2 (.inl hmem))
  have repeats (flag : p.skipped = 0) : Repeats lib (HasLink p.tx.articles) row ↔
      Repeats lib (Linked lib p₀.tx.articles p₀.seenIds entries) row := by
    unfold Repeats
    simp only [repeatsIn_congr (facts.links flag)]
  have known : MeetsKnown lib p₀.tx.articles p₀.seenIds (entries ++ [some row]) ↔
      p.skipped + look.skipped ≠ 0 := by
    rw [meetsKnown_concat]
    by_cases flag : p.skipped = 0
    · rw [or_iff_right (facts.flag.1 flag), flag, Nat.zero_add, effect.skipped, repeats flag]
      simp [looked]
    · have met : MeetsKnown lib p₀.tx.articles p₀.seenIds entries :=
        not_not.1 fun unknown => flag (facts.flag.2 unknown)
      exact iff_of_true (.inl met) (by omega)
  refine ⟨?_, fun other => ?_, fun flag live => ?_⟩
  · rw [known, not_not]
    rfl
  · have marked : (look.marks || decide (p.skipped + look.skipped ≠ 0)) = true ↔
        ¬ (row.Unmarked ∧ p.skipped = 0) := by
      rw [← effect.marks]
      cases look.marks with
      | true => simp
      | false =>
        simp only [Bool.false_or, decide_eq_true_eq, true_and]
        omega
    by_cases own : id = other
    · subst own
      have left : LeftOpen lib p₀.tx.articles p₀.seenIds (entries ++ [some row]) id ↔
          row.Unmarked ∧ p.skipped = 0 := by
        rw [leftOpen_concat_own hid, facts.flag]
        exact ⟨fun h => h.2.2, fun h => ⟨new, opened, h⟩⟩
      have occurs : Occurs (entries ++ [some row]) id := ⟨row, by simp, hid⟩
      rw [left, ← marked, Pass.after]
      dsimp only
      split
      · rename_i hmarks
        exact iff_of_true (by simp) (.inr ⟨occurs, hmarks⟩)
      · rename_i hmarks
        exact iff_of_false fresh fun h => hmarks (h.resolve_left new).2
    · have otherId : entryId (some row) ≠ some other := fun h =>
        own (Option.some.inj (hid.symm.trans h))
      have same : other ∈ (p.after id look).seenIds ↔ other ∈ p.seenIds := by
        unfold Pass.after
        dsimp only
        split
        · simp [Ne.symm own]
        · rfl
      rw [same, facts.seen, occurs_concat, or_iff_left otherId, leftOpen_concat_other otherId]
  · have flag : p.skipped = 0 := Nat.eq_zero_of_add_eq_zero_right flag
    change HasLink look.tx.articles live ↔ _
    rw [effect.links, facts.links flag, linked_concat]
    simp [looked]

theorem pass_facts (start : p₀.skipped = 0) (h : entries.foldlM (passRow lib) p₀ = some p) :
    PassFacts lib p₀ entries p := by
  induction entries using List.reverseRecOn generalizing p with
  | nil =>
    obtain rfl : p₀ = p := by simpa using h
    have unmet : ¬ MeetsKnown lib p₀.tx.articles p₀.seenIds [] := by
      rintro ⟨before, row, after, hsplit, -⟩
      simp at hsplit
    refine ⟨iff_of_true start unmet, fun id => ?_, fun _ live => ?_⟩
    · simp [Occurs]
    · simp [Linked]
  | append_singleton entries entry ih =>
    obtain ⟨q, hq, hlast⟩ := foldlM_append_some.1 h
    have facts := ih hq
    have hstep : passRow lib q entry = some p := by simpa using hlast
    rcases passRow_cases hstep with ⟨rfl, hseen⟩ | ⟨row, id, look, rfl, hid, fresh, hlook, rfl⟩
    · exact facts.over hseen
    · exact facts.look hid fresh hlook

/-- A flush that has met a known URL marks every row that it looks at. -/
theorem flagged_seen (flagged : p₀.skipped ≠ 0) (h : entries.foldlM (passRow lib) p₀ = some p) :
    p.skipped ≠ 0 ∧ ∀ id, id ∈ p.seenIds ↔ id ∈ p₀.seenIds ∨ Occurs entries id := by
  induction entries using List.reverseRecOn generalizing p with
  | nil =>
    obtain rfl : p₀ = p := by simpa using h
    exact ⟨flagged, fun id => by simp [Occurs]⟩
  | append_singleton entries entry ih =>
    obtain ⟨q, hq, hlast⟩ := foldlM_append_some.1 h
    obtain ⟨flag, seen⟩ := ih hq
    have hstep : passRow lib q entry = some p := by simpa using hlast
    rcases passRow_cases hstep with ⟨rfl, hseen⟩ | ⟨row, id, look, rfl, hid, fresh, hlook, rfl⟩
    · refine ⟨flag, fun id => ?_⟩
      rw [occurs_concat, ← or_assoc, ← seen]
      exact ⟨.inl, fun h => h.elim (fun hmem => hmem) (hseen id)⟩
    · have marks : (look.marks || decide (q.skipped + look.skipped ≠ 0)) = true := by
        rw [Bool.or_eq_true, decide_eq_true_eq]
        exact .inr (by omega)
      refine ⟨by change q.skipped + look.skipped ≠ 0; omega, fun other => ?_⟩
      have own : entryId (some row) = some other ↔ other = id := by
        change nonEmptyText row.id = some other ↔ other = id
        rw [hid, Option.some.injEq, eq_comm]
      rw [occurs_concat, ← or_assoc, ← seen, own, Pass.after, if_pos marks, List.mem_append,
        List.mem_singleton]

theorem pass_pending (h : entries.foldlM (passRow lib) p₀ = some p) :
    p.tx.pending = p₀.tx.pending :=
  foldlM_invariant (I := fun p : Pass => p.tx.pending = p₀.tx.pending) h rfl
    fun p entry p' _ same hstep => by
      rcases passRow_cases hstep with ⟨rfl, -⟩ | ⟨row, id, look, -, -, -, hlook, rfl⟩
      · exact same
      · exact (lookAt_effect hlook).pending.trans same

end Flushes

/-! ## Two flushes over the same rows

`s` has met a known URL before the rows, `p` starts its count with them. -/

/-- A row comes for an open id and leaves an event, or cannot be read. -/
def Disturbed (lib : Helpers) (articles : List Article) (seen : List String)
    (entries : List (Option HistoryRow)) : Prop :=
  ∃ before row after, entries = before ++ some row :: after ∧
    ∃ id, nonEmptyText row.id = some id ∧ LeftOpen lib articles seen before id ∧
      ¬ (Readable lib row ∧ eventCount row = 0)

section Lockstep
variable {lib : Helpers} {entries : List (Option HistoryRow)} {s₀ p₀ s p : Pass} {id : String}

theorem closed_iff {articles : List Article} {seen : List String} :
    Closed lib articles seen entries ↔
      (∀ id, ¬ LeftOpen lib articles seen entries id) ∧ ¬ Disturbed lib articles seen entries := by
  constructor
  · rintro ⟨closes, quiet⟩
    refine ⟨closes, ?_⟩
    rintro ⟨before, row, after, hsplit, id, hid, opened, disturbs⟩
    exact disturbs (quiet before row after id hsplit hid opened)
  · rintro ⟨closes, undisturbed⟩
    refine ⟨closes, fun before row after id hsplit hid opened => ?_⟩
    by_contra disturbs
    exact undisturbed ⟨before, row, after, hsplit, id, hid, opened, disturbs⟩

theorem disturbed_concat {articles : List Article} {seen : List String}
    {last : Option HistoryRow} :
    Disturbed lib articles seen (entries ++ [last]) ↔ Disturbed lib articles seen entries ∨
      ∃ row, last = some row ∧ ∃ id, nonEmptyText row.id = some id ∧
        LeftOpen lib articles seen entries id ∧ ¬ (Readable lib row ∧ eventCount row = 0) :=
  exists_row_concat

/-- The two flushes start from the same tables and marks. -/
structure Together (s₀ p₀ : Pass) : Prop where
  tx : p₀.tx = s₀.tx
  seen : p₀.seenIds = s₀.seenIds
  flagged : s₀.skipped ≠ 0
  start : p₀.skipped = 0

theorem Together.seen_iff (together : Together s₀ p₀)
    (hs : entries.foldlM (passRow lib) s₀ = some s) (hp : entries.foldlM (passRow lib) p₀ = some p) :
    id ∈ s.seenIds ↔ id ∈ p.seenIds ∨ LeftOpen lib p₀.tx.articles p₀.seenIds entries id := by
  have flagged := (flagged_seen together.flagged hs).2 id
  have facts := (pass_facts together.start hp).seen id
  rw [flagged, facts, together.seen]
  constructor
  · rintro (marked | occurs)
    · exact .inl (.inl marked)
    · by_cases opened : LeftOpen lib p₀.tx.articles s₀.seenIds entries id
      · exact .inr opened
      · exact .inl (.inr ⟨occurs, opened⟩)
  · rintro ((marked | ⟨occurs, -⟩) | opened)
    · exact .inl marked
    · exact .inr occurs
    · exact .inr opened.2.1

theorem Together.unmarked (together : Together s₀ p₀)
    (hp : entries.foldlM (passRow lib) p₀ = some p)
    (opened : LeftOpen lib p₀.tx.articles p₀.seenIds entries id) : id ∉ p.seenIds := by
  rw [(pass_facts together.start hp).seen, not_or, not_and, not_not]
  exact ⟨opened.1, fun _ => opened⟩

/-- Undisturbed, the flush that starts anew goes through and keeps the tables of the other. -/
theorem Together.undisturbed (together : Together s₀ p₀)
    (hs : entries.foldlM (passRow lib) s₀ = some s)
    (undisturbed : ¬ Disturbed lib p₀.tx.articles p₀.seenIds entries) :
    ∃ p, entries.foldlM (passRow lib) p₀ = some p ∧ p.tx = s.tx := by
  induction entries using List.reverseRecOn generalizing s with
  | nil =>
    obtain rfl : s₀ = s := by simpa using hs
    exact ⟨p₀, rfl, together.tx⟩
  | append_singleton entries entry ih =>
    obtain ⟨t, ht, hlast⟩ := foldlM_append_some.1 hs
    have hstep : passRow lib t entry = some s := by simpa using hlast
    rw [disturbed_concat, not_or] at undisturbed
    obtain ⟨q, hq, same⟩ := ih ht undisturbed.1
    have extend {p : Pass} (h : passRow lib q entry = some p) :
        (entries ++ [entry]).foldlM (passRow lib) p₀ = some p :=
      foldlM_append_some.2 ⟨q, hq, by simpa using h⟩
    have marks {id : String} : id ∈ t.seenIds ↔ id ∈ q.seenIds ∨
        LeftOpen lib p₀.tx.articles p₀.seenIds entries id := together.seen_iff ht hq
    rcases passRow_cases hstep with ⟨rfl, hseen⟩ | ⟨row, id, look, rfl, hid, fresh, hlook, rfl⟩
    · by_cases covered : ∀ id, entryId entry = some id → id ∈ q.seenIds
      · exact ⟨q, extend (passRow_over covered), same⟩
      · push Not at covered
        obtain ⟨id, own, fresh⟩ := covered
        obtain ⟨row, rfl, hid⟩ := Option.bind_eq_some_iff.1 own
        have opened := (marks.1 (hseen id own)).resolve_left fresh
        have quiet : Readable lib row ∧ eventCount row = 0 := by
          by_contra disturbs
          exact undisturbed.2 ⟨row, rfl, id, hid, opened, disturbs⟩
        obtain ⟨hmarks, hlook⟩ := lookAt_silent q.tx quiet.1 quiet.2
        refine ⟨_, extend (p := q.after id ⟨q.tx, hmarks, 0⟩) ?_, same⟩
        rw [passRow_look hid fresh, hlook]
        rfl
    · have unmarked : id ∉ q.seenIds := fun hmem => fresh (marks.2 (.inl hmem))
      refine ⟨_, extend (p := q.after id look) ?_, rfl⟩
      rw [passRow_look hid unmarked, same, hlook]
      rfl

/-- The flush that starts anew leaves at least as many events, and more where it is disturbed. -/
theorem Together.ahead (together : Together s₀ p₀)
    (hs : entries.foldlM (passRow lib) s₀ = some s) (hp : entries.foldlM (passRow lib) p₀ = some p) :
    s.tx.events.length ≤ p.tx.events.length ∧
      (Disturbed lib p₀.tx.articles p₀.seenIds entries →
        s.tx.events.length < p.tx.events.length) := by
  induction entries using List.reverseRecOn generalizing s p with
  | nil =>
    obtain rfl : s₀ = s := by simpa using hs
    obtain rfl : p₀ = p := by simpa using hp
    refine ⟨Nat.le_of_eq (by rw [together.tx]), ?_⟩
    rintro ⟨before, row, after, hsplit, -⟩
    simp at hsplit
  | append_singleton entries entry ih =>
    obtain ⟨t, ht, hslast⟩ := foldlM_append_some.1 hs
    obtain ⟨q, hq, hplast⟩ := foldlM_append_some.1 hp
    have hsstep : passRow lib t entry = some s := by simpa using hslast
    have hpstep : passRow lib q entry = some p := by simpa using hplast
    obtain ⟨least, more⟩ := ih ht hq
    have marks {id : String} : id ∈ t.seenIds ↔ id ∈ q.seenIds ∨
        LeftOpen lib p₀.tx.articles p₀.seenIds entries id := together.seen_iff ht hq
    rw [disturbed_concat]
    rcases passRow_cases hpstep with ⟨rfl, hpseen⟩ | ⟨row, id, look, rfl, hid, fresh, hlook, rfl⟩
    · have covered : ∀ id, entryId entry = some id → id ∈ t.seenIds := fun id own =>
        marks.2 (.inl (hpseen id own))
      obtain rfl : t = s := Option.some.inj ((passRow_over covered).symm.trans hsstep)
      refine ⟨least, fun disturbed => more (disturbed.resolve_right ?_)⟩
      rintro ⟨row, rfl, id, hid, opened, -⟩
      exact together.unmarked hq opened (hpseen id hid)
    · have events := (lookAt_effect hlook).events
      have readable := lookAt_readable hlook
      rcases passRow_cases hsstep with
        ⟨rfl, hseen⟩ | ⟨row', id', look', hrow, hid', fresh', hlook', rfl⟩
      · change s.tx.events.length ≤ look.tx.events.length ∧
          (_ → s.tx.events.length < look.tx.events.length)
        refine ⟨by omega, fun disturbed => ?_⟩
        rcases disturbed with disturbed | ⟨row', hrow, id', hid', -, disturbs⟩
        · have := more disturbed
          omega
        · obtain rfl := Option.some.inj hrow
          have : eventCount row ≠ 0 := fun silent => disturbs ⟨readable, silent⟩
          omega
      · obtain rfl := Option.some.inj hrow
        obtain rfl : id = id' := Option.some.inj (hid.symm.trans hid')
        have events' := (lookAt_effect hlook').events
        change look'.tx.events.length ≤ look.tx.events.length ∧
          (_ → look'.tx.events.length < look.tx.events.length)
        refine ⟨by omega, fun disturbed => ?_⟩
        rcases disturbed with disturbed | ⟨other, hother, id', hid'', opened, -⟩
        · have := more disturbed
          omega
        · obtain rfl := Option.some.inj hother
          obtain rfl : id = id' := Option.some.inj (hid.symm.trans hid'')
          exact absurd (marks.2 (.inr opened)) fresh'

/-- Where the flush that starts anew goes through, so does the other. -/
theorem Together.returns (together : Together s₀ p₀)
    (hp : entries.foldlM (passRow lib) p₀ = some p) :
    ∃ s, entries.foldlM (passRow lib) s₀ = some s := by
  induction entries using List.reverseRecOn generalizing p with
  | nil => exact ⟨s₀, rfl⟩
  | append_singleton entries entry ih =>
    obtain ⟨q, hq, hlast⟩ := foldlM_append_some.1 hp
    have hstep : passRow lib q entry = some p := by simpa using hlast
    obtain ⟨t, ht⟩ := ih hq
    have extend {s : Pass} (h : passRow lib t entry = some s) :
        ∃ s, (entries ++ [entry]).foldlM (passRow lib) s₀ = some s :=
      ⟨s, foldlM_append_some.2 ⟨t, ht, by simpa using h⟩⟩
    by_cases covered : ∀ id, entryId entry = some id → id ∈ t.seenIds
    · exact extend (passRow_over covered)
    · push Not at covered
      obtain ⟨id, own, fresh⟩ := covered
      obtain ⟨row, rfl, hid⟩ := Option.bind_eq_some_iff.1 own
      have unmarked : id ∉ q.seenIds := fun hmem =>
        fresh ((together.seen_iff ht hq).2 (.inl hmem))
      rw [passRow_look hid unmarked] at hstep
      obtain ⟨look, hlook, -⟩ := Option.map_eq_some_iff.1 hstep
      obtain ⟨look', hlook'⟩ := lookAt_exists hlook t.tx
      refine extend (s := t.after id look') ?_
      rw [passRow_look hid fresh, hlook']
      rfl

end Lockstep

/-! ## Stores -/

def passStart (store : ProjectedStore (List String)) : Pass := ⟨store.begin, store.cursor, 0⟩

def passStore (p : Pass) : ProjectedStore (List String) :=
  ⟨p.tx.events, p.tx.articles, p.tx.nextArticleId, p.seenIds⟩

def flushHistory (lib : Helpers) (rows : List (Option HistoryRow))
    (store : ProjectedStore (List String)) : ProjectedStore (List String) :=
  flush (projectHistory lib (.rows rows)) store

/-- The flush commits. -/
def Returns (lib : Helpers) (rows : List (Option HistoryRow))
    (store : ProjectedStore (List String)) : Prop :=
  (projectHistory lib (.rows rows) store).isSome

structure SameProjection (a b : ProjectedStore (List String)) : Prop where
  articles : a.articles = b.articles
  events : a.events.Perm b.events
  seen : ∀ id, id ∈ a.cursor ↔ id ∈ b.cursor

/-- Either the first rows meet no known URL, or whatever the second flush leaves open is
closed by its own rows. A flush that raises is rolled back, so then the first one has to
have done nothing. -/
structure SplitSafe (lib : Helpers) (store : ProjectedStore (List String))
    (rows₁ rows₂ : List (Option HistoryRow)) : Prop where
  returning : Returns lib (rows₁ ++ rows₂) store →
    MeetsKnown lib store.articles store.cursor rows₁ →
    Closed lib (flushHistory lib rows₁ store).articles (flushHistory lib rows₁ store).cursor rows₂
  raising : ¬ Returns lib (rows₁ ++ rows₂) store → Returns lib rows₁ store →
    ∀ entry ∈ rows₁, Settled store.cursor entry

section Stores
variable {lib : Helpers} {rows rows₁ rows₂ : List (Option HistoryRow)}
  {store : ProjectedStore (List String)} {p : Pass}

theorem projectHistory_pass (lib : Helpers) (rows : List (Option HistoryRow))
    (store : ProjectedStore (List String)) :
    (projectHistory lib (.rows rows) store).map Flushed.store =
      (rows.foldlM (passRow lib) (passStart store)).map passStore := by
  have fold := foldlM_map rows (⟨store.begin, store.cursor, {}⟩ : HistoryReduction)
    (projectHistoryRow_pass lib)
  change _ = rows.foldlM (passRow lib) (passStart store) at fold
  rw [← fold, projectHistory, Option.map_map, Option.map_map]
  rfl

theorem flushHistory_eq : flushHistory lib rows store =
    ((rows.foldlM (passRow lib) (passStart store)).map passStore).getD store := by
  rw [← projectHistory_pass, flushHistory, flush]
  cases projectHistory lib (.rows rows) store with
  | none => rfl
  | some flushed => rfl

theorem returns_iff : Returns lib rows store ↔
    ∃ p, rows.foldlM (passRow lib) (passStart store) = some p := by
  have same := congrArg Option.isSome (projectHistory_pass lib rows store)
  rw [Option.isSome_map, Option.isSome_map] at same
  rw [Returns, same, Option.isSome_iff_exists]

theorem flushHistory_of_some (h : rows.foldlM (passRow lib) (passStart store) = some p) :
    flushHistory lib rows store = passStore p := by
  rw [flushHistory_eq, h]
  rfl

theorem flushHistory_of_raises (h : ¬ Returns lib rows store) :
    flushHistory lib rows store = store := by
  rw [flushHistory_eq]
  cases hfold : rows.foldlM (passRow lib) (passStart store) with
  | none => rfl
  | some p => exact absurd (returns_iff.2 ⟨p, hfold⟩) h

/-- The pass from a committed store goes on where its flush ended, with its count at zero. -/
theorem passStart_store (h : rows.foldlM (passRow lib) (passStart store) = some p) :
    passStart (passStore p) = { p with skipped := 0 } := by
  have pending : p.tx.pending = [] := pass_pending h
  simp [passStart, passStore, ProjectedStore.begin, ← pending]

/-- A row that a flush has looked at and not marked is silent in any other flush. -/
theorem passRow_again {q q' : Pass} {entry : Option HistoryRow}
    (h : passRow lib q entry = some q') {later : Pass} (grows : q'.seenIds ⊆ later.seenIds)
    (count : later.skipped = 0) : passRow lib later entry = some later := by
  by_cases covered : ∀ id, entryId entry = some id → id ∈ later.seenIds
  · exact passRow_over covered
  push Not at covered
  obtain ⟨id, own, fresh⟩ := covered
  obtain ⟨row, rfl, hid⟩ := Option.bind_eq_some_iff.1 own
  rcases passRow_cases h with ⟨rfl, hseen⟩ | ⟨row', id', look, hrow, hid', -, hlook, rfl⟩
  · exact absurd (grows (hseen id own)) fresh
  obtain rfl := Option.some.inj hrow
  obtain rfl : id = id' := Option.some.inj (hid.symm.trans hid')
  have unmarked : (look.marks || decide (q.skipped + look.skipped ≠ 0)) = false := by
    by_contra marks
    rw [Bool.not_eq_false] at marks
    refine fresh (grows ?_)
    rw [Pass.after, if_pos marks]
    simp
  rw [Bool.or_eq_false_iff, decide_eq_false_iff_not, not_not] at unmarked
  have barren : row.Unmarked := (lookAt_effect hlook).marks.1 ⟨unmarked.1, by omega⟩
  obtain ⟨marks, hlook'⟩ := lookAt_silent later.tx (lookAt_readable hlook) (unmarked_iff.1 barren).2
  have kept : marks = false := ((lookAt_effect hlook').marks.2 barren).1
  rw [passRow_look hid fresh, hlook', kept]
  cases later with
  | mk tx seenIds skipped =>
    obtain rfl : skipped = 0 := count
    rfl

/-- A second pass over rows that a flush has gone through finds nothing to do. -/
theorem pass_again (h : rows.foldlM (passRow lib) (passStart store) = some p) :
    rows.foldlM (passRow lib) { p with skipped := 0 } = some { p with skipped := 0 } := by
  have steps : ∀ entry ∈ rows, passRow lib { p with skipped := 0 } entry =
      some { p with skipped := 0 } := by
    intro entry hmem
    obtain ⟨before, after, q, q', -, -, hstep, hrest⟩ := foldlM_step_of_mem h hmem
    have grows : q'.seenIds ⊆ p.seenIds :=
      foldlM_relates (R := fun q q' : Pass => q.seenIds ⊆ q'.seenIds) hrest
        (fun _ => List.Subset.refl _) (fun _ _ _ => List.Subset.trans) fun t entry t' hstep => by
          rcases passRow_cases hstep with ⟨rfl, -⟩ | ⟨row, id, look, -, -, -, -, rfl⟩
          · exact List.Subset.refl _
          · unfold Pass.after
            dsimp only
            split
            · exact List.subset_append_left _ _
            · exact List.Subset.refl _
    exact passRow_again hstep grows rfl
  clear h
  induction rows with
  | nil => rfl
  | cons entry rows ih =>
    rw [List.foldlM_cons, steps entry List.mem_cons_self]
    exact ih fun other hmem => steps other (List.mem_cons_of_mem _ hmem)

/-- The second flush of a split comes to the later rows where the first one ended. -/
theorem foldlM_split (rows₂ : List (Option HistoryRow))
    (h : rows₁.foldlM (passRow lib) (passStart store) = some p) :
    (rows₁ ++ rows₂).foldlM (passRow lib) (passStart (passStore p)) =
      rows₂.foldlM (passRow lib) { p with skipped := 0 } := by
  rw [passStart_store h, List.foldlM_append, pass_again h]
  rfl

theorem settled_seen (h : rows.foldlM (passRow lib) (passStart store) = some p)
    (settled : ∀ entry ∈ rows, Settled store.cursor entry) (id : String) :
    id ∈ p.seenIds ↔ id ∈ store.cursor := by
  have facts := (pass_facts rfl h).seen id
  change id ∈ p.seenIds ↔ id ∈ store.cursor ∨ _ at facts
  rw [facts, or_iff_left_iff_imp]
  rintro ⟨occurs, closed⟩
  by_contra fresh
  have unmarked {row : HistoryRow} {id : String} (hmem : some row ∈ rows)
      (hid : nonEmptyText row.id = some id) (fresh : id ∉ store.cursor) : row.Unmarked :=
    (settled _ hmem row id rfl hid).resolve_left fresh
  refine closed ⟨fresh, occurs, fun before row after hsplit hid => ⟨?_, ?_⟩⟩
  · exact unmarked (by simp [hsplit]) hid fresh
  · rintro ⟨earlier, row', later, rfl, ⟨id', hid', fresh', -⟩, -, urls, hurls, _, url, _, live, rfl,
      ⟨s, hs, -⟩, -⟩
    obtain ⟨-, urls', hurls', -, unusable⟩ := unmarked (by simp [hsplit]) hid' fresh'
    obtain rfl := Option.some.inj (hurls.symm.trans hurls')
    rw [unusable url (by simp)] at hs
    cases hs

theorem settled_flush (h : rows.foldlM (passRow lib) (passStart store) = some p) :
    SameProjection (passStore p) store ↔ ∀ entry ∈ rows, Settled store.cursor entry := by
  have hreturns := returns_iff.2 ⟨p, h⟩
  obtain ⟨flushed, hflushed⟩ := Option.isSome_iff_exists.1 hreturns
  have hstore := projectHistory_pass lib rows store
  rw [hflushed, h] at hstore
  have hstore : flushed.store = passStore p := Option.some.inj hstore
  obtain ⟨r, hpass, hr⟩ := Option.map_eq_some_iff.1 hflushed
  rw [← hr] at hstore
  have hseen : r.seenIds = p.seenIds := congrArg ProjectedStore.cursor hstore
  constructor
  · intro same entry hmem
    refine ((projectHistoryRows_settled hpass).2 entry hmem).mono fun id hid => ?_
    rw [hseen] at hid
    exact (same.seen id).1 hid
  · intro settled
    have tables : (passStore p).tables = store.tables := by
      rw [← hstore]
      exact projectHistoryRows_noop hpass settled
    have events : (passStore p).events = store.events := congrArg Prod.fst tables
    exact ⟨congrArg Prod.snd tables, List.Perm.of_eq events, settled_seen h settled⟩

theorem flagged_split_iff {s : Pass} (first : rows₁.foldlM (passRow lib) (passStart store) = some p)
    (flagged : p.skipped ≠ 0) (whole : rows₂.foldlM (passRow lib) p = some s) :
    SameProjection (flushHistory lib (rows₁ ++ rows₂) (passStore p)) (passStore s) ↔
      Closed lib p.tx.articles p.seenIds rows₂ := by
  have together : Together p { p with skipped := 0 } := ⟨rfl, rfl, flagged, rfl⟩
  rw [closed_iff]
  constructor
  · intro same
    by_cases returns : Returns lib (rows₁ ++ rows₂) (passStore p)
    · obtain ⟨q, hq⟩ := returns_iff.1 returns
      rw [flushHistory_of_some hq] at same
      rw [foldlM_split rows₂ first] at hq
      have length : s.tx.events.length = q.tx.events.length := same.events.length_eq.symm
      refine ⟨fun id opened => ?_, fun disturbed => ?_⟩
      · have marked : id ∈ s.seenIds := (together.seen_iff whole hq).2 (.inr opened)
        exact together.unmarked hq opened ((same.seen id).2 marked)
      · have more := (together.ahead whole hq).2 disturbed
        omega
    · rw [flushHistory_of_raises returns] at same
      have all (id : String) (occurs : Occurs rows₂ id) : id ∈ p.seenIds :=
        (same.seen id).2 (((flagged_seen flagged whole).2 id).2 (.inr occurs))
      refine ⟨fun id opened => opened.1 (all id opened.2.1), ?_⟩
      rintro ⟨before, row, after, rfl, id, hid, opened, -⟩
      exact opened.1 (all id ⟨row, by simp, hid⟩)
  · rintro ⟨closes, undisturbed⟩
    obtain ⟨q, hq, same⟩ := together.undisturbed whole undisturbed
    have second := foldlM_split rows₂ first
    rw [hq] at second
    rw [flushHistory_of_some second]
    refine ⟨congrArg Tx.articles same, ?_, fun id => ?_⟩
    · have events : q.tx.events = s.tx.events := congrArg Tx.events same
      exact List.Perm.of_eq events
    · have marks : id ∈ s.seenIds ↔ id ∈ q.seenIds ∨ LeftOpen lib p.tx.articles p.seenIds rows₂ id :=
        together.seen_iff whole hq
      exact ((or_iff_left (closes id)).symm.trans marks.symm)

end Stores

theorem unflagged {p : Pass} (flagged : p.skipped = 0) : ({ p with skipped := 0 } : Pass) = p := by
  rw [← flagged]

/-- For every store and every history, cut at any point: one flush and two leave the same
exactly where the cut is safe. -/
theorem split_flush_same_iff (lib : Helpers) (store : ProjectedStore (List String))
    (rows₁ rows₂ : List (Option HistoryRow)) :
    SameProjection (flushHistory lib (rows₁ ++ rows₂) (flushHistory lib rows₁ store))
        (flushHistory lib (rows₁ ++ rows₂) store) ↔
      SplitSafe lib store rows₁ rows₂ := by
  have refl (a : ProjectedStore (List String)) : SameProjection a a :=
    ⟨rfl, List.Perm.refl _, fun _ => Iff.rfl⟩
  by_cases first : Returns lib rows₁ store
  · obtain ⟨p, hp⟩ := returns_iff.1 first
    have met : MeetsKnown lib store.articles store.cursor rows₁ ↔ p.skipped ≠ 0 := by
      rw [ne_eq, (pass_facts rfl hp).flag, not_not]
      rfl
    rw [flushHistory_of_some hp]
    by_cases whole : Returns lib (rows₁ ++ rows₂) store
    · obtain ⟨s, hs⟩ := returns_iff.1 whole
      rw [flushHistory_of_some hs]
      obtain ⟨p', hp', hrest⟩ := foldlM_append_some.1 hs
      obtain rfl : p = p' := Option.some.inj (hp.symm.trans hp')
      have safe : SplitSafe lib store rows₁ rows₂ ↔
          (p.skipped ≠ 0 → Closed lib p.tx.articles p.seenIds rows₂) := by
        rw [← met]
        constructor
        · intro safe known
          have closed := safe.returning whole known
          rwa [flushHistory_of_some hp] at closed
        · refine fun closed => ⟨fun _ known => ?_, fun raises => absurd whole raises⟩
          rw [flushHistory_of_some hp]
          exact closed known
      rw [safe]
      by_cases flagged : p.skipped ≠ 0
      · rw [imp_iff_right flagged]
        exact flagged_split_iff hp flagged hrest
      · rw [not_not] at flagged
        have second := foldlM_split rows₂ hp
        rw [unflagged flagged, hrest] at second
        rw [flushHistory_of_some second]
        exact iff_of_true (refl _) fun nonzero => absurd flagged nonzero
    · have raises : ¬ Returns lib (rows₁ ++ rows₂) (passStore p) := by
        intro second
        obtain ⟨q, hq⟩ := returns_iff.1 second
        rw [foldlM_split rows₂ hp] at hq
        refine whole (returns_iff.2 ?_)
        rw [List.foldlM_append, hp]
        by_cases flagged : p.skipped ≠ 0
        · have together : Together p { p with skipped := 0 } := ⟨rfl, rfl, flagged, rfl⟩
          exact together.returns hq
        · rw [not_not] at flagged
          rw [unflagged flagged] at hq
          exact ⟨q, hq⟩
      rw [flushHistory_of_raises raises, flushHistory_of_raises whole, settled_flush hp]
      exact ⟨fun settled => ⟨fun returns => absurd returns whole, fun _ _ => settled⟩,
        fun safe => safe.raising whole first⟩
  · have whole : ¬ Returns lib (rows₁ ++ rows₂) store := by
      intro whole
      obtain ⟨s, hs⟩ := returns_iff.1 whole
      obtain ⟨p, hp, -⟩ := foldlM_append_some.1 hs
      exact first (returns_iff.2 ⟨p, hp⟩)
    rw [flushHistory_of_raises first]
    exact iff_of_true (refl _)
      ⟨fun returns => absurd returns whole, fun _ returns => absurd returns first⟩

/-! ## A row that is marked for the row before it -/

def published (id : String) (urls : List String) : Option HistoryRow :=
  some {
    id := .text id
    status := .text "published"
    articleUrls := some (urls.map .text) }

/-- The first row has its URL twice, the second has none that is usable. -/
def twiceRows : List (Option HistoryRow) :=
  [published "a" ["https://blog.example/1", "https://blog.example/1"]]

def blankRows : List (Option HistoryRow) := [published "b" [""]]

theorem split_flush_marks_differently :
    (flushHistory plainHelpers (twiceRows ++ blankRows) { cursor := [] }).cursor = ["a", "b"] ∧
      (flushHistory plainHelpers (twiceRows ++ blankRows)
        (flushHistory plainHelpers twiceRows { cursor := [] })).cursor = ["a"] ∧
      ¬ SameProjection
        (flushHistory plainHelpers (twiceRows ++ blankRows)
          (flushHistory plainHelpers twiceRows { cursor := [] }))
        (flushHistory plainHelpers (twiceRows ++ blankRows) { cursor := [] }) := by
  have whole : (flushHistory plainHelpers (twiceRows ++ blankRows) { cursor := [] }).cursor =
      ["a", "b"] := by decide
  have split : (flushHistory plainHelpers (twiceRows ++ blankRows)
      (flushHistory plainHelpers twiceRows { cursor := [] })).cursor = ["a"] := by decide
  refine ⟨whole, split, fun same => ?_⟩
  have marks := same.seen "b"
  rw [whole, split] at marks
  exact absurd marks (by decide)

end BacklinkPublisher.HistorySplits
