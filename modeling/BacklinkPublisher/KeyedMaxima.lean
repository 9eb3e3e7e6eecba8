import BacklinkPublisher.OrderedDicts
import Mathlib.Data.List.MinMax

set_option autoImplicit false

/-!
# The newest value of each key

A dictionary that keeps, for every key, the newest of the values it has been given. Where newer
means of greater rank, the dictionary holds the maxima of the values, whatever order they came in.
-/
namespace BacklinkPublisher.KeyedMaxima
open OrderedDicts

universe u v w
variable {α : Type u} {κ : Type v} {ρ : Type w} [LinearOrder ρ]

/-- `fresh` is put under its key where it is newer than what is there. -/
def keepNewer [DecidableEq κ] (key : α → κ) (newer : α → α → Bool) (fresh : α) (values : List α) : List α :=
  match lookup key (key fresh) values with
  | none => values ++ [fresh]
  | some old => if newer fresh old then adjust key (key fresh) (fun _ => fresh) values else values

variable {key : α → κ} {rank : α → ρ} {newer : α → α → Bool}

/-- `values` holds one value of greatest rank for each key of `seen`. -/
structure Maxima (key : α → κ) (rank : α → ρ) (seen values : List α) : Prop where
  nodup : (values.map key).Nodup
  mem : ∀ value ∈ values, value ∈ seen
  top : ∀ value ∈ values, ∀ other ∈ seen, key other = key value → rank other ≤ rank value
  reached : ∀ other ∈ seen, key other ∈ values.map key

theorem maxima_nil (key : α → κ) (rank : α → ρ) : Maxima key rank [] [] where
  nodup := List.nodup_nil
  mem _ h := absurd h List.not_mem_nil
  top _ h := absurd h List.not_mem_nil
  reached _ h := absurd h List.not_mem_nil

variable {seen values : List α} {fresh : α}

theorem Maxima.concat (max : Maxima key rank seen values)
    (absent : key fresh ∉ values.map key) :
    Maxima key rank (seen ++ [fresh]) (values ++ [fresh]) where
  nodup := by
    rw [List.map_append, List.map_singleton, ← List.concat_eq_append]
    exact max.nodup.concat absent
  mem := by
    intro value hvalue
    rcases List.mem_append.1 hvalue with held | now
    · exact List.mem_append_left _ (max.mem value held)
    · exact List.mem_append_right _ now
  top := by
    intro value hvalue other hother keys
    rcases List.mem_append.1 hvalue with held | now
    · rcases List.mem_append.1 hother with before | last
      · exact max.top value held other before keys
      · rw [List.mem_singleton.1 last] at keys
        exact absurd (List.mem_map.2 ⟨value, held, keys.symm⟩) absent
    · rw [List.mem_singleton.1 now] at keys ⊢
      rcases List.mem_append.1 hother with before | last
      · exact absurd (keys ▸ max.reached other before) absent
      · rw [List.mem_singleton.1 last]
  reached := by
    intro other hother
    rw [List.map_append]
    rcases List.mem_append.1 hother with before | last
    · exact List.mem_append_left _ (max.reached other before)
    · rw [List.mem_singleton.1 last]
      exact List.mem_append_right _ List.mem_cons_self

variable [DecidableEq κ]

/-- A value that is not kept is beaten by one that is there. -/
theorem Maxima.pass {old : α} (max : Maxima key rank seen values) (held : old ∈ values)
    (same : key old = key fresh) (beaten : rank fresh ≤ rank old) :
    Maxima key rank (seen ++ [fresh]) values where
  nodup := max.nodup
  mem value hvalue := List.mem_append_left _ (max.mem value hvalue)
  top := by
    intro value hvalue other hother keys
    rcases List.mem_append.1 hother with before | now
    · exact max.top value hvalue other before keys
    · rw [List.mem_singleton.1 now] at keys ⊢
      have one : old = value := by
        have found := (lookup_eq_some max.nodup).2 ⟨held, same.trans keys⟩
        rw [lookup_of_mem max.nodup hvalue] at found
        exact (Option.some.inj found).symm
      rw [← one]
      exact beaten
  reached := by
    intro other hother
    rcases List.mem_append.1 hother with before | now
    · exact max.reached other before
    · rw [List.mem_singleton.1 now, ← same]
      exact List.mem_map_of_mem held

theorem Maxima.replace {old : α} (max : Maxima key rank seen values) (held : old ∈ values)
    (same : key old = key fresh) (newer : rank old ≤ rank fresh) :
    Maxima key rank (seen ++ [fresh]) (adjust key (key fresh) (fun _ => fresh) values) := by
  have keys : (adjust key (key fresh) (fun _ => fresh) values).map key = values.map key :=
    keys_adjust_of fun _ _ => rfl
  constructor
  case nodup =>
    rw [keys]
    exact max.nodup
  case mem =>
    intro value hvalue
    have ⟨before, hbefore, kinds⟩ := mem_adjust.1 hvalue
    rcases kinds with ⟨_, rfl⟩ | ⟨_, rfl⟩
    · exact List.mem_append_right _ List.mem_cons_self
    · exact List.mem_append_left _ (max.mem _ hbefore)
  case top =>
    intro value hvalue other hother own
    have ⟨before, hbefore, kinds⟩ := mem_adjust.1 hvalue
    rcases kinds with ⟨_, rfl⟩ | ⟨foreign, rfl⟩
    · rcases List.mem_append.1 hother with earlier | now
      · exact le_trans (max.top old held other earlier (own.trans same.symm)) newer
      · rw [List.mem_singleton.1 now]
    · rcases List.mem_append.1 hother with earlier | now
      · exact max.top _ hbefore other earlier own
      · rw [List.mem_singleton.1 now] at own
        exact absurd own.symm foreign
  case reached =>
    intro other hother
    rw [keys]
    rcases List.mem_append.1 hother with earlier | now
    · exact max.reached other earlier
    · rw [List.mem_singleton.1 now, ← same]
      exact List.mem_map_of_mem held

/-- One more value. -/
theorem Maxima.keepNewer (newer_iff : ∀ a b, newer a b = true ↔ rank b < rank a)
    (max : Maxima key rank seen values) (fresh : α) :
    Maxima key rank (seen ++ [fresh]) (keepNewer key newer fresh values) := by
  unfold KeyedMaxima.keepNewer
  cases found : lookup key (key fresh) values with
  | none => exact max.concat (not_mem_keys_of_lookup found)
  | some old =>
    have ⟨held, same⟩ := (lookup_eq_some max.nodup).1 found
    dsimp only
    split_ifs with later
    · exact max.replace held same (le_of_lt ((newer_iff fresh old).1 later))
    · apply max.pass held same
      rw [newer_iff] at later
      exact not_lt.1 later

/-- The value that the maxima hold for a key is the greatest of the key. -/
theorem Maxima.lookup_iff
    (distinct : ∀ a ∈ seen, ∀ b ∈ seen, key a = key b → rank a = rank b → a = b)
    (max : Maxima key rank seen values) {k : κ} {value : α} :
    lookup key k values = some value ↔ value ∈ seen ∧ key value = k ∧
      ∀ other ∈ seen, key other = k → rank other ≤ rank value := by
  rw [lookup_eq_some max.nodup]
  constructor
  · rintro ⟨held, own⟩
    refine ⟨max.mem value held, own, fun other hother keys => ?_⟩
    exact max.top value held other hother (keys.trans own.symm)
  · rintro ⟨hseen, own, greatest⟩
    have ⟨value', held, own'⟩ := List.mem_map.1 (max.reached value hseen)
    have ranks : rank value' = rank value :=
      le_antisymm (greatest value' (max.mem value' held) (own'.trans own))
        (max.top value' held value hseen own'.symm)
    rw [← distinct value' (max.mem value' held) value hseen own' ranks]
    exact ⟨held, own'.trans own⟩

/-! ## The first of the greatest -/

omit [DecidableEq κ] in
theorem argmax_map {β : Type v} (f : β → ρ) (g : α → β) (xs : List α) :
    (xs.map g).argmax f = (xs.argmax fun x => f (g x)).map g := by
  induction xs using List.reverseRecOn with
  | nil => rfl
  | append_singleton xs x ih =>
    rw [List.map_append, List.map_singleton, List.argmax_concat, List.argmax_concat, ih]
    cases xs.argmax fun x => f (g x) with
    | none => rfl
    | some y =>
      change (if f (g y) < f (g x) then some (g x) else some (g y)) =
        Option.map g (if f (g y) < f (g x) then some x else some y)
      split_ifs <;> rfl

theorem lookup_keepNewer (k : κ) (fresh : α) (values : List α) :
    lookup key k (keepNewer key newer fresh values) =
      if key fresh = k then
        some (match lookup key k values with
          | none => fresh
          | some old => if newer fresh old then fresh else old)
      else lookup key k values := by
  unfold keepNewer
  by_cases same : key fresh = k
  · rw [if_pos same, same]
    cases found : lookup key k values with
    | none =>
      unfold lookup at found ⊢
      rw [List.find?_append, found]
      simp [same]
    | some old =>
      dsimp only
      split_ifs with later
      · rw [lookup_adjust_of fun _ _ => same, found, Option.map_some, if_pos rfl]
      · exact found
  · rw [if_neg same]
    cases found : lookup key (key fresh) values with
    | none =>
      unfold lookup
      rw [List.find?_append]
      simp [same]
    | some old =>
      dsimp only
      split_ifs with later
      · rw [lookup_adjust_of fun _ _ => rfl]
        simp only [if_neg (Ne.symm same)]
        exact Option.map_id'
      · rfl

/-- Each key has the first of its values of greatest rank. -/
theorem lookup_foldl_keepNewer (newer_iff : ∀ a b, newer a b = true ↔ rank b < rank a)
    (seen : List α) (k : κ) :
    lookup key k (seen.foldl (fun values fresh => keepNewer key newer fresh values) []) =
      (seen.filter fun value => key value = k).argmax rank := by
  induction seen using List.reverseRecOn with
  | nil => rfl
  | append_singleton seen fresh ih =>
    rw [List.foldl_append, List.foldl_cons, List.foldl_nil, lookup_keepNewer, ih,
      List.filter_append]
    by_cases same : key fresh = k
    · have one : [fresh].filter (fun value => key value = k) = [fresh] := by simp [same]
      rw [if_pos same, one, List.argmax_concat]
      cases (seen.filter fun value => key value = k).argmax rank with
      | none => rfl
      | some old =>
        change some (if newer fresh old then fresh else old) =
          if rank old < rank fresh then some fresh else some old
        simp only [newer_iff]
        split_ifs <;> rfl
    · have none_ : [fresh].filter (fun value => key value = k) = [] := by simp [same]
      rw [if_neg same, none_, List.append_nil]

theorem maxima_foldl (newer_iff : ∀ a b, newer a b = true ↔ rank b < rank a) (seen : List α) :
    Maxima key rank seen
      (seen.foldl (fun values fresh => keepNewer key newer fresh values) []) := by
  induction seen using List.reverseRecOn with
  | nil => exact maxima_nil key rank
  | append_singleton seen fresh ih =>
    rw [List.foldl_append, List.foldl_cons, List.foldl_nil]
    exact ih.keepNewer newer_iff fresh

/-! ## Counts by key -/

omit [LinearOrder ρ] in
/-- Values that pass and have different keys are counted by their keys. -/
theorem countP_by_key {p : α → Bool} {values : List α} {keys : List κ} (nodup : keys.Nodup)
    (distinct : ((values.filter p).map key).Nodup)
    (covered : ∀ value ∈ values, p value = true → key value ∈ keys) :
    values.countP p = keys.countP fun k => ∃ value ∈ values, key value = k ∧ p value = true := by
  have same : ((values.filter p).map key).Perm
      (keys.filter fun k => ∃ value ∈ values, key value = k ∧ p value = true) := by
    rw [List.perm_ext_iff_of_nodup distinct (nodup.filter _)]
    intro k
    rw [List.mem_map, List.mem_filter, decide_eq_true_iff]
    constructor
    · rintro ⟨value, h, rfl⟩
      have ⟨member, passes⟩ := List.mem_filter.1 h
      exact ⟨covered value member passes, value, member, rfl, passes⟩
    · rintro ⟨_, value, member, own, passes⟩
      exact ⟨value, List.mem_filter.2 ⟨member, passes⟩, own⟩
  rw [List.countP_eq_length_filter, List.countP_eq_length_filter, ← same.length_eq,
    List.length_map]

end BacklinkPublisher.KeyedMaxima
