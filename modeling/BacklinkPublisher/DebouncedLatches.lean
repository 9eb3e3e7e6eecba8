import Mathlib.Data.List.Infix
import Mathlib.Tactic.Common

set_option autoImplicit false

/-!
# A latch set by a run of faults and cleared by a run of recoveries

`setAfter` faults in a row set the latch and `clearAfter` recoveries in a row clear it. The
machine keeps two counters beside the latch; `Latched` says the same of the whole history, with
no counter.
-/
namespace BacklinkPublisher.DebouncedLatches

inductive Signal where
  | fault
  | recovery
  deriving DecidableEq, Repr

/-- Some `setAfter` faults in a row are followed by no `clearAfter` recoveries in a row. -/
def Latched (setAfter clearAfter : ℕ) (history : List Signal) : Prop :=
  ∃ before after, history = before ++ List.replicate setAfter .fault ++ after ∧
    ¬ List.replicate clearAfter .recovery <:+: after

structure Debounce where
  faults : ℕ
  recoveries : ℕ
  latched : Bool
  deriving DecidableEq, Repr

def Debounce.initial : Debounce := ⟨0, 0, false⟩

def Debounce.step (setAfter clearAfter : ℕ) (state : Debounce) : Signal → Debounce
  | .fault => ⟨state.faults + 1, 0, state.latched || decide (setAfter ≤ state.faults + 1)⟩
  | .recovery => ⟨0, state.recoveries + 1,
      state.latched && !decide (clearAfter ≤ state.recoveries + 1)⟩

def Debounce.run (setAfter clearAfter : ℕ) (history : List Signal) : Debounce :=
  history.foldl (Debounce.step setAfter clearAfter) Debounce.initial

theorem Debounce.run_concat (setAfter clearAfter : ℕ) (history : List Signal) (signal : Signal) :
    Debounce.run setAfter clearAfter (history ++ [signal]) =
      (Debounce.run setAfter clearAfter history).step setAfter clearAfter signal :=
  List.foldl_concat ..

/-! ## The counters are the lengths of the runs a history ends in -/

/-- `count` is how many times `signal` stands at the end of `history`. -/
def EndsIn (signal : Signal) (history : List Signal) (count : ℕ) : Prop :=
  ∀ k, List.replicate k signal <:+ history ↔ k ≤ count

theorem replicate_suffix_concat (signal last : Signal) (history : List Signal) (k : ℕ) :
    List.replicate (k + 1) signal <:+ history ++ [last] ↔
      signal = last ∧ List.replicate k signal <:+ history := by
  rw [List.suffix_concat_iff, List.replicate_succ']
  constructor
  · rintro (empty | ⟨rest, same, suffix⟩)
    · simp at empty
    · have ⟨rest_eq, last_eq⟩ := List.append_inj' same rfl
      rw [rest_eq]
      exact ⟨by simpa using last_eq, suffix⟩
  · rintro ⟨rfl, suffix⟩
    exact .inr ⟨_, rfl, suffix⟩

theorem endsIn_nil (signal : Signal) : EndsIn signal [] 0 := by
  intro k
  rw [List.suffix_nil, List.replicate_eq_nil_iff, Nat.le_zero]

theorem EndsIn.concat_same {signal : Signal} {history : List Signal} {count : ℕ}
    (ends : EndsIn signal history count) : EndsIn signal (history ++ [signal]) (count + 1) := by
  intro k
  cases k with
  | zero => simp
  | succ k =>
    rw [replicate_suffix_concat, ends k, Nat.succ_le_succ_iff]
    exact and_iff_right rfl

theorem endsIn_concat_other {signal last : Signal} (history : List Signal)
    (other : signal ≠ last) : EndsIn signal (history ++ [last]) 0 := by
  intro k
  cases k with
  | zero => simp
  | succ k =>
    rw [replicate_suffix_concat]
    constructor
    · rintro ⟨same, _⟩
      exact absurd same other
    · omega

/-! ## What one more signal does to the latched histories -/

variable {setAfter clearAfter : ℕ}

theorem not_latched_nil (positive : 0 < setAfter) : ¬ Latched setAfter clearAfter [] := by
  rintro ⟨before, after, same, _⟩
  have length := congrArg List.length same
  simp only [List.length_nil, List.length_append, List.length_replicate] at length
  omega

theorem latched_concat_fault (positive : 0 < clearAfter) (history : List Signal) :
    Latched setAfter clearAfter (history ++ [.fault]) ↔
      List.replicate setAfter .fault <:+ history ++ [.fault] ∨
        Latched setAfter clearAfter history := by
  have short : ∀ after : List Signal,
      List.replicate clearAfter Signal.recovery <:+: after ++ [.fault] ↔
        List.replicate clearAfter Signal.recovery <:+: after := by
    intro after
    rw [List.infix_concat_iff]
    constructor
    · rintro (suffix | infix_)
      · have ends := (endsIn_concat_other after (by decide : Signal.recovery ≠ .fault) clearAfter).1 suffix
        omega
      · exact infix_
    · exact .inr
  constructor
  · rintro ⟨before, after, same, clear⟩
    rcases List.eq_nil_or_concat' after with rfl | ⟨after, last, rfl⟩
    · left
      exact ⟨before, by rw [same, List.append_nil]⟩
    · right
      rw [← List.append_assoc] at same
      have ⟨history_eq, last_eq⟩ := List.append_inj' same rfl
      have : last = .fault := by simpa using last_eq.symm
      subst this
      exact ⟨before, after, history_eq, fun found => clear ((short after).2 found)⟩
  · rintro (⟨before, same⟩ | ⟨before, after, same, clear⟩)
    · refine ⟨before, [], by rw [← same, List.append_nil], ?_⟩
      intro found
      have empty := List.infix_nil.1 found
      rw [List.replicate_eq_nil_iff] at empty
      omega
    · refine ⟨before, after ++ [.fault], by rw [same]; simp, ?_⟩
      rw [short after]
      exact clear

/-- Recoveries at the end of a history stand after the faults found in it. -/
theorem recoveries_suffix_append (positive : 0 < setAfter) (before after : List Signal) (k : ℕ) :
    List.replicate k .recovery <:+ before ++ List.replicate setAfter .fault ++ after ↔
      List.replicate k .recovery <:+ after := by
  induction after using List.reverseRecOn generalizing k with
  | nil =>
    have : setAfter = setAfter - 1 + 1 := by omega
    rw [List.append_nil, this, List.replicate_succ', ← List.append_assoc]
    rw [endsIn_concat_other _ (by decide : Signal.recovery ≠ .fault) k, endsIn_nil _ k]
  | append_singleton after last ih =>
    cases k with
    | zero => simp
    | succ k =>
      rw [← List.append_assoc, replicate_suffix_concat, replicate_suffix_concat, ih]

theorem latched_concat_recovery (setPositive : 0 < setAfter) (history : List Signal) :
    Latched setAfter clearAfter (history ++ [.recovery]) ↔
      Latched setAfter clearAfter history ∧
        ¬ List.replicate clearAfter .recovery <:+ history ++ [.recovery] := by
  constructor
  · rintro ⟨before, after, same, clear⟩
    rcases List.eq_nil_or_concat' after with rfl | ⟨after, last, rfl⟩
    · have : setAfter = setAfter - 1 + 1 := by omega
      rw [List.append_nil, this, List.replicate_succ', ← List.append_assoc] at same
      have last_eq := (List.append_inj' same rfl).2
      simp at last_eq
    · have kept := same
      rw [← List.append_assoc] at same
      have ⟨history_eq, last_eq⟩ := List.append_inj' same rfl
      have : last = .recovery := by simpa using last_eq.symm
      subst this
      rw [List.infix_concat_iff, not_or] at clear
      refine ⟨⟨before, after, history_eq, clear.2⟩, ?_⟩
      rw [kept, recoveries_suffix_append setPositive]
      exact clear.1
  · rintro ⟨⟨before, after, same, clear⟩, ending⟩
    refine ⟨before, after ++ [.recovery], by rw [same]; simp, ?_⟩
    rw [List.infix_concat_iff, not_or]
    refine ⟨?_, clear⟩
    rw [same, List.append_assoc, recoveries_suffix_append setPositive] at ending
    exact ending

/-! ## The machine computes the predicate -/

structure Debounce.Tracks (setAfter clearAfter : ℕ) (state : Debounce) (history : List Signal) :
    Prop where
  faults : EndsIn .fault history state.faults
  recoveries : EndsIn .recovery history state.recoveries
  latched : state.latched = true ↔ Latched setAfter clearAfter history

theorem Debounce.Tracks.step (setPositive : 0 < setAfter) (clearPositive : 0 < clearAfter)
    {state : Debounce} {history : List Signal} (tracks : state.Tracks setAfter clearAfter history)
    (signal : Signal) :
    (state.step setAfter clearAfter signal).Tracks setAfter clearAfter (history ++ [signal]) := by
  cases signal with
  | fault =>
    have faults := tracks.faults.concat_same
    refine ⟨faults, endsIn_concat_other history (by decide), ?_⟩
    rw [latched_concat_fault clearPositive, faults setAfter, ← tracks.latched]
    unfold Debounce.step
    rw [Bool.or_eq_true, decide_eq_true_iff, or_comm]
  | recovery =>
    have recoveries := tracks.recoveries.concat_same
    refine ⟨endsIn_concat_other history (by decide), recoveries, ?_⟩
    rw [latched_concat_recovery setPositive, recoveries clearAfter, ← tracks.latched]
    unfold Debounce.step
    rw [Bool.and_eq_true, Bool.not_eq_true', decide_eq_false_iff_not]

/-- After any history the latch is set exactly when the history is `Latched`. -/
theorem Debounce.run_tracks (setPositive : 0 < setAfter) (clearPositive : 0 < clearAfter)
    (history : List Signal) :
    (Debounce.run setAfter clearAfter history).Tracks setAfter clearAfter history := by
  induction history using List.reverseRecOn with
  | nil =>
    refine ⟨endsIn_nil _, endsIn_nil _, ?_⟩
    constructor
    · intro isSet
      cases isSet
    · intro latched
      exact absurd latched (not_latched_nil setPositive)
  | append_singleton history signal ih =>
    rw [Debounce.run_concat]
    exact ih.step setPositive clearPositive signal

end BacklinkPublisher.DebouncedLatches
