import BacklinkPublisher.TransitionSystems
import Mathlib.Data.List.Basic
import Mathlib.Tactic.Common

set_option autoImplicit false

/-!
# Cooperative writes

`atomic_write_stream` of `persistence/safe_write.py` in processes that run at the same time, each
system call as one step. A process may fail in a call or die at any time. The lock is on the file
that a process has open, and the lock file is removed after each write.
-/
namespace BacklinkPublisher.CooperativeWrites
open TransitionSystems

abbrev Text := List Char

/-! ## Processes -/

/-- Where a call is. It ends with or without an exception. -/
inductive Pc where
  | mkdir
  | open_
  | flock
  | abandon
  | mkstemp
  | write
  | chmod
  | replace
  | unlinkTmp
  | close (raised : Bool)
  | unlinkLock (raised : Bool)
  | ended (raised : Bool)
  | dead
  deriving DecidableEq, Repr

/-- `rest` is what `write_fn` has still to write, `lockFd` the file that is open as the lock file,
`locked` whether the call has its lock. -/
structure Process where
  chunks : List Text
  rest : List Text
  pc : Pc := .mkdir
  tmp : Text := []
  lockFd : Option ℕ := none
  locked : Bool := false
  deriving DecidableEq, Repr

/-- `atomic_write_stream` of a `write_fn` that writes the chunks. -/
def atomicWriteStream (chunks : List Text) : Process where
  chunks := chunks
  rest := chunks

def atomicWrite (text : Text) : Process := atomicWriteStream [text]

/-- The whole content that the call is to write. -/
def Process.content (process : Process) : Text := process.chunks.flatten

/-- `finally`: what is left to do when the temporary file is done with. -/
def Process.leave (raised : Bool) (process : Process) : Process :=
  { process with pc := if process.lockFd.isSome then .close raised else .ended raised }

/-- After a write of `write_fn`, or after the file is closed. -/
def Process.wrote (process : Process) : Process :=
  match process.rest with
  | [] => { process with pc := .chmod }
  | chunk :: rest => { process with tmp := process.tmp ++ chunk, rest := rest }

/-- A system call with its outcome. A close that fails may leave the file open. -/
inductive SystemCall where
  | mkdir (ok : Bool)
  | open_ (ok : Bool)
  | flock (ok : Bool)
  | mkstemp (ok : Bool)
  | write (ok : Bool)
  | chmod (ok : Bool)
  | replace (ok : Bool)
  | unlink (ok : Bool)
  | close (closed : Bool)
  | die
  deriving DecidableEq, Repr

/-! ## The system -/

/-- `lockPath` is the file that the path of the lock names, `writes` are the processes that have
replaced the file at the path. -/
structure System where
  path : Option Text
  lockPath : Option ℕ := none
  nextInode : ℕ := 0
  processes : List Process := []
  writes : List ℕ := []
  deriving DecidableEq, Repr

def start (original : Option Text) : System where
  path := original

def System.isHeld (s : System) (file : Option ℕ) : Bool :=
  s.processes.any fun process => process.locked && process.lockFd = file

/-- What a system call does to the files and to its process. A lock that another process has is
waited for. -/
def act (s : System) (p : ℕ) (process : Process) (call : SystemCall) : Option (System × Process) :=
  match process.pc, call with
  | .mkdir, .mkdir ok => some (s, { process with pc := if ok then .open_ else .ended true })
  | .open_, .open_ true =>
    let inode := s.lockPath.getD s.nextInode
    some ({ s with lockPath := some inode, nextInode := max s.nextInode (inode + 1) },
      { process with lockFd := some inode, pc := .flock })
  | .open_, .open_ false => some (s, { process with pc := .mkstemp })
  | .flock, .flock true =>
    if s.isHeld process.lockFd then none
    else some (s, { process with locked := true, pc := .mkstemp })
  | .flock, .flock false => some (s, { process with pc := .abandon })
  | .abandon, .close _ => some (s, { process with lockFd := none, pc := .mkstemp })
  | .mkstemp, .mkstemp ok =>
    some (s, if ok then { process with pc := .write } else process.leave true)
  | .write, .write ok =>
    some (s, if ok then process.wrote else { process with pc := .unlinkTmp })
  | .chmod, .chmod ok => some (s, { process with pc := if ok then .replace else .unlinkTmp })
  | .replace, .replace true =>
    some ({ s with path := some process.tmp, writes := s.writes ++ [p] }, process.leave false)
  | .replace, .replace false => some (s, { process with pc := .unlinkTmp })
  | .unlinkTmp, .unlink _ => some (s, process.leave true)
  | .close raised, .close closed =>
    some (s,
      { process with
        lockFd := if closed then none else process.lockFd
        locked := if closed then false else process.locked
        pc := .unlinkLock raised })
  | .unlinkLock raised, .unlink ok =>
    some ({ s with lockPath := if ok then none else s.lockPath },
      { process with pc := .ended raised })
  | .ended _, .die => some (s, { process with lockFd := none, locked := false })
  | _, .die => some (s, { process with lockFd := none, locked := false, pc := .dead })
  | _, _ => none

inductive Label where
  | begin_ (chunks : List Text)
  | call (p : ℕ) (call : SystemCall)
  deriving DecidableEq, Repr

def step (s : System) : Label → Option System
  | .begin_ chunks => some { s with processes := s.processes ++ [atomicWriteStream chunks] }
  | .call p call => do
    let process ← s.processes[p]?
    let (s, process) ← act s p process call
    some { s with processes := s.processes.set p process }

theorem step_atomicWrite (s : System) (text : Text) :
    step s (.begin_ [text]) = some { s with processes := s.processes ++ [atomicWrite text] } := rfl

/-! ## What is promised -/

/-- What the path holds after the processes have replaced it, one after the other. -/
def written (original : Option Text) (s : System) : Option Text :=
  match s.writes.getLast? with
  | none => original
  | some p => (s.processes[p]?).map Process.content

/-- No two processes have the lock. The path holds the whole content of the last call that has
replaced it, or else what was there. A call that raises has not replaced it. -/
structure Cooperates (original : Option Text) (s : System) : Prop where
  exclusive : ∀ (p q : ℕ) (process other : Process), s.processes[p]? = some process →
    s.processes[q]? = some other → process.locked = true → other.locked = true → p = q
  atomic : s.path = written original s
  harmless : ∀ (p : ℕ) (process : Process), s.processes[p]? = some process →
    process.pc = .ended true → p ∉ s.writes

/-- The file through which a process waits for the lock or has it. -/
def Process.engaged (process : Process) : Option ℕ :=
  if process.pc = .flock || process.locked then process.lockFd else none

/-- A lock file is opened while all that wait for the lock or have it do so through the file that
the path of the lock names. -/
def sameFile (s : System) : Label → Bool
  | .call _ (.open_ true) =>
    s.processes.all fun process => process.engaged.all fun file => s.lockPath = some file
  | _ => true

/-! ## What a system call does -/

section Act
variable {s t : System} {p : ℕ} {process process' : Process} {call : SystemCall}

/-- A process that is past its request for the lock. -/
def Pc.past : Pc → Bool
  | .mkdir | .open_ | .flock | .abandon => false
  | _ => true

/-- A process that has its lock has the lock file open. -/
structure Locks (process : Process) : Prop where
  locked : process.locked = true → process.lockFd.isSome = true ∧ process.pc.past = true
  waits : process.pc = .flock → process.lockFd.isSome = true

/-- The ways in which a system call changes what a process has of the lock. -/
inductive LockEffect (s : System) (process process' : Process) (call : SystemCall) : Prop where
  | opened (opens : call = .open_ true) (fd : process'.lockFd = some (s.lockPath.getD s.nextInode))
      (waits : process'.pc = .flock) (locked : process'.locked = false)
  | acquired (waits : process.pc = .flock) (free : s.isHeld process.lockFd = false)
      (fd : process'.lockFd = process.lockFd) (past : process'.pc.past = true)
  | kept (fd : process'.lockFd = process.lockFd) (locked : process'.locked = process.locked)
      (past : process'.pc.past = true)
  | free (locked : process'.locked = false) (waits : process'.pc ≠ .flock)

theorem leave_past (raised : Bool) (process : Process) : (process.leave raised).pc.past = true := by
  unfold Process.leave
  split_ifs <;> rfl

theorem wrote_eq (process : Process) : process.wrote.lockFd = process.lockFd ∧
    process.wrote.locked = process.locked ∧ process.wrote.chunks = process.chunks := by
  unfold Process.wrote
  cases process.rest <;> exact ⟨rfl, rfl, rfl⟩

theorem lockEffect_of (locks : Locks process) (acted : act s p process call = some (t, process')) :
    LockEffect s process process' call := by
  have unlocked : process.pc.past = false → process.locked = false := by
    intro early
    by_contra locked
    have past := (locks.locked (eq_true_of_ne_false locked)).2
    exact absurd (early.symm.trans past) Bool.noConfusion
  unfold act at acted
  split at acted
  case h_1 ok pc =>
    cases acted
    refine .free (unlocked (by rw [pc]; rfl)) ?_
    cases ok <;> exact nofun
  case h_2 pc =>
    cases acted
    exact .opened rfl rfl rfl (unlocked (by rw [pc]; rfl))
  case h_3 pc =>
    cases acted
    exact .free (unlocked (by rw [pc]; rfl)) nofun
  case h_4 pc =>
    split_ifs at acted with held
    cases acted
    exact .acquired pc (eq_false_of_ne_true held) rfl rfl
  case h_5 pc =>
    cases acted
    exact .free (unlocked (by rw [pc]; rfl)) nofun
  case h_6 pc =>
    cases acted
    exact .free (unlocked (by rw [pc]; rfl)) nofun
  case h_7 ok pc =>
    cases acted
    cases ok with
    | true => exact .kept rfl rfl rfl
    | false => exact .kept rfl rfl (leave_past true process)
  case h_8 ok pc =>
    cases acted
    cases ok with
    | true =>
      have ⟨fd, locked, _⟩ := wrote_eq process
      refine .kept fd locked ?_
      change process.wrote.pc.past = true
      unfold Process.wrote
      cases process.rest with
      | nil => rfl
      | cons chunk rest =>
        dsimp only
        rw [pc]
        rfl
    | false => exact .kept rfl rfl rfl
  case h_9 ok pc =>
    cases acted
    exact .kept rfl rfl (by cases ok <;> rfl)
  case h_10 pc =>
    cases acted
    exact .kept rfl rfl (leave_past false process)
  case h_11 pc =>
    cases acted
    exact .kept rfl rfl rfl
  case h_12 pc =>
    cases acted
    exact .kept rfl rfl (leave_past true process)
  case h_13 raised closed pc =>
    cases acted
    cases closed with
    | true => exact .free rfl nofun
    | false => exact .kept rfl rfl rfl
  case h_14 raised ok pc =>
    cases acted
    exact .kept rfl rfl rfl
  case h_15 raised pc =>
    cases acted
    exact .free rfl (by rw [pc]; exact nofun)
  case h_16 =>
    cases acted
    exact .free rfl nofun
  case h_17 => cases acted

theorem LockEffect.locks (effect : LockEffect s process process' call) (locks : Locks process) :
    Locks process' := by
  cases effect with
  | opened opens fd waits locked =>
    refine ⟨fun still => absurd (locked.symm.trans still) Bool.noConfusion, fun _ => ?_⟩
    rw [fd]
    rfl
  | acquired waits free fd past =>
    refine ⟨fun _ => ⟨fd ▸ locks.waits waits, past⟩, fun still => ?_⟩
    rw [still] at past
    cases past
  | kept fd locked past =>
    refine ⟨fun still => ⟨fd ▸ (locks.locked (locked ▸ still)).1, past⟩, fun still => ?_⟩
    rw [still] at past
    cases past
  | free locked waits =>
    exact ⟨fun still => absurd (locked.symm.trans still) Bool.noConfusion,
      fun still => absurd still waits⟩

theorem engaged_iff {file : ℕ} : process.engaged = some file ↔
    (process.pc = .flock ∨ process.locked = true) ∧ process.lockFd = some file := by
  unfold Process.engaged
  by_cases some_ : process.pc = .flock ∨ process.locked = true
  · rw [if_pos (by simpa using some_)]
    exact ⟨fun fd => ⟨some_, fd⟩, fun h => h.2⟩
  · rw [if_neg (by simpa using some_)]
    exact ⟨fun fd => absurd fd.symm (Option.some_ne_none file), fun h => absurd h.1 some_⟩

/-- Only a process that opens the lock file gets to another file. -/
theorem LockEffect.engaged (effect : LockEffect s process process' call) {file : ℕ}
    (engaged : process'.engaged = some file) :
    process.engaged = some file ∨ call = .open_ true ∧ file = s.lockPath.getD s.nextInode := by
  obtain ⟨some_, fd'⟩ := engaged_iff.1 engaged
  cases effect with
  | opened opens fd waits locked => exact .inr ⟨opens, Option.some.inj (fd'.symm.trans fd)⟩
  | acquired waits free fd past => exact .inl (engaged_iff.2 ⟨.inl waits, fd ▸ fd'⟩)
  | kept fd locked past =>
    rcases some_ with waits | still
    · rw [waits] at past
      cases past
    · exact .inl (engaged_iff.2 ⟨.inr (locked ▸ still), fd ▸ fd'⟩)
  | free locked waits =>
    rcases some_ with waits' | still
    · exact absurd waits' waits
    · exact absurd (locked.symm.trans still) Bool.noConfusion

/-- A process that has its lock has had it, or nobody has the lock of its file. -/
theorem LockEffect.holds (effect : LockEffect s process process' call)
    (locked : process'.locked = true) :
    process'.lockFd = process.lockFd ∧
      (process.locked = true ∨ s.isHeld process.lockFd = false) := by
  cases effect with
  | opened opens fd waits unlocked => exact absurd (unlocked.symm.trans locked) Bool.noConfusion
  | acquired waits free fd past => exact ⟨fd, .inr free⟩
  | kept fd same past => exact ⟨fd, .inl (same ▸ locked)⟩
  | free unlocked waits => exact absurd (unlocked.symm.trans locked) Bool.noConfusion

/-! ## What a process writes -/

/-- The temporary file has what has been written so far. -/
def Writes (process : Process) : Prop :=
  match process.pc with
  | .mkdir | .open_ | .flock | .abandon | .mkstemp =>
    process.tmp = [] ∧ process.rest = process.chunks
  | .write => process.tmp ++ process.rest.flatten = process.content
  | .chmod | .replace => process.tmp = process.content
  | _ => True

/-- A process that may have replaced the file. -/
def Pc.mayHaveReplaced : Pc → Bool
  | .close raised | .unlinkLock raised | .ended raised => !raised
  | .dead => true
  | _ => false

/-- The ways in which a system call changes the path. -/
inductive WriteEffect (s t : System) (p : ℕ) (process process' : Process) : Prop where
  | kept (path : t.path = s.path) (writes : t.writes = s.writes)
      (replaced : process.pc.mayHaveReplaced = true → process'.pc.mayHaveReplaced = true)
  | replaced (path : t.path = some process.tmp) (writes : t.writes = s.writes ++ [p])
      (before : process.pc = .replace) (after : process'.pc.mayHaveReplaced = true)

theorem leave_false_replaced (process : Process) :
    (process.leave false).pc.mayHaveReplaced = true := by
  unfold Process.leave
  split_ifs <;> rfl

theorem writes_leave (raised : Bool) (process : Process) : Writes (process.leave raised) := by
  unfold Writes Process.leave
  dsimp only
  split_ifs <;> trivial

theorem act_files (acted : act s p process call = some (t, process')) :
    process'.chunks = process.chunks ∧ t.processes = s.processes ∧
      WriteEffect s t p process process' := by
  have early : process.pc.mayHaveReplaced = false →
      ∀ after : Bool, process.pc.mayHaveReplaced = true → after = true := by
    intro first after later
    exact absurd (first.symm.trans later) Bool.noConfusion
  unfold act at acted
  split at acted
  case h_4 pc =>
    split_ifs at acted
    cases acted
    exact ⟨rfl, rfl, .kept rfl rfl (early (by rw [pc]; rfl) _)⟩
  case h_7 ok pc =>
    cases acted
    cases ok <;> exact ⟨rfl, rfl, .kept rfl rfl (early (by rw [pc]; rfl) _)⟩
  case h_8 ok pc =>
    cases acted
    refine ⟨?_, rfl, .kept rfl rfl (early (by rw [pc]; rfl) _)⟩
    cases ok with
    | true => exact (wrote_eq process).2.2
    | false => rfl
  case h_10 pc =>
    cases acted
    exact ⟨rfl, rfl, .replaced rfl rfl pc (leave_false_replaced process)⟩
  case h_13 raised closed pc =>
    cases acted
    exact ⟨rfl, rfl, .kept rfl rfl (by rw [pc]; exact id)⟩
  case h_14 raised ok pc =>
    cases acted
    exact ⟨rfl, rfl, .kept rfl rfl (by rw [pc]; exact id)⟩
  case h_15 raised pc =>
    cases acted
    exact ⟨rfl, rfl, .kept rfl rfl id⟩
  case h_16 =>
    cases acted
    exact ⟨rfl, rfl, .kept rfl rfl fun _ => rfl⟩
  case h_17 => cases acted
  all_goals
    rename_i pc
    cases acted
    exact ⟨rfl, rfl, .kept rfl rfl (early (by rw [pc]; rfl) _)⟩

/-- What is written is a part of what is to be written, and all of it when it is moved. -/
theorem writes_of_act (writes : Writes process)
    (acted : act s p process call = some (t, process')) : Writes process' := by
  unfold Writes at writes
  unfold act at acted
  split at acted
  case h_7 ok pc =>
    cases acted
    rw [pc] at writes
    cases ok with
    | true =>
      change process.tmp ++ process.rest.flatten = process.chunks.flatten
      rw [writes.1, writes.2, List.nil_append]
    | false => exact writes_leave true process
  case h_8 ok pc =>
    cases acted
    rw [pc] at writes
    cases ok with
    | true =>
      change Writes process.wrote
      unfold Process.wrote
      dsimp only at writes
      cases rest : process.rest with
      | nil =>
        rw [rest, List.flatten_nil, List.append_nil] at writes
        exact writes
      | cons chunk rest' =>
        rw [rest, List.flatten_cons, ← List.append_assoc] at writes
        unfold Writes
        dsimp only
        rw [pc]
        exact writes
    | false => trivial
  case h_9 ok pc =>
    cases acted
    rw [pc] at writes
    cases ok with
    | true => exact writes
    | false => trivial
  case h_10 pc =>
    cases acted
    exact writes_leave false process
  case h_12 pc =>
    cases acted
    exact writes_leave true process
  case h_1 ok pc =>
    cases acted
    rw [pc] at writes
    cases ok with
    | true => exact writes
    | false => trivial
  case h_4 pc =>
    split_ifs at acted
    cases acted
    rw [pc] at writes
    exact writes
  case h_11 => cases acted; trivial
  case h_13 => cases acted; trivial
  case h_14 => cases acted; trivial
  case h_15 raised pc =>
    cases acted
    unfold Writes
    rw [pc]
    trivial
  case h_16 => cases acted; trivial
  case h_17 => cases acted
  all_goals
    rename_i pc
    cases acted
    rw [pc] at writes
    exact writes

end Act

/-! ## Runs -/

section Runs
variable {s t : System} {original : Option Text} {processes : List Process} {p q : ℕ}
  {process process' other : Process}

theorem set_cases (found : (processes.set p process')[q]? = some other) :
    q = p ∧ other = process' ∨ q ≠ p ∧ processes[q]? = some other := by
  rw [List.getElem?_set] at found
  split_ifs at found with same
  · exact .inl ⟨same.symm, (Option.some.inj found).symm⟩
  · exact .inr ⟨fun equal => same equal.symm, found⟩

theorem append_cases (found : (processes ++ [process'])[q]? = some other) :
    processes[q]? = some other ∨ other = process' := by
  by_cases inside : q < processes.length
  · rw [List.getElem?_append_left inside] at found
    exact .inl found
  · rw [List.getElem?_append_right (Nat.not_lt.1 inside)] at found
    exact .inr (List.mem_singleton.1 (List.mem_of_getElem? found))

theorem getElem?_append (found : processes[p]? = some process) (process' : Process) :
    (processes ++ [process'])[p]? = some process := by
  have ⟨inside, _⟩ := List.getElem?_eq_some_iff.1 found
  rw [List.getElem?_append_left inside, found]

/-- What holds in every run. -/
structure Invariant (original : Option Text) (s : System) : Prop where
  locks : ∀ process ∈ s.processes, Locks process
  writes : ∀ process ∈ s.processes, Writes process
  path : s.path = written original s
  replaced : ∀ p ∈ s.writes, ∃ process, s.processes[p]? = some process ∧
    process.pc.mayHaveReplaced = true
  oneHolder : ∀ (p q : ℕ) (process other : Process), s.processes[p]? = some process →
    s.processes[q]? = some other → process.locked = true → other.locked = true →
    process.lockFd = other.lockFd → p = q

theorem step_call {call : SystemCall} (moved : step s (.call p call) = some t) :
    ∃ process u process', s.processes[p]? = some process ∧
      act s p process call = some (u, process') ∧
      t = { u with processes := s.processes.set p process' } := by
  obtain ⟨process, here, moved⟩ := Option.bind_eq_some_iff.1 moved
  obtain ⟨⟨u, process'⟩, acted, same⟩ := Option.bind_eq_some_iff.1 moved
  refine ⟨process, u, process', here, acted, ?_⟩
  rw [← (act_files acted).2.1]
  exact (Option.some.inj same).symm

/-- The contents of the calls stay. -/
theorem written_set (here : s.processes[p]? = some process)
    (chunks : process'.chunks = process.chunks) (writes : t.writes = s.writes)
    (processes : t.processes = s.processes.set p process') :
    written original t = written original s := by
  have content : process'.content = process.content := congrArg List.flatten chunks
  have ⟨inside, _⟩ := List.getElem?_eq_some_iff.1 here
  unfold written
  rw [writes, processes]
  cases s.writes.getLast? with
  | none => rfl
  | some q =>
    dsimp only
    by_cases same : p = q
    · rw [← same, List.getElem?_set_self inside, here]
      exact congrArg some content
    · rw [List.getElem?_set_ne same]

theorem Invariant.begin_ (inv : Invariant original s) (chunks : List Text) :
    Invariant original { s with processes := s.processes ++ [atomicWriteStream chunks] } := by
  refine ⟨fun process member => ?_, fun process member => ?_, ?_, fun p member => ?_,
    fun p q process other here there locked locked' same => ?_⟩
  · rcases List.mem_append.1 member with old | new
    · exact inv.locks process old
    · rw [List.mem_singleton.1 new]
      exact ⟨nofun, nofun⟩
  · rcases List.mem_append.1 member with old | new
    · exact inv.writes process old
    · rw [List.mem_singleton.1 new]
      exact ⟨rfl, rfl⟩
  · refine inv.path.trans ?_
    unfold written
    dsimp only
    cases last : s.writes.getLast? with
    | none => rfl
    | some p =>
      obtain ⟨process, found, -⟩ := inv.replaced p (List.mem_of_getLast? last)
      dsimp only
      rw [found, getElem?_append found]
  · obtain ⟨process, found, replaced⟩ := inv.replaced p member
    exact ⟨process, getElem?_append found _, replaced⟩
  · rcases append_cases here with old | new
    · rcases append_cases there with old' | new'
      · exact inv.oneHolder p q process other old old' locked locked' same
      · rw [new'] at locked'
        cases locked'
    · rw [new] at locked
      cases locked

theorem not_isHeld {file : Option ℕ} (free : s.isHeld file = false) (member : other ∈ s.processes)
    (locked : other.locked = true) : other.lockFd ≠ file := by
  intro same
  have none_ := List.any_eq_false.1 free other member
  rw [locked, same] at none_
  exact none_ (by simp)

/-- Of two that have the lock of one file, one that has just got it finds nobody with it. -/
theorem Invariant.fresh {call : SystemCall} (inv : Invariant original s)
    (here : s.processes[p]? = some process) (effect : LockEffect s process process' call)
    (apart : q ≠ p) (there : s.processes[q]? = some other) (locked : process'.locked = true)
    (locked' : other.locked = true) : process'.lockFd ≠ other.lockFd := by
  intro same
  have ⟨fd, held⟩ := effect.holds locked
  rcases held with before | free
  · exact apart (inv.oneHolder q p other process there here locked' before (fd ▸ same.symm))
  · exact not_isHeld free (List.mem_of_getElem? there) locked' (same.symm.trans fd)

/-- A process that has replaced the file is still past that. -/
theorem Invariant.replaced_set (inv : Invariant original s)
    (here : s.processes[p]? = some process)
    (later : process.pc.mayHaveReplaced = true → process'.pc.mayHaveReplaced = true)
    (before : q ∈ s.writes) : ∃ other, (s.processes.set p process')[q]? = some other ∧
      other.pc.mayHaveReplaced = true := by
  obtain ⟨other, there, replaced⟩ := inv.replaced q before
  by_cases same : p = q
  · have ⟨inside, _⟩ := List.getElem?_eq_some_iff.1 here
    rw [← same] at there ⊢
    rw [here] at there
    exact ⟨process', List.getElem?_set_self inside, later (Option.some.inj there ▸ replaced)⟩
  · exact ⟨other, (List.getElem?_set_ne same).trans there, replaced⟩

theorem Invariant.call {call : SystemCall} {u : System} (inv : Invariant original s)
    (here : s.processes[p]? = some process) (acted : act s p process call = some (u, process')) :
    Invariant original { u with processes := s.processes.set p process' } := by
  have member := List.mem_of_getElem? here
  have ⟨inside, _⟩ := List.getElem?_eq_some_iff.1 here
  have effect := lockEffect_of (inv.locks process member) acted
  have ⟨chunks, _, files⟩ := act_files acted
  have self : (s.processes.set p process')[p]? = some process' := List.getElem?_set_self inside
  constructor
  case locks =>
    intro any_ among
    rcases List.mem_or_eq_of_mem_set among with old | new
    · exact inv.locks any_ old
    · rw [new]
      exact effect.locks (inv.locks process member)
  case writes =>
    intro any_ among
    rcases List.mem_or_eq_of_mem_set among with old | new
    · exact inv.writes any_ old
    · rw [new]
      exact writes_of_act (inv.writes process member) acted
  case path =>
    cases files with
    | kept path writes replaced =>
      rw [written_set here chunks (t := { u with processes := s.processes.set p process' }) writes
        rfl]
      exact path.trans inv.path
    | replaced path writes before after =>
      have whole := inv.writes process member
      unfold Writes at whole
      rw [before] at whole
      unfold written
      dsimp only
      rw [writes, List.getLast?_concat]
      dsimp only
      rw [self, path]
      exact congrArg some (whole.trans (congrArg List.flatten chunks.symm))
  case replaced =>
    intro q among
    have among : q ∈ u.writes := among
    cases files with
    | kept path writes replaced => exact inv.replaced_set here replaced (writes ▸ among)
    | replaced path writes before after =>
      rw [writes] at among
      rcases List.mem_append.1 among with old | new
      · exact inv.replaced_set here (fun _ => after) old
      · rw [List.mem_singleton.1 new]
        exact ⟨process', self, after⟩
  case oneHolder =>
    intro q r one two there there' locked locked' same
    rcases set_cases there with ⟨first, new⟩ | ⟨apart, old⟩
    · rcases set_cases there' with ⟨second, _⟩ | ⟨apart', old'⟩
      · exact first.trans second.symm
      · rw [new] at locked same
        exact absurd same (inv.fresh here effect apart' old' locked locked')
    · rcases set_cases there' with ⟨_, new'⟩ | ⟨_, old'⟩
      · rw [new'] at locked' same
        exact absurd same.symm (inv.fresh here effect apart old locked' locked)
      · exact inv.oneHolder q r one two old old' locked locked' same

theorem Invariant.step {label : Label} (inv : Invariant original s)
    (moved : step s label = some t) : Invariant original t := by
  cases label with
  | begin_ chunks =>
    cases moved
    exact inv.begin_ chunks
  | call p call =>
    obtain ⟨process, u, process', here, acted, rfl⟩ := step_call moved
    exact inv.call here acted

theorem invariant_start (original : Option Text) : Invariant original (start original) where
  locks _ member := absurd member List.not_mem_nil
  writes _ member := absurd member List.not_mem_nil
  path := rfl
  replaced _ member := absurd member List.not_mem_nil
  oneHolder _ _ process _ here := absurd here.symm (Option.some_ne_none process)

theorem invariant_of_reaches {ok : System → Label → Prop}
    (run : Reaches step ok (start original) s) : Invariant original s :=
  run.invariant (invariant_start original) fun _ _ _ inv _ moved => inv.step moved

/-- The path holds one whole content, and a call that raises has not changed it, in every run. -/
theorem whole_in_every_run {ok : System → Label → Prop}
    (run : Reaches step ok (start original) s) :
    s.path = written original s ∧ ∀ (p : ℕ) (process : Process), s.processes[p]? = some process →
      process.pc = .ended true → p ∉ s.writes := by
  have inv := invariant_of_reaches run
  refine ⟨inv.path, fun p process here raised member => ?_⟩
  obtain ⟨other, there, replaced⟩ := inv.replaced p member
  rw [here] at there
  rw [← Option.some.inj there, raised] at replaced
  cases replaced

/-! ## One lock file at a time -/

/-- All that wait for the lock or have it do so through one file. -/
def Together (s : System) : Prop :=
  ∀ process ∈ s.processes, ∀ other ∈ s.processes, ∀ file file' : ℕ,
    process.engaged = some file → other.engaged = some file' → file = file'

theorem sameFile_open (allowed : sameFile s (.call p (.open_ true)) = true) {file : ℕ}
    (member : other ∈ s.processes) (engaged : other.engaged = some file) :
    file = s.lockPath.getD s.nextInode := by
  have all := List.all_eq_true.1 allowed other member
  rw [engaged] at all
  have named : s.lockPath = some file := of_decide_eq_true all
  rw [named]
  rfl

theorem Together.step {label : Label} (together : Together s) (inv : Invariant original s)
    (allowed : sameFile s label = true) (moved : step s label = some t) : Together t := by
  cases label with
  | begin_ chunks =>
    cases moved
    have idle : ∀ file, (atomicWriteStream chunks).engaged ≠ some file := fun _ => nofun
    intro one member two member' file file' engaged engaged'
    rcases List.mem_append.1 member with old | new
    · rcases List.mem_append.1 member' with old' | new'
      · exact together one old two old' file file' engaged engaged'
      · rw [List.mem_singleton.1 new'] at engaged'
        exact absurd engaged' (idle file')
    · rw [List.mem_singleton.1 new] at engaged
      exact absurd engaged (idle file)
  | call p call =>
    obtain ⟨process, u, process', here, acted, rfl⟩ := step_call moved
    have self := List.mem_of_getElem? here
    have effect := lockEffect_of (inv.locks process self) acted
    -- the file of the process that moves is the file of every other
    have moves : ∀ other ∈ s.processes, ∀ file file' : ℕ, process'.engaged = some file →
        other.engaged = some file' → file = file' := by
      intro other there file file' engaged engaged'
      rcases effect.engaged engaged with before | ⟨opens, named⟩
      · exact together process self other there file file' before engaged'
      · rw [opens] at allowed
        exact named.trans (sameFile_open allowed there engaged').symm
    intro one member two member' file file' engaged engaged'
    rcases List.mem_or_eq_of_mem_set member with old | new
    · rcases List.mem_or_eq_of_mem_set member' with old' | new'
      · exact together one old two old' file file' engaged engaged'
      · rw [new'] at engaged'
        exact (moves one old file' file engaged' engaged).symm
    · rw [new] at engaged
      rcases List.mem_or_eq_of_mem_set member' with old' | new'
      · exact moves two old' file file' engaged engaged'
      · rw [new'] at engaged'
        exact Option.some.inj (engaged.symm.trans engaged')

/-- Where a lock file is opened only while all others have or wait for the lock through the file
of the path, no two processes have the lock at the same time. -/
theorem writes_cooperate {original : Option Text} {s : System}
    (run : Reaches step (fun s label => sameFile s label = true) (start original) s) :
    Cooperates original s := by
  have inv := invariant_of_reaches run
  have both := run.invariant (I := fun s => Invariant original s ∧ Together s)
    ⟨invariant_start original, nofun⟩
    fun _ _ _ before allowed moved =>
      ⟨before.1.step moved, before.2.step before.1 allowed moved⟩
  have ⟨atomic, harmless⟩ := whole_in_every_run run
  refine ⟨fun p q process other here there locked locked' => ?_, atomic, harmless⟩
  have member := List.mem_of_getElem? here
  have member' := List.mem_of_getElem? there
  obtain ⟨file, fd⟩ := Option.isSome_iff_exists.1 ((inv.locks process member).locked locked).1
  obtain ⟨file', fd'⟩ := Option.isSome_iff_exists.1 ((inv.locks other member').locked locked').1
  have same := both.2 process member other member' file file'
    (engaged_iff.2 ⟨.inr locked, fd⟩) (engaged_iff.2 ⟨.inr locked', fd'⟩)
  exact inv.oneHolder p q process other here there locked locked' (by rw [fd, fd', same])

/-- One call, and a second one that waits until the first has closed the lock file. -/
def oneAfterTheOther : List Label :=
  [.begin_ [['a'], ['b']], .begin_ [['c']], .call 0 (.mkdir true), .call 1 (.mkdir true),
    .call 0 (.open_ true), .call 0 (.flock true), .call 1 (.open_ true), .call 0 (.mkstemp true),
    .call 0 (.write true), .call 0 (.write true), .call 0 (.write true), .call 0 (.chmod true),
    .call 0 (.replace true), .call 0 (.close true), .call 1 (.flock true),
    .call 1 (.mkstemp true), .call 1 (.write false)]

theorem one_after_the_other :
    Cooperates none
      (final step sameFile (start none) oneAfterTheOther) :=
  writes_cooperate (reaches_final _ _ _ (by decide))

/-- A second call waits for the lock of the first one, which then removes the lock file. A third
one makes a new lock file. -/
def lockFileRemoved : List Label :=
  [.begin_ [['a']], .begin_ [['b']], .begin_ [['c']], .call 0 (.mkdir true),
    .call 1 (.mkdir true), .call 2 (.mkdir true), .call 0 (.open_ true), .call 0 (.flock true),
    .call 1 (.open_ true), .call 0 (.mkstemp true), .call 0 (.write true), .call 0 (.write true),
    .call 0 (.chmod true), .call 0 (.replace true), .call 0 (.close true), .call 1 (.flock true),
    .call 0 (.unlink true), .call 2 (.open_ true), .call 2 (.flock true)]

theorem two_have_the_lock :
    ∃ s, Reaches step (fun _ _ => True) (start none) s ∧ ¬ Cooperates none s := by
  refine ⟨final step (fun _ _ => true) (start none) lockFileRemoved,
    Reaches.mono (reaches_final (fun _ _ => true) _ lockFileRemoved (by decide))
      fun _ _ _ => trivial,
    fun cooperates => ?_⟩
  have same := cooperates.exclusive 1 2 _ _ rfl rfl rfl rfl
  cases same

end Runs

end BacklinkPublisher.CooperativeWrites
