import Mathlib.Data.List.Forall2
import Mathlib.Data.Nat.Basic
import Mathlib.Order.Basic
import Mathlib.Tactic.Common

set_option autoImplicit false

/-!
# Lists and dicts on a heap

A value is immutable, or refers to a list or a dict on the heap. The tree that a value shows is read
off the heap. A pass over a value that allocates leaves the heap as it was in front of what it adds;
a pass that writes in place has to own what it writes.
-/
namespace BacklinkPublisher.ObjectHeaps

universe u
variable {κ σ α β γ : Type u}

inductive Node (κ α : Type u) where
  | list (items : List α)
  | dict (entries : List (κ × α))

def Node.values : Node κ α → List α
  | .list items => items
  | .dict entries => entries.map Prod.snd

/-- The same list or dict with other values. -/
def Node.fill : Node κ α → List β → Node κ β
  | .list _, values => .list values
  | .dict entries, values => .dict ((entries.map Prod.fst).zip values)

inductive Value (σ : Type u) where
  | leaf (s : σ)
  | ref (address : ℕ)

abbrev Heap (κ σ : Type u) := List (Node κ (Value σ))

inductive Tree (κ σ : Type u) where
  | leaf (s : σ)
  | node (node : Node κ (Tree κ σ))

/-- The tree below a value, of so many levels at most. -/
def view (heap : Heap κ σ) : ℕ → Value σ → Option (Tree κ σ)
  | 0, _ => none
  | _ + 1, .leaf s => some (.leaf s)
  | n + 1, .ref address => do
    let node ← heap[address]?
    let trees ← node.values.mapM (view heap n)
    some (.node (node.fill trees))

def Shows (heap : Heap κ σ) (value : Value σ) (tree : Tree κ σ) : Prop :=
  ∃ n, view heap n value = some tree

def Tree.fits : ℕ → Tree κ σ → Bool
  | 0, _ => false
  | _ + 1, .leaf _ => true
  | n + 1, .node inner => inner.values.all (Tree.fits n)

/-! ## Passes -/

/-- Takes a pass over one value after the other. -/
def traverse (f : Heap κ σ → Value σ → Option (Heap κ σ × Value σ)) :
    Heap κ σ → List (Value σ) → Option (Heap κ σ × List (Value σ))
  | heap, [] => some (heap, [])
  | heap, value :: values => do
    let (heap, result) ← f heap value
    let (heap, results) ← traverse f heap values
    some (heap, result :: results)

/-- A new list or dict for what a pass makes of the values of an old one. -/
def rebuild (f : Heap κ σ → Value σ → Option (Heap κ σ × Value σ)) (heap : Heap κ σ)
    (node : Node κ (Value σ)) : Option (Heap κ σ × Value σ) := do
  let (heap, values) ← traverse f heap node.values
  some (heap ++ [node.fill values], .ref heap.length)

/-- `copy.deepcopy`; it raises where the stack has no more levels. What was parsed has no value in
two places, so that the memo is never asked. -/
def deepcopy : ℕ → Heap κ σ → Value σ → Option (Heap κ σ × Value σ)
  | 0, _, _ => none
  | _ + 1, heap, .leaf s => some (heap, .leaf s)
  | n + 1, heap, .ref address => heap[address]?.bind (rebuild (deepcopy n) heap)

def Tree.rebuild (g : Tree κ σ → Option (Tree κ σ)) (inner : Node κ (Tree κ σ)) :
    Option (Tree κ σ) :=
  (inner.values.mapM g).map fun trees => .node (inner.fill trees)

/-- `value[i] = child`, for the `i`-th index or key. -/
def store (heap : Heap κ σ) (address i : ℕ) (child : Value σ) : Heap κ σ :=
  heap.modify address fun node => node.fill (node.values.set i child)

/-- Stores what a change makes of each child, one after the other. -/
def updateEach (change : Heap κ σ → γ → Heap κ σ × Value σ) (address : ℕ) :
    ℕ → List γ → Heap κ σ → Heap κ σ
  | _, [], heap => heap
  | i, child :: children, heap =>
    let (heap, result) := change heap child
    updateEach change address (i + 1) children (store heap address i result)

/-! ## Nodes -/

theorem Node.values_fill {node : Node κ α} {values : List β}
    (length : values.length = node.values.length) : (node.fill values).values = values := by
  cases node with
  | list items => rfl
  | dict entries =>
    unfold Node.values at length
    rw [List.length_map] at length
    exact List.map_snd_zip (by rw [List.length_map]; exact Nat.le_of_eq length)

theorem Node.fill_fill {node : Node κ α} {values : List β} {others : List γ}
    (length : values.length = node.values.length) :
    (node.fill values).fill others = node.fill others := by
  cases node with
  | list items => rfl
  | dict entries =>
    unfold Node.values at length
    rw [List.length_map] at length
    unfold Node.fill
    dsimp only
    rw [List.map_fst_zip (by rw [List.length_map]; exact Nat.le_of_eq length.symm)]

theorem Node.fill_values (node : Node κ α) : node.fill node.values = node := by
  cases node with
  | list items => rfl
  | dict entries => exact congrArg Node.dict (List.zip_of_prod rfl rfl).symm

theorem mapM_eq_some_iff {f : α → Option β} {xs : List α} {ys : List β} :
    xs.mapM f = some ys ↔ List.Forall₂ (fun x y => f x = some y) xs ys := by
  induction xs generalizing ys with
  | nil => simp [eq_comm]
  | cons x xs ih =>
    rw [List.mapM_cons, List.forall₂_cons_left_iff]
    simp only [Option.bind_eq_bind, Option.bind_eq_some_iff, Option.pure_def, Option.some.injEq]
    constructor
    · intro ⟨y, hy, rest, hrest, same⟩
      exact ⟨y, rest, hy, ih.1 hrest, same.symm⟩
    · intro ⟨y, rest, hy, hrest, same⟩
      exact ⟨y, hy, rest, ih.2 hrest, same.symm⟩

/-! ## What a value shows -/

variable {heap heap' : Heap κ σ} {value result : Value σ} {tree : Tree κ σ}

theorem view_ref_iff {n address : ℕ} :
    view heap (n + 1) (.ref address) = some tree ↔
      ∃ node trees, heap[address]? = some node ∧
        List.Forall₂ (fun value tree => view heap n value = some tree) node.values trees ∧
        tree = .node (node.fill trees) := by
  rw [view]
  simp only [Option.bind_eq_bind, Option.bind_eq_some_iff, Option.some.injEq]
  constructor
  · intro ⟨node, read, trees, shown, same⟩
    exact ⟨node, trees, read, mapM_eq_some_iff.1 shown, same.symm⟩
  · intro ⟨node, trees, read, shown, same⟩
    exact ⟨node, read, trees, mapM_eq_some_iff.2 shown, same.symm⟩

theorem view_succ {n : ℕ} (shown : view heap n value = some tree) :
    view heap (n + 1) value = some tree := by
  induction n generalizing value tree with
  | zero => cases shown
  | succ n ih =>
    cases value with
    | leaf s => exact shown
    | ref address =>
      have ⟨node, trees, read, below, same⟩ := view_ref_iff.1 shown
      exact view_ref_iff.2 ⟨node, trees, read, below.imp fun _ _ h => ih h, same⟩

theorem view_le {n m : ℕ} (le : n ≤ m) (shown : view heap n value = some tree) :
    view heap m value = some tree := by
  induction le with
  | refl => exact shown
  | step _ ih => exact view_succ ih

theorem Shows.unique {other : Tree κ σ} (shown : Shows heap value tree)
    (again : Shows heap value other) : tree = other := by
  have ⟨n, hn⟩ := shown
  have ⟨m, hm⟩ := again
  have left := view_le (Nat.le_max_left n m) hn
  have right := view_le (Nat.le_max_right n m) hm
  exact Option.some.inj (left.symm.trans right)

theorem Shows.leaf (s : σ) : Shows heap (.leaf s) (.leaf s) := ⟨1, rfl⟩

theorem Shows.of_leaf {s : σ} (shown : Shows heap (.leaf s) tree) : tree = .leaf s :=
  shown.unique (Shows.leaf s)

/-- Some number of levels is enough for all values of a list. -/
theorem exists_levels {values : List (Value σ)} {trees : List (Tree κ σ)}
    (shown : List.Forall₂ (Shows heap) values trees) :
    ∃ n, List.Forall₂ (fun value tree => view heap n value = some tree) values trees := by
  induction shown with
  | nil => exact ⟨0, .nil⟩
  | cons first _ ih =>
    have ⟨n, hn⟩ := first
    have ⟨m, hm⟩ := ih
    exact ⟨max n m, .cons (view_le (Nat.le_max_left n m) hn)
      (hm.imp fun _ _ h => view_le (Nat.le_max_right n m) h)⟩

theorem shows_ref_iff {address : ℕ} :
    Shows heap (.ref address) tree ↔
      ∃ node trees, heap[address]? = some node ∧ List.Forall₂ (Shows heap) node.values trees ∧
        tree = .node (node.fill trees) := by
  constructor
  · intro ⟨n, shown⟩
    cases n with
    | zero => cases shown
    | succ n =>
      have ⟨node, trees, read, below, same⟩ := view_ref_iff.1 shown
      exact ⟨node, trees, read, below.imp fun _ _ h => ⟨n, h⟩, same⟩
  · intro ⟨node, trees, read, below, same⟩
    have ⟨n, levels⟩ := exists_levels below
    exact ⟨n + 1, view_ref_iff.2 ⟨node, trees, read, levels, same⟩⟩

/-- What is allocated later does not change what a value shows. -/
theorem Shows.mono (shown : Shows heap value tree) (sub : heap <+: heap') :
    Shows heap' value tree := by
  have ⟨n, levels⟩ := shown
  refine ⟨n, ?_⟩
  clear shown
  induction n generalizing value tree with
  | zero => cases levels
  | succ n ih =>
    cases value with
    | leaf s => exact levels
    | ref address =>
      have ⟨node, trees, read, below, same⟩ := view_ref_iff.1 levels
      have ⟨bound, _⟩ := List.getElem?_eq_some_iff.1 read
      have read' : heap'[address]? = some node := by
        have ⟨rest, whole⟩ := sub
        rw [← whole, List.getElem?_append_left bound]
        exact read
      exact view_ref_iff.2 ⟨node, trees, read', below.imp fun _ _ h => ih h, same⟩

/-- The levels that are enough are those of the tree. -/
theorem view_isSome_iff {n : ℕ} (shown : Shows heap value tree) :
    view heap n value = some tree ↔ tree.fits n = true := by
  induction n generalizing value tree with
  | zero => exact iff_of_false (fun h => (by cases h)) (fun h => (by cases h))
  | succ n ih =>
    cases value with
    | leaf s =>
      rw [shown.of_leaf]
      exact iff_of_true rfl rfl
    | ref address =>
      have ⟨node, trees, read, below, same⟩ := shows_ref_iff.1 shown
      have length : trees.length = node.values.length := below.length_eq.symm
      rw [same, Tree.fits, Node.values_fill length, List.all_eq_true]
      have each : List.Forall₂ (fun value tree => view heap n value = some tree) node.values trees ↔
          ∀ tree ∈ trees, tree.fits n = true := by
        clear same length
        generalize node.values = values at below
        induction below with
        | nil => exact iff_of_true .nil fun _ member => by cases member
        | cons first _ rest => rw [List.forall₂_cons, rest, List.forall_mem_cons, ih first]
      rw [← each]
      constructor
      · intro levels
        have ⟨node', trees', read', below', same'⟩ := view_ref_iff.1 levels
        have node_eq : node = node' := Option.some.inj (read.symm.trans read')
        have trees_eq : trees = trees' := by
          have values := congrArg Node.values (Tree.node.inj same')
          rw [Node.values_fill length, ← node_eq,
            Node.values_fill (by rw [node_eq]; exact below'.length_eq.symm)] at values
          exact values
        rw [node_eq, trees_eq]
        exact below'
      · exact fun levels => view_ref_iff.2 ⟨node, trees, read, levels, rfl⟩

/-! ## Values of one's own -/

/-- Stretches of addresses, one behind the other, for the elements of two lists. -/
def Run (R : ℕ → ℕ → α → β → Prop) : ℕ → ℕ → List α → List β → Prop
  | lo, hi, [], [] => lo ≤ hi
  | lo, hi, x :: xs, y :: ys => ∃ mid, R lo mid x y ∧ Run R mid hi xs ys
  | _, _, _, _ => False

/-- All that the value refers to lies in a stretch of the heap, and nothing there has two owners. -/
def Owned (heap : Heap κ σ) : ℕ → ℕ → ℕ → Value σ → Tree κ σ → Prop
  | 0, _, _, _, _ => False
  | _ + 1, lo, hi, .leaf s, tree => lo ≤ hi ∧ tree = .leaf s
  | n + 1, lo, hi, .ref address, tree =>
    address < hi ∧ ∃ node trees, heap[address]? = some node ∧
      Run (Owned heap n) lo address node.values trees ∧ tree = .node (node.fill trees)

section Run
variable {R S : ℕ → ℕ → α → β → Prop} {lo hi : ℕ} {xs : List α} {ys : List β}

theorem Run.le (bounded : ∀ lo hi x y, R lo hi x y → lo ≤ hi) (run : Run R lo hi xs ys) :
    lo ≤ hi := by
  induction xs generalizing lo ys with
  | nil =>
    cases ys with
    | nil => exact run
    | cons => cases run
  | cons x xs ih =>
    cases ys with
    | nil => cases run
    | cons y ys =>
      have ⟨mid, first, rest⟩ := run
      exact (bounded lo mid x y first).trans (ih rest)

theorem Run.imp (bounded : ∀ lo hi x y, R lo hi x y → lo ≤ hi) (run : Run R lo hi xs ys)
    (step : ∀ lo' hi' x y, lo ≤ lo' → hi' ≤ hi → R lo' hi' x y → S lo' hi' x y) :
    Run S lo hi xs ys := by
  induction xs generalizing lo ys with
  | nil =>
    cases ys with
    | nil => exact run
    | cons => cases run
  | cons x xs ih =>
    cases ys with
    | nil => cases run
    | cons y ys =>
      have ⟨mid, first, rest⟩ := run
      refine ⟨mid, step lo mid x y le_rfl (rest.le bounded) first, ih rest ?_⟩
      exact fun lo' hi' x y above => step lo' hi' x y ((bounded lo mid _ _ first).trans above)

theorem Run.forall₂ {T : α → β → Prop} (run : Run R lo hi xs ys)
    (step : ∀ lo hi x y, R lo hi x y → T x y) : List.Forall₂ T xs ys := by
  induction xs generalizing lo ys with
  | nil =>
    cases ys with
    | nil => exact .nil
    | cons => cases run
  | cons x xs ih =>
    cases ys with
    | nil => cases run
    | cons y ys =>
      have ⟨mid, first, rest⟩ := run
      exact .cons (step lo mid x y first) (ih rest)

theorem Run.map_left {child : γ → α} {children : List γ} :
    Run R lo hi (children.map child) ys ↔
      Run (fun lo hi x y => R lo hi (child x) y) lo hi children ys := by
  induction children generalizing lo ys with
  | nil =>
    cases ys with
    | nil => exact Iff.rfl
    | cons => exact Iff.rfl
  | cons x children ih =>
    cases ys with
    | nil => exact Iff.rfl
    | cons y ys => exact exists_congr fun mid => and_congr_right fun _ => ih

theorem Run.length_eq (run : Run R lo hi xs ys) : xs.length = ys.length :=
  (run.forall₂ (fun _ _ _ _ _ => trivial) : List.Forall₂ (fun _ _ => True) xs ys).length_eq

end Run

variable {n lo hi : ℕ}

theorem Owned.le (owned : Owned heap n lo hi value tree) : lo ≤ hi := by
  induction n generalizing lo hi value tree with
  | zero => cases owned
  | succ n ih =>
    cases value with
    | leaf s => exact owned.1
    | ref address =>
      have ⟨below, node, trees, _, run, _⟩ := owned
      exact (run.le fun _ _ _ _ h => ih h).trans below.le

/-- What is owned depends on its own stretch of the heap only. -/
theorem Owned.frame (owned : Owned heap n lo hi value tree)
    (same : ∀ a, lo ≤ a → a < hi → heap'[a]? = heap[a]?) : Owned heap' n lo hi value tree := by
  induction n generalizing lo hi value tree with
  | zero => cases owned
  | succ n ih =>
    cases value with
    | leaf s => exact owned
    | ref address =>
      have ⟨below, node, trees, read, run, shape⟩ := owned
      have bounded : ∀ lo hi value tree, Owned heap n lo hi value tree → lo ≤ hi :=
        fun _ _ _ _ h => h.le
      refine ⟨below, node, trees, ?_, run.imp bounded ?_, shape⟩
      · rw [same address (run.le bounded) below, read]
      · intro lo' hi' value tree above under first
        exact ih first fun a here there =>
          same a (above.trans here) (there.trans_le (under.trans below.le))

theorem Owned.view (owned : Owned heap n lo hi value tree) :
    ObjectHeaps.view heap n value = some tree := by
  induction n generalizing lo hi value tree with
  | zero => cases owned
  | succ n ih =>
    cases value with
    | leaf s =>
      rw [owned.2]
      rfl
    | ref address =>
      have ⟨_, node, trees, read, run, shape⟩ := owned
      exact view_ref_iff.2 ⟨node, trees, read, run.forall₂ fun _ _ _ _ h => ih h, shape⟩

theorem Owned.shows (owned : Owned heap n lo hi value tree) : Shows heap value tree :=
  ⟨n, owned.view⟩

/-! ## Passes that allocate -/

/-- On every value that shows a tree, a pass does what a function on trees says: it raises with it,
and its result has the property on the stretch of the heap that was added. -/
structure Implements (Q : Heap κ σ → ℕ → ℕ → Value σ → Tree κ σ → Prop)
    (f : Heap κ σ → Value σ → Option (Heap κ σ × Value σ)) (g : Tree κ σ → Option (Tree κ σ)) :
    Prop where
  raises : ∀ heap value tree, Shows heap value tree → g tree = none → f heap value = none
  returns : ∀ heap value tree made, Shows heap value tree → g tree = some made →
    ∃ heap' result, f heap value = some (heap', result) ∧ heap <+: heap' ∧
      Q heap' heap.length heap'.length result made

/-- A property of a stretch that what is added behind it does not change. -/
structure Stable (Q : Heap κ σ → ℕ → ℕ → Value σ → Tree κ σ → Prop) : Prop where
  bounded : ∀ heap lo hi value tree, Q heap lo hi value tree → lo ≤ hi
  grows : ∀ heap heap' lo hi value tree, heap <+: heap' → hi ≤ heap.length →
    Q heap lo hi value tree → Q heap' lo hi value tree

section Passes
variable {Q : Heap κ σ → ℕ → ℕ → Value σ → Tree κ σ → Prop}
variable {f : Heap κ σ → Value σ → Option (Heap κ σ × Value σ)}
variable {g : Tree κ σ → Option (Tree κ σ)}
variable {values : List (Value σ)} {trees made : List (Tree κ σ)}

theorem traverse_raises (implements : Implements Q f g)
    (shown : List.Forall₂ (Shows heap) values trees) (raised : trees.mapM g = none) :
    traverse f heap values = none := by
  induction values generalizing heap trees with
  | nil =>
    cases shown
    cases raised
  | cons value values ih =>
    have ⟨tree, others, first, rest, same⟩ := List.forall₂_cons_left_iff.1 shown
    rw [same] at raised
    rw [traverse]
    cases own : g tree with
    | none =>
      rw [implements.raises heap value tree first own]
      rfl
    | some made =>
      have ⟨heap', result, returned, sub, _⟩ := implements.returns heap value tree made first own
      have later : others.mapM g = none := by
        rw [List.mapM_cons, own] at raised
        cases all : others.mapM g with
        | none => rfl
        | some _ =>
          rw [all] at raised
          cases raised
      rw [returned, Option.bind_eq_bind, Option.bind_some]
      dsimp only
      rw [ih (rest.imp fun _ _ h => h.mono sub) later]
      rfl

theorem traverse_returns (implements : Implements Q f g) (stable : Stable Q)
    (shown : List.Forall₂ (Shows heap) values trees) (returned : trees.mapM g = some made) :
    ∃ heap' results, traverse f heap values = some (heap', results) ∧ heap <+: heap' ∧
      Run (Q heap') heap.length heap'.length results made := by
  induction values generalizing heap trees made with
  | nil =>
    cases shown
    cases returned
    exact ⟨heap, [], rfl, List.prefix_refl heap, le_rfl⟩
  | cons value values ih =>
    have ⟨tree, rows, first, rest, split⟩ := List.forall₂_cons_left_iff.1 shown
    rw [split] at returned
    have ⟨one, others, own, all, same⟩ := List.forall₂_cons_left_iff.1 (mapM_eq_some_iff.1 returned)
    have ⟨heap₁, result, returned₁, sub₁, holds⟩ := implements.returns heap value tree one first own
    have ⟨heap', results, returned', sub', run⟩ :=
      ih (rest.imp fun _ _ h => h.mono sub₁) (mapM_eq_some_iff.2 all)
    refine ⟨heap', result :: results, ?_, sub₁.trans sub', ?_⟩
    · rw [traverse, returned₁, Option.bind_eq_bind, Option.bind_some]
      dsimp only
      rw [returned']
      rfl
    · rw [same]
      exact ⟨heap₁.length, stable.grows heap₁ heap' _ _ _ _ sub' le_rfl holds, run⟩

variable {node : Node κ (Value σ)}

theorem rebuild_raises (implements : Implements Q f g)
    (shown : List.Forall₂ (Shows heap) node.values trees) (raised : trees.mapM g = none) :
    rebuild f heap node = none := by
  unfold rebuild
  rw [traverse_raises implements shown raised]
  rfl

theorem rebuild_returns (implements : Implements Q f g) (stable : Stable Q)
    (shown : List.Forall₂ (Shows heap) node.values trees) (returned : trees.mapM g = some made) :
    ∃ heap' results, rebuild f heap node = some (heap' ++ [node.fill results], .ref heap'.length) ∧
      heap <+: heap' ∧ results.length = node.values.length ∧
      Run (Q (heap' ++ [node.fill results])) heap.length heap'.length results made := by
  have ⟨heap', results, passed, sub, run⟩ := traverse_returns implements stable shown returned
  refine ⟨heap', results, ?_, sub, ?_, ?_⟩
  · unfold rebuild
    rw [passed]
    rfl
  · rw [run.length_eq, shown.length_eq]
    exact (mapM_eq_some_iff.1 returned).length_eq.symm
  · -- The new node comes behind all stretches.
    exact run.imp (stable.bounded heap') fun lo hi value tree _ under =>
      stable.grows heap' _ lo hi value tree (List.prefix_append _ _) under

end Passes

/-- A result that shows a tree, wherever it lies. -/
def Showing (heap : Heap κ σ) (lo hi : ℕ) (value : Value σ) (tree : Tree κ σ) : Prop :=
  lo ≤ hi ∧ Shows heap value tree

theorem showing_stable : Stable (Showing : Heap κ σ → ℕ → ℕ → Value σ → Tree κ σ → Prop) where
  bounded _ _ _ _ _ showing := showing.1
  grows _ _ _ _ _ _ sub _ showing := ⟨showing.1, showing.2.mono sub⟩

theorem owned_stable (n : ℕ) : Stable fun heap : Heap κ σ => Owned heap n where
  bounded _ _ _ _ _ owned := owned.le
  grows heap heap' lo hi value tree sub bound owned := by
    refine owned.frame fun a _ there => ?_
    have ⟨rest, whole⟩ := sub
    rw [← whole, List.getElem?_append_left (there.trans_le bound)]

/-- The node of a tree that a reference shows. -/
theorem exists_node {address : ℕ} {node : Node κ (Value σ)} (shown : Shows heap (.ref address) tree)
    (read : heap[address]? = some node) : ∃ trees, List.Forall₂ (Shows heap) node.values trees ∧
      tree = .node (node.fill trees) := by
  have ⟨node', trees, read', below, same⟩ := shows_ref_iff.1 shown
  have node_eq : node = node' := Option.some.inj (read.symm.trans read')
  rw [node_eq]
  exact ⟨trees, below, same⟩

/-- A pass taken below a node does to its tree what the function does below the node of the tree. -/
theorem rebuild_showing {f : Heap κ σ → Value σ → Option (Heap κ σ × Value σ)}
    {g : Tree κ σ → Option (Tree κ σ)} (implements : Implements Showing f g)
    {node : Node κ (Value σ)} {trees : List (Tree κ σ)}
    (shown : List.Forall₂ (Shows heap) node.values trees) :
    (Tree.rebuild g (node.fill trees) = none → rebuild f heap node = none) ∧
      ∀ made, Tree.rebuild g (node.fill trees) = some made →
        ∃ heap' result, rebuild f heap node = some (heap', result) ∧ heap <+: heap' ∧
          Showing heap' heap.length heap'.length result made := by
  have length : trees.length = node.values.length := shown.length_eq.symm
  unfold Tree.rebuild
  rw [Node.values_fill length]
  cases returned : trees.mapM g with
  | none => exact ⟨fun _ => rebuild_raises implements shown returned, fun _ h => (by cases h)⟩
  | some others =>
    refine ⟨fun h => (by cases h), fun made same => ?_⟩
    have ⟨heap', results, built, sub, filled, run⟩ :=
      rebuild_returns implements showing_stable shown returned
    have whole : heap' <+: heap' ++ [node.fill results] := List.prefix_append _ _
    refine ⟨_, _, built, sub.trans whole, (sub.trans whole).length_le, ?_⟩
    rw [← Option.some.inj same]
    refine shows_ref_iff.2 ⟨node.fill results, others, List.getElem?_concat_length, ?_, ?_⟩
    · rw [Node.values_fill filled]
      exact run.forall₂ fun _ _ _ _ showing => showing.2
    · dsimp only
      rw [Node.fill_fill length, Node.fill_fill filled]

theorem mapM_fits {n : ℕ} {trees : List (Tree κ σ)} :
    (trees.mapM fun tree => if tree.fits n then some tree else none) =
      if trees.all (Tree.fits n) then some trees else none := by
  induction trees with
  | nil => rfl
  | cons tree trees ih =>
    rw [List.mapM_cons, ih, List.all_cons]
    cases tree.fits n with
    | false => rfl
    | true =>
      cases trees.all (Tree.fits n) with
      | false => rfl
      | true => rfl

/-- A copy shows what was copied, and owns all that it refers to. -/
theorem deepcopy_implements (n : ℕ) : Implements (fun heap : Heap κ σ => Owned heap n) (deepcopy n)
    fun tree => if tree.fits n then some tree else none := by
  induction n with
  | zero =>
    constructor
    · exact fun _ _ _ _ _ => rfl
    · exact fun _ _ _ _ _ returned => (by cases returned)
  | succ n ih =>
    constructor
    · intro heap value tree shown raised
      cases value with
      | leaf s =>
        rw [shown.of_leaf] at raised
        cases raised
      | ref address =>
        have ⟨node, trees, read, below, same⟩ := shows_ref_iff.1 shown
        rw [deepcopy, read, Option.bind_some]
        apply rebuild_raises ih below
        rw [same, Tree.fits, Node.values_fill below.length_eq.symm] at raised
        rw [mapM_fits]
        split_ifs at raised ⊢ with fits
        rfl
    · intro heap value tree made shown returned
      cases value with
      | leaf s =>
        rw [shown.of_leaf] at returned
        cases returned
        exact ⟨heap, .leaf s, rfl, List.prefix_refl heap, le_rfl, rfl⟩
      | ref address =>
        have ⟨node, trees, read, below, same⟩ := shows_ref_iff.1 shown
        have length : trees.length = node.values.length := below.length_eq.symm
        have fits : trees.all (Tree.fits n) = true ∧ made = tree := by
          rw [same, Tree.fits, Node.values_fill length] at returned
          split_ifs at returned with fits
          exact ⟨fits, (Option.some.inj returned).symm.trans same.symm⟩
        have copied : (trees.mapM fun tree => if tree.fits n then some tree else none) =
            some trees := by
          rw [mapM_fits, if_pos fits.1]
        have ⟨heap', results, built, sub, filled, run⟩ :=
          rebuild_returns ih (owned_stable n) below copied
        rw [deepcopy, read, Option.bind_some, fits.2, same]
        refine ⟨_, _, built, sub.trans (List.prefix_append _ _), ?_, node.fill results, trees,
          List.getElem?_concat_length, ?_, ?_⟩
        · rw [List.length_append]
          exact Nat.lt_succ_self _
        · rw [Node.values_fill filled]
          exact run
        · rw [Node.fill_fill filled]

/-! ## Changes in place -/

/-- The change writes only to what the child owns, which shows the changed tree afterwards. -/
def ChangesOwned (n : ℕ) (child : γ → Value σ) (change : Heap κ σ → γ → Heap κ σ × Value σ)
    (changed : γ → Tree κ σ → Tree κ σ) : Prop :=
  ∀ heap lo hi x tree, Owned heap n lo hi (child x) tree →
    (change heap x).1.length = heap.length ∧
      (∀ a, a < lo ∨ hi ≤ a → (change heap x).1[a]? = heap[a]?) ∧
      Owned (change heap x).1 n lo hi (change heap x).2 (changed x tree)

theorem getElem?_store_ne {address i a : ℕ} (other : a ≠ address) :
    (store heap address i value)[a]? = heap[a]? := List.getElem?_modify_ne _ _ other.symm

theorem length_store (address i : ℕ) : (store heap address i value).length = heap.length :=
  List.length_modify ..

theorem updateEach_spec {child : γ → Value σ} {change : Heap κ σ → γ → Heap κ σ × Value σ}
    {changed : γ → Tree κ σ → Tree κ σ} (owns : ChangesOwned n child change changed)
    {address : ℕ} {children : List γ} {trees : List (Tree κ σ)} {node : Node κ (Value σ)}
    {before : List (Value σ)} (read : heap[address]? = some node) (behind : hi ≤ address)
    (values : node.values = before ++ children.map child)
    (run : Run (fun lo hi x tree => Owned heap n lo hi (child x) tree) lo hi children trees) :
    (updateEach change address before.length children heap).length = heap.length ∧
      (∀ a, a < lo ∨ hi ≤ a → a ≠ address →
        (updateEach change address before.length children heap)[a]? = heap[a]?) ∧
      ∃ results, results.length = children.length ∧
        (updateEach change address before.length children heap)[address]? =
          some (node.fill (before ++ results)) ∧
        Run (Owned (updateEach change address before.length children heap) n) lo hi results
          (List.zipWith changed children trees) := by
  induction children generalizing heap lo trees node before with
  | nil =>
    cases trees with
    | cons => cases run
    | nil =>
      refine ⟨rfl, fun _ _ _ => rfl, [], rfl, ?_, run⟩
      have whole : before = node.values := by
        rw [values, List.map_nil, List.append_nil]
      rw [List.append_nil, whole, Node.fill_values]
      exact read
  | cons x children ih =>
    cases trees with
    | nil => cases run
    | cons tree trees =>
      have bounded : ∀ lo hi x tree, Owned heap n lo hi (child x) tree → lo ≤ hi :=
        fun _ _ _ _ owned => owned.le
      have ⟨mid, first, rest⟩ := run
      have above : lo ≤ mid := first.le
      have under : mid ≤ hi := rest.le bounded
      have ⟨length₁, same₁, owned₁⟩ := owns heap lo mid x tree first
      rw [updateEach]
      generalize change heap x = outcome at length₁ same₁ owned₁
      have ⟨heap₁, result⟩ := outcome
      dsimp only at length₁ same₁ owned₁ ⊢
      have read₁ : heap₁[address]? = some node := by
        rw [same₁ address (.inr (under.trans behind)), read]
      have set_ : node.values.set before.length result =
          before ++ result :: children.map child := by
        rw [values, List.map_cons]
        simp
      have size : (before ++ result :: children.map child).length = node.values.length := by
        rw [← set_, List.length_set]
      have read₂ : (store heap₁ address before.length result)[address]? =
          some (node.fill (before ++ result :: children.map child)) := by
        unfold store
        rw [List.getElem?_modify_eq, read₁, ← set_]
        rfl
      have values₂ : (node.fill (before ++ result :: children.map child)).values =
          (before ++ [result]) ++ children.map child := by
        rw [Node.values_fill size, List.append_assoc]
        rfl
      have same₂ : ∀ a, a < lo ∨ mid ≤ a → a ≠ address →
          (store heap₁ address before.length result)[a]? = heap[a]? := by
        intro a outside other
        rw [getElem?_store_ne other, same₁ a outside]
      have run₂ := rest.imp bounded fun lo' hi' x tree above' under' owned =>
        owned.frame fun a here there => same₂ a (.inr (above'.trans here))
          (there.trans_le (under'.trans behind)).ne
      have ⟨length₃, same₃, results, count, read₃, run₃⟩ := ih read₂ values₂ run₂
      have next : (before ++ [result]).length = before.length + 1 := List.length_append
      rw [next] at length₃ same₃ read₃ run₃
      refine ⟨?_, ?_, result :: results, congrArg (· + 1) count, ?_, mid, ?_, run₃⟩
      · rw [length₃, length_store, length₁]
      · intro a outside other
        have outside₃ : a < mid ∨ hi ≤ a := outside.imp_left fun h => h.trans_le above
        have outside₂ : a < lo ∨ mid ≤ a := outside.imp_right under.trans
        rw [same₃ a outside₃ other, same₂ a outside₂ other]
      · rw [read₃, Node.fill_fill size, List.append_assoc]
        rfl
      · refine owned₁.frame fun a _ there => ?_
        have other : a ≠ address := (there.trans_le (under.trans behind)).ne
        rw [same₃ a (.inl there) other, getElem?_store_ne other]

/-- A node whose children are changed one after the other shows the changed children. -/
theorem updateEach_owned {child : γ → Value σ} {change : Heap κ σ → γ → Heap κ σ × Value σ}
    {changed : γ → Tree κ σ → Tree κ σ} (owns : ChangesOwned n child change changed)
    {address : ℕ} {children : List γ} {trees : List (Tree κ σ)} {node : Node κ (Value σ)}
    (below : address < hi) (read : heap[address]? = some node)
    (values : node.values = children.map child)
    (run : Run (Owned heap n) lo address node.values trees) :
    (updateEach change address 0 children heap).length = heap.length ∧
      (∀ a, a < lo ∨ hi ≤ a → (updateEach change address 0 children heap)[a]? = heap[a]?) ∧
      Owned (updateEach change address 0 children heap) (n + 1) lo hi (.ref address)
        (.node (node.fill (List.zipWith changed children trees))) := by
  have above : lo ≤ address := run.le fun _ _ _ _ owned => owned.le
  rw [values, Run.map_left] at run
  have ⟨length, same, results, count, read', run'⟩ :=
    updateEach_spec owns read le_rfl (values.trans (List.nil_append _).symm) run
  have filled : results.length = node.values.length := by
    rw [count, values, List.length_map]
  refine ⟨length, fun a outside => ?_, below, node.fill results,
    List.zipWith changed children trees, read', ?_, ?_⟩
  · rcases outside with before | behind
    · exact same a (.inl before) (before.trans_le above).ne
    · exact same a (.inr (below.le.trans behind)) (below.trans_le behind).ne'
  · rw [Node.values_fill filled]
    exact run'
  · rw [Node.fill_fill filled]

end BacklinkPublisher.ObjectHeaps
