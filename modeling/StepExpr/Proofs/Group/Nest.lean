import StepExpr.Group.Matcher

/-!
# How groups nest

* `Nest` is a tree of groups without their texts, and `GroupTree.nest` that of a scanned pattern;
* `GroupTree.slices_fill`: a tree is filled in with as many groups in a row as it has, each with the
  number of its place.
-/

namespace StepExpr

/-- A group with the groups directly inside of it. -/
inductive Nest where
  | node (inside : List Nest)

mutual

/-- How many groups there are, the outer one counted. -/
def Nest.size : Nest → Nat
  | .node inside => Nest.sizes inside + 1

def Nest.sizes : List Nest → Nat
  | [] => 0
  | nest :: nests => nest.size + Nest.sizes nests

end

@[simp] theorem Nest.sizes_append (ns ms : List Nest) :
    Nest.sizes (ns ++ ms) = Nest.sizes ns + Nest.sizes ms := by
  induction ns with
  | nil => simp [Nest.sizes]
  | cons n ns ih => simp [Nest.sizes, ih, Nat.add_assoc]

mutual

def GroupTree.nest : GroupTree → Nest
  | .node _ children => .node (GroupTree.nests children)

def GroupTree.nests : List GroupTree → List Nest
  | [] => []
  | tree :: trees => tree.nest :: GroupTree.nests trees

end

@[simp] theorem GroupTree.nests_append (ts us : List GroupTree) :
    GroupTree.nests (ts ++ us) = GroupTree.nests ts ++ GroupTree.nests us := by
  induction ts with
  | nil => rfl
  | cons t ts ih => simp [GroupTree.nests, ih]

@[simp] theorem GroupTree.length_nests (ts : List GroupTree) :
    (GroupTree.nests ts).length = ts.length := by
  induction ts with
  | nil => rfl
  | cons t ts ih => simp [GroupTree.nests, ih]

/-! ## Filled trees -/

mutual

/-- The slices of a group and of all groups inside, in the order of their opening parentheses. -/
def Group.slices : Group → List (Option Slice)
  | .node slice children => slice :: Group.slicesAll children

def Group.slicesAll : List Group → List (Option Slice)
  | [] => []
  | group :: groups => group.slices ++ Group.slicesAll groups

end

variable {slice : Nat → Option Slice}

mutual

/-- The next group has the number after those of the tree. -/
theorem GroupTree.fill_next (index : Nat) :
    ∀ tree : GroupTree, (tree.fill slice index).2 = index + tree.nest.size
  | .node source children => by
    simp only [GroupTree.fill, GroupTree.nest, Nest.size,
      GroupTree.fillAll_next (index + 1) children]
    omega

theorem GroupTree.fillAll_next (index : Nat) : ∀ trees : List GroupTree,
    (GroupTree.fillAll slice index trees).2 = index + Nest.sizes (GroupTree.nests trees)
  | [] => rfl
  | tree :: trees => by
    simp only [GroupTree.fillAll, GroupTree.nests, Nest.sizes, GroupTree.fill_next index tree,
      GroupTree.fillAll_next _ trees]
    omega

end

mutual

/-- The groups of a tree are numbered in a row. -/
theorem GroupTree.slices_fill (index : Nat) : ∀ tree : GroupTree,
    (tree.fill slice index).1.slices = (List.range' index tree.nest.size).map slice
  | .node source children => by
    simp only [GroupTree.fill, Group.slices, GroupTree.nest, Nest.size, List.range'_succ,
      List.map_cons, GroupTree.slices_fillAll (index + 1) children]

theorem GroupTree.slices_fillAll (index : Nat) : ∀ trees : List GroupTree,
    Group.slicesAll (GroupTree.fillAll slice index trees).1 =
      (List.range' index (Nest.sizes (GroupTree.nests trees))).map slice
  | [] => rfl
  | tree :: trees => by
    simp only [GroupTree.fillAll, Group.slicesAll, GroupTree.nests, Nest.sizes,
      GroupTree.slices_fill index tree, GroupTree.fill_next index tree,
      GroupTree.slices_fillAll _ trees]
    rw [← List.range'_append_1, List.map_append]

end

theorem GroupTree.length_fillAll (index : Nat) (trees : List GroupTree) :
    (GroupTree.fillAll slice index trees).1.length = trees.length := by
  induction trees generalizing index with
  | nil => rfl
  | cons tree trees ih => simp [GroupTree.fillAll, ih]

theorem GroupTree.slice_fill (index : Nat) (tree : GroupTree) :
    (tree.fill slice index).1.slice = slice index := by
  cases tree
  rfl

end StepExpr
