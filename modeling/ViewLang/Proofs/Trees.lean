import ViewLang.Node

/-!
# Statements inside statements

A statement is a tree of statements. `Node.Within` says that a statement occurs in a tree, at any
depth, and `Node.size` counts the statements that do. An occurrence is no larger than the tree
around it, so the body of a definition inside a program is smaller than the program.
-/

namespace ViewLang

namespace Node

/-! ### Occurrences -/

/-- The statements that a statement is made of. -/
def children : Node → List Node
  | view elements => elements
  | function _ body | component _ body => body
  | _ => []

/-- The statement occurs in the tree: it is the tree itself, or it occurs in one of the statements
that the tree is made of. -/
inductive Within (node : Node) : Node → Prop where
  | self : Within node node
  | inner {tree child : Node} : child ∈ tree.children → Within node child → Within node tree

/-- The statement occurs in one of the trees. -/
def WithinAny (node : Node) (trees : List Node) : Prop :=
  ∃ tree ∈ trees, node.Within tree

section Occurrences

variable {node child tree : Node} {trees more : List Node}

theorem Within.of_mem_children (h : node.Within tree) (hchild : child ∈ node.children) :
    child.Within tree := by
  induction h with
  | self => exact .inner hchild .self
  | inner hmem _ ih => exact .inner hmem ih

theorem WithinAny.of_mem_children (h : node.WithinAny trees) (hchild : child ∈ node.children) :
    child.WithinAny trees := by
  obtain ⟨tree, hmem, htree⟩ := h
  exact ⟨tree, hmem, htree.of_mem_children hchild⟩

/-- Whether a statement occurs in a given tree can be read off from the statements in it. -/
theorem within_iff : node.Within tree ↔ node = tree ∨ node.WithinAny tree.children := by
  constructor
  · intro h
    cases h with
    | self => exact .inl rfl
    | @inner _ child hmem h => exact .inr ⟨child, hmem, h⟩
  · rintro (rfl | ⟨child, hmem, h⟩)
    · exact .self
    · exact .inner hmem h

@[simp] theorem not_withinAny_nil : ¬node.WithinAny [] := by
  simp [WithinAny]

@[simp] theorem withinAny_cons :
    node.WithinAny (tree :: trees) ↔ node.Within tree ∨ node.WithinAny trees := by
  simp [WithinAny]

theorem WithinAny.of_mem (h : node ∈ trees) : node.WithinAny trees :=
  ⟨node, h, .self⟩

theorem WithinAny.mono (h : node.WithinAny trees) (hsub : trees ⊆ more) : node.WithinAny more := by
  obtain ⟨tree, hmem, htree⟩ := h
  exact ⟨tree, hsub hmem, htree⟩

end Occurrences

/-! ### The number of statements -/

mutual

/-- The number of statements in a tree, itself included. -/
def size : Node → Nat
  | view elements => 1 + sizeAll elements
  | function _ body => 1 + sizeAll body
  | component _ body => 1 + sizeAll body
  | assignment _ _ | call _ | text _ | button _ => 1

/-- The number of statements in several trees. -/
def sizeAll : List Node → Nat
  | [] => 0
  | node :: nodes => size node + sizeAll nodes

end

section Size

variable {node tree : Node} {nodes trees : List Node}

theorem size_eq_sizeAll_children : node.size = 1 + sizeAll node.children := by
  cases node <;> rfl

theorem size_le_sizeAll_of_mem (h : node ∈ nodes) : node.size ≤ sizeAll nodes := by
  induction h with
  | head => simp [sizeAll]
  | tail _ _ ih => simp only [sizeAll]; omega

theorem size_lt_of_mem_children (h : node ∈ tree.children) : node.size < tree.size := by
  have hchild : node.size ≤ sizeAll tree.children := size_le_sizeAll_of_mem h
  have htree : tree.size = 1 + sizeAll tree.children := size_eq_sizeAll_children
  omega

theorem Within.size_le (h : node.Within tree) : node.size ≤ tree.size := by
  induction h with
  | self => exact Nat.le_refl _
  | inner hmem _ ih => exact Nat.le_trans ih (Nat.le_of_lt (size_lt_of_mem_children hmem))

theorem WithinAny.size_le (h : node.WithinAny trees) : node.size ≤ sizeAll trees := by
  obtain ⟨tree, hmem, htree⟩ := h
  exact Nat.le_trans htree.size_le (size_le_sizeAll_of_mem hmem)

end Size

/-- **Induction on a tree**: what holds of a statement whenever it holds of the statements that it
is made of holds of every statement. -/
theorem induction_on_children {motive : Node → Prop}
    (step : ∀ node, (∀ child ∈ node.children, motive child) → motive node) (node : Node) :
    motive node :=
  step node fun child hchild =>
    have := size_lt_of_mem_children hchild
    induction_on_children step child
termination_by node.size

end Node

end ViewLang
