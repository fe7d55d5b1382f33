import Mathlib.Data.List.Forall2
import ViewLang.Proofs.Trees

/-!
# Equality of statements

Trees of statements are compared by walking both at once. Which statements are told apart is decided
by the pairs of constructors that are walked into, so this module says what the walk compares.

* **One step.** Two statements compare equal exactly when they agree in everything but the
  statements in them, which is to say in their **labels**, and these statements are equally many and
  compare equal one by one (`same_iff`, `sameAll_iff`).
* **All of it.** A tree is determined by its label and the statements in it
  (`eq_iff_label_children`), so by induction on the tree no more than equality is left
  (`same_iff_eq`).

Since nothing else compares equal, a statement that a path leads to in one of two equal trees is the
one that it leads to in the other, of the same sort and with the same contents
(`beq_iff_structural`).
-/

namespace ViewLang

namespace Node

/-! ### Statements without the statements in them -/

/-- A statement without the statements in it: its sort, its names and its contents. -/
inductive Label where
  | view
  | assignment (name : String) (value : Literal)
  | function (name : String)
  | component (name : String)
  | call (name : String)
  | text (content : String)
  | button (label : String)
deriving DecidableEq, Repr

/-- The label of a statement. -/
def label : Node → Label
  | view _ => .view
  | assignment name value => .assignment name value
  | function name _ => .function name
  | component name _ => .component name
  | call name => .call name
  | text content => .text content
  | button label => .button label

/-- The statement that a path leads to. At each block on its way, the path says how many statements
of the block to pass over. -/
def at? : Node → List Nat → Option Node
  | node, [] => some node
  | node, i :: path => node.children[i]?.bind fun child => child.at? path

section Comparison

variable {a b : Node} {xs ys : List Node}

/-- A tree is determined by its label and the statements that it is made of. -/
theorem eq_iff_label_children : a = b ↔ a.label = b.label ∧ a.children = b.children := by
  cases a <;> cases b <;> simp [label, children]

/-- **One step of the comparison**: the labels agree, and then the statements in them are compared.
-/
theorem same_iff :
    same a b = true ↔ a.label = b.label ∧ sameAll a.children b.children = true := by
  cases a <;> cases b <;> simp [same, label, children, sameAll]

/-- Blocks compare equal if they are equally long and their statements compare equal one by one. -/
theorem sameAll_iff : sameAll xs ys = true ↔ List.Forall₂ (fun x y => same x y = true) xs ys := by
  induction xs generalizing ys with
  | nil => cases ys <;> simp [sameAll]
  | cons x xs ih => cases ys <;> simp [sameAll, ih]

theorem sameAll_iff_getElem :
    sameAll xs ys = true ↔ xs.length = ys.length ∧
      ∀ i (hx : i < xs.length) (hy : i < ys.length), (xs[i] == ys[i]) = true := by
  rw [sameAll_iff, List.forall₂_iff_get]
  rfl

/-- Blocks compare as they should if the statements in one of them do. -/
theorem sameAll_iff_eq (h : ∀ x ∈ xs, ∀ y, same x y = true ↔ x = y) :
    sameAll xs ys = true ↔ xs = ys := by
  induction xs generalizing ys with
  | nil => cases ys <;> simp [sameAll]
  | cons x xs ih =>
    obtain ⟨hx, hxs⟩ := List.forall_mem_cons.mp h
    cases ys <;> simp [sameAll, hx, ih hxs]

/-- **Statements compare equal exactly when they are equal.** -/
theorem same_iff_eq : same a b = true ↔ a = b := by
  induction a using induction_on_children generalizing b with
  | step a ih =>
    have hblock : sameAll a.children b.children = true ↔ a.children = b.children :=
      sameAll_iff_eq fun child hchild _ => ih child hchild
    rw [same_iff, hblock, eq_iff_label_children]

instance : LawfulBEq Node where
  eq_of_beq := same_iff_eq.mp
  rfl := same_iff_eq.mpr rfl

end Comparison

/-- **Comparing statements is structural equality.** Two trees compare equal exactly when their
labels agree, the statements in them are equally many, and these compare equal one by one; and that
is the case exactly when the trees are the same. So trees are told apart if some path leads to a
function in one of them and to a component in the other, or to a text in one and to a button in the
other, whatever their names and contents. -/
theorem beq_iff_structural (a b : Node) :
    ((a == b) = true ↔ a.label = b.label ∧ a.children.length = b.children.length ∧
      ∀ i (ha : i < a.children.length) (hb : i < b.children.length),
        (a.children[i] == b.children[i]) = true) ∧
    ((a == b) = true ↔ a = b) ∧
    (∀ path name other body more, a.at? path = some (.function name body) →
      b.at? path = some (.component other more) → (a == b) = false ∧ (b == a) = false) ∧
    (∀ path content label, a.at? path = some (.text content) →
      b.at? path = some (.button label) → (a == b) = false ∧ (b == a) = false) := by
  have happart : ∀ path x y, a.at? path = some x → b.at? path = some y → x ≠ y →
      (a == b) = false ∧ (b == a) = false := by
    intro path x y hx hy hne
    have hab : a ≠ b := by
      rintro rfl
      exact hne (Option.some.inj (hx.symm.trans hy))
    exact ⟨beq_eq_false_iff_ne.mpr hab, beq_eq_false_iff_ne.mpr hab.symm⟩
  refine ⟨?_, beq_iff_eq, ?_, ?_⟩
  · rw [← sameAll_iff_getElem]
    exact same_iff
  · intro path name other body more hx hy
    exact happart path _ _ hx hy (by simp)
  · intro path content label hx hy
    exact happart path _ _ hx hy (by simp)

end Node

end ViewLang
