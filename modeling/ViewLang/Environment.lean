import ViewLang.Node

/-!
# Name bindings

An environment binds names to values, components and functions. There is one namespace, so a name
has at most one binding, and a new binding replaces the old one of whatever sort.
-/

namespace ViewLang

/-- What a name stands for. -/
inductive Binding where
  | value (value : Literal)
  | component (body : List Node)
  | function (body : List Node)
deriving BEq, Repr

/-- The bindings of names, latest first. No name is bound twice. -/
structure Environment where
  bindings : List (String × Binding)
  nodup_names : (bindings.map Prod.fst).Nodup

namespace Environment

/-- The environment without bindings. -/
def empty : Environment :=
  ⟨[], List.nodup_nil⟩

instance : EmptyCollection Environment := ⟨empty⟩

instance : Inhabited Environment := ⟨empty⟩

/-- The binding of a name. -/
def get? (env : Environment) (name : String) : Option Binding :=
  env.bindings.lookup name

/-- The number of names bound. -/
def size (env : Environment) : Nat :=
  env.bindings.length

/-- Whether no name is bound. -/
def isEmpty (env : Environment) : Bool :=
  env.bindings.isEmpty

/-- Binds a name, in place of the binding that it had. -/
def insert (env : Environment) (name : String) (binding : Binding) : Environment where
  bindings := (name, binding) :: env.bindings.filter (·.1 != name)
  nodup_names := by
    rw [List.map_cons, List.nodup_cons]
    refine ⟨?_, env.nodup_names.sublist (List.filter_sublist.map Prod.fst)⟩
    simp

/-- Binds a name, and gives the binding that it had. -/
def bind (env : Environment) (name : String) (binding : Binding) : Option Binding × Environment :=
  (env.get? name, env.insert name binding)

/-! ### Look-up after each operation -/

@[simp] theorem get?_empty (name : String) : (∅ : Environment).get? name = none := rfl

@[simp] theorem size_empty : (∅ : Environment).size = 0 := rfl

@[simp] theorem get?_insert_self (env : Environment) (name : String) (binding : Binding) :
    (env.insert name binding).get? name = some binding := by
  simp [get?, insert]

private theorem lookup_filter_ne {name other : String} (h : other ≠ name)
    (l : List (String × Binding)) : (l.filter (·.1 != name)).lookup other = l.lookup other := by
  induction l with
  | nil => rfl
  | cons p l ih =>
    by_cases hp : p.1 = name
    · rw [List.filter_cons_of_neg (by simpa using hp), ih, List.lookup_cons,
        beq_eq_false_iff_ne.2 (hp ▸ h)]
    · rw [List.filter_cons_of_pos (by simpa using hp), List.lookup_cons, List.lookup_cons, ih]

theorem get?_insert_of_ne (env : Environment) {name other : String} (binding : Binding)
    (h : other ≠ name) : (env.insert name binding).get? other = env.get? other := by
  rw [get?, insert, List.lookup_cons, beq_eq_false_iff_ne.2 h]
  exact lookup_filter_ne h _

theorem get?_insert (env : Environment) (name other : String) (binding : Binding) :
    (env.insert name binding).get? other =
      if other = name then some binding else env.get? other := by
  split
  · next h => rw [h, get?_insert_self]
  · next h => rw [get?_insert_of_ne _ _ h]

/-- A name is bound exactly when it is among the names of the bindings. -/
theorem get?_eq_none_iff {env : Environment} {name : String} :
    env.get? name = none ↔ name ∉ env.bindings.map Prod.fst := by
  simp only [get?, List.lookup_eq_none_iff, List.mem_map]
  grind

end Environment

end ViewLang
