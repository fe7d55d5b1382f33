/-!
# Reading from the front

A sequence is read from its front with one item of lookahead. What is still to be read is a plain
list; each operation gives its answer together with the list that remains.
-/

namespace ViewLang.Lookahead

variable {α : Type}

/-- The item at the front, which stays there. -/
def peek (items : List α) : Option α :=
  items.head?

/-- Takes the item at the front, if there is one. -/
def next (items : List α) : Option α × List α :=
  (items.head?, items.tail)

/-- Whether nothing is left. -/
def atEnd (items : List α) : Bool :=
  items.isEmpty

/-- Takes the item at the front if it satisfies `p`, and says whether it did. -/
def eat (p : α → Bool) : List α → Bool × List α
  | [] => (false, [])
  | x :: rest => if p x then (true, rest) else (false, x :: rest)

/-- Takes items as long as they satisfy `p`: the run taken, and what remains. -/
def eatWhile (p : α → Bool) (items : List α) : List α × List α :=
  (items.takeWhile p, items.dropWhile p)

@[simp] theorem eatWhile_append (p : α → Bool) (items : List α) :
    (eatWhile p items).1 ++ (eatWhile p items).2 = items :=
  List.takeWhile_append_dropWhile

theorem length_snd_eatWhile_le (p : α → Bool) (items : List α) :
    (eatWhile p items).2.length ≤ items.length :=
  (List.dropWhile_sublist p).length_le

end ViewLang.Lookahead
