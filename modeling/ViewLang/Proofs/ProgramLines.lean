import ViewLang.Proofs.LogLines

/-!
# The lines of a printed program

A program is laid out with a depth that goes up and down on the way through its blocks, and with all
lines before it at hand. Neither matters to what a block looks like. This module gives the lines of
a program by themselves, from the inside out: those of a block are its header, the lines of the
statements in it, each one level deeper, and a closing brace (`Node.lines`).

* **Depth.** Laying out statements at some depth, behind some lines, adds their own lines, that much
  deeper (`toList_layoutAll`).
* **Text.** If no name and no string goes over a line, each of these lines is one line of the text
  (`linesOf_print`), so the indent in front of the lines of a block is found there again.
* **Number.** A statement without a block takes one line, and so does an empty block. Any other
  block takes two more than what is in it (`length_linesAll`).

Statements without a block behave alike, and so do blocks with any sort of header, hence all proofs
here go by induction along `induction_on_blocks`.
-/

namespace ViewLang

namespace Node

/-! ### Statements with and without a block -/

/-- The statement has no block. -/
def isLeaf : Node → Bool
  | view _ | function _ _ | component _ _ => false
  | assignment _ _ | call _ | text _ | button _ => true

/-- The statement has a block with nothing in it. -/
def isEmptyBlock (node : Node) : Bool :=
  !node.isLeaf && node.children.isEmpty

/-- The statement has a block with something in it. -/
def isFullBlock (node : Node) : Bool :=
  !node.isLeaf && !node.children.isEmpty

/-- What is printed before the brace that opens a block. -/
def Header.text : Header → String
  | view => "View"
  | function name => "func " ++ name ++ "()"
  | component name => "component " ++ name

/-- The name in a header. -/
def Header.atoms : Header → List Atom
  | view => []
  | function name | component name => [.name name]

@[simp] theorem isLeaf_node (header : Header) (body : List Node) :
    (header.node body).isLeaf = false := by
  cases header <;> rfl

@[simp] theorem children_node (header : Header) (body : List Node) :
    (header.node body).children = body := by
  cases header <;> rfl

@[simp] theorem isEmptyBlock_node (header : Header) (body : List Node) :
    (header.node body).isEmptyBlock = body.isEmpty := by
  simp [isEmptyBlock]

@[simp] theorem isFullBlock_node (header : Header) (body : List Node) :
    (header.node body).isFullBlock = !body.isEmpty := by
  simp [isFullBlock]

/-- A statement that is no leaf is a header with a block. -/
theorem exists_eq_node {node : Node} (h : ¬node.isLeaf = true) :
    ∃ header : Header, node = header.node node.children := by
  cases node with
  | view => exact ⟨.view, rfl⟩
  | function name => exact ⟨.function name, rfl⟩
  | component name => exact ⟨.component name, rfl⟩
  | assignment | call | text | button => exact absurd rfl h

/-- **Induction along blocks**: statements are none, or a leaf and more statements, or a header with
a block and more statements. -/
theorem induction_on_blocks {motive : List Node → Prop} (nil : motive [])
    (leaf : ∀ node nodes, node.isLeaf = true → motive nodes → motive (node :: nodes))
    (block : ∀ (header : Header) body nodes, motive body → motive nodes →
      motive (header.node body :: nodes)) (nodes : List Node) : motive nodes := by
  cases nodes with
  | nil => exact nil
  | cons node nodes =>
    have hnodes : sizeAll nodes < sizeAll (node :: nodes) := by
      rw [sizeAll, size_eq_sizeAll_children]
      omega
    have hbody : sizeAll node.children < sizeAll (node :: nodes) := by
      rw [sizeAll, size_eq_sizeAll_children]
      omega
    by_cases hleaf : node.isLeaf = true
    · exact leaf node nodes hleaf (induction_on_blocks nil leaf block nodes)
    · obtain ⟨header, hnode⟩ := exists_eq_node hleaf
      rw [hnode]
      exact block header node.children nodes (induction_on_blocks nil leaf block node.children)
        (induction_on_blocks nil leaf block nodes)
termination_by sizeAll nodes

/-! ### Lines from the inside out -/

/-- The line so many levels deeper. -/
def Line.sink (levels : ℕ) (line : Line) : Line :=
  ⟨levels + line.depth, line.text⟩

mutual

/-- The lines of a statement that stands by itself. -/
def lines : Node → List Line
  | view elements => blockLines Header.view.text elements
  | function name body => blockLines (Header.function name).text body
  | component name body => blockLines (Header.component name).text body
  | leaf => [⟨0, leaf.display⟩]

/-- The lines of a block with its header. -/
def blockLines (header : String) : List Node → List Line
  | [] => [⟨0, header ++ " \x7b\x7d"⟩]
  | node :: nodes =>
    ⟨0, header ++ " \x7b"⟩ :: ((lines node ++ linesAll nodes).map (Line.sink 1) ++ [⟨0, "\x7d"⟩])

/-- The lines of statements, one after the other. -/
def linesAll : List Node → List Line
  | [] => []
  | node :: nodes => lines node ++ linesAll nodes

end

section Lines

variable {node : Node} {nodes more : List Node} {header : Header} {body : List Node}

@[simp] theorem Line.sink_zero (line : Line) : line.sink 0 = line := by
  simp [sink]

theorem Line.sink_sink (levels more : ℕ) (line : Line) :
    (line.sink levels).sink more = line.sink (more + levels) := by
  simp [sink, Nat.add_assoc]

theorem lines_of_isLeaf (h : node.isLeaf = true) : node.lines = [⟨0, node.display⟩] := by
  cases node <;> first | rfl | cases h

theorem lines_node : (header.node body).lines = blockLines header.text body := by
  cases header <;> rfl

theorem blockLines_of_ne_nil {text : String} (h : body ≠ []) :
    blockLines text body =
      ⟨0, text ++ " \x7b"⟩ :: ((linesAll body).map (Line.sink 1) ++ [⟨0, "\x7d"⟩]) := by
  obtain ⟨node, nodes, rfl⟩ := List.exists_cons_of_ne_nil h
  rfl

@[simp] theorem linesAll_append : linesAll (nodes ++ more) = linesAll nodes ++ linesAll more := by
  induction nodes with
  | nil => rfl
  | cons node nodes ih => rw [List.cons_append, linesAll, linesAll, ih, List.append_assoc]

/-! ### The layout has these lines -/

variable {depth : ℕ} {done : Array Line}

theorem layout_of_isLeaf (h : node.isLeaf = true) :
    layout depth done node = done.push ⟨depth, node.display⟩ := by
  cases node <;> first | rfl | cases h

theorem layout_node : layout depth done (header.node body) =
    layoutBlock depth done header.text body := by
  cases header <;> rfl

theorem layoutBlock_of_ne_nil {text : String} (h : body ≠ []) :
    layoutBlock depth done text body =
      (layoutAll (depth + 1) (done.push ⟨depth, text ++ " \x7b"⟩) body).push ⟨depth, "\x7d"⟩ := by
  obtain ⟨node, nodes, rfl⟩ := List.exists_cons_of_ne_nil h
  rfl

/-- **Layouts are made of lines of their own.** Statements that are laid out at some depth behind
other lines add the lines that they have by themselves, so many levels deeper. -/
theorem toList_layoutAll (depth : ℕ) (done : Array Line) (nodes : List Node) :
    (layoutAll depth done nodes).toList =
      done.toList ++ (linesAll nodes).map (Line.sink depth) := by
  induction nodes using induction_on_blocks generalizing depth done with
  | nil => simp [layoutAll, linesAll]
  | leaf node nodes hleaf ih =>
    rw [layoutAll, ih, layout_of_isLeaf hleaf, linesAll, lines_of_isLeaf hleaf]
    simp [Line.sink]
  | block header body nodes hbody hnodes =>
    have hblock : (layoutBlock depth done header.text body).toList =
        done.toList ++ (blockLines header.text body).map (Line.sink depth) := by
      by_cases hempty : body = []
      · subst hempty
        simp [layoutBlock, blockLines, Line.sink]
      · -- One level more for the block is one level more on top of its own depth.
        have hsink : Line.sink depth ∘ Line.sink 1 = Line.sink (depth + 1) :=
          funext (Line.sink_sink 1 depth)
        rw [layoutBlock_of_ne_nil hempty, blockLines_of_ne_nil hempty, Array.toList_push, hbody]
        simp [hsink, Line.sink]
    rw [layoutAll, hnodes, layout_node, hblock, linesAll, lines_node]
    simp

/-! ### The text of these lines -/

variable {indent : String}

/-- The characters of a line, without the line feed. -/
def Line.chars (indent : String) (line : Line) : List Char :=
  (List.replicate line.depth indent.toList).flatten ++ line.text.toList

theorem Line.chars_sink_one (line : Line) :
    (line.sink 1).chars indent = indent.toList ++ line.chars indent := by
  simp [chars, sink, Nat.add_comm 1, List.replicate_succ]

/-- The text of a program is the text of its lines. -/
theorem toList_print_eq (indent : String) (nodes : List Node) :
    (print indent nodes).toList =
      ((linesAll nodes).map (Line.chars indent)).flatMap (· ++ ['\n']) := by
  have hlines : (layoutAll 0 #[] nodes).toList = linesAll nodes := by
    have hsink : Line.sink 0 = id := funext Line.sink_zero
    rw [toList_layoutAll, hsink]
    simp
  rw [toList_print, printed, hlines, List.flatMap_map]
  refine List.flatMap_congr fun line _ => ?_
  rw [toList_print_line, Line.chars, List.append_assoc]

end Lines

/-! ### Names and strings on one line -/

section OneLine

variable {indent : String} {nodes body : List Node} {header : Header}

theorem atoms_node : (header.node body).atoms = header.atoms ++ atomsAll body := by
  cases header <;> rfl

theorem lineFeedCount_text (header : Header) :
    lineFeedCount header.text = Atom.lineFeedCountAll header.atoms := by
  cases header <;> simp [Header.text, Header.atoms, Atom.lineFeedCount, lineFeedCount]

theorem lineFeedCountAll_eq_zero_iff {atoms : List Atom} :
    Atom.lineFeedCountAll atoms = 0 ↔ ∀ a ∈ atoms, a.lineFeedCount = 0 := by
  simp [Atom.lineFeedCountAll, List.sum_eq_zero_iff]

/-- A line of a block is its header line, its closing line, or a line from inside. -/
theorem text_of_mem_blockLines {text : String} {line : Line} (h : line ∈ blockLines text body) :
    line.text = text ++ " \x7b\x7d" ∨ line.text = text ++ " \x7b" ∨
      (∃ inner ∈ linesAll body, line.text = inner.text) ∨ line.text = "\x7d" := by
  by_cases hempty : body = []
  · subst hempty
    obtain rfl := List.mem_singleton.mp h
    exact .inl rfl
  · rw [blockLines_of_ne_nil hempty, List.mem_cons, List.mem_append, List.mem_map,
      List.mem_singleton] at h
    obtain rfl | ⟨inner, hinner, rfl⟩ | rfl := h
    · exact .inr (.inl rfl)
    · exact .inr (.inr (.inl ⟨inner, hinner, rfl⟩))
    · exact .inr (.inr (.inr rfl))

/-- If no name and no string goes over a line, no line has a line feed. -/
theorem lineFeedCount_text_of_mem_linesAll (h : ∀ a ∈ atomsAll nodes, a.lineFeedCount = 0) :
    ∀ line ∈ linesAll nodes, lineFeedCount line.text = 0 := by
  induction nodes using induction_on_blocks with
  | nil => simp [linesAll]
  | leaf node nodes hleaf ih =>
    obtain ⟨hnode, hnodes⟩ := List.forall_mem_append.mp h
    rw [linesAll, lines_of_isLeaf hleaf, List.forall_mem_append, List.forall_mem_singleton,
      lineFeedCount_display]
    exact ⟨lineFeedCountAll_eq_zero_iff.mpr hnode, ih hnodes⟩
  | block header body nodes hbody hnodes =>
    rw [atomsAll, atoms_node, List.forall_mem_append, List.forall_mem_append] at h
    obtain ⟨⟨hheader, hinside⟩, hrest⟩ := h
    have htext : lineFeedCount header.text = 0 := by
      rw [lineFeedCount_text]
      exact lineFeedCountAll_eq_zero_iff.mpr hheader
    rw [linesAll, lines_node, List.forall_mem_append]
    refine ⟨fun line hline => ?_, hnodes hrest⟩
    obtain hline | hline | ⟨inner, hinner, hline⟩ | hline := text_of_mem_blockLines hline
    · rw [hline, lineFeedCount_append, htext]
      rfl
    · rw [hline, lineFeedCount_append, htext]
      rfl
    · rw [hline, hbody hinside inner hinner]
    · rw [hline]
      rfl

theorem lineFeed_notMem_chars {line : Line} (hindent : '\n' ∉ indent.toList)
    (h : lineFeedCount line.text = 0) : '\n' ∉ line.chars indent := by
  simp only [Line.chars, List.mem_append, List.mem_flatten, not_or, not_exists, not_and]
  refine ⟨fun cs hcs hmem => ?_, lineFeedCount_eq_zero_iff.mp h⟩
  rw [List.eq_of_mem_replicate hcs] at hmem
  exact hindent hmem

/-- **The lines of a printed program** are the lines of its statements. -/
theorem linesOf_print (hindent : '\n' ∉ indent.toList)
    (h : ∀ a ∈ atomsAll nodes, a.lineFeedCount = 0) :
    linesOf (print indent nodes) = (linesAll nodes).map (Line.chars indent) ++ [[]] := by
  rw [linesOf, toList_print_eq]
  refine splitOn_flatMap_lineFeed (List.forall_mem_map.mpr fun line hline => ?_)
  exact lineFeed_notMem_chars hindent (lineFeedCount_text_of_mem_linesAll h line hline)

/-! ### Blocks -/

theorem print_append (indent : String) (nodes more : List Node) :
    print indent (nodes ++ more) = print indent nodes ++ print indent more := by
  apply String.toList_inj.mp
  simp [toList_print_eq]

theorem print_emptyBlock (indent : String) (header : Header) :
    print indent [header.node []] = header.text ++ " \x7b\x7d\n" := by
  apply String.toList_inj.mp
  simp [toList_print_eq, linesAll, lines_node, blockLines, Line.chars]

end OneLine

end Node

/-- A text with the indent in front of each of its lines. -/
def indented (indent text : String) : String :=
  String.join ((linesOf text).dropLast.map fun line => indent ++ String.ofList line ++ "\n")

namespace Node

section Blocks

variable {indent : String} {nodes body : List Node} {header : Header}

theorem toList_indented (indent text : String) :
    (indented indent text).toList =
      (linesOf text).dropLast.flatMap fun line => indent.toList ++ (line ++ ['\n']) := by
  rw [indented, String.toList_join, List.flatMap_map]
  simp

theorem print_fullBlock (hindent : '\n' ∉ indent.toList)
    (h : ∀ a ∈ atomsAll body, a.lineFeedCount = 0) (header : Header) (hbody : body ≠ []) :
    print indent [header.node body] =
      header.text ++ " \x7b\n" ++ indented indent (print indent body) ++ "\x7d\n" := by
  apply String.toList_inj.mp
  have hinside : (indented indent (print indent body)).toList =
      (((linesAll body).map (Line.sink 1)).map (Line.chars indent)).flatMap (· ++ ['\n']) := by
    rw [toList_indented, linesOf_print hindent h, List.dropLast_concat, List.map_map,
      List.flatMap_map, List.flatMap_map]
    refine List.flatMap_congr fun line _ => ?_
    rw [Function.comp_apply, Line.chars_sink_one, List.append_assoc]
  rw [toList_print_eq]
  simp [linesAll, lines_node, blockLines_of_ne_nil hbody, hinside, Line.chars]

end Blocks

/-! ### How many lines there are -/

mutual

/-- A statement, and the statements in it at any depth. -/
def subtrees : Node → List Node
  | view elements => view elements :: subtreesAll elements
  | function name body => function name body :: subtreesAll body
  | component name body => component name body :: subtreesAll body
  | leaf => [leaf]

/-- All statements that there are in statements. -/
def subtreesAll : List Node → List Node
  | [] => []
  | node :: nodes => subtrees node ++ subtreesAll nodes

end

section Counting

variable {indent : String} {nodes : List Node}

theorem subtrees_of_isLeaf {node : Node} (h : node.isLeaf = true) : node.subtrees = [node] := by
  cases node <;> first | rfl | cases h

theorem subtrees_node (header : Header) (body : List Node) :
    (header.node body).subtrees = header.node body :: subtreesAll body := by
  cases header <;> rfl

/-- **The number of lines**: one for each leaf and each empty block, two for every other block. -/
theorem length_linesAll (nodes : List Node) :
    (linesAll nodes).length = (subtreesAll nodes).countP isLeaf +
      (subtreesAll nodes).countP isEmptyBlock + 2 * (subtreesAll nodes).countP isFullBlock := by
  induction nodes using induction_on_blocks with
  | nil => rfl
  | leaf node nodes hleaf ih =>
    rw [linesAll, lines_of_isLeaf hleaf, subtreesAll, subtrees_of_isLeaf hleaf]
    simp only [List.singleton_append, List.length_cons, List.countP_cons, isEmptyBlock, isFullBlock,
      hleaf, ih, Bool.not_true, Bool.false_and, Bool.false_eq_true, if_true, if_false]
    omega
  | block header body nodes hbody hnodes =>
    rw [linesAll, lines_node, subtreesAll, subtrees_node]
    simp only [List.cons_append, List.length_append, List.countP_cons, List.countP_append, hnodes,
      isLeaf_node, isEmptyBlock_node, isFullBlock_node]
    by_cases hempty : body = []
    · subst hempty
      have hblock : (blockLines header.text []).length = 1 := rfl
      have hnone : subtreesAll [] = [] := rfl
      rw [hblock, hnone]
      simp only [List.countP_nil, List.isEmpty_nil, Bool.not_true, Bool.false_eq_true, if_true,
        if_false]
      omega
    · have hblock : (blockLines header.text body).length = (linesAll body).length + 2 := by
        simp [blockLines_of_ne_nil hempty]
      rw [hblock, hbody, List.isEmpty_eq_false_iff.mpr hempty]
      simp only [Bool.not_false, Bool.false_eq_true, if_true, if_false]
      omega

/-- **The layout of a printed program.** Let no name and no string of the statements go over a line,
nor the indent. Then they are printed one after the other. A block with nothing in it is printed on
the line of its header, and a block of the statements as a header line, then what is printed for the
statements by themselves with one indent in front of each line, then a line with the brace. So each
line of the text is a line of the statements, behind as many indents as there are blocks around it,
and there are as many as leaves, empty blocks, and twice the other blocks. -/
theorem print_blocks_and_lines (hindent : '\n' ∉ indent.toList)
    (h : ∀ a ∈ atomsAll nodes, a.lineFeedCount = 0) :
    (∀ more, print indent (nodes ++ more) = print indent nodes ++ print indent more) ∧
      (∀ header : Header,
        print indent [header.node []] = header.text ++ " \x7b\x7d\n" ∧
        (nodes ≠ [] → print indent [header.node nodes] =
          header.text ++ " \x7b\n" ++ indented indent (print indent nodes) ++ "\x7d\n")) ∧
      linesOf (print indent nodes) = (linesAll nodes).map (Line.chars indent) ++ [[]] ∧
      lineFeedCount (print indent nodes) = (subtreesAll nodes).countP isLeaf +
        (subtreesAll nodes).countP isEmptyBlock + 2 * (subtreesAll nodes).countP isFullBlock := by
  have hlines := linesOf_print hindent h
  refine ⟨print_append indent nodes, fun header => ⟨print_emptyBlock indent header, ?_⟩, hlines, ?_⟩
  · exact print_fullBlock hindent h header
  · have hlength := congrArg List.length hlines
    rw [length_linesOf, List.length_append, List.length_map, length_linesAll] at hlength
    exact Nat.succ.inj hlength

/-- An empty block in a block, and a text that looks like the end of one. -/
theorem print_blocks_and_lines_of_nestedViews :
    '\n' ∉ "  ".toList ∧
      (∀ a ∈ atomsAll [view [function "f" [], text "\x7d"], call "f"], a.lineFeedCount = 0) ∧
      linesOf (print "  " [view [function "f" [], text "\x7d"], call "f"]) =
        ["View \x7b".toList, "  func f() \x7b\x7d".toList, "  Text(\"\x7d\")".toList, "\x7d".toList,
          "f()".toList, []] ∧
      lineFeedCount (print "  " [view [function "f" [], text "\x7d"], call "f"]) =
        2 + 1 + 2 * 1 := by
  have hindent : '\n' ∉ "  ".toList := by decide
  have hatoms : ∀ a ∈ atomsAll [view [function "f" [], text "\x7d"], call "f"],
      a.lineFeedCount = 0 := by decide
  obtain ⟨-, -, hlines, hcount⟩ := print_blocks_and_lines hindent hatoms
  exact ⟨hindent, hatoms, hlines.trans (by decide), hcount.trans (by decide)⟩

end Counting

end Node

end ViewLang
