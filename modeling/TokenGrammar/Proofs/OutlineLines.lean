import TokenGrammar.Node.Outline
import TokenGrammar.Text.Fields

namespace TokenGrammar

namespace Text

theorem fields_append {separator : Char} {xs : List Char} (h : separator ∉ xs) (ys : List Char) :
    fields separator (xs ++ separator :: ys) = xs :: fields separator ys := by
  induction xs with
  | nil => simp [fields]
  | cons x xs ih =>
    obtain ⟨hx, hxs⟩ := not_or.mp (mt List.mem_cons.mpr h)
    simp [fields, Ne.symm hx, ih hxs]

theorem length_fields (separator : Char) (cs : List Char) :
    (fields separator cs).length = cs.count separator + 1 := by
  induction cs with
  | nil => rfl
  | cons c cs ih =>
    by_cases hc : c = separator
    · simp [fields, hc, ih]
    · have hcount : (c :: cs).count separator = cs.count separator := List.count_cons_of_ne hc
      rw [hcount, ← ih]
      cases hf : fields separator cs with
      | nil => rw [hf] at ih; simp at ih
      | cons part parts => simp [fields, hc, hf]

/-- The lines of a text that a newline ends. -/
def endedLines (text : String) : List String :=
  (fields '\n' text.toList).dropLast.map String.ofList

theorem length_endedLines (text : String) :
    (endedLines text).length = text.toList.count '\n' := by
  simp [endedLines, length_fields]

theorem endedLines_join {ls : List String} (h : ∀ l ∈ ls, '\n' ∉ l.toList) :
    endedLines (String.join (ls.map (· ++ "\n"))) = ls := by
  have hfields : fields '\n' (String.join (ls.map (· ++ "\n"))).toList =
      ls.map String.toList ++ [[]] := by
    induction ls with
    | nil => rfl
    | cons l ls ih =>
      obtain ⟨hl, hls⟩ := List.forall_mem_cons.mp h
      have hline : (String.join ((l :: ls).map (· ++ "\n"))).toList =
          l.toList ++ '\n' :: (String.join (ls.map (· ++ "\n"))).toList := by
        simp [String.toList_append]
      rw [hline, fields_append hl, ih hls]
      rfl
  rw [endedLines, hfields, List.dropLast_concat, List.map_map]
  simp [Function.comp_def]

end Text

namespace Node

mutual

/-- Every node with its place, a parent before its children. The place of a node tells of every
ancestor below the root, and then of the node itself, whether it is the last child. -/
def placedFrom (place : List Bool) : Node → List (List Bool × Node)
  | .terminal t => [(place, .terminal t)]
  | .named rule cs => (place, .named rule cs) :: placedAllFrom place cs
  | .anonymous rule cs => (place, .anonymous rule cs) :: placedAllFrom place cs

def placedAllFrom (place : List Bool) : List Node → List (List Bool × Node)
  | [] => []
  | c :: cs => placedFrom (place ++ [cs.isEmpty]) c ++ placedAllFrom place cs

end

def placed (node : Node) : List (List Bool × Node) := placedFrom [] node

/-- What stands before the connectors of the children of a node at a place. -/
def margin (place : List Bool) : String := String.join (place.map indent)

/-- What stands before the heading of a node at a place. -/
def drawing : List Bool → String
  | [] => ""
  | [last] => connector last
  | last :: next :: place => indent last ++ drawing (next :: place)

def lineAt (p : List Bool × Node) : String := drawing p.1 ++ p.2.heading

/-- The label as it stands in the outline. -/
def shown (node : Node) : String := shortened labelLimit node.label

theorem heading_eq (node : Node) : node.heading = node.icon ++ " " ++ node.shown := rfl

theorem margin_append (place : List Bool) (last : Bool) :
    margin (place ++ [last]) = margin place ++ indent last := by
  simp [margin]

theorem drawing_append (place : List Bool) (last : Bool) :
    drawing (place ++ [last]) = margin place ++ connector last := by
  induction place with
  | nil => simp [drawing, margin]
  | cons first place ih =>
    have hcons : drawing (first :: (place ++ [last])) =
        indent first ++ drawing (place ++ [last]) := by
      cases place <;> rfl
    have hmargin : margin (first :: place) = indent first ++ margin place := by simp [margin]
    rw [List.cons_append, hcons, ih, hmargin, String.append_assoc]

mutual

theorem map_lineAt_placed (place : List Bool) : (node : Node) →
    (placedFrom place node).map lineAt =
      (drawing place ++ node.heading) :: branchLines (margin place) node
  | .terminal _ => rfl
  | .named _ cs | .anonymous _ cs => by
    rw [placedFrom, List.map_cons, map_lineAt_placedAll place cs]
    rfl

theorem map_lineAt_placedAll (place : List Bool) : (nodes : List Node) →
    (placedAllFrom place nodes).map lineAt = branchLinesAll (margin place) nodes
  | [] => rfl
  | c :: cs => by
    rw [placedAllFrom, List.map_append, map_lineAt_placed (place ++ [cs.isEmpty]) c,
      map_lineAt_placedAll place cs, drawing_append, margin_append]
    rfl

end

/-- The lines of the outline are drawn for the places of the nodes. -/
theorem outlineLines_eq (node : Node) : node.outlineLines = node.placed.map lineAt :=
  (map_lineAt_placed [] node).symm

mutual

theorem preorder_placed (place : List Bool) : (node : Node) →
    (placedFrom place node).map (fun p => (p.1.length, p.2)) = preorderFrom place.length node
  | .terminal _ => rfl
  | .named _ cs | .anonymous _ cs => by
    rw [placedFrom, List.map_cons, preorder_placedAll place cs]
    rfl

theorem preorder_placedAll (place : List Bool) : (nodes : List Node) →
    (placedAllFrom place nodes).map (fun p => (p.1.length, p.2)) =
      preorderAllFrom (place.length + 1) nodes
  | [] => rfl
  | c :: cs => by
    have hdepth : (place ++ [cs.isEmpty]).length = place.length + 1 := by simp
    rw [placedAllFrom, List.map_append, preorder_placed (place ++ [cs.isEmpty]) c,
      preorder_placedAll place cs, hdepth]
    rfl

end

/-- A node at a place stands as deep as the place is long. -/
theorem map_placed (node : Node) :
    node.placed.map (fun p => (p.1.length, p.2)) = node.preorder :=
  preorder_placed [] node

theorem length_placed (node : Node) : node.placed.length = node.preorder.length := by
  rw [← map_placed, List.length_map]

/-- No newline is shown in a label. -/
def Unbroken (node : Node) : Prop := ∀ p ∈ node.preorder, '\n' ∉ p.2.shown.toList

theorem unbroken_iff {node : Node} :
    node.Unbroken ↔ ∀ p ∈ node.placed, '\n' ∉ p.2.shown.toList := by
  rw [Unbroken, ← map_placed]
  exact List.forall_mem_map

theorem count_drawing (place : List Bool) : (drawing place).toList.count '\n' = 0 := by
  induction place using drawing.induct with
  | case1 => rfl
  | case2 last => cases last <;> rfl
  | case3 last next place ih =>
    have hindent : (indent last).toList.count '\n' = 0 := by cases last <;> rfl
    rw [drawing, String.toList_append, List.count_append, hindent, ih]

theorem count_heading (node : Node) :
    node.heading.toList.count '\n' = node.shown.toList.count '\n' := by
  have hicon : node.icon.toList.count '\n' = 0 := by cases node <;> simp only [icon] <;> rfl
  have hblank : " ".toList.count '\n' = 0 := rfl
  rw [heading_eq, String.toList_append, String.toList_append, List.count_append, List.count_append,
    hicon, hblank, Nat.zero_add]

theorem count_lineAt (p : List Bool × Node) :
    (lineAt p).toList.count '\n' = p.2.shown.toList.count '\n' := by
  rw [lineAt, String.toList_append, List.count_append, count_drawing, count_heading, Nat.zero_add]

theorem count_lines (ps : List (List Bool × Node)) :
    (String.join ((ps.map lineAt).map (· ++ "\n"))).toList.count '\n' =
      ps.length + (ps.flatMap (fun p => p.2.shown.toList)).count '\n' := by
  induction ps with
  | nil => rfl
  | cons p ps ih =>
    have hend : "\n".toList.count '\n' = 1 := rfl
    simp only [List.map_cons, String.join_cons, String.toList_append, List.count_append,
      count_lineAt, hend, ih, List.flatMap_cons, List.length_cons]
    omega

/-- Every node ends a line, and so does every newline that is shown in a label. -/
theorem length_endedLines_outline (node : Node) : (Text.endedLines node.outline).length =
    node.placed.length + (node.placed.flatMap (fun p => p.2.shown.toList)).count '\n' := by
  rw [Text.length_endedLines, outline, outlineLines_eq, count_lines]

theorem Unbroken.endedLines_outline {node : Node} (h : node.Unbroken) :
    Text.endedLines node.outline = node.placed.map lineAt := by
  rw [outline, outlineLines_eq]
  apply Text.endedLines_join
  intro line hline
  obtain ⟨p, hp, rfl⟩ := List.mem_map.mp hline
  rw [← List.count_eq_zero, count_lineAt, List.count_eq_zero]
  exact unbroken_iff.mp h p hp

/-- The places are those of the nodes in preorder. If and only if no newline is shown in a label,
the outline has as many lines as there are nodes; and just then its lines are those of the nodes,
the first line that of the first node, and so on. -/
theorem outline_lines (node : Node) :
    node.placed.map (fun p => (p.1.length, p.2)) = node.preorder ∧
    ((Text.endedLines node.outline).length = node.preorder.length ↔ node.Unbroken) ∧
    (Text.endedLines node.outline = node.placed.map lineAt ↔ node.Unbroken) := by
  have hlength : (Text.endedLines node.outline).length = node.preorder.length ↔
      node.Unbroken := by
    rw [length_endedLines_outline, ← length_placed, Nat.add_eq_left, List.count_eq_zero,
      List.mem_flatMap, unbroken_iff]
    simp only [not_exists, not_and]
  refine ⟨node.map_placed, hlength, ?_, Unbroken.endedLines_outline⟩
  intro hlines
  rw [← hlength, hlines, List.length_map, length_placed]

/-- A newline in the kind of a token breaks the only line of the outline in two. -/
theorem outline_of_broken_kind :
    (Node.terminal ⟨"a\nb", "c"⟩).outline = "◦ a\nb c\n" ∧
    Text.endedLines (Node.terminal ⟨"a\nb", "c"⟩).outline = ["◦ a", "b c"] ∧
    (Node.terminal ⟨"a\nb", "c"⟩).preorder.length = 1 := by
  have houtline : (Node.terminal ⟨"a\nb", "c"⟩).outline = "◦ a\nb c\n" := by decide
  refine ⟨houtline, ?_, rfl⟩
  rw [houtline]
  decide

end Node

end TokenGrammar
