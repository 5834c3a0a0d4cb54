import Mathlib.Data.List.Forall2
import TokenGrammar.Proofs.OutlineLines

namespace TokenGrammar.Node

/-- Trees of the same shape, with nodes of the same kind and the same shown label throughout. -/
inductive Resembles : Node → Node → Prop where
  | named {rule rule' cs cs'} : shortened labelLimit rule = shortened labelLimit rule' →
      List.Forall₂ Resembles cs cs' → Resembles (.named rule cs) (.named rule' cs')
  | anonymous {rule rule' cs cs'} : shortened labelLimit rule = shortened labelLimit rule' →
      List.Forall₂ Resembles cs cs' → Resembles (.anonymous rule cs) (.anonymous rule' cs')
  | terminal {t t'} : shown (.terminal t) = shown (.terminal t') →
      Resembles (.terminal t) (.terminal t')

variable {a b : Node} {as bs : List Node}

theorem Resembles.heading_eq (h : a.Resembles b) : a.heading = b.heading := by
  cases h with
  | named hlabel _ | anonymous hlabel _ | terminal hlabel =>
    exact congrArg (_ ++ " " ++ ·) hlabel

mutual

theorem Resembles.branchLines_eq (margin : String) : {a b : Node} → a.Resembles b →
    branchLines margin a = branchLines margin b
  | .terminal _, .terminal _, _ => rfl
  | .named _ _, .named _ _, .named _ h | .anonymous _ _, .anonymous _ _, .anonymous _ h =>
    branchLinesAll_of_resembles margin h

theorem branchLinesAll_of_resembles (margin : String) : {as bs : List Node} →
    List.Forall₂ Resembles as bs → branchLinesAll margin as = branchLinesAll margin bs
  | [], [], _ => rfl
  | a :: as, b :: bs, .cons h hs => by
    have hlast : as.isEmpty = bs.isEmpty := by cases hs <;> rfl
    rw [branchLinesAll, branchLinesAll, hlast, h.heading_eq, h.branchLines_eq _,
      branchLinesAll_of_resembles margin hs]

end

/-- The icon tells what kind of node it is, and stands in front of the label. -/
theorem heading_inj (h : a.heading = b.heading) : a.icon = b.icon ∧ a.shown = b.shown := by
  have hicon (node : Node) : ∃ c, node.icon = String.ofList [c] := by
    cases node <;> exact ⟨_, rfl⟩
  obtain ⟨c, hc⟩ := hicon a
  obtain ⟨c', hc'⟩ := hicon b
  have hlist := congrArg String.toList h
  simp only [Node.heading_eq, hc, hc', String.toList_append, String.toList_ofList] at hlist
  obtain ⟨rfl, hlabel⟩ : c = c' ∧ a.shown.toList = b.shown.toList := by simpa using hlist
  exact ⟨hc.trans hc'.symm, String.toList_inj.mp hlabel⟩

/-- Behind a common margin, the connector tells whether the child is the last one. -/
theorem line_inj {margin : String} {last last' : Bool}
    (h : margin ++ connector last ++ a.heading = margin ++ connector last' ++ b.heading) :
    last = last' ∧ a.heading = b.heading := by
  rw [String.append_assoc, String.append_assoc, String.append_right_inj] at h
  by_cases hlast : last = last'
  · subst hlast
    exact ⟨rfl, (String.append_right_inj _).mp h⟩
  · have hlist := congrArg String.toList h
    cases last <;> cases last' <;> simp [connector] at hlast hlist

mutual

/-- Every line below a node starts with the margin of the node's children. -/
theorem margin_at_start (margin : String) : (node : Node) →
    ∀ line ∈ branchLines margin node, margin.toList <+: line.toList
  | .terminal _ => nofun
  | .named _ cs | .anonymous _ cs => margin_at_start_all margin cs

theorem margin_at_start_all (margin : String) : (nodes : List Node) →
    ∀ line ∈ branchLinesAll margin nodes, margin.toList <+: line.toList
  | [] => nofun
  | c :: cs => by
    intro line hline
    rw [branchLinesAll, List.mem_cons, List.mem_append] at hline
    rcases hline with rfl | hbelow | hothers
    · rw [String.append_assoc, String.toList_append]
      exact List.prefix_append _ _
    · have hinner := margin_at_start (margin ++ indent cs.isEmpty) c line hbelow
      rw [String.toList_append] at hinner
      exact (List.prefix_append _ _).trans hinner
    · exact margin_at_start_all margin cs line hothers

end

/-- Where a node is not the last child, no line of a later sibling looks as if it stood below it. -/
theorem sibling_not_below (margin : String) (last : Bool) (heading : String) :
    ¬ (margin ++ indent false).toList <+: (margin ++ connector last ++ heading).toList := by
  simp only [String.toList_append, List.append_assoc, List.prefix_append_right_inj]
  cases last <;> simp [indent, connector]

/-- Two lists that are cut before the first member without the property are cut in one place. -/
theorem append_inj_of_first_not {α : Type} {P : α → Prop} {xs ys zs zs' : List α} {z z' : α}
    (hxs : ∀ x ∈ xs, P x) (hys : ∀ y ∈ ys, P y) (hz : ¬ P z) (hz' : ¬ P z')
    (h : xs ++ z :: zs = ys ++ z' :: zs') : xs = ys ∧ z :: zs = z' :: zs' := by
  induction xs generalizing ys with
  | nil =>
    cases ys with
    | nil => exact ⟨rfl, h⟩
    | cons y ys =>
      obtain ⟨rfl, _⟩ := List.cons.inj h
      exact absurd (hys _ List.mem_cons_self) hz
  | cons x xs ih =>
    cases ys with
    | nil =>
      obtain ⟨rfl, _⟩ := List.cons.inj h
      exact absurd (hxs _ List.mem_cons_self) hz'
    | cons y ys =>
      obtain ⟨rfl, htail⟩ := List.cons.inj h
      obtain ⟨rfl, hrest⟩ := ih (fun x hx => hxs x (List.mem_cons_of_mem _ hx))
        (fun y hy => hys y (List.mem_cons_of_mem _ hy)) htail
      exact ⟨rfl, hrest⟩

/-- The lines below a child end where those of the next child begin. -/
theorem below_inj {margin : String} (hlast : as.isEmpty = bs.isEmpty)
    (h : branchLines (margin ++ indent as.isEmpty) a ++ branchLinesAll margin as =
      branchLines (margin ++ indent bs.isEmpty) b ++ branchLinesAll margin bs) :
    branchLines (margin ++ indent as.isEmpty) a = branchLines (margin ++ indent as.isEmpty) b ∧
      branchLinesAll margin as = branchLinesAll margin bs := by
  -- Below a last child the margin is blank, but then there is no sibling to be told apart from it.
  cases as with
  | nil =>
    cases bs with
    | nil => simpa [branchLinesAll] using h
    | cons => cases hlast
  | cons c cs =>
    cases bs with
    | nil => cases hlast
    | cons d ds =>
      exact append_inj_of_first_not (margin_at_start _ a) (margin_at_start _ b)
        (sibling_not_below margin _ _) (sibling_not_below margin _ _) h

mutual

theorem resembles_of_lines (margin : String) : {a b : Node} → a.heading = b.heading →
    branchLines margin a = branchLines margin b → a.Resembles b
  | .terminal _, .terminal _, hhead, _ => .terminal (heading_inj hhead).2
  | .named _ _, .named _ _, hhead, hlines =>
    .named (heading_inj hhead).2 (resemble_of_lines margin hlines)
  | .anonymous _ _, .anonymous _ _, hhead, hlines =>
    .anonymous (heading_inj hhead).2 (resemble_of_lines margin hlines)
  | .named _ _, .anonymous _ _, hhead, _ | .named _ _, .terminal _, hhead, _
  | .anonymous _ _, .named _ _, hhead, _ | .anonymous _ _, .terminal _, hhead, _
  | .terminal _, .named _ _, hhead, _ | .terminal _, .anonymous _ _, hhead, _ => by
    have hicon := (heading_inj hhead).1
    simp [icon] at hicon

theorem resemble_of_lines (margin : String) : {as bs : List Node} →
    branchLinesAll margin as = branchLinesAll margin bs → List.Forall₂ Resembles as bs
  | [], [], _ => .nil
  | [], _ :: _, h | _ :: _, [], h => by simp [branchLinesAll] at h
  | a :: as, b :: bs, h => by
    rw [branchLinesAll, branchLinesAll] at h
    obtain ⟨hline, hrest⟩ := List.cons.inj h
    obtain ⟨hlast, hhead⟩ := line_inj hline
    obtain ⟨hbelow, hothers⟩ := below_inj hlast hrest
    exact .cons (resembles_of_lines _ hhead hbelow) (resemble_of_lines margin hothers)

end

section Lookalikes

end Lookalikes

end TokenGrammar.Node
