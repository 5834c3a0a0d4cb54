import TokenGrammar.Proofs.Runs

namespace TokenGrammar.Matcher

mutual

/-- The slots that a matcher refers to, by references and by handles. -/
def links : Matcher → List Slot
  | .reference slot | .handle slot => [slot]
  | .sequence ms | .alternation ms => linksAll ms
  | .optional m | .repetition _ m | .rule _ m => links m
  | .terminal _ | .custom _ => []

def linksAll : List Matcher → List Slot
  | [] => []
  | m :: ms => links m ++ linksAll ms

end

variable {rules rules' : Rules}

theorem mem_linksAll {slot : Slot} {ms : List Matcher} :
    slot ∈ linksAll ms ↔ ∃ m ∈ ms, slot ∈ m.links := by
  induction ms with
  | nil => simp [linksAll]
  | cons m ms ih => simp [linksAll, ih]

theorem denote_congr {link link' : Slot → Recognizer} {m : Matcher}
    (h : ∀ slot ∈ m.links, link slot = link' slot) : m.denote link = m.denote link' := by
  have all (ms : List Matcher) (h : ∀ slot ∈ linksAll ms, link slot = link' slot)
      (ih : ∀ m ∈ ms, (∀ slot ∈ m.links, link slot = link' slot) →
        m.denote link = m.denote link') : denoteAll link ms = denoteAll link' ms := by
    simp only [denoteAll_eq_map]
    exact List.map_congr_left
      (fun m hm => ih m hm (fun slot hs => h slot (mem_linksAll.mpr ⟨m, hm, hs⟩)))
  induction m using parts_induction with
  | terminal | custom => rfl
  | sequence ms ih => exact congrArg Recognizer.sequence (all ms h ih)
  | alternation ms ih => exact congrArg Recognizer.alternation (all ms h ih)
  | optional m ih => exact congrArg Recognizer.optional (ih h)
  | repetition max m ih => exact congrArg (Recognizer.repetition max) (ih h)
  | rule name m ih => exact congrArg (Recognizer.rule name) (ih h)
  | reference slot => exact h slot List.mem_cons_self
  | handle slot => exact h slot List.mem_cons_self

/-- The rules agree on `S`, and no rule of a slot in `S` leads out of it. -/
structure Rules.AgreeOn (rules rules' : Rules) (S : Slot → Prop) : Prop where
  same : ∀ slot, S slot → rules slot = rules' slot
  closed : ∀ slot m, S slot → rules slot = some m → ∀ next ∈ m.links, S next

theorem follow_congr {S : Slot → Prop} (h : rules.AgreeOn rules' S) (fuel : Nat) {slot : Slot}
    (hs : S slot) : follow rules fuel slot = follow rules' fuel slot := by
  induction fuel generalizing slot with
  | zero => rfl
  | succ fuel ih =>
    funext ts
    simp only [follow, ← h.same slot hs]
    cases hr : rules slot with
    | none => rfl
    | some m =>
      exact congrFun (denote_congr (fun next hn => ih (h.closed slot m hs hr next hn))) ts

/-- A run only sees the rules that its matcher leads to. -/
theorem run_congr {S : Slot → Prop} (h : rules.AgreeOn rules' S) {m : Matcher}
    (hm : ∀ slot ∈ m.links, S slot) (fuel : Nat) : m.run rules fuel = m.run rules' fuel :=
  denote_congr (fun slot hs => follow_congr h fuel (hm slot hs))

theorem gives_congr {S : Slot → Prop} (h : rules.AgreeOn rules' S) {m : Matcher}
    (hm : ∀ slot ∈ m.links, S slot) (ts : List Token) (found : Option Node) :
    m.Gives rules ts found ↔ m.Gives rules' ts found := by
  simp only [Gives, run_congr h hm]

/-- The slots that a matcher leads to through the rules in force. -/
inductive Reaches (rules : Rules) (m : Matcher) : Slot → Prop where
  | link {slot} : slot ∈ m.links → Reaches rules m slot
  | next {slot m' next} : Reaches rules m slot → rules slot = some m' → next ∈ m'.links →
      Reaches rules m next

/-- The matcher satisfies `P`, and so does every rule that it leads to. -/
def Throughout (rules : Rules) (P : Matcher → Prop) (m : Matcher) : Prop :=
  P m ∧ ∀ slot m', m.Reaches rules slot → rules slot = some m' → P m'

theorem throughout_of_all {P : Matcher → Prop} {m : Matcher} (own : P m) (others : rules.All P) :
    m.Throughout rules P :=
  ⟨own, fun slot m' _ hr => others slot m' hr⟩

/-- A matcher runs as with the rules that it leads to and no others. -/
theorem Throughout.run {P : Matcher → Prop} {m : Matcher} (h : m.Throughout rules P) :
    ∃ rules' : Rules, rules'.All P ∧ ∀ fuel, m.run rules fuel = m.run rules' fuel := by
  classical
  let reached : Rules := fun slot => if m.Reaches rules slot then rules slot else none
  have hall : reached.All P := by
    intro slot m' hr
    by_cases hs : m.Reaches rules slot
    · exact h.2 slot m' hs (by simpa [reached, hs] using hr)
    · simp [reached, hs] at hr
  have agree : rules.AgreeOn reached (m.Reaches rules) :=
    ⟨fun slot hs => (if_pos hs).symm, fun _ _ hs hr _ hn => .next hs hr hn⟩
  exact ⟨reached, hall, run_congr agree (fun _ => .link)⟩

theorem Throughout.gives {P : Matcher → Prop} {m : Matcher} (h : m.Throughout rules P)
    {ts : List Token} {found : Option Node} (hg : m.Gives rules ts found) :
    ∃ rules' : Rules, rules'.All P ∧ m.Gives rules' ts found := by
  obtain ⟨rules', hall, hrun⟩ := h.run
  obtain ⟨fuel, hf⟩ := hg
  exact ⟨rules', hall, fuel, hrun fuel ▸ hf⟩

end TokenGrammar.Matcher
