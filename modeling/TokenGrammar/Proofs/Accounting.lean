import TokenGrammar.Proofs.Answers
import TokenGrammar.Proofs.Derivations
import TokenGrammar.Proofs.Links

namespace TokenGrammar

open Matcher

/-- The value of the token that a terminal reports as matched. -/
def Event.matched? : Event → Option String
  | .terminalMatched _ value => some value
  | _ => none

/-- The log reports these tokens, and reports no others unless it tells of a sequence that failed. A
terminal reports its token as soon as it matches, and nobody takes that back when the attempt that
it belongs to comes to nothing. -/
structure Accounts (log : List Event) (kept : List Token) : Prop where
  sublist : (kept.map Token.value).Sublist (log.filterMap Event.matched?)
  whole : (∀ index, .sequenceFailed index ∉ log) →
    log.filterMap Event.matched? = kept.map Token.value

namespace Accounts

variable {log log' : List Event} {kept kept' : List Token}

theorem nil : Accounts [] [] := ⟨.slnil, fun _ => rfl⟩

theorem quiet {e : Event} (h : e.matched? = none) : Accounts [e] [] := by
  have hnone : [e].filterMap Event.matched? = [] := by simp [h]
  exact ⟨List.nil_sublist _, fun _ => hnone⟩

theorem append (h : Accounts log kept) (h' : Accounts log' kept') :
    Accounts (log ++ log') (kept ++ kept') where
  sublist := by
    rw [List.map_append, List.filterMap_append]
    exact h.sublist.append h'.sublist
  whole hno := by
    have hleft (index : Nat) : .sequenceFailed index ∉ log :=
      fun hmem => hno index (List.mem_append_left _ hmem)
    have hright (index : Nat) : .sequenceFailed index ∉ log' :=
      fun hmem => hno index (List.mem_append_right _ hmem)
    rw [List.map_append, List.filterMap_append, h.whole hleft, h'.whole hright]

/-- Where a sequence failed, nothing need be kept. -/
theorem of_failed {index : Nat} (h : .sequenceFailed index ∈ log) : Accounts log [] :=
  ⟨List.nil_sublist _, fun hno => absurd h (hno index)⟩

end Accounts

namespace Recognizer

/-- Whenever the recognizer comes to an end, the log accounts for what it found. -/
def Accounted (r : Recognizer) : Prop :=
  ∀ ts found log, r ts = some (found, log) → Accounts log (Node.terminalsAll found.toList)

variable {r : Recognizer} {rs : List Recognizer}

theorem terminal_accounted (spec : TerminalSpec) : (terminal spec).Accounted := by
  intro ts found log h
  cases ts with
  | nil =>
    cases h
    exact .nil
  | cons t ts =>
    simp only [terminal] at h
    split at h
    · cases h
      exact ⟨.refl _, fun _ => rfl⟩
    · cases h
      exact .nil

/-- A sequence that fails says so, so that it need not account for the parts that matched. -/
theorem sequenceFrom_accounted (h : ∀ r ∈ rs, r.Accounted) {index : Nat} {ts : List Token}
    {found : Option (List Node)} {log : List Event}
    (hrun : sequenceFrom index rs ts = some (found, log)) :
    (found = none → ∃ index, .sequenceFailed index ∈ log) ∧
      Accounts log (Node.terminalsAll (found.getD [])) := by
  induction rs generalizing index ts found log with
  | nil =>
    cases hrun
    exact ⟨nofun, .nil⟩
  | cons r rs ih =>
    obtain ⟨first, before, after, hr, hrest, rfl⟩ := Run.bind_eq_some_iff.mp hrun
    have hfirst := h r List.mem_cons_self _ _ _ hr
    cases first with
    | none =>
      cases hrest
      have hfailed : .sequenceFailed index ∈ before ++ [.sequenceFailed index] :=
        List.mem_append_right _ List.mem_cons_self
      exact ⟨fun _ => ⟨index, hfailed⟩, .of_failed hfailed⟩
    | some node =>
      obtain ⟨nodes, hnodes, rfl⟩ := Run.map_eq_some_iff.mp hrest
      obtain ⟨hnone, haccounts⟩ := ih (fun r hr => h r (List.mem_cons_of_mem _ hr)) hnodes
      cases nodes with
      | none =>
        obtain ⟨failed, hfailed⟩ := hnone rfl
        have hfailed := List.mem_append_right before hfailed
        exact ⟨fun _ => ⟨failed, hfailed⟩, .of_failed hfailed⟩
      | some nodes =>
        refine ⟨nofun, ?_⟩
        simpa [Node.terminalsAll] using hfirst.append haccounts

theorem sequence_accounted (h : ∀ r ∈ rs, r.Accounted) : (sequence rs).Accounted := by
  intro ts found log hrun
  obtain ⟨nodes, hnodes, rfl⟩ := Run.map_eq_some_iff.mp hrun
  have haccounts := (sequenceFrom_accounted h hnodes).2
  cases nodes with
  | none => exact haccounts
  | some nodes => simpa [Node.terminalsAll, Node.terminals_group] using haccounts

/-- An alternative that found nothing left nothing to account for, or told of a sequence. -/
theorem firstFrom_accounted (h : ∀ r ∈ rs, r.Accounted) {index : Nat} {ts : List Token}
    {found : Option (Nat × Node)} {log : List Event}
    (hrun : firstFrom index rs ts = some (found, log)) :
    Accounts log (Node.terminalsAll (found.map Prod.snd).toList) := by
  induction rs generalizing index log with
  | nil =>
    cases hrun
    exact .nil
  | cons r rs ih =>
    obtain ⟨first, before, after, hr, hrest, rfl⟩ := Run.bind_eq_some_iff.mp hrun
    have hfirst := h r List.mem_cons_self _ _ _ hr
    cases first with
    | none => exact hfirst.append (ih (fun r hr => h r (List.mem_cons_of_mem _ hr)) hrest)
    | some node =>
      cases hrest
      simpa using hfirst

theorem alternation_accounted (h : ∀ r ∈ rs, r.Accounted) : (alternation rs).Accounted := by
  intro ts found log hrun
  obtain ⟨first, before, after, hfirst, hrest, rfl⟩ := Run.bind_eq_some_iff.mp hrun
  have haccounts := firstFrom_accounted h hfirst
  cases first with
  | none =>
    cases hrest
    exact haccounts.append (.quiet rfl)
  | some p =>
    obtain ⟨index, node⟩ := p
    cases hrest
    simpa using haccounts.append (.quiet (e := .alternativeChosen index) rfl)

theorem optional_accounted (h : r.Accounted) : (optional r).Accounted := by
  intro ts found log hrun
  obtain ⟨inner, hinner, rfl⟩ := Run.map_eq_some_iff.mp hrun
  simpa [Node.terminalsAll, Node.terminals_group] using h _ _ _ hinner

theorem rule_accounted (h : r.Accounted) (name : String) : (rule name r).Accounted := by
  intro ts found log hrun
  obtain ⟨inner, hinner, rfl⟩ := Run.map_eq_some_iff.mp hrun
  have haccounts := h _ _ _ hinner
  cases inner with
  | none => exact haccounts
  | some node =>
    simpa [Node.terminalsAll, Node.production, Node.terminals,
      Node.terminalsAll_flatMap_spliced] using haccounts

/-- The match that ends an iteration for want of a token has none to account for. -/
theorem iterate_accounted (h : r.Accounted) {max : Option Nat} {fuel count : Nat} {ts : List Token}
    {nodes : List Node} {log : List Event}
    (hrun : iterate max r fuel count ts = some (nodes, log)) :
    Accounts log (Node.terminalsAll nodes) := by
  induction fuel generalizing count ts nodes log with
  | zero =>
    simp only [iterate] at hrun
    split at hrun
    · cases hrun
    · cases hrun
      exact .quiet rfl
  | succ fuel ih =>
    simp only [iterate] at hrun
    split at hrun
    · obtain ⟨found, before, after, hr, hrest, rfl⟩ := Run.bind_eq_some_iff.mp hrun
      have hfound := h _ _ _ hr
      cases found with
      | none =>
        cases hrest
        exact hfound.append (.quiet rfl)
      | some node =>
        dsimp only at hrest
        split at hrest
        · rename_i hz
          cases hrest
          have hnone : node.terminals = [] := by
            rw [← List.length_eq_zero_iff, Node.length_terminals]
            simpa [Node.isEmpty] using hz
          have hends : Accounts [.zeroWidth count, .repeated count] [] :=
            (Accounts.quiet rfl).append (.quiet (e := .repeated count) rfl)
          simpa [Node.terminalsAll, hnone] using hfound.append hends
        · obtain ⟨rest, hnodes, rfl⟩ := Run.map_eq_some_iff.mp hrest
          simpa [Node.terminalsAll] using hfound.append (ih hnodes)
    · cases hrun
      exact .quiet rfl

theorem repetition_accounted (h : r.Accounted) (max : Option Nat) :
    (repetition max r).Accounted := by
  intro ts found log hrun
  obtain ⟨group, hgroup, rfl⟩ := Run.map_eq_some_iff.mp hrun
  obtain ⟨nodes, hnodes, rfl⟩ := Run.map_eq_some_iff.mp hgroup
  simpa [Node.terminalsAll, Node.terminals_group] using iterate_accounted h hnodes

end Recognizer

namespace Matcher

variable {rules : Rules} {m : Matcher}

theorem denote_accounted {link : Slot → Recognizer} (h : ∀ slot, (link slot).Accounted)
    (own : m.Plain) : (m.denote link).Accounted := by
  have all (ms : List Matcher) (own : (Matcher.sequence ms).Plain)
      (ih : ∀ m ∈ ms, m.Plain → (m.denote link).Accounted) :
      ∀ r ∈ denoteAll link ms, r.Accounted := by
    induction ms with
    | nil => exact nofun
    | cons m ms ihs =>
      obtain ⟨hm, hms⟩ := plain_sequence_cons.mp own
      intro r hr
      rcases List.mem_cons.mp hr with rfl | hr
      · exact ih m List.mem_cons_self hm
      · exact ihs hms (fun m hm => ih m (List.mem_cons_of_mem _ hm)) r hr
  induction m using parts_induction with
  | terminal spec => exact Recognizer.terminal_accounted spec
  | sequence ms ih => exact Recognizer.sequence_accounted (all ms own ih)
  | alternation ms ih => exact Recognizer.alternation_accounted (all ms own ih)
  | optional m ih => exact Recognizer.optional_accounted (ih own)
  | repetition max m ih => exact Recognizer.repetition_accounted (ih own) max
  | rule name m ih => exact Recognizer.rule_accounted (ih own) name
  | reference slot => exact h slot
  | handle slot => exact h slot
  | custom f => simp [Plain, customs] at own

theorem follow_accounted (others : rules.All Plain) (fuel : Nat) (slot : Slot) :
    (follow rules fuel slot).Accounted := by
  induction fuel generalizing slot with
  | zero => exact nofun
  | succ fuel ih =>
    intro ts found log hrun
    simp only [follow] at hrun
    split at hrun
    · cases hrun
      exact .nil
    · rename_i m hr
      exact denote_accounted ih (others slot m hr) ts found log hrun

/-- Whatever a matcher comes to, with all that was tried on the way and given up: the tokens of its
node are among those that terminals reported, in the order of the reports. If no sequence failed,
these are all that were reported, and no token was if nothing is found. -/
theorem log_accounts {fuel : Nat} {ts : List Token} {found : Option Node} {log : List Event}
    (h : m.Throughout rules Plain) (hrun : m.run rules fuel ts = some (found, log)) :
    (∀ node ∈ found,
      (node.terminals.map Token.value).Sublist (log.filterMap Event.matched?)) ∧
    ((∀ index, .sequenceFailed index ∉ log) →
      (∀ node ∈ found, node.terminals.map Token.value = log.filterMap Event.matched?) ∧
      (found = none → log.filterMap Event.matched? = [])) := by
  obtain ⟨rules', others, hsame⟩ := h.run
  rw [hsame] at hrun
  have haccounts := denote_accounted (follow_accounted others fuel) h.1 ts found log hrun
  refine ⟨?_, ?_⟩
  · rintro node rfl
    simpa [Node.terminalsAll] using haccounts.sublist
  · intro hno
    have hwhole := haccounts.whole hno
    refine ⟨?_, ?_⟩
    · rintro node rfl
      simpa [Node.terminalsAll] using hwhole.symm
    · rintro rfl
      exact hwhole

end Matcher

section Lists

theorem listWorkspace_rules_plain : (listWorkspace wordTerminal).rules.All Plain := by
  refine Workspace.rules_all ?_
  intro t ht
  obtain rfl := List.mem_singleton.mp ht
  exact listTable_plain wordTerminal_plain

/-- An item with a mark behind it, or an item. -/
def markedItem : Matcher :=
  .alternation [.sequence [.reference ⟨0, "item"⟩, .terminal (.literal "!")],
    .reference ⟨0, "item"⟩]

/-- The word is reported by the sequence, which fails for want of a mark, and then once more. -/
theorem log_accounts_on_list : ∃ log,
    markedItem.run (listWorkspace wordTerminal).rules 3 [⟨"word", "a"⟩] =
      some (some (.named "item" [.terminal ⟨"word", "a"⟩]), log) ∧
    log.filterMap Event.matched? = ["a", "a"] ∧
    ["a"].Sublist (log.filterMap Event.matched?) := by
  have hplain : markedItem.Throughout (listWorkspace wordTerminal).rules Plain :=
    throughout_of_all rfl listWorkspace_rules_plain
  have hrun : markedItem.run (listWorkspace wordTerminal).rules 3 [⟨"word", "a"⟩] =
      some (some (.named "item" [.terminal ⟨"word", "a"⟩]), _) := rfl
  exact ⟨_, hrun, rfl, (log_accounts hplain hrun).1 _ rfl⟩

end Lists

end TokenGrammar
