import TokenGrammar.Proofs.Consumption
import TokenGrammar.Proofs.Fuel
import TokenGrammar.Proofs.LeftEnds
import TokenGrammar.Proofs.Links

namespace TokenGrammar

open Matcher

section Ends

variable {rules : Rules} {m : Matcher} {ms : List Matcher} {ts : List Token}

theorem Matches.ends {found : Option Node} (h : Matches rules m ts found) : m.Ends rules ts :=
  ⟨found, gives_of_matches h⟩

theorem Matcher.Ends.matches (h : m.Ends rules ts) : ∃ found, Matches rules m ts found :=
  h.imp (fun _ => matches_of_gives)

theorem ends_terminal (spec : TerminalSpec) (ts : List Token) :
    (Matcher.terminal spec).Ends rules ts := by
  cases ts with
  | nil => exact Matches.ends .terminalEnd
  | cons t ts =>
    cases ha : spec.accepts t with
    | false => exact Matches.ends (.terminalMiss ha)
    | true => exact Matches.ends (.terminalHit ha)

theorem Matcher.Ends.sequence_cons (h : m.Ends rules ts)
    (hs : ∀ node, Matches rules m ts (some node) →
      (Matcher.sequence ms).Ends rules (node.restOf ts)) :
    (Matcher.sequence (m :: ms)).Ends rules ts := by
  obtain ⟨found, hm⟩ := h.matches
  cases found with
  | none => exact Matches.ends (.sequenceMiss hm)
  | some node =>
    obtain ⟨rest, hms⟩ := (hs node hm).matches
    cases rest with
    | none => exact Matches.ends (.sequenceBreak hm hms)
    | some tail => exact Matches.ends (.sequenceCons hm hms)

theorem Matcher.Ends.alternation_cons (h : m.Ends rules ts)
    (hs : (Matcher.alternation ms).Ends rules ts) :
    (Matcher.alternation (m :: ms)).Ends rules ts := by
  obtain ⟨found, hm⟩ := h.matches
  cases found with
  | none =>
    obtain ⟨rest, hms⟩ := hs.matches
    exact Matches.ends (.alternationMiss hm hms)
  | some node => exact Matches.ends (.alternationHit hm)

theorem Matcher.Ends.optional (h : m.Ends rules ts) : (Matcher.optional m).Ends rules ts := by
  obtain ⟨found, hm⟩ := h.matches
  cases found with
  | none => exact Matches.ends (.optionalMiss hm)
  | some node => exact Matches.ends (.optionalHit hm)

theorem Matcher.Ends.rule (h : m.Ends rules ts) (name : String) :
    (Matcher.rule name m).Ends rules ts := by
  obtain ⟨found, hm⟩ := h.matches
  cases found with
  | none => exact Matches.ends (.ruleMiss hm)
  | some node => exact Matches.ends (.ruleHit hm)

theorem Matches.repetition_isSome {max : Option Nat} {found : Option Node}
    (h : Matches rules (.repetition max m) ts found) : ∃ node, found = some node := by
  cases h <;> exact ⟨_, rfl⟩

/-- A repetition only goes on behind an iteration that took a token. -/
theorem Matcher.Ends.repetition (h : m.Ends rules ts) (max : Option Nat)
    (hs : ∀ node, Matches rules m ts (some node) → node.len ≠ 0 →
      (Matcher.repetition (max.map (· - 1)) m).Ends rules (node.restOf ts)) :
    (Matcher.repetition max m).Ends rules ts := by
  obtain ⟨found, hm⟩ := h.matches
  by_cases hts : ts = []
  · subst hts
    exact Matches.ends .repetitionEnd
  by_cases hmax : max = some 0
  · subst hmax
    exact Matches.ends .repetitionFull
  cases found with
  | none => exact Matches.ends (.repetitionMiss hm)
  | some node =>
    by_cases hz : node.len = 0
    · exact Matches.ends (.repetitionStill hm hz)
    · obtain ⟨rest, hms⟩ := (hs node hm hz).matches
      obtain ⟨tail, rfl⟩ := hms.repetition_isSome
      exact Matches.ends (.repetitionCons hmax hts hm hz hms)

theorem ends_reference {slot : Slot} (h : ∀ m, rules slot = some m → m.Ends rules ts) :
    (Matcher.reference slot).Ends rules ts := by
  cases hr : rules slot with
  | none => exact Matches.ends (.referenceDead hr)
  | some m =>
    obtain ⟨found, hm⟩ := (h m hr).matches
    exact Matches.ends (.reference hr hm)

theorem Matcher.Plain.honest (h : m.Plain) : m.Honest := by
  intro f hf
  rw [h] at hf
  cases hf

/-- What a node that took a token leaves is shorter. -/
theorem Matches.length_restOf_lt {node : Node} (h : Matches rules m ts (some node))
    (own : m.Plain) (others : rules.All Matcher.Plain) (hz : node.len ≠ 0) :
    (node.restOf ts).length < ts.length := by
  have hfront := h.front own.honest (fun slot m hr => (others slot m hr).honest) node rfl
  have hle := (Node.frontOf_iff.mpr hfront).len_le
  simp only [Node.restOf, List.length_drop]
  omega

/-- Matching comes to an end on `ts` if it does so on everything shorter, and on `ts` itself behind
every link at the left end of the matcher. -/
theorem ends_of_left_links (others : rules.All Matcher.Plain)
    (shorter : ∀ ts' : List Token, ts'.length < ts.length →
      ∀ m : Matcher, m.Plain → m.Ends rules ts')
    (own : m.Plain) (links : ∀ slot, LeftRefers rules slot m → (reference slot).Ends rules ts) :
    m.Ends rules ts := by
  induction m using parts_induction with
  | terminal spec => exact ends_terminal spec ts
  | sequence ms ih =>
    induction ms with
    | nil => exact Matches.ends .sequenceNil
    | cons m ms ihs =>
      obtain ⟨hm, hms⟩ := plain_sequence_cons.mp own
      have hhead := ih m List.mem_cons_self hm (fun slot h => links slot (.sequenceHead h))
      refine hhead.sequence_cons ?_
      intro node hnode
      by_cases hz : node.len = 0
      · have hnull := hnode.nullable hm others node rfl hz
        rw [Node.restOf, hz, List.drop_zero]
        exact ihs (fun m' hm' => ih m' (List.mem_cons_of_mem _ hm')) hms
          (fun slot h => links slot (.sequenceTail hnull h))
      · exact shorter _ (hnode.length_restOf_lt hm others hz) _ hms
  | alternation ms ih =>
    induction ms with
    | nil => exact Matches.ends .alternationNil
    | cons m ms ihs =>
      obtain ⟨hm, hms⟩ := plain_alternation_cons.mp own
      have hhead := ih m List.mem_cons_self hm
        (fun slot h => links slot (.alternation List.mem_cons_self h))
      have htail := ihs (fun m' hm' => ih m' (List.mem_cons_of_mem _ hm')) hms
        (fun slot h => links slot h.alternation_cons)
      exact hhead.alternation_cons htail
  | optional m ih => exact (ih own (fun slot h => links slot (.optional h))).optional
  | repetition max m ih =>
    refine (ih own (fun slot h => links slot (.repetition h))).repetition max ?_
    intro node hnode hz
    exact shorter _ (hnode.length_restOf_lt own others hz) _ own
  | rule name m ih => exact (ih own (fun slot h => links slot (.rule h))).rule name
  | reference slot => exact links slot .reference
  | handle slot => exact links slot .handle
  | custom f => simp [Plain, customs] at own

/-- Where no rule reaches itself at its left end, every match comes to an end. The induction is on
the number of tokens, and for one token list on the way to the left. -/
theorem ends_of_acyclic {slots : Finset Slot}
    (hslots : ∀ slot m, rules slot = some m → slot ∈ slots) (others : rules.All Matcher.Plain)
    (acyclic : LeftAcyclic rules) (own : m.Plain) (ts : List Token) : m.Ends rules ts := by
  generalize hn : ts.length = n
  induction n using Nat.strongRecOn generalizing m ts with
  | ind n ih =>
    subst hn
    have shorter (ts' : List Token) (hlt : ts'.length < ts.length) (m : Matcher)
        (own : m.Plain) : m.Ends rules ts' := ih _ hlt own ts' rfl
    have slotEnds (slot : Slot) : (reference slot).Ends rules ts := by
      induction slot using (acyclic.wellFounded hslots).induction with
      | _ slot behind =>
        refine ends_reference ?_
        intro m hr
        exact ends_of_left_links others shorter (others slot m hr)
          (fun next h => behind next ⟨m, hr, h⟩)
    exact ends_of_left_links others shorter own (fun slot _ => slotEnds slot)

end Ends

namespace RuleTable

/-- The rules of table `id` bring no functions with them and refer to rules of the same table. -/
structure Closed (t : RuleTable) (id : Nat) : Prop where
  plain : ∀ name m, t.find? name = some m → m.Plain
  links : ∀ name m, t.find? name = some m → ∀ slot ∈ m.links, slot.table = id

variable {t : RuleTable} {id : Nat}

theorem Closed.all_plain (h : t.Closed id) : (t.rulesAs id).All Matcher.Plain :=
  fun _ m hr => h.plain _ m (find_of_rulesAs hr).2

/-- In a closed table without a cycle at the left ends, every rule comes to an end. -/
theorem Closed.ends (h : t.Closed id) (acyclic : LeftAcyclic (t.rulesAs id)) (name : String)
    (ts : List Token) : (Matcher.handle ⟨id, name⟩).Ends (t.rulesAs id) ts := by
  have hslots : ∀ slot m, t.rulesAs id slot = some m → slot ∈ (t.slotsAs id).toFinset :=
    fun slot m hr => List.mem_toFinset.mpr (mem_slotsAs hr)
  have own : (Matcher.handle ⟨id, name⟩).Plain := rfl
  exact ends_of_acyclic hslots h.all_plain acyclic own ts

end RuleTable

namespace Workspace

variable {w : Workspace} {name : String} {g : CompiledGrammar}

/-- What else a workspace holds makes no difference to a closed table in use. -/
theorem agreeOn_table {id : Nat} (hroot : id ∈ w.roots) (closed : (w.table id).Closed id) :
    w.rules.AgreeOn ((w.table id).rulesAs id) (fun slot => slot.table = id) where
  same slot hs := by rw [rules_of_root hroot hs, RuleTable.rulesAs_of_eq hs]
  closed slot m hs hr := closed.links slot.name m ((rules_of_root hroot hs).symm.trans hr)

theorem handle_run_ends (hc : w.compiled.lookup name = some g)
    (closed : (w.table g.table).Closed g.table)
    (acyclic : LeftAcyclic ((w.table g.table).rulesAs g.table)) (rule : String)
    (ts : List Token) : ∃ found, (w.run (.handle ⟨g.table, rule⟩) ts).answer? = some found := by
  obtain ⟨found, hf⟩ := closed.ends acyclic rule ts
  have hagree := agreeOn_table (root_of_compiled hc) closed
  refine ⟨found, (w.run_iff_gives _ ts found).mpr ?_⟩
  exact (gives_congr hagree (by simp [links]) ts found).mpr hf

theorem start_run_ends (hc : w.compiled.lookup name = some g)
    (closed : (w.table g.table).Closed g.table)
    (acyclic : LeftAcyclic ((w.table g.table).rulesAs g.table)) (ts : List Token) :
    ∃ run found, w.matchStart name ts = .ok run ∧ run.answer? = some found := by
  obtain ⟨found, hf⟩ := handle_run_ends hc closed acyclic g.start ts
  exact ⟨_, found, by simp only [matchStart, hc], hf⟩

/-- In a compiled grammar whose rules refer to each other only, and none of which reaches itself at
its left end, matching from any rule comes to an end on every token list. -/
theorem rule_run_ends (hc : w.compiled.lookup name = some g)
    (closed : (w.table g.table).Closed g.table)
    (acyclic : LeftAcyclic ((w.table g.table).rulesAs g.table)) {rule : String} {m : Matcher}
    (hm : w.ruleMatcher name rule = .ok (some m)) (ts : List Token) :
    ∃ found, (w.run m ts).answer? = some found := by
  simp only [ruleMatcher, hc, Except.ok.injEq] at hm
  obtain ⟨_, _, rfl⟩ := Option.map_eq_some_iff.mp hm
  exact handle_run_ends hc closed acyclic rule ts

end Workspace

section Lists

theorem listTable_closed : (listTable wordTerminal).Closed 0 where
  plain name m h := listTable_plain wordTerminal_plain name m (RuleTable.mem_of_find h)
  links name m h := by
    rcases mem_listTable_slots (RuleTable.mem_of_find h) with ⟨_, rfl⟩ | ⟨_, rfl⟩ <;>
      simp [links, linksAll, wordTerminal]

/-- An item may begin with a list; a list begins with a token. -/
theorem listTable_leftAcyclic : LeftAcyclic ((listTable wordTerminal).rulesAs 0) := by
  refine .of_rank (fun slot => if slot.name = "item" then 1 else 0) ?_
  rintro a b ⟨m, hr, hm⟩
  obtain ⟨_, hf⟩ := RuleTable.find_of_rulesAs hr
  rcases mem_listTable_slots (RuleTable.mem_of_find hf) with ⟨ha, rfl⟩ | ⟨ha, rfl⟩
  · cases hm with
    | rule hm =>
      cases hm with
      | alternation hmem hm =>
        simp only [List.mem_cons, List.not_mem_nil, or_false] at hmem
        rcases hmem with rfl | rfl
        · cases hm
          simp [ha]
        · cases hm
  · cases hm with
    | rule hm =>
      cases hm with
      | sequenceHead hm => cases hm
      | sequenceTail hn _ => cases hn

theorem rule_run_ends_on_list :
    ∃ found, ((listWorkspace wordTerminal).run (.handle ⟨0, "list"⟩) listTokens).answer? =
      some found := by
  have hc : (listWorkspace wordTerminal).compiled.lookup "lists" =
      some ⟨0, "list", {}⟩ := rfl
  have hm : (listWorkspace wordTerminal).ruleMatcher "lists" "list" =
      .ok (some (.handle ⟨0, "list"⟩)) := rfl
  exact Workspace.rule_run_ends hc listTable_closed listTable_leftAcyclic hm listTokens

end Lists

end TokenGrammar
