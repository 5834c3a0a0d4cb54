import TokenGrammar.Proofs.Fuel
import TokenGrammar.Proofs.Links
import TokenGrammar.Proofs.Sealing

namespace TokenGrammar

namespace Matcher

mutual

/-- The slots that a matcher refers to without keeping their tables alive. -/
def references : Matcher → List Slot
  | .reference slot => [slot]
  | .sequence ms | .alternation ms => referencesAll ms
  | .optional m | .repetition _ m | .rule _ m => references m
  | .terminal _ | .handle _ | .custom _ => []

def referencesAll : List Matcher → List Slot
  | [] => []
  | m :: ms => references m ++ referencesAll ms

end

/-- The first matcher stands right inside the second. -/
inductive PartOf : Matcher → Matcher → Prop where
  | sequence {m ms} : m ∈ ms → PartOf m (.sequence ms)
  | alternation {m ms} : m ∈ ms → PartOf m (.alternation ms)
  | optional {m} : PartOf m (.optional m)
  | repetition {max m} : PartOf m (.repetition max m)
  | rule {name m} : PartOf m (.rule name m)

theorem mem_referencesAll {slot : Slot} {ms : List Matcher} :
    slot ∈ referencesAll ms ↔ ∃ m ∈ ms, slot ∈ m.references := by
  induction ms with
  | nil => simp [referencesAll]
  | cons m ms ih => simp [referencesAll, ih]

theorem mem_ownedAll {id : Nat} {ms : List Matcher} :
    id ∈ ownedAll ms ↔ ∃ m ∈ ms, id ∈ m.owned := by
  induction ms with
  | nil => simp [ownedAll]
  | cons m ms ih => simp [ownedAll, ih]

theorem PartOf.owned {m whole : Matcher} (h : m.PartOf whole) {id : Nat} (hid : id ∈ m.owned) :
    id ∈ whole.owned := by
  cases h with
  | sequence hm | alternation hm => exact mem_ownedAll.mpr ⟨m, hm, hid⟩
  | optional | repetition | rule => exact hid

/-- A link that is no reference is a handle, and keeps its table alive. -/
theorem references_or_owned {slot : Slot} {m : Matcher} (h : slot ∈ m.links) :
    slot ∈ m.references ∨ slot.table ∈ m.owned := by
  have all (ms : List Matcher) (h : slot ∈ linksAll ms)
      (ih : ∀ m ∈ ms, slot ∈ m.links → slot ∈ m.references ∨ slot.table ∈ m.owned) :
      slot ∈ referencesAll ms ∨ slot.table ∈ ownedAll ms := by
    obtain ⟨m, hm, hs⟩ := mem_linksAll.mp h
    rw [mem_referencesAll, mem_ownedAll]
    rcases ih m hm hs with href | howned
    · exact .inl ⟨m, hm, href⟩
    · exact .inr ⟨m, hm, howned⟩
  induction m using parts_induction with
  | terminal | custom => cases h
  | sequence ms ih | alternation ms ih => exact all ms h ih
  | optional m ih | repetition max m ih | rule name m ih => exact ih h
  | reference => exact .inl h
  | handle =>
    obtain rfl := List.mem_singleton.mp h
    exact .inr List.mem_cons_self

end Matcher

namespace Workspace

/-- References in the rules of a table lead into the table itself. -/
def Inward (w : Workspace) (id : Nat) : Prop :=
  ∀ rule m, (rule, some m) ∈ (w.table id).slots → ∀ slot ∈ m.references, slot.table = id

/-- That holds of a table and of all that its rules own, directly or by way of others. -/
def SelfContained (w : Workspace) (id : Nat) : Prop :=
  ∀ other, Relation.ReflTransGen w.Owns id other → w.Inward other

/-- Somebody has the matcher in hand: it is kept, a compiled grammar hands it out, it is what a rule
of a table in use is defined as, or it stands inside of such a matcher. -/
inductive InHand (w : Workspace) : Matcher → Prop where
  | kept {name m} : (name, m) ∈ w.matchers → InHand w m
  | handed {name rule m} : w.ruleMatcher name rule = .ok (some m) → InHand w m
  | defined {id rule m} : w.InUse id → (rule, some m) ∈ (w.table id).slots → InHand w m
  | part {m whole} : InHand w whole → m.PartOf whole → InHand w m

/-- Some time before, a compiled grammar of a self-contained table handed out the matcher. -/
def HandedOut (w : Workspace) (m : Matcher) : Prop :=
  ∃ before name rule g, empty.Becomes before ∧ before.Becomes w ∧
    before.compiled.lookup name = some g ∧ before.SelfContained g.table ∧
    before.ruleMatcher name rule = .ok (some m)

/-- The matcher is composed from matchers that were handed out. -/
inductive Composed (w : Workspace) : Matcher → Prop where
  | handedOut {m} : w.HandedOut m → Composed w m
  | terminal (spec : TerminalSpec) : Composed w (.terminal spec)
  | custom (f : List Token → Option Node) : Composed w (.custom f)
  | sequence {ms} : (∀ m ∈ ms, Composed w m) → Composed w (.sequence ms)
  | alternation {ms} : (∀ m ∈ ms, Composed w m) → Composed w (.alternation ms)
  | optional {m} : Composed w m → Composed w (.optional m)
  | repetition (max : Option Nat) {m} : Composed w m → Composed w (.repetition max m)
  | rule (name : String) {m} : Composed w m → Composed w (.rule name m)

variable {w v v' : Workspace} {id other : Nat} {m : Matcher}

theorem InHand.inUse (h : w.InHand m) : ∀ id ∈ m.owned, w.InUse id := by
  induction h with
  | kept hm => exact fun id hid => .kept hm hid
  | @handed name rule m hm =>
    unfold Workspace.ruleMatcher at hm
    split at hm
    · cases hm
    · rename_i g hg
      obtain ⟨_, _, rfl⟩ := Option.map_eq_some_iff.mp (Except.ok.inj hm)
      intro id hid
      obtain rfl := List.mem_singleton.mp hid
      exact .compiled (Named.mem_of_lookup hg)
  | defined huse hm => exact fun id hid => .owned huse ⟨_, _, hm, hid⟩
  | part _ hpart ih => exact fun id hid => ih id (hpart.owned hid)

theorem InUse.path (h : w.InUse id) (hpath : Relation.ReflTransGen w.Owns id other) :
    w.InUse other := by
  induction hpath with
  | refl => exact h
  | tail _ howns ih => exact .owned ih howns

section Sealed

theorem Sealed.path (hid : w.Sealed id) (hw : w.Orderly)
    (hpath : Relation.ReflTransGen w.Owns id other) : w.Sealed other := by
  cases hpath with
  | refl => exact hid
  | tail _ howns => exact hw.owns_sealed _ _ howns

/-- What a sealed table leads to is the same for ever. -/
theorem Sealed.path_iff (hid : w.Sealed id) (hw : w.Orderly) (h : w.Becomes v) :
    Relation.ReflTransGen v.Owns id other ↔ Relation.ReflTransGen w.Owns id other := by
  have same {owner next : Nat} (hpath : Relation.ReflTransGen w.Owns id owner) :
      v.Owns owner next ↔ w.Owns owner next :=
    owns_congr (h.sealed hw (hid.path hw hpath)).2
  constructor
  · intro hpath
    induction hpath with
    | refl => exact .refl
    | tail _ howns ih => exact ih.tail ((same ih).mp howns)
  · intro hpath
    induction hpath with
    | refl => exact .refl
    | tail hbefore howns ih => exact ih.tail ((same hbefore).mpr howns)

theorem SelfContained.later (hcontained : w.SelfContained id) (hid : w.Sealed id) (hw : w.Orderly)
    (h : w.Becomes v) : v.SelfContained id := by
  intro other hpath
  rw [hid.path_iff hw h] at hpath
  have htable := (h.sealed hw (hid.path hw hpath)).2
  rw [Inward, htable]
  exact hcontained other hpath

end Sealed

section Composed

theorem Composed.no_references (hm : w.Composed m) : ∀ slot, slot ∉ m.references := by
  intro slot
  induction hm with
  | @handedOut m hm =>
    obtain ⟨before, name, rule, g, _, _, hg, _, hrule⟩ := hm
    simp only [Workspace.ruleMatcher, hg, Except.ok.injEq] at hrule
    obtain ⟨_, _, rfl⟩ := Option.map_eq_some_iff.mp hrule
    exact List.not_mem_nil
  | terminal | custom => exact List.not_mem_nil
  | sequence _ ih | alternation _ ih =>
    intro hs
    obtain ⟨m, hm, hs⟩ := Matcher.mem_referencesAll.mp hs
    exact ih m hm hs
  | optional _ ih | repetition _ _ ih | rule _ _ ih => exact ih

theorem Composed.owned (hm : w.Composed m) : ∀ id ∈ m.owned, w.Sealed id ∧ w.SelfContained id := by
  induction hm with
  | @handedOut m hm =>
    obtain ⟨before, name, rule, g, hbefore, h, hg, hcontained, hrule⟩ := hm
    simp only [Workspace.ruleMatcher, hg, Except.ok.injEq] at hrule
    obtain ⟨_, _, rfl⟩ := Option.map_eq_some_iff.mp hrule
    have horderly := hbefore.orderly orderly_empty
    have hsealed := horderly.offers_sealed g.table (.inr ⟨_, Named.mem_of_lookup hg, rfl⟩)
    intro id hid
    obtain rfl := List.mem_singleton.mp hid
    exact ⟨(h.sealed horderly hsealed).1, hcontained.later hsealed horderly h⟩
  | terminal | custom => exact nofun
  | sequence _ ih | alternation _ ih =>
    intro id hid
    obtain ⟨m, hm, hid⟩ := Matcher.mem_ownedAll.mp hid
    exact ih m hm id hid
  | optional _ ih | repetition _ _ ih | rule _ _ ih => exact ih

/-- The tables that a matcher keeps alive, and those that these keep alive. -/
def Keeps (w : Workspace) (m : Matcher) (slot : Slot) : Prop :=
  ∃ id ∈ m.owned, Relation.ReflTransGen w.Owns id slot.table

/-- Wherever a composed matcher is in hand, all tables that it can come to are in use, and have the
rules that they had before. -/
theorem Composed.rules_eq (hm : w.Composed m) (hw : w.Orderly) (h : w.Becomes v)
    (hand : v.InHand m) {slot : Slot} (hslot : w.Keeps m slot) :
    v.rules slot = (w.table slot.table).find? slot.name := by
  obtain ⟨id, hid, hpath⟩ := hslot
  have hsealed := (hm.owned id hid).1
  have huse : v.InUse slot.table :=
    (hand.inUse id hid).path ((hsealed.path_iff hw h).mpr hpath)
  rw [rules_of_alive (isAlive_iff_inUse.mpr huse), (h.sealed hw (hsealed.path hw hpath)).2]

/-- No link leads out of what a composed matcher keeps alive. -/
theorem Composed.keeps_next (hm : w.Composed m) {slot next : Slot} {m' : Matcher}
    (hslot : w.Keeps m slot) (hm' : (w.table slot.table).find? slot.name = some m')
    (hnext : next ∈ m'.links) : w.Keeps m next := by
  obtain ⟨id, hid, hpath⟩ := hslot
  have hmem := RuleTable.mem_of_find hm'
  rcases Matcher.references_or_owned hnext with href | howned
  · rw [← (hm.owned id hid).2 _ hpath _ _ hmem next href] at hpath
    exact ⟨id, hid, hpath⟩
  · exact ⟨id, hid, hpath.tail ⟨_, _, hmem, howned⟩⟩

theorem Composed.keeps_link (hm : w.Composed m) {slot : Slot} (h : slot ∈ m.links) :
    w.Keeps m slot := by
  rcases Matcher.references_or_owned h with href | howned
  · exact absurd href (hm.no_references slot)
  · exact ⟨slot.table, howned, .refl⟩

/-- Take a matcher composed from matchers that compiled grammars handed out, each with references
into itself only, or else matchers handed out in the same way. Wherever it is in hand, whatever was
called before, it runs the same, events included. -/
theorem handed_out_stable (hw : empty.Becomes w) (hm : w.Composed m) (h : w.Becomes v)
    (h' : w.Becomes v') (hand : v.InHand m) (hand' : v'.InHand m) (ts : List Token) :
    v.run m ts = v'.run m ts := by
  have horderly := hw.orderly orderly_empty
  have agree : v.rules.AgreeOn v'.rules (w.Keeps m) := by
    refine ⟨?_, ?_⟩
    · intro slot hslot
      rw [hm.rules_eq horderly h hand hslot, hm.rules_eq horderly h' hand' hslot]
    · intro slot m' hslot hrule next hnext
      rw [hm.rules_eq horderly h hand hslot] at hrule
      exact hm.keeps_next hslot hrule hnext
  apply run_eq_of_fuel
  intro fuel
  rw [Matcher.run_congr agree (fun slot => hm.keeps_link) fuel]

end Composed

end Workspace

section Lists

open Workspace

/-- The matcher for lists is handed out, and something is composed from it. -/
def listsHandedOut : Workspace :=
  listsCompiled.performAll [.make "list" (.ruleMatcher "lists" "list"),
    .make "lists" (.repetition none "list")]

/-- The grammar is gone, and one of the same name has a rule of the same name. -/
def listsReplaced : Workspace :=
  listsHandedOut.performAll [.drop "lists", .forget "list", .new "lists" {},
    .define "lists" "list" "("]

theorem listsCompiled_selfContained : listsCompiled.SelfContained 0 := by
  have hinward : ((listsCompiled.table 0).slots.all fun slot =>
      slot.2.all fun m => m.references.all fun next => next.table == 0) = true := rfl
  simp only [List.all_eq_true, Option.all_eq_true, beq_iff_eq] at hinward
  have hlast (id : Nat) : ¬ listsCompiled.Owns 0 id := by
    rw [owns_iff]
    exact List.not_mem_nil
  intro other hpath
  rcases hpath.cases_head with rfl | ⟨next, howns, _⟩
  · intro rule m hm
    exact hinward _ hm m rfl
  · exact absurd howns (hlast next)

theorem handed_out_stable_on_lists :
    listsReplaced.compiled = [] ∧ (listsReplaced.table 1).find? "list" ≠ none ∧
    ∀ ts, listsHandedOut.run (.repetition none (.handle ⟨0, "list"⟩)) ts =
      listsReplaced.run (.repetition none (.handle ⟨0, "list"⟩)) ts := by
  refine ⟨rfl, nofun, ?_⟩
  have hlater : listsCompiled.Becomes listsHandedOut := ⟨_, rfl⟩
  have hreplaced : listsHandedOut.Becomes listsReplaced := ⟨_, rfl⟩
  have hcomposed : listsHandedOut.Composed (.repetition none (.handle ⟨0, "list"⟩)) :=
    .repetition none (.handedOut ⟨listsCompiled, "lists", "list", ⟨0, "list", {}⟩,
      becomes_listsCompiled, hlater, rfl, listsCompiled_selfContained, rfl⟩)
  have hkept : listsHandedOut.matchers.lookup "lists" =
      some (.repetition none (.handle ⟨0, "list"⟩)) := rfl
  have hkept' : listsReplaced.matchers.lookup "lists" =
      some (.repetition none (.handle ⟨0, "list"⟩)) := rfl
  exact handed_out_stable (becomes_listsCompiled.trans hlater) hcomposed (.refl _) hreplaced
    (.kept (Named.mem_of_lookup hkept)) (.kept (Named.mem_of_lookup hkept'))

end Lists

end TokenGrammar
