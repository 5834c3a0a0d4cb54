import TokenGrammar.Proofs.Fuel
import TokenGrammar.Proofs.History
import TokenGrammar.Proofs.Ownership
import TokenGrammar.Proofs.Variants

namespace TokenGrammar

section Outcomes

variable {ε α β α' β' : Type} {R : α → β → Prop} {R' : α' → β' → Prop}

/-- Two results are the same failure, or successes with related values. -/
inductive SameOutcome (R : α → β → Prop) : Except ε α → Except ε β → Prop where
  | error {e} : SameOutcome R (.error e) (.error e)
  | ok {a b} : R a b → SameOutcome R (.ok a) (.ok b)

theorem SameOutcome.bind {x : Except ε α} {y : Except ε β} {f : α → Except ε α'}
    {g : β → Except ε β'} (h : SameOutcome R x y)
    (hf : ∀ a b, R a b → SameOutcome R' (f a) (g b)) :
    SameOutcome R' (x >>= f) (y >>= g) := by
  cases h with
  | error => exact .error
  | ok hab => exact hf _ _ hab

theorem SameOutcome.mapM {f : α' → Except ε α} {g : α' → Except ε β}
    (h : ∀ a, SameOutcome R (f a) (g a)) (as : List α') :
    SameOutcome (List.Forall₂ R) (as.mapM f) (as.mapM g) := by
  induction as with
  | nil => exact .ok .nil
  | cons a as ih =>
    simp only [List.mapM_cons]
    exact (h a).bind (fun _ _ hab => ih.bind (fun _ _ hs => .ok (.cons hab hs)))

/-- Values under the same names, in the same order. -/
def Named.Rel (R : α → β → Prop) : Named α → Named β → Prop :=
  List.Forall₂ (fun x y => x.1 = y.1 ∧ R x.2 y.2)

namespace Named.Rel

variable {xs : Named α} {ys : Named β}

theorem lookup (h : Named.Rel R xs ys) (name : String) :
    Option.Rel R (xs.lookup name) (ys.lookup name) := by
  induction h with
  | nil => exact .none
  | @cons x y xs ys hxy _ ih =>
    obtain ⟨n, a⟩ := x
    obtain ⟨n', b⟩ := y
    obtain ⟨rfl, hab⟩ : n = n' ∧ R a b := hxy
    simp only [List.lookup_cons]
    cases name == n with
    | true => exact .some hab
    | false => exact ih

theorem lookup_cases (h : Named.Rel R xs ys) (name : String) :
    (xs.lookup name = none ∧ ys.lookup name = none) ∨
      ∃ a b, xs.lookup name = some a ∧ ys.lookup name = some b ∧ R a b := by
  have hl := h.lookup name
  generalize xs.lookup name = old, ys.lookup name = new at hl
  cases hl with
  | none => exact .inl ⟨rfl, rfl⟩
  | some hab => exact .inr ⟨_, _, rfl, rfl, hab⟩

theorem names (h : Named.Rel R xs ys) : xs.map (·.1) = ys.map (·.1) := by
  induction h with
  | nil => rfl
  | cons hxy _ ih => rw [List.map_cons, List.map_cons, hxy.1, ih]

theorem map_eq {γ : Type} (h : Named.Rel R xs ys) {f : α → γ} {g : β → γ}
    (hfg : ∀ a b, R a b → f a = g b) : xs.map (fun x => f x.2) = ys.map (fun y => g y.2) := by
  induction h with
  | nil => rfl
  | cons hxy _ ih => rw [List.map_cons, List.map_cons, hfg _ _ hxy.2, ih]

theorem mem_flatMap (h : Named.Rel R xs ys) {f : String × α → List Nat} {g : String × β → List Nat}
    {id : Nat} (hfg : ∀ x y, R x.2 y.2 → (id ∈ f x ↔ id ∈ g y)) :
    id ∈ xs.flatMap f ↔ id ∈ ys.flatMap g := by
  induction h with
  | nil => exact Iff.rfl
  | cons hxy _ ih =>
    simp only [List.flatMap_cons, List.mem_append, hfg _ _ hxy.2, ih]

theorem erase (h : Named.Rel R xs ys) (name : String) :
    Named.Rel R (xs.erase name) (ys.erase name) := by
  refine List.rel_filter ?_ h
  intro x y hxy
  change decide _ = true ↔ decide _ = true
  rw [hxy.1]

theorem put (h : Named.Rel R xs ys) (name : String) {a : α} {b : β} (hab : R a b) :
    Named.Rel R (xs.put name a) (ys.put name b) :=
  .cons ⟨rfl, hab⟩ (h.erase name)

end Named.Rel

end Outcomes

theorem isSome_eq_of_rel {α β : Type} {R : α → β → Prop} {old : Option α} {new : Option β}
    (h : Option.Rel R old new) : old.isSome = new.isSome := by
  cases h <;> rfl

section Matched

variable {R : Matcher → Matcher → Prop}

/-- Tables with the same names, which are defined as related matchers or not at all. -/
def RuleTable.Rel (R : Matcher → Matcher → Prop) (t t' : RuleTable) : Prop :=
  Named.Rel (Option.Rel R) t.slots t'.slots

theorem RuleTable.Rel.find {t t' : RuleTable} (h : t.Rel R t') (name : String) :
    Option.Rel R (t.find? name) (t'.find? name) := by
  have hl := Named.Rel.lookup h name
  unfold find?
  generalize t.slots.lookup name = old, t'.slots.lookup name = new at hl
  cases hl with
  | none => exact .none
  | some hr => exact hr

theorem RuleTable.Rel.mem_owned {t t' : RuleTable} (h : t.Rel R t')
    (hR : ∀ m m', R m m' → ∀ id, id ∈ m.owned ↔ id ∈ m'.owned) (id : Nat) :
    id ∈ t.owned ↔ id ∈ t'.owned := by
  refine Named.Rel.mem_flatMap h ?_
  rintro ⟨_, old⟩ ⟨_, new⟩ hr
  cases hr with
  | none => exact Iff.rfl
  | some hm => exact hR _ _ hm id

variable {w w' : Workspace}

theorem Workspace.table_rel (h : List.Forall₂ (RuleTable.Rel R) w.tables w'.tables) (id : Nat) :
    (w.table id).Rel R (w'.table id) := by
  unfold Workspace.table
  generalize w.tables = ts, w'.tables = ts' at h
  induction h generalizing id with
  | nil => exact .nil
  | cons htt _ ih =>
    cases id with
    | zero => exact htt
    | succ id => exact ih id

/-- Where related matchers own the same tables, the same tables are in use, and related rules are in
force. -/
theorem Workspace.rules_rel (hR : ∀ m m', R m m' → ∀ id, id ∈ m.owned ↔ id ∈ m'.owned)
    (htables : List.Forall₂ (RuleTable.Rel R) w.tables w'.tables)
    (hopened : w.opened.map (·.2.table) = w'.opened.map (·.2.table))
    (hcompiled : w.compiled.map (·.2.table) = w'.compiled.map (·.2.table))
    (hmatchers : Named.Rel R w.matchers w'.matchers) (slot : Slot) :
    Option.Rel R (w.rules slot) (w'.rules slot) := by
  have howners : w.SameOwners w' := fun id owner => (table_rel htables owner).mem_owned hR id
  have hroots (id : Nat) : id ∈ w.roots ↔ id ∈ w'.roots := by
    have hkept : id ∈ w.matchers.flatMap (·.2.owned) ↔ id ∈ w'.matchers.flatMap (·.2.owned) :=
      hmatchers.mem_flatMap (fun _ _ hm => hR _ _ hm id)
    simp only [roots, List.mem_append, hopened, hcompiled, hkept]
  rw [Workspace.rules, Workspace.rules, howners.alive_eq htables.length_eq hroots, rulesIn, rulesIn]
  split
  · exact (table_rel htables slot.table).find slot.name
  · exact .none

end Matched

variable {S : Settings → Settings → Prop}

/-- Bounds of repetitions that grammars with settings related by `S` have. -/
def Bounds (S : Settings → Settings → Prop) (max max' : Option Nat) : Prop :=
  ∃ s s', S s s' ∧ s.repetition.max = max ∧ s'.repetition.max = max'

/-- On `ts` and its rests, bounds that the settings `S` explain make no difference. -/
def SameRepetitions (S : Settings → Settings → Prop) (ts : List Token) : Prop :=
  ∀ max max', Bounds S max max' → ∀ r rest, rest <:+ ts →
    Recognizer.repetition max r rest = Recognizer.repetition max' r rest

/-- The two matchers differ at most in bounds that the settings `S` explain. -/
def Matcher.Alike (S : Settings → Settings → Prop) : Matcher → Matcher → Prop :=
  Variant (Bounds S) (fun _ _ => False)

theorem Matcher.Alike.mem_owned {m m' : Matcher} (h : m.Alike S m') (id : Nat) :
    id ∈ m.owned ↔ id ∈ m'.owned :=
  Variant.mem_owned (fun _ _ hs => hs.elim) h id

theorem Bounds.refl (hS : ∀ s, S s s) (max : Option Nat) : Bounds S max max :=
  ⟨⟨⟨max⟩, {}⟩, ⟨⟨max⟩, {}⟩, hS _, rfl, rfl⟩

theorem Matcher.Alike.refl (hS : ∀ s, S s s) (m : Matcher) : m.Alike S m :=
  Variant.refl (Bounds.refl hS) m

theorem Matcher.Alike.rel_refl (hS : ∀ s, S s s) (old : Option Matcher) :
    Option.Rel (Alike S) old old :=
  Variant.rel_refl (Bounds.refl hS) old

namespace RuleTable

variable {t t' : RuleTable}

def Alike (S : Settings → Settings → Prop) (t t' : RuleTable) : Prop :=
  Named.Rel (Option.Rel (Matcher.Alike S)) t.slots t'.slots

theorem Alike.find (h : t.Alike S t') (name : String) :
    Option.Rel (Matcher.Alike S) (t.find? name) (t'.find? name) :=
  Rel.find h name

theorem Alike.names_eq (h : t.Alike S t') : t.names = t'.names := Named.Rel.names h

theorem Alike.mention (h : t.Alike S t') (name : String) :
    (t.mention name).Alike S (t'.mention name) := by
  unfold RuleTable.mention
  rw [h.names_eq]
  split
  · exact h
  · exact List.rel_append h (.cons ⟨rfl, .none⟩ .nil)

theorem fill_alike {slots slots' : List (String × Option Matcher)} {m m' : Matcher}
    (h : Named.Rel (Option.Rel (Matcher.Alike S)) slots slots') (name : String)
    (hm : m.Alike S m') :
    Named.Rel (Option.Rel (Matcher.Alike S)) (fill name m slots) (fill name m' slots') := by
  induction h with
  | nil => exact .nil
  | @cons x y xs ys hxy hs ih =>
    obtain ⟨n, old⟩ := x
    obtain ⟨n', old'⟩ := y
    obtain ⟨rfl, hold⟩ : n = n' ∧ _ := hxy
    simp only [fill]
    split
    · exact .cons ⟨rfl, .some hm⟩ hs
    · exact .cons ⟨rfl, hold⟩ ih

theorem Alike.define (h : t.Alike S t') (name : String) {m m' : Matcher} (hm : m.Alike S m') :
    SameOutcome (Alike S) (t.define name m) (t'.define name m') := by
  unfold RuleTable.define
  rw [isSome_eq_of_rel (h.find name)]
  split
  · exact .error
  · exact .ok (fill_alike (h.mention name) name (.rule hm))

theorem Alike.undefined_eq (h : t.Alike S t') : t.undefined = t'.undefined := by
  refine Named.Rel.names (R := Option.Rel (Matcher.Alike S)) (List.rel_filter ?_ h)
  intro x y hxy
  change x.2.isNone = true ↔ y.2.isNone = true
  rw [← Option.not_isSome, ← Option.not_isSome, isSome_eq_of_rel hxy.2]

theorem Alike.check_eq (h : t.Alike S t') (start : String) : t.check start = t'.check start := by
  rw [check, check, h.undefined_eq, isSome_eq_of_rel (h.find start)]

end RuleTable

/-- The workspaces differ at most in the settings of grammars, and in what follows from these. -/
structure Workspace.Alike (S : Settings → Settings → Prop) (w w' : Workspace) : Prop where
  tables : List.Forall₂ (RuleTable.Alike S) w.tables w'.tables
  opened : Named.Rel (fun g g' => g.table = g'.table ∧ S g.settings g'.settings)
    w.opened w'.opened
  compiled : Named.Rel (fun g g' => g.table = g'.table ∧ g.start = g'.start ∧
    S g.settings g'.settings) w.compiled w'.compiled
  matchers : Named.Rel (Matcher.Alike S) w.matchers w'.matchers

/-- The same call, but that a grammar may be opened with other settings. -/
inductive Call.Alike (S : Settings → Settings → Prop) : Call → Call → Prop where
  | new {grammar settings settings'} : S settings settings' →
      Alike S (.new grammar settings) (.new grammar settings')
  | same (c : Call) : Alike S c c

namespace Workspace

variable {w w' : Workspace}

theorem Alike.refl (hS : ∀ s, S s s) (w : Workspace) : w.Alike S w := by
  constructor
  · refine List.forall₂_same.mpr (fun t _ => ?_)
    exact List.forall₂_same.mpr (fun x _ => ⟨rfl, Matcher.Alike.rel_refl hS _⟩)
  · exact List.forall₂_same.mpr (fun x _ => ⟨rfl, rfl, hS _⟩)
  · exact List.forall₂_same.mpr (fun x _ => ⟨rfl, rfl, rfl, hS _⟩)
  · exact List.forall₂_same.mpr (fun x _ => ⟨rfl, .refl hS _⟩)

theorem Alike.table (h : w.Alike S w') (id : Nat) : (w.table id).Alike S (w'.table id) :=
  table_rel h.tables id

theorem Alike.setTable (h : w.Alike S w') (id : Nat) {t t' : RuleTable} (ht : t.Alike S t') :
    (w.setTable id t).Alike S (w'.setTable id t') := by
  refine ⟨?_, h.opened, h.compiled, h.matchers⟩
  have hts := h.tables
  unfold Workspace.setTable
  dsimp only
  generalize w.tables = ts, w'.tables = ts' at hts
  induction hts generalizing id with
  | nil => exact .nil
  | cons htt hts ih =>
    cases id with
    | zero => exact .cons ht hts
    | succ id => exact .cons htt (ih id)

theorem Alike.new (h : w.Alike S w') (name : String) {s s' : Settings} (hs : S s s') :
    (w.new name s).Alike S (w'.new name s') := by
  have hlen : w.tables.length = w'.tables.length := h.tables.length_eq
  exact ⟨List.rel_append h.tables (.cons .nil .nil), h.opened.put name ⟨hlen, hs⟩,
    h.compiled.erase name, h.matchers⟩

theorem Alike.drop (h : w.Alike S w') (name : String) : (w.drop name).Alike S (w'.drop name) :=
  ⟨h.tables, h.opened.erase name, h.compiled.erase name, h.matchers⟩

theorem Alike.keep (h : w.Alike S w') (name : String) {m m' : Matcher} (hm : m.Alike S m') :
    (w.keep name m).Alike S (w'.keep name m') :=
  ⟨h.tables, h.opened, h.compiled, h.matchers.put name hm⟩

theorem Alike.forget (h : w.Alike S w') (name : String) :
    (w.forget name).Alike S (w'.forget name) :=
  ⟨h.tables, h.opened, h.compiled, h.matchers.erase name⟩

theorem Alike.kept (h : w.Alike S w') (name : String) :
    SameOutcome (Matcher.Alike S) (w.kept name) (w'.kept name) := by
  obtain ⟨hw, hw'⟩ | ⟨m, m', hw, hw', hm⟩ := h.matchers.lookup_cases name
  · simp only [Workspace.kept, hw, hw']
    exact .error
  · simp only [Workspace.kept, hw, hw']
    exact .ok hm

theorem Alike.reference (h : w.Alike S w') (name rule : String) :
    SameOutcome (fun p p' => p.1.Alike S p'.1 ∧ p.2.Alike S p'.2)
      (w.reference name rule) (w'.reference name rule) := by
  obtain ⟨hw, hw'⟩ | ⟨g, g', hw, hw', hg, _⟩ := h.opened.lookup_cases name
  · simp only [Workspace.reference, hw, hw']
    exact .error
  · simp only [Workspace.reference, hw, hw', hg]
    exact .ok ⟨.reference, h.setTable _ ((h.table _).mention rule)⟩

theorem Alike.repetition (h : w.Alike S w') (name : String) {m m' : Matcher}
    (hm : m.Alike S m') :
    SameOutcome (Matcher.Alike S) (w.repetition name m) (w'.repetition name m') := by
  obtain ⟨hw, hw'⟩ | ⟨g, g', hw, hw', _, hs⟩ := h.opened.lookup_cases name
  · simp only [Workspace.repetition, hw, hw']
    exact .error
  · simp only [Workspace.repetition, hw, hw']
    exact .ok (.repetition ⟨_, _, hs, rfl, rfl⟩ hm)

theorem Alike.define (h : w.Alike S w') (name rule : String) {m m' : Matcher}
    (hm : m.Alike S m') : SameOutcome (SameOutcome (Alike S))
      (w.define name rule m) (w'.define name rule m') := by
  obtain ⟨hw, hw'⟩ | ⟨g, g', hw, hw', hg, _⟩ := h.opened.lookup_cases name
  · simp only [Workspace.define, hw, hw']
    exact .error
  · simp only [Workspace.define, hw, hw', hg]
    have hd := (h.table g'.table).define rule hm
    generalize (w.table g'.table).define rule m = d, (w'.table g'.table).define rule m' = d' at hd
    cases hd with
    | error => exact .ok .error
    | ok ht => exact .ok (.ok (h.setTable _ ht))

theorem Alike.build (h : w.Alike S w') (name start : String) :
    SameOutcome (fun p p' => p.1 = p'.1 ∧ p.2.Alike S p'.2)
      (w.build name start) (w'.build name start) := by
  obtain ⟨hw, hw'⟩ | ⟨g, g', hw, hw', hg, hs⟩ := h.opened.lookup_cases name
  · simp only [Workspace.build, hw, hw']
    exact .error
  · have ht := h.table g'.table
    have hlen : (w.table g'.table).slots.length = (w'.table g'.table).slots.length := ht.length_eq
    simp only [Workspace.build, hw, hw', hg, ht.check_eq start]
    split
    · exact .ok ⟨rfl, h.tables, h.opened.erase name, h.compiled, h.matchers⟩
    · refine .ok ⟨?_, h.tables, h.opened.erase name, h.compiled.put name ⟨rfl, rfl, hs⟩,
        h.matchers⟩
      rw [RuleTable.sortedNames, RuleTable.sortedNames, ht.names_eq, hlen]

theorem Alike.ruleMatcher_eq (h : w.Alike S w') (name rule : String) :
    w.ruleMatcher name rule = w'.ruleMatcher name rule := by
  obtain ⟨hw, hw'⟩ | ⟨g, g', hw, hw', hg, _⟩ := h.compiled.lookup_cases name
  · simp only [ruleMatcher, hw, hw']
  · have hf := (h.table g'.table).find rule
    simp only [ruleMatcher, hw, hw', hg]
    generalize (w.table g'.table).find? rule = old, (w'.table g'.table).find? rule = new at hf
    cases hf <;> rfl

theorem Alike.make (hS : ∀ s, S s s) (h : w.Alike S w') (making : Making) :
    SameOutcome (fun p p' => Option.Rel (Matcher.Alike S) p.1 p'.1 ∧ p.2.Alike S p'.2)
      (w.make making) (w'.make making) := by
  cases making with
  | terminal spec => exact .ok ⟨.some .terminal, h⟩
  | custom f => exact .ok ⟨.some .custom, h⟩
  | copy part => exact (h.kept part).bind (fun _ _ hm => .ok ⟨.some hm, h⟩)
  | sequence parts =>
    exact (SameOutcome.mapM h.kept parts).bind (fun _ _ hms => .ok ⟨.some (.sequence hms), h⟩)
  | alternation parts =>
    exact (SameOutcome.mapM h.kept parts).bind (fun _ _ hms => .ok ⟨.some (.alternation hms), h⟩)
  | optional body => exact (h.kept body).bind (fun _ _ hm => .ok ⟨.some (.optional hm), h⟩)
  | repetition max body =>
    exact (h.kept body).bind
      (fun _ _ hm => .ok ⟨.some (.repetition (Bounds.refl hS max) hm), h⟩)
  | rule name body => exact (h.kept body).bind (fun _ _ hm => .ok ⟨.some (.rule hm), h⟩)
  | reference grammar rule =>
    exact (h.reference grammar rule).bind (fun _ _ hr => .ok ⟨.some hr.1, hr.2⟩)
  | bounded grammar body =>
    refine (h.kept body).bind (fun m m' hm => ?_)
    exact (h.repetition grammar hm).bind (fun _ _ hr => .ok ⟨.some hr, h⟩)
  | ruleMatcher grammar rule =>
    simp only [Workspace.make, h.ruleMatcher_eq grammar rule]
    cases w'.ruleMatcher grammar rule with
    | error => exact .error
    | ok found => exact .ok ⟨Matcher.Alike.rel_refl hS found, h⟩

/-- One call keeps workspaces alike. Calls look up names only, and the names are the same, so a call
fails in both or in neither. -/
theorem Alike.perform (hS : ∀ s, S s s) (h : w.Alike S w') {c c' : Call} (hc : c.Alike S c') :
    (w.perform c).Alike S (w'.perform c') := by
  cases hc with
  | new hs => exact h.new _ hs
  | same =>
    cases c with
    | new grammar settings => exact h.new grammar (hS settings)
    | drop grammar => exact h.drop grammar
    | forget name => exact h.forget name
    | make name making =>
      have hm := h.make hS making
      simp only [Workspace.perform]
      generalize w.make making = made, w'.make making = made' at hm
      cases hm with
      | error => exact h
      | @ok p p' hp =>
        obtain ⟨found, v⟩ := p
        obtain ⟨found', v'⟩ := p'
        obtain ⟨hfound, hv⟩ := hp
        cases hfound with
        | none => exact hv
        | some hm => exact hv.keep name hm
    | define grammar rule body =>
      have hd := (h.kept body).bind (fun _ _ hm => h.define grammar rule hm)
      simp only [Workspace.perform]
      generalize w.kept body >>= w.define grammar rule = d,
        w'.kept body >>= w'.define grammar rule = d' at hd
      cases hd with
      | error => exact h
      | ok hd =>
        cases hd with
        | error => exact h
        | ok hv => exact hv
    | build grammar start =>
      have hb := h.build grammar start
      simp only [Workspace.perform]
      generalize w.build grammar start = b, w'.build grammar start = b' at hb
      cases hb with
      | error => exact h
      | ok hp => exact hp.2

/-- The same calls keep workspaces alike. -/
theorem Alike.performAll (hS : ∀ s, S s s) (h : w.Alike S w') {calls calls' : List Call}
    (hcalls : List.Forall₂ (Call.Alike S) calls calls') :
    (w.performAll calls).Alike S (w'.performAll calls') := by
  induction hcalls generalizing w w' with
  | nil => exact h
  | cons hc _ ih => exact ih (h.perform hS hc)

/-- Bounds own nothing, so the same tables are in use. -/
theorem Alike.rules (h : w.Alike S w') (slot : Slot) :
    Option.Rel (Matcher.Alike S) (w.rules slot) (w'.rules slot) :=
  rules_rel (fun _ _ hm => hm.mem_owned) h.tables (h.opened.map_eq (fun _ _ hg => hg.1))
    (h.compiled.map_eq (fun _ _ hg => hg.1)) h.matchers slot

/-- Bounds that make no difference to repetitions make none to a run. -/
theorem Alike.run_eq (h : w.Alike S w') {ts : List Token} (hsame : SameRepetitions S ts)
    {m m' : Matcher} (hm : m.Alike S m') : w.run m ts = w'.run m' ts :=
  run_eq_of_fuel (Matcher.Variant.run_eq hsame (fun _ _ hs => hs.elim) h.rules hm)

theorem Alike.matchStart_eq (h : w.Alike S w') {ts : List Token} (hsame : SameRepetitions S ts)
    (name : String) : w.matchStart name ts = w'.matchStart name ts := by
  obtain ⟨hw, hw'⟩ | ⟨g, g', hw, hw', hg, hstart, _⟩ := h.compiled.lookup_cases name
  · simp only [matchStart, hw, hw']
  · simp only [matchStart, hw, hw', hg, hstart]
    exact congrArg Except.ok (h.run_eq hsame .handle)

theorem Alike.parse_eq (h : w.Alike S w') {ts : List Token} (hsame : SameRepetitions S ts)
    (hparse : ∀ s s', S s s' → s.parse = s'.parse) (name : String) :
    w.parse name ts = w'.parse name ts := by
  obtain ⟨hw, hw'⟩ | ⟨g, g', hw, hw', hg, hstart, hs⟩ := h.compiled.lookup_cases name
  · simp only [parse, hw, hw']
  · have houtcome : parseOutcome g.settings ts = parseOutcome g'.settings ts := by
      funext found
      simp only [parseOutcome, hparse _ _ hs]
    have hrun : w.run (.handle ⟨g.table, g.start⟩) ts = w'.run (.handle ⟨g.table, g.start⟩) ts :=
      h.run_eq hsame .handle
    simp only [parse, hw, hw', ← hg, ← hstart, houtcome, hrun]

end Workspace

end TokenGrammar
