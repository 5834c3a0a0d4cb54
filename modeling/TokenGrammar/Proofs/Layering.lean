import TokenGrammar.Settings.Layers

namespace TokenGrammar.Settings

section LastSet

variable {κ α : Type} [DecidableEq κ]

/-- The value that a key is set to last. -/
def lastSet (sets : List (κ × α)) (key : κ) : Option α := sets.reverse.lookup key

variable {sets : List (κ × α)} {key : κ} {a : α}

theorem lookup_cons_eq (k : κ) (a : α) (sets : List (κ × α)) (key : κ) :
    ((k, a) :: sets).lookup key = if key = k then some a else sets.lookup key := by
  by_cases h : key = k
  · simp [h]
  · have hb : (key == k) = false := beq_eq_false_iff_ne.mpr h
    simp [List.lookup_cons, hb, h]

theorem lastSet_append (sets more : List (κ × α)) (key : κ) :
    lastSet (sets ++ more) key = (lastSet more key).or (lastSet sets key) := by
  rw [lastSet, List.reverse_append, List.lookup_append, lastSet, lastSet]

theorem lastSet_cons (k : κ) (a : α) (sets : List (κ × α)) (key : κ) :
    lastSet ((k, a) :: sets) key = (lastSet sets key).or (if key = k then some a else none) := by
  rw [← List.singleton_append, lastSet_append]
  exact congrArg _ (lookup_cons_eq k a [] key)

theorem mem_of_lastSet (h : lastSet sets key = some a) : (key, a) ∈ sets := by
  obtain ⟨before, after, he, _⟩ := List.lookup_eq_some_iff.mp h
  rw [← List.mem_reverse, he]
  exact List.mem_append_right _ List.mem_cons_self

theorem lastSet_eq_none_iff : lastSet sets key = none ↔ sets.lookup key = none := by
  simp [lastSet, List.lookup_eq_none_iff]

/-- Next to each other, two keys may be set in either order. -/
theorem lastSet_swap {k k' : κ} (h : k ≠ k') (a a' : α) (before after : List (κ × α)) (key : κ) :
    lastSet (before ++ (k, a) :: (k', a') :: after) key =
      lastSet (before ++ (k', a') :: (k, a) :: after) key := by
  simp only [lastSet_append, lastSet_cons, Option.or_assoc]
  by_cases hk : key = k
  · subst hk
    simp [h]
  · simp [hk]

end LastSet

/-- The settings that there are. -/
inductive Setting where
  | max
  | requireComplete
deriving DecidableEq

namespace Setting

def table : Setting → String
  | max => "repetition"
  | requireComplete => "parse"

def name : Setting → String
  | max => "max"
  | requireComplete => "require_complete"

/-- The key that an override names. -/
def key (s : Setting) : String := s.table ++ "." ++ s.name

def path (s : Setting) : KeyPath := ⟨s.table, [.child s.name]⟩

/-- The value is one that the setting may have: a number from 0 to 2 ^ 63 - 1, or a switch. -/
inductive Takes : Setting → Value → Prop where
  | max {origin n} : 0 ≤ n → n < 0x8000000000000000 → Takes max (.integer origin n)
  | requireComplete {origin b} : Takes requireComplete (.bool origin b)

instance (s : Setting) (v : Value) : Decidable (s.Takes v) :=
  match s, v with
  | .max, .integer _ n =>
    decidable_of_iff (0 ≤ n ∧ n < 0x8000000000000000)
      ⟨fun h => .max h.1 h.2, fun | .max h h' => ⟨h, h'⟩⟩
  | .requireComplete, .bool _ _ => isTrue .requireComplete
  | .max, .nil _ | .max, .bool _ _ | .max, .float _ _ | .max, .string _ _ | .max, .array _ _
  | .max, .table _ _ | .requireComplete, .nil _ | .requireComplete, .integer _ _
  | .requireComplete, .float _ _ | .requireComplete, .string _ _ | .requireComplete, .array _ _
  | .requireComplete, .table _ _ => isFalse nofun

variable {s s' : Setting}

theorem keyForm_table (s : Setting) : keyForm s.table = s.table := by
  cases s <;> decide

theorem ofText_key (s : Setting) : KeyPath.ofText? s.key = some s.path := by
  cases s <;> decide

theorem ofText_table (s : Setting) : KeyPath.ofText? s.table = some (.ofName s.table) := by
  cases s <;> decide

theorem table_inj : s.table = s'.table ↔ s = s' := by
  cases s <;> cases s' <;> decide

theorem key_inj : s.key = s'.key ↔ s = s' := by
  cases s <;> cases s' <;> decide

theorem path_inj : s.path = s'.path ↔ s = s' := by
  cases s <;> cases s' <;> decide

end Setting

namespace Value

/-- The number that an integer is. -/
def count? : Value → Option Nat
  | .integer _ n => some n.toNat
  | _ => none

def switch? : Value → Option Bool
  | .bool _ b => some b
  | _ => none

def isTable : Value → Bool
  | .table _ _ => true
  | _ => false

theorem lookup_replaceIn (key : String) (v : Value) (entries : List (String × Value))
    (k : String) : (replaceIn key v entries).lookup k =
      if k = key then some v else entries.lookup k := by
  induction entries with
  | nil => exact lookup_cons_eq key v [] k
  | cons entry entries ih =>
    obtain ⟨first, old⟩ := entry
    by_cases hf : first = key
    · subst hf
      by_cases hk : k = first <;> simp only [replaceIn, lookup_cons_eq, hk, ↓reduceIte]
    · by_cases hk : k = first
      · subst hk
        simp only [replaceIn, lookup_cons_eq, hf, ↓reduceIte]
      · simp only [replaceIn, lookup_cons_eq, hf, hk, ih, ↓reduceIte]

theorem get_replace (root : Value) (key : String) (v : Value) (k : String) :
    (root.replace key v).get? k = if keyForm k = keyForm key then some v else root.get? k := by
  cases root with
  | table o entries => exact lookup_replaceIn (keyForm key) v entries (keyForm k)
  | _ => exact lookup_replaceIn (keyForm key) v [] (keyForm k)

end Value

open Setting

/-- What a document's entries set, each value under its whole key. -/
def keyed (entries : List (String × Value)) : List (String × Value) :=
  entries.flatMap fun (table, v) =>
    match v with
    | .table _ es => es.map fun (name, v) => (table ++ "." ++ name, v)
    | _ => []

namespace Layer

/-- What a layer sets if it is a file that is there. -/
def fileSets (find : Lookup) : Layer → List (String × Value)
  | .override _ _ => []
  | .file path _ =>
    match find path with
    | none => []
    | some (uri, text) =>
      match Toml.ofText? text with
      | none => []
      | some entries => keyed (ofTomlEntries (some uri) entries)

/-- What a layer sets if it is an override. -/
def overrideSets : Layer → List (String × Value)
  | .override key v => [(key, v)]
  | .file _ _ => []

/-- The path of a file that has to be there and is not. -/
def missing? (find : Lookup) : Layer → Option String
  | .file path true => if (find path).isNone then some path else none
  | _ => none

end Layer

/-- The table of a setting, with nothing in it but values of this setting. -/
def TableOf (entry : String × Value) : Prop :=
  ∃ s o es, entry = (Setting.table s, Value.table o es) ∧ ∀ e ∈ es, e.1 = s.name ∧ s.Takes e.2

instance : DecidablePred TableOf
  | (name, .table _ es) =>
    decidable_of_iff (∃ s ∈ [Setting.max, .requireComplete],
        name = s.table ∧ ∀ e ∈ es, e.1 = s.name ∧ s.Takes e.2) <| by
      constructor
      · rintro ⟨s, _, rfl, hes⟩
        exact ⟨s, _, es, rfl, hes⟩
      · rintro ⟨s, _, _, he, hes⟩
        cases he
        exact ⟨s, by cases s <;> simp, rfl, hes⟩
  | (_, .nil _) | (_, .bool _ _) | (_, .integer _ _) | (_, .float _ _) | (_, .string _ _)
  | (_, .array _ _) => isFalse (fun ⟨_, _, _, he, _⟩ => nomatch he)

/-- The layer sets the two settings and nothing else, if it sets anything. -/
inductive Layer.Usual (find : Lookup) : Layer → Prop where
  | override {s v} : Takes s v → Usual find (.override s.key v)
  | absent {path required} : find path = none → Usual find (.file path required)
  | file {path required uri text entries} : find path = some (uri, text) →
      Toml.ofText? text = some entries →
      (∀ entry ∈ ofTomlEntries (some uri) entries, TableOf entry) →
      Usual find (.file path required)

/-- The value of the last override, else that of the last file. -/
def valueOf? (find : Lookup) (layers : List Layer) (s : Setting) : Option Value :=
  (lastSet (layers.flatMap Layer.overrideSets) s.key).or
    (lastSet (layers.flatMap (Layer.fileSets find)) s.key)

/-- Each setting by itself. -/
def resolved (find : Lookup) (layers : List Layer) : Settings where
  repetition := ⟨(valueOf? find layers .max).bind Value.count?⟩
  parse := ⟨((valueOf? find layers .requireComplete).bind Value.switch?).getD true⟩

variable {find : Lookup} {layers : List Layer} {root v : Value} {s : Setting}
  {view : Setting → Option Value}

/-- The configuration has the tables of both settings, and their values are those of `view`. Files
are merged table by table before any override is put on top, yet each setting goes its own way. -/
def Shows (root : Value) (view : Setting → Option Value) : Prop :=
  ∀ s : Setting, ∃ o es, root.get? s.table = some (.table o es) ∧
    (Value.table o es).get? s.name = view s

theorem Shows.congr {view' : Setting → Option Value} (h : Shows root view)
    (he : ∀ s, view s = view' s) : Shows root view' := by
  obtain rfl : view = view' := funext he
  exact h

/-- What the defaults say of a setting. -/
def defaultOf? (s : Setting) : Option Value := (defaults.get? s.table).bind (Value.get? s.name)

theorem toList_defaultText :
    defaultText.toList = defaultLines.flatMap (fun line => line.toList ++ ['\n']) := by
  rw [defaultText, String.toList_join, List.flatMap_map]
  congr 1
  funext line
  rw [String.toList_append]
  rfl

/-- The defaults have both tables, no bound and a switch. Their text is read line by line here, for
to decode it as a whole takes the kernel much longer. -/
theorem defaults_hold :
    (∀ s ∈ [Setting.max, .requireComplete], ∃ v ∈ defaults.get? s.table, v.isTable = true) ∧
    (defaultOf? .max).isNone = true ∧
    ∃ v ∈ defaultOf? .requireComplete, Takes .requireComplete v ∧ v.switch? = some true := by
  have hlines : defaults = addEntries none .emptyTable ((Toml.ofChars?
      (defaultLines.flatMap (fun line => line.toList ++ ['\n']))).getD []) := by
    rw [← toList_defaultText, defaults, Toml.ofText?]
  simp only [defaultOf?]
  rw [hlines]
  decide +kernel

theorem shows_defaults : Shows defaults defaultOf? := by
  intro s
  obtain ⟨v, hv, htable⟩ := defaults_hold.1 s (by cases s <;> simp)
  cases v with
  | table o es => exact ⟨o, es, hv, by rw [defaultOf?, hv]; rfl⟩
  | _ => cases htable

theorem default_max : defaultOf? .max = none := Option.isNone_iff_eq_none.mp defaults_hold.2.1

theorem Shows.replace (h : Shows root view) (s : Setting) (o : Origin)
    (es : List (String × Value)) : Shows (root.replace s.table (.table o es))
      (fun s' => if s' = s then (Value.table o es).get? s.name else view s') := by
  intro s'
  rw [Value.get_replace, keyForm_table, keyForm_table]
  by_cases hs : s' = s
  · subst hs
    exact ⟨o, es, if_pos rfl, (if_pos rfl).symm⟩
  · obtain ⟨o', es', ht, hv⟩ := h s'
    refine ⟨o', es', ?_, ?_⟩
    · rw [if_neg (fun he => hs (table_inj.mp he)), ht]
    · exact hv.trans (if_neg hs).symm

/-- A value that a setting may have replaces what was there. -/
theorem under_of_takes (h : s.Takes v) (key : String) (root : Value) :
    Value.under key v root = root.replace key v := by
  cases h <;> rfl

section Overrides

theorem Shows.set (h : Shows root view) (hv : s.Takes v) :
    Shows (s.path.set v root) (fun s' => if s' = s then some v else view s') := by
  obtain ⟨o, es, ht, _⟩ := h s
  have hset : s.path.set v root =
      root.replace s.table (.table o (Value.replaceIn (keyForm s.name) v es)) := by
    have hassign : s.path.set v root = root.replace s.table
        (Value.under s.name v ((root.get? s.table).getD (.nil none)).asTable) := rfl
    rw [hassign, ht, under_of_takes hv]
    rfl
  have hname : (Value.table o (Value.replaceIn (keyForm s.name) v es)).get? s.name = some v := by
    rw [Value.get?, Value.lookup_replaceIn, if_pos rfl]
  rw [hset]
  simpa only [hname] using h.replace s o (Value.replaceIn (keyForm s.name) v es)

theorem Shows.setAll {kept : List (KeyPath × Value)} (h : Shows root view)
    (hkept : ∀ p ∈ kept, ∃ s : Setting, p.1 = s.path ∧ s.Takes p.2) :
    Shows (kept.foldl (fun root (path, v) => path.set v root) root)
      (fun s => (lastSet kept s.path).or (view s)) := by
  induction kept generalizing root view with
  | nil => exact h
  | cons p kept ih =>
    obtain ⟨path, v⟩ := p
    obtain ⟨s, rfl, hv⟩ := hkept _ List.mem_cons_self
    refine (ih (h.set hv) (fun p hp => hkept p (List.mem_cons_of_mem _ hp))).congr ?_
    intro s'
    rw [lastSet_cons, Option.or_assoc]
    by_cases hs : s' = s
    · simp [hs]
    · simp [hs, path_inj]

/-- Only the last override of each setting is kept, whatever stands between. -/
theorem overrides_of_usual (h : ∀ layer ∈ layers, layer.Usual find) :
    ∃ kept, overrides layers = .ok kept ∧
      (∀ p ∈ kept, ∃ s : Setting, p.1 = s.path ∧ s.Takes p.2) ∧
      ∀ s : Setting, lastSet kept s.path = lastSet (layers.flatMap Layer.overrideSets) s.key := by
  induction layers with
  | nil => exact ⟨[], rfl, nofun, fun _ => rfl⟩
  | cons layer layers ih =>
    obtain ⟨kept, hok, hkept, hlast⟩ := ih (fun layer hl => h layer (List.mem_cons_of_mem _ hl))
    cases h layer List.mem_cons_self with
    | absent | file => exact ⟨kept, hok, hkept, hlast⟩
    | @override s v hv =>
      have hstep : overrides (.override s.key v :: layers) =
          .ok (if (kept.lookup s.path).isSome then kept else (s.path, v) :: kept) := by
        simp only [overrides, ofText_key, hok]
        rfl
      refine ⟨_, hstep, ?_, ?_⟩
      · intro p hp
        split at hp
        · exact hkept p hp
        · rcases List.mem_cons.mp hp with rfl | hp
          · exact ⟨s, rfl, hv⟩
          · exact hkept p hp
      · intro s'
        change _ = lastSet ((s.key, v) :: layers.flatMap Layer.overrideSets) s'.key
        rw [lastSet_cons, ← hlast s']
        split
        · rename_i hsome
          by_cases hs : s' = s
          · subst hs
            have hne : lastSet kept s'.path ≠ none := by
              rw [Ne, lastSet_eq_none_iff]
              exact Option.isSome_iff_ne_none.mp hsome
            obtain ⟨w, hw⟩ := Option.ne_none_iff_exists'.mp hne
            rw [hw, Option.some_or]
          · rw [if_neg (fun he => hs (key_inj.mp he)), Option.or_none]
        · rw [lastSet_cons]
          simp only [path_inj, key_inj]

end Overrides

section Files

/-- The entries of a setting's table set it one after the other. -/
theorem mergeAll_of_takes {es : List (String × Value)} (hes : ∀ e ∈ es, e.1 = s.name ∧ s.Takes e.2)
    (o : Origin) (old : List (String × Value)) : ∃ o' es',
      Value.mergeAll es (.table o old) = .table o' es' ∧
      (Value.table o' es').get? s.name =
        (lastSet es s.name).or ((Value.table o old).get? s.name) := by
  induction es generalizing old with
  | nil => exact ⟨o, old, rfl, rfl⟩
  | cons e es ih =>
    obtain ⟨name, v⟩ := e
    obtain ⟨rfl, hv⟩ := hes _ List.mem_cons_self
    obtain ⟨o', es', hmerge, hget⟩ := ih (fun e he => hes e (List.mem_cons_of_mem _ he))
      (Value.replaceIn (keyForm s.name) v old)
    refine ⟨o', es', ?_, ?_⟩
    · rw [Value.mergeAll, under_of_takes hv]
      exact hmerge
    · rw [hget, lastSet_cons, if_pos rfl, Option.or_assoc, Value.get?, Value.lookup_replaceIn,
        if_pos rfl]
      rfl

/-- What a table of one setting sets, under the whole key. -/
theorem lastSet_keyed {es : List (String × Value)} (hes : ∀ e ∈ es, e.1 = s.name ∧ s.Takes e.2)
    (s' : Setting) : lastSet (es.map fun (name, v) => (s.table ++ "." ++ name, v)) s'.key =
      if s' = s then lastSet es s.name else none := by
  induction es with
  | nil => exact (ite_self _).symm
  | cons e es ih =>
    obtain ⟨name, v⟩ := e
    obtain ⟨rfl, _⟩ := hes _ List.mem_cons_self
    have hkey : s.table ++ "." ++ s.name = s.key := rfl
    rw [List.map_cons, lastSet_cons, lastSet_cons, if_pos rfl, hkey,
      ih (fun e he => hes e (List.mem_cons_of_mem _ he))]
    by_cases hs : s' = s
    · simp [hs]
    · simp [hs, key_inj]

theorem Shows.addEntry {o : Origin} {es : List (String × Value)} (h : Shows root view)
    (hes : ∀ e ∈ es, e.1 = s.name ∧ s.Takes e.2) :
    Shows (addEntry root (s.table, .table o es))
      (fun s' => if s' = s then (lastSet es s.name).or (view s) else view s') := by
  obtain ⟨o', old, ht, hold⟩ := h s
  obtain ⟨o'', new, hmerge, hnew⟩ := mergeAll_of_takes hes o' old
  have hadd : Settings.addEntry root (s.table, .table o es) =
      root.replace s.table (.table o'' new) := by
    rw [Settings.addEntry, ofText_table, ← hmerge]
    change root.replace s.table (Value.mergeAll es ((root.get? s.table).getD Value.emptyTable)) = _
    rw [ht, Option.getD_some]
  rw [hadd]
  refine (h.replace s o'' new).congr ?_
  intro s'
  rw [hnew, hold]

theorem Shows.addEntries {o : Origin} {entries : List (String × Toml.Value)} (h : Shows root view)
    (hentries : ∀ entry ∈ ofTomlEntries o entries, TableOf entry) :
    Shows (Settings.addEntries o root entries)
      (fun s => (lastSet (keyed (ofTomlEntries o entries)) s.key).or (view s)) := by
  unfold Settings.addEntries
  generalize ofTomlEntries o entries = added at *
  induction added generalizing root view with
  | nil => exact h
  | cons entry added ih =>
    obtain ⟨s, o, es, rfl, hes⟩ := hentries _ List.mem_cons_self
    refine (ih (h.addEntry hes) (fun e he => hentries e (List.mem_cons_of_mem _ he))).congr ?_
    intro s'
    have hkeyed : keyed ((s.table, .table o es) :: added) =
        (es.map fun (name, v) => (s.table ++ "." ++ name, v)) ++ keyed added := rfl
    rw [hkeyed, lastSet_append, lastSet_keyed hes, Option.or_assoc]
    by_cases hs : s' = s
    · simp [hs]
    · simp [hs]

/-- A file that is missing ends the loading; the others set what they set, in order. -/
theorem Shows.addFiles (h : Shows root view) (hlayers : ∀ layer ∈ layers, layer.Usual find) :
    match layers.findSome? (Layer.missing? find) with
    | some path => addFiles find root layers = .error (.missingFile path)
    | none => ∃ root', Settings.addFiles find root layers = .ok root' ∧ Shows root'
        (fun s => (lastSet (layers.flatMap (Layer.fileSets find)) s.key).or (view s)) := by
  induction layers generalizing root view with
  | nil => exact ⟨root, rfl, h⟩
  | cons layer layers ih =>
    have hrest : ∀ layer ∈ layers, layer.Usual find :=
      fun layer hl => hlayers layer (List.mem_cons_of_mem _ hl)
    cases hlayers layer List.mem_cons_self with
    | override => exact ih h hrest
    | @absent path required hnone =>
      have hsets : (Layer.file path required).fileSets find = [] := by
        simp only [Layer.fileSets, hnone]
      rw [List.flatMap_cons, hsets, List.nil_append]
      cases required with
      | true =>
        simp only [List.findSome?_cons, Layer.missing?, hnone, Option.isNone_none, ↓reduceIte,
          Settings.addFiles]
      | false =>
        simp only [List.findSome?_cons, Layer.missing?, Settings.addFiles, hnone]
        exact ih h hrest
    | @file path required uri text entries hfound hentries htables =>
      have hsets : (Layer.file path required).fileSets find =
          keyed (ofTomlEntries (some uri) entries) := by
        simp only [Layer.fileSets, hfound, hentries]
      have hmissing : (Layer.file path required).missing? find = none := by
        cases required <;> simp [Layer.missing?, hfound]
      have hadd : Settings.addFiles find root (.file path required :: layers) =
          Settings.addFiles find (Settings.addEntries (some uri) root entries) layers := by
        simp only [Settings.addFiles, hfound, addFile, hentries]
        rfl
      rw [List.flatMap_cons, hsets, List.findSome?_cons, hmissing, hadd]
      have hfile := ih (h.addEntries htables) hrest
      simpa only [lastSet_append, Option.or_assoc] using hfile

end Files

/-- Decoding finds the two settings. -/
theorem ofValue_of_shows (h : Shows root view) (hmax : ∀ v ∈ view .max, Takes .max v)
    (hcomplete : ∃ v, view .requireComplete = some v ∧ Takes .requireComplete v) :
    ofValue root = .ok ⟨⟨(view .max).bind Value.count?⟩,
      ⟨((view .requireComplete).bind Value.switch?).getD true⟩⟩ := by
  obtain ⟨o, es, ht, hv⟩ := h .max
  obtain ⟨o', es', ht', hv'⟩ := h .requireComplete
  have hrepetition : repetitionOf (.table o es) = .ok ⟨(view .max).bind Value.count?⟩ := by
    have hget : (Value.table o es).get? "max" = view .max := hv
    simp only [repetitionOf, hget]
    cases hm : view .max with
    | none => rfl
    | some v =>
      cases hmax v hm with
      | @max origin n hn hbound =>
        have hgreatest : n ≤ greatest := by
          simp only [greatest, UInt64.size]
          omega
        simp [asNat?, asNat, Value.count?, hn, hgreatest, Except.map]
  have hparse : parseOf (.table o' es') =
      .ok ⟨((view .requireComplete).bind Value.switch?).getD true⟩ := by
    have hget : (Value.table o' es').get? "require_complete" = view .requireComplete := hv'
    obtain ⟨v, hc, htakes⟩ := hcomplete
    simp only [parseOf, hget, hc]
    cases htakes
    rfl
  have hget : root.get? "repetition" = some (.table o es) := ht
  have hget' : root.get? "parse" = some (.table o' es') := ht'
  simp only [ofValue, hget, hget', hrepetition, hparse]
  rfl

theorem Layer.Usual.takes {layer : Layer} (h : layer.Usual find) :
    ∀ p ∈ layer.overrideSets ++ layer.fileSets find, ∃ s : Setting, p.1 = s.key ∧ s.Takes p.2 := by
  intro p hp
  cases h with
  | @override s v hv =>
    obtain rfl := List.mem_singleton.mp hp
    exact ⟨s, rfl, hv⟩
  | absent hnone => simp [overrideSets, fileSets, hnone] at hp
  | @file path required uri text entries hfound hentries htables =>
    simp only [overrideSets, fileSets, hfound, hentries, List.nil_append] at hp
    obtain ⟨entry, hentry, hp⟩ := List.mem_flatMap.mp hp
    obtain ⟨s, o, es, rfl, hes⟩ := htables entry hentry
    obtain ⟨⟨name, v⟩, he, rfl⟩ := List.mem_map.mp hp
    obtain ⟨rfl, hv⟩ := hes _ he
    exact ⟨s, rfl, hv⟩

theorem takes_of_valueOf (h : ∀ layer ∈ layers, layer.Usual find)
    (hv : valueOf? find layers s = some v) : s.Takes v := by
  have takes {sets : Layer → List (String × Value)}
      (hsets : ∀ layer ∈ layers, ∀ p ∈ sets layer, p ∈ layer.overrideSets ++ layer.fileSets find)
      (hlast : lastSet (layers.flatMap sets) s.key = some v) : s.Takes v := by
    obtain ⟨layer, hlayer, hp⟩ := List.mem_flatMap.mp (mem_of_lastSet hlast)
    obtain ⟨s', hkey, hv⟩ := (h layer hlayer).takes _ (hsets layer hlayer _ hp)
    obtain rfl := key_inj.mp hkey
    exact hv
  rcases Option.or_eq_some_iff.mp hv with hover | ⟨_, hfile⟩
  · exact takes (fun _ _ _ hp => List.mem_append_left _ hp) hover
  · exact takes (fun _ _ _ hp => List.mem_append_right _ hp) hfile

/-- The defaults have a switch and no bound, so that what no layer sets is found all the same. -/
theorem load_of_usual (h : ∀ layer ∈ layers, layer.Usual find) :
    load find layers = match layers.findSome? (Layer.missing? find) with
      | some path => .error (.missingFile path)
      | none => .ok (resolved find layers) := by
  obtain ⟨kept, hkept, hpaths, hlast⟩ := overrides_of_usual h
  have hfiles := shows_defaults.addFiles h
  cases hmissing : layers.findSome? (Layer.missing? find) with
  | some path =>
    rw [hmissing] at hfiles
    simp only [load, merge, hkept, hfiles]
    rfl
  | none =>
    rw [hmissing] at hfiles
    obtain ⟨root, hroot, hshows⟩ := hfiles
    have hmerge : merge find layers =
        .ok (kept.foldl (fun root (path, v) => path.set v root) root) := by
      simp only [merge, hkept, hroot]
      rfl
    have hview : Shows (kept.foldl (fun root (path, v) => path.set v root) root)
        (fun s => (valueOf? find layers s).or (defaultOf? s)) := by
      refine (hshows.setAll hpaths).congr ?_
      intro s
      rw [hlast, valueOf?, Option.or_assoc]
    have hmax : ∀ v ∈ (valueOf? find layers .max).or (defaultOf? .max), Takes .max v := by
      intro v hv
      rw [default_max, Option.or_none] at hv
      exact takes_of_valueOf h hv
    obtain ⟨usual, hdefault, htakes, hswitch⟩ := defaults_hold.2.2
    have hcomplete : ∃ v, (valueOf? find layers .requireComplete).or
        (defaultOf? .requireComplete) = some v ∧ Takes .requireComplete v := by
      rw [Option.mem_def.mp hdefault]
      cases hv : valueOf? find layers .requireComplete with
      | none => exact ⟨usual, rfl, htakes⟩
      | some v => exact ⟨v, rfl, takes_of_valueOf h hv⟩
    have hload : load find layers = ofValue
        (kept.foldl (fun root (path, v) => path.set v root) root) := by
      simp only [load, hmerge]
      rfl
    rw [hload, ofValue_of_shows hview hmax hcomplete, resolved, default_max,
      Option.mem_def.mp hdefault, Option.or_none]
    cases hv : valueOf? find layers .requireComplete with
    | none => simp [hswitch]
    | some v => rfl

theorem isSome_missing_iff : (layers.findSome? (Layer.missing? find)).isSome = true ↔
    ∃ path, .file path true ∈ layers ∧ find path = none := by
  rw [List.isSome_findSome?, List.any_eq_true]
  constructor
  · rintro ⟨layer, hlayer, hmissing⟩
    unfold Layer.missing? at hmissing
    split at hmissing
    · rename_i path
      split at hmissing
      · rename_i hnone
        exact ⟨path, hlayer, Option.isNone_iff_eq_none.mp hnone⟩
      · cases hmissing
    · cases hmissing
  · rintro ⟨path, hlayer, hnone⟩
    exact ⟨_, hlayer, by simp [Layer.missing?, hnone]⟩

/-- What the layers come to depends on the files and on what is set to what, and on nothing else. -/
theorem load_congr {layers' : List Layer} (h : ∀ layer ∈ layers, layer.Usual find)
    (h' : ∀ layer ∈ layers', layer.Usual find)
    (hmissing : layers'.findSome? (Layer.missing? find) = layers.findSome? (Layer.missing? find))
    (hvalue : ∀ s, valueOf? find layers' s = valueOf? find layers s) :
    load find layers' = load find layers := by
  rw [load_of_usual h, load_of_usual h', hmissing, resolved, resolved, hvalue, hvalue]

section Moves

variable {before files after : List Layer} {key key' : String} {v v' : Value}

theorem perm_move (layer : Layer) : List.Perm (before ++ layer :: (files ++ after))
    (before ++ files ++ layer :: after) := by
  rw [List.append_assoc]
  exact List.perm_middle.symm.append_left before

theorem load_move (hfiles : ∀ layer ∈ files, ∃ path required, layer = .file path required)
    (h : ∀ layer ∈ before ++ files ++ .override key v :: after, layer.Usual find) :
    load find (before ++ .override key v :: (files ++ after)) =
      load find (before ++ files ++ .override key v :: after) := by
  have hnone : files.flatMap Layer.overrideSets = [] := by
    rw [List.flatMap_eq_nil_iff]
    intro layer hlayer
    obtain ⟨path, required, rfl⟩ := hfiles layer hlayer
    rfl
  refine load_congr h (fun layer hlayer => h layer ((perm_move _).mem_iff.mp hlayer)) ?_ ?_
  · simp [List.findSome?_append, List.findSome?_cons, Layer.missing?]
  · intro s
    simp [valueOf?, Layer.fileSets, Layer.overrideSets, hnone]

theorem load_absent {path : String} (hnone : find path = none)
    (h : ∀ layer ∈ before ++ after, layer.Usual find) :
    load find (before ++ .file path false :: after) = load find (before ++ after) := by
  have husual : ∀ layer ∈ before ++ .file path false :: after, layer.Usual find := by
    intro layer hlayer
    rcases List.mem_cons.mp (List.perm_middle.mem_iff.mp hlayer) with rfl | hlayer
    · exact .absent hnone
    · exact h layer hlayer
  refine load_congr h husual ?_ ?_
  · simp [List.findSome?_append, List.findSome?_cons, Layer.missing?]
  · intro s
    simp [valueOf?, Layer.fileSets, Layer.overrideSets, hnone]

theorem load_swap (hne : key ≠ key')
    (h : ∀ layer ∈ before ++ .override key v :: .override key' v' :: after, layer.Usual find) :
    load find (before ++ .override key' v' :: .override key v :: after) =
      load find (before ++ .override key v :: .override key' v' :: after) := by
  have hperm : List.Perm (before ++ .override key' v' :: .override key v :: after)
      (before ++ .override key v :: .override key' v' :: after) :=
    (List.Perm.swap _ _ after).append_left before
  refine load_congr h (fun layer hlayer => h layer (hperm.mem_iff.mp hlayer)) ?_ ?_
  · simp [List.findSome?_append, List.findSome?_cons, Layer.missing?]
  · intro s
    simp [valueOf?, Layer.fileSets, Layer.overrideSets, lastSet_swap hne]

end Moves

/-- Take layers that set the two settings and nothing else, in any order. Loading fails exactly if a
required file is missing; otherwise each setting has the value of its last override, else that of
the last file that sets it, else its default. An override may be given before or behind files, files
that are missing and not required make no difference, and overrides of different settings may be
given in either order. -/
theorem layers_resolve (h : ∀ layer ∈ layers, layer.Usual find) :
    ((∃ e, load find layers = .error e) ↔
      ∃ path, .file path true ∈ layers ∧ find path = none) ∧
    ((∀ path, .file path true ∈ layers → find path ≠ none) →
      load find layers = .ok (resolved find layers)) ∧
    (∀ before files after key v, (∀ layer ∈ files, ∃ path required, layer = .file path required) →
      layers = before ++ .override key v :: (files ++ after) ∨
        layers = before ++ files ++ .override key v :: after →
      load find (before ++ .override key v :: (files ++ after)) =
        load find (before ++ files ++ .override key v :: after)) ∧
    (∀ before after path, layers = before ++ after → find path = none →
      load find (before ++ .file path false :: after) = load find layers) ∧
    ∀ before after key key' v v', key ≠ key' →
      layers = before ++ .override key v :: .override key' v' :: after →
      load find (before ++ .override key' v' :: .override key v :: after) = load find layers := by
  have hload := load_of_usual h
  have hmissing : (layers.findSome? (Layer.missing? find)).isSome = true ↔ _ := isSome_missing_iff
  refine ⟨?_, ?_, ?_, ?_, ?_⟩
  · rw [← hmissing, hload]
    cases layers.findSome? (Layer.missing? find) <;> simp
  · intro hthere
    rw [hload]
    cases hfirst : layers.findSome? (Layer.missing? find) with
    | none => rfl
    | some path =>
      obtain ⟨path, hpath, hnone⟩ := hmissing.mp (by rw [hfirst]; rfl)
      exact absurd hnone (hthere path hpath)
  · rintro before files after key v hfiles (rfl | rfl)
    · exact load_move hfiles (fun layer hlayer => h layer ((perm_move _).mem_iff.mpr hlayer))
    · exact load_move hfiles h
  · rintro before after path rfl hnone
    exact load_absent hnone h
  · rintro before after key key' v v' hne rfl
    exact load_swap hne h

section Layered

/-- A file that sets both settings. -/
def layeredText : String := "[repetition]\nmax = 8\n\n[parse]\nrequire_complete = true\n"

/-- Of all files there is only this one. -/
def layeredLookup : Lookup := fun path =>
  if path = "engine.toml" then some (path, layeredText) else none

/-- An override, that file, and one that is not there. -/
def layered : List Layer := [.override "parse.require_complete" (.bool none false),
  .file "engine.toml" true, .file "local.toml" false]

theorem layered_usual : ∀ layer ∈ layered, layer.Usual layeredLookup := by
  have htables : ∃ entries, entries ∈ Toml.ofText? layeredText ∧
      ∀ entry ∈ ofTomlEntries (some "engine.toml") entries, TableOf entry := by
    decide +kernel
  obtain ⟨entries, hentries, htables⟩ := htables
  intro layer hlayer
  simp only [layered, List.mem_cons, List.not_mem_nil, or_false] at hlayer
  rcases hlayer with rfl | rfl | rfl
  · exact .override .requireComplete
  · exact .file rfl hentries htables
  · exact .absent rfl

/-- The override wins over the file behind it, which gives the other setting. -/
theorem layers_resolve_on_layered : load layeredLookup layered = .ok ⟨⟨some 8⟩, ⟨false⟩⟩ := by
  have hthere : ∀ path, .file path true ∈ layered → layeredLookup path ≠ none := by
    intro path hpath
    obtain rfl : path = "engine.toml" := by simpa [layered] using hpath
    exact Option.some_ne_none _
  have hresolved : resolved layeredLookup layered = ⟨⟨some 8⟩, ⟨false⟩⟩ := by
    decide +kernel
  rw [(layers_resolve layered_usual).2.1 hthere, hresolved]

end Layered

end TokenGrammar.Settings
