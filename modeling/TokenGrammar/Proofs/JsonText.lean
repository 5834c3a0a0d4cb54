import TokenGrammar.Json.Printer
import TokenGrammar.Json.Reader

namespace TokenGrammar.Json

/-- There is no number in the value. Some floats are read back as their neighbours. -/
inductive Numberless : Json → Prop where
  | null : Numberless .null
  | bool b : Numberless (.bool b)
  | string s : Numberless (.string s)
  | array {items} : (∀ v ∈ items, Numberless v) → Numberless (.array items)
  | object {members} : (∀ m ∈ members, Numberless m.2) → Numberless (.object members)

section Blanks

theorem skipBlanks_cons {c : Char} (h : isBlank c = false) (cs : List Char) :
    skipBlanks (c :: cs) = c :: cs := List.dropWhile_cons_of_neg (by simp [h])

theorem skipBlanks_blank {c : Char} (h : isBlank c = true) (cs : List Char) :
    skipBlanks (c :: cs) = skipBlanks cs := List.dropWhile_cons_of_pos h

theorem skipBlanks_break (level : Nat) (rest : List Char) :
    skipBlanks (breakOnto level rest) = skipBlanks rest := by
  rw [breakOnto, skipBlanks_blank rfl]
  apply List.dropWhile_append_of_pos
  intro c hc
  rw [List.eq_of_mem_replicate hc]
  rfl

end Blanks

theorem encode_append (text rest : List Char) :
    Quoted.encode text [] ++ rest = Quoted.encode text rest := by
  induction text with
  | nil => rfl
  | cons c cs ih => rw [Quoted.encode, List.append_assoc, ih, Quoted.encode]

theorem prettyOnto_string (level : Nat) (rest : List Char) (s : String) :
    prettyOnto level rest (.string s) = quoteOnto s rest := by
  simp only [prettyOnto, leafText, quoteOnto, List.cons_append, encode_append]

/-- The text of a member. -/
def memberOnto (level : Nat) (rest : List Char) (m : String × Json) : List Char :=
  quoteOnto m.1 (':' :: ' ' :: prettyOnto level rest m.2)

theorem prettyMembers_cons (level : Nat) (rest : List Char) (m : String × Json)
    (members : List (String × Json)) :
    prettyMembers level rest (m :: members) = ',' :: breakOnto (level + 1)
      (memberOnto (level + 1) (prettyMembers level rest members) m) := rfl

theorem prettyOnto_object_cons (level : Nat) (rest : List Char) (m : String × Json)
    (members : List (String × Json)) :
    prettyOnto level rest (.object (m :: members)) = '\x7b' :: breakOnto (level + 1)
      (memberOnto (level + 1) (prettyMembers level rest members) m) := rfl

section Suffixes

theorem suffix_quote (s : String) (rest : List Char) : rest <:+ quoteOnto s rest :=
  ⟨'"' :: Quoted.encode s.toList [], by rw [List.cons_append, encode_append, quoteOnto]⟩

theorem suffix_break (level : Nat) (rest : List Char) : rest <:+ breakOnto level rest :=
  (List.suffix_append _ _).trans (List.suffix_cons _ _)

theorem suffix_line (c : Char) (level : Nat) {text rest : List Char} (h : rest <:+ text) :
    rest <:+ c :: breakOnto level text :=
  h.trans ((suffix_break _ _).trans (List.suffix_cons _ _))

mutual

/-- A value is printed in front of the text that follows. -/
theorem suffix_pretty (level : Nat) (rest : List Char) :
    (v : Json) → rest <:+ prettyOnto level rest v
  | .array [] | .object [] => (List.suffix_cons _ _).trans (List.suffix_cons _ _)
  | .array (v :: vs) =>
    suffix_line _ _ ((suffix_prettyItems level rest vs).trans (suffix_pretty _ _ v))
  | .object (m :: ms) =>
    suffix_line _ _ ((suffix_prettyMembers level rest ms).trans (suffix_member _ _ m))
  | .null | .bool _ | .integer _ | .float _ | .string _ => List.suffix_append _ _

theorem suffix_prettyItems (level : Nat) (rest : List Char) :
    (vs : List Json) → rest <:+ prettyItems level rest vs
  | [] => (List.suffix_cons _ _).trans (suffix_break _ _)
  | v :: vs => suffix_line _ _ ((suffix_prettyItems level rest vs).trans (suffix_pretty _ _ v))

theorem suffix_prettyMembers (level : Nat) (rest : List Char) :
    (ms : List (String × Json)) → rest <:+ prettyMembers level rest ms
  | [] => (List.suffix_cons _ _).trans (suffix_break _ _)
  | m :: ms => suffix_line _ _ ((suffix_prettyMembers level rest ms).trans (suffix_member _ _ m))

theorem suffix_member (level : Nat) (rest : List Char) :
    (m : String × Json) → rest <:+ memberOnto level rest m
  | (_, v) => (suffix_pretty level rest v).trans
    (((List.suffix_cons _ _).trans (List.suffix_cons _ _)).trans (suffix_quote _ _))

end

end Suffixes

variable {v : Json} {level fuel : Nat} {rest cs : List Char}

/-- The text of a value starts with neither a blank nor a closing bracket. -/
theorem Numberless.head (h : v.Numberless) (level : Nat) (rest : List Char) :
    ∃ c cs, prettyOnto level rest v = c :: cs ∧ isBlank c = false ∧ c ≠ ']' := by
  cases h with
  | null => exact ⟨_, _, rfl, rfl, by decide⟩
  | bool b => cases b <;> exact ⟨_, _, rfl, rfl, by decide⟩
  | string s => exact ⟨_, _, rfl, rfl, by decide⟩
  | @array items => cases items <;> exact ⟨_, _, rfl, rfl, by decide⟩
  | @object members => cases members <;> exact ⟨_, _, rfl, rfl, by decide⟩

theorem Numberless.skipBlanks_pretty (h : v.Numberless) (level : Nat) (rest : List Char) :
    skipBlanks (prettyOnto level rest v) = prettyOnto level rest v := by
  obtain ⟨c, cs, he, hblank, _⟩ := h.head level rest
  rw [he, skipBlanks_cons hblank]

/-- The reader takes the value from the front of its text, if it has as much fuel as the text is
long. It skips the blanks that lay the text out, and knows from the text alone where the value ends,
whatever stands in its strings. -/
def ReadsBack (v : Json) : Prop :=
  ∀ level rest cs fuel, skipBlanks cs = skipBlanks (prettyOnto level rest v) →
    (prettyOnto level rest v).length ≤ fuel → readValue fuel cs = some (v, rest)

theorem readItems_pretty {items : List Json} (h : ∀ v ∈ items, v.ReadsBack)
    (hfuel : (prettyItems level rest items).length ≤ fuel) :
    readItems fuel (prettyItems level rest items) = some (items, rest) := by
  induction items generalizing fuel with
  | nil =>
    cases fuel with
    | zero => simp [prettyItems, breakOnto] at hfuel
    | succ fuel =>
      rw [readItems, prettyItems, skipBlanks_break, skipBlanks_cons rfl]
      rfl
  | cons v items ih =>
    obtain ⟨hv, hitems⟩ := List.forall_mem_cons.mp h
    cases fuel with
    | zero => simp [prettyItems] at hfuel
    | succ fuel =>
      rw [prettyItems, List.length_cons, Nat.add_le_add_iff_right] at hfuel
      have hvalue := Nat.le_trans (suffix_break (level + 1) _).length_le hfuel
      have hrest := Nat.le_trans (suffix_pretty (level + 1) _ v).length_le hvalue
      rw [readItems, prettyItems, skipBlanks_cons rfl]
      simp only [hv _ _ _ _ (skipBlanks_break _ _) hvalue, ih hitems hrest, bind, Option.bind, pure]

theorem readMember_pretty {m : String × Json} (h : m.2.ReadsBack)
    (hcs : skipBlanks cs = skipBlanks (memberOnto level rest m))
    (hfuel : (memberOnto level rest m).length ≤ fuel) :
    readMember fuel cs = some (m, rest) := by
  cases fuel with
  | zero => simp [memberOnto, quoteOnto] at hfuel
  | succ fuel =>
    have hvalue : readValue fuel (' ' :: prettyOnto level rest m.2) = some (m.2, rest) := by
      apply h _ _ _ _ (skipBlanks_blank rfl _)
      have hlen := (suffix_quote m.1 (':' :: ' ' :: prettyOnto level rest m.2)).length_le
      rw [memberOnto] at hfuel
      simp only [List.length_cons] at hlen
      omega
    rw [readMember, hcs, memberOnto, quoteOnto, skipBlanks_cons rfl]
    have hcolon := skipBlanks_cons (show isBlank ':' = false from rfl)
      (' ' :: prettyOnto level rest m.2)
    simp only [Quoted.decode_encode, bind, Option.bind, hcolon, hvalue, pure, String.ofList_toList]

theorem readMembers_pretty {members : List (String × Json)} (h : ∀ m ∈ members, m.2.ReadsBack)
    (hfuel : (prettyMembers level rest members).length ≤ fuel) :
    readMembers fuel (prettyMembers level rest members) = some (members, rest) := by
  induction members generalizing fuel with
  | nil =>
    cases fuel with
    | zero => simp [prettyMembers, breakOnto] at hfuel
    | succ fuel =>
      rw [readMembers, prettyMembers, skipBlanks_break, skipBlanks_cons rfl]
      rfl
  | cons m members ih =>
    obtain ⟨hm, hmembers⟩ := List.forall_mem_cons.mp h
    rw [prettyMembers_cons] at hfuel ⊢
    cases fuel with
    | zero => simp at hfuel
    | succ fuel =>
      rw [List.length_cons, Nat.add_le_add_iff_right] at hfuel
      have hmember := Nat.le_trans (suffix_break (level + 1) _).length_le hfuel
      have hrest := Nat.le_trans (suffix_member (level + 1) _ m).length_le hmember
      rw [readMembers, skipBlanks_cons rfl]
      simp only [readMember_pretty hm (skipBlanks_break _ _) hmember, ih hmembers hrest, bind,
        Option.bind, pure]

/-- An array that does not end at once is read item by item. -/
theorem readValue_array {text : List Char} (hcs : skipBlanks cs = '[' :: text) {c : Char}
    {more : List Char} (htext : skipBlanks text = c :: more) (hc : c ≠ ']') :
    readValue (fuel + 1) cs = (do
      let (v, rest) ← readValue fuel (c :: more)
      let (vs, rest) ← readItems fuel rest
      return (.array (v :: vs), rest)) := by
  rw [readValue, hcs]
  simp only [htext]
  split
  · rename_i he
    exact absurd (List.cons.inj he).1 hc
  · rfl

/-- An object whose first member follows is read member by member. -/
theorem readValue_object {text more : List Char} (hcs : skipBlanks cs = '\x7b' :: text)
    (htext : skipBlanks text = '"' :: more) :
    readValue (fuel + 1) cs = (do
      let (m, rest) ← readMember fuel ('"' :: more)
      let (ms, rest) ← readMembers fuel rest
      return (.object (m :: ms), rest)) := by
  rw [readValue, hcs]
  simp only [htext]
  rfl

/-- Some fuel there is, as no text is empty. -/
theorem ReadsBack.of_succ (hn : v.Numberless) (h : ∀ level rest cs fuel,
    skipBlanks cs = prettyOnto level rest v → (prettyOnto level rest v).length ≤ fuel + 1 →
      readValue (fuel + 1) cs = some (v, rest)) : v.ReadsBack := by
  intro level rest cs fuel hcs hfuel
  rw [hn.skipBlanks_pretty] at hcs
  cases fuel with
  | zero =>
    obtain ⟨c, cs, he, _⟩ := hn.head level rest
    simp [he] at hfuel
  | succ fuel => exact h level rest cs fuel hcs hfuel

theorem readsBack_array {items : List Json} (hn : ∀ v ∈ items, v.Numberless)
    (hr : ∀ v ∈ items, v.ReadsBack) : (Json.array items).ReadsBack := by
  refine .of_succ (.array hn) ?_
  intro level rest cs fuel hcs hfuel
  cases items with
  | nil =>
    rw [readValue, hcs, prettyOnto]
    rfl
  | cons v items =>
    obtain ⟨hnv, hn⟩ := List.forall_mem_cons.mp hn
    obtain ⟨hrv, hr⟩ := List.forall_mem_cons.mp hr
    rw [prettyOnto] at hcs hfuel
    rw [List.length_cons, Nat.add_le_add_iff_right] at hfuel
    have hvalue := Nat.le_trans (suffix_break (level + 1) _).length_le hfuel
    have hrest := Nat.le_trans (suffix_pretty (level + 1) _ v).length_le hvalue
    obtain ⟨c, more, he, hblank, hc⟩ := hnv.head (level + 1) (prettyItems level rest items)
    have htext := skipBlanks_break (level + 1) (prettyOnto (level + 1)
      (prettyItems level rest items) v)
    rw [hnv.skipBlanks_pretty, he] at htext
    rw [readValue_array (he ▸ hcs) htext hc, ← he]
    simp only [hrv _ _ _ _ rfl hvalue, readItems_pretty hr hrest, bind, Option.bind, pure]

theorem readsBack_object {members : List (String × Json)} (hn : ∀ m ∈ members, m.2.Numberless)
    (hr : ∀ m ∈ members, m.2.ReadsBack) : (Json.object members).ReadsBack := by
  refine .of_succ (.object hn) ?_
  intro level rest cs fuel hcs hfuel
  cases members with
  | nil =>
    rw [readValue, hcs, prettyOnto]
    rfl
  | cons m members =>
    obtain ⟨hrm, hr⟩ := List.forall_mem_cons.mp hr
    rw [prettyOnto_object_cons] at hcs hfuel
    rw [List.length_cons, Nat.add_le_add_iff_right] at hfuel
    have hmember := Nat.le_trans (suffix_break (level + 1) _).length_le hfuel
    have hrest := Nat.le_trans (suffix_member (level + 1) _ m).length_le hmember
    have htext : skipBlanks (breakOnto (level + 1)
        (memberOnto (level + 1) (prettyMembers level rest members) m)) = _ :=
      (skipBlanks_break _ _).trans (skipBlanks_cons rfl _)
    have hm := readMember_pretty hrm (skipBlanks_cons rfl _) hmember
    rw [readValue_object hcs htext]
    simp only [hm, readMembers_pretty hr hrest, bind, Option.bind, pure]

/-- What is printed is read back. -/
theorem Numberless.readsBack (h : v.Numberless) : v.ReadsBack := by
  induction h with
  | null =>
    refine .of_succ .null ?_
    intro level rest cs fuel hcs hfuel
    rw [readValue, hcs]
    rfl
  | bool b =>
    refine .of_succ (.bool b) ?_
    intro level rest cs fuel hcs hfuel
    rw [readValue, hcs]
    cases b <;> rfl
  | string s =>
    refine .of_succ (.string s) ?_
    intro level rest cs fuel hcs hfuel
    rw [readValue, hcs, prettyOnto_string, quoteOnto]
    simp only [Quoted.decode_encode, bind, Option.bind, pure, String.ofList_toList]
  | array hn hr => exact readsBack_array hn hr
  | object hn hr => exact readsBack_object hn hr

/-- The reader gives back every value without numbers from its indented text. -/
theorem ofText_pretty (h : v.Numberless) : ofText? v.pretty = some v := by
  have hread : readValue (2 * (prettyOnto 0 [] v).length + 2) (prettyOnto 0 [] v) =
      some (v, []) := h.readsBack _ _ _ _ rfl (by omega)
  simp only [ofText?, pretty, String.toList_ofList, hread]
  rfl

end TokenGrammar.Json
