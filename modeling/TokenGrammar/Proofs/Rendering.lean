import TokenGrammar.Node.Document
import TokenGrammar.Proofs.JsonText

namespace TokenGrammar

namespace Json

mutual

/-- The values of all members called `key` at any depth, in the order of the text. -/
def valuesOf (key : String) : Json → List Json
  | .array items => itemValuesOf key items
  | .object members => memberValuesOf key members
  | .null | .bool _ | .integer _ | .float _ | .string _ => []

def itemValuesOf (key : String) : List Json → List Json
  | [] => []
  | v :: vs => valuesOf key v ++ itemValuesOf key vs

def memberValuesOf (key : String) : List (String × Json) → List Json
  | [] => []
  | (name, v) :: ms =>
    (if name = key then [v] else []) ++ valuesOf key v ++ memberValuesOf key ms

end

end Json

open Json

theorem Token.ofJson_toJson (t : Token) : Token.ofJson t.toJson = .ok t := rfl

theorem Token.numberless_toJson (t : Token) : t.toJson.Numberless :=
  .object (List.forall_mem_cons.mpr ⟨.string _, List.forall_mem_cons.mpr ⟨.string _, nofun⟩⟩)

theorem Token.toJson_inj {t t' : Token} (h : t.toJson = t'.toJson) : t = t' := by
  have := congrArg Token.ofJson h
  rw [ofJson_toJson, ofJson_toJson] at this
  exact Except.ok.inj this

namespace Node

theorem numberless_production {rule : String} {isGroup : Bool} {contents : List Json}
    (h : ∀ v ∈ contents, v.Numberless) : (productionJson rule isGroup contents).Numberless :=
  .object (List.forall_mem_cons.mpr ⟨.string rule, List.forall_mem_cons.mpr ⟨.bool isGroup,
    List.forall_mem_cons.mpr ⟨.array h, nofun⟩⟩⟩)

mutual

theorem numberless_toJson : (node : Node) → node.toJson.Numberless
  | .terminal t => .object (List.forall_mem_cons.mpr
    ⟨.string terminalRule, List.forall_mem_cons.mpr ⟨t.numberless_toJson, nofun⟩⟩)
  | .named _ cs | .anonymous _ cs => numberless_production (numberless_toJsonAll cs)

theorem numberless_toJsonAll : (nodes : List Node) → ∀ v ∈ toJsonAll nodes, v.Numberless
  | [] => nofun
  | node :: nodes => List.forall_mem_cons.mpr ⟨numberless_toJson node, numberless_toJsonAll nodes⟩

end

theorem productionJson_inj {rule rule' : String} {isGroup isGroup' : Bool}
    {contents contents' : List Json}
    (h : productionJson rule isGroup contents = productionJson rule' isGroup' contents') :
    rule = rule' ∧ isGroup = isGroup' ∧ contents = contents' := by
  simpa [productionJson] using h

/-- A production has no member called "token", and a terminal has one. So not even a production that
is named like a terminal looks like one. -/
theorem production_ne_terminal (rule : String) (isGroup : Bool) (contents : List Json) (t : Token) :
    productionJson rule isGroup contents ≠ (Node.terminal t).toJson := by
  simp [productionJson, toJson]

mutual

/-- Different trees have different values. -/
theorem toJson_inj : {a b : Node} → a.toJson = b.toJson → a = b
  | .terminal t, .terminal t', h => by
    have htoken : t.toJson = t'.toJson := by simpa [toJson] using h
    rw [Token.toJson_inj htoken]
  | .named _ cs, .named _ cs', h => by
    obtain ⟨rfl, _, hcontents⟩ := productionJson_inj h
    rw [toJsonAll_inj hcontents]
  | .anonymous _ cs, .anonymous _ cs', h => by
    obtain ⟨rfl, _, hcontents⟩ := productionJson_inj h
    rw [toJsonAll_inj hcontents]
  | .named _ _, .anonymous _ _, h | .anonymous _ _, .named _ _, h =>
    nomatch (productionJson_inj h).2.1
  | .named _ _, .terminal _, h | .anonymous _ _, .terminal _, h =>
    absurd h (production_ne_terminal _ _ _ _)
  | .terminal _, .named _ _, h | .terminal _, .anonymous _ _, h =>
    absurd h.symm (production_ne_terminal _ _ _ _)

theorem toJsonAll_inj : {as bs : List Node} → toJsonAll as = toJsonAll bs → as = bs
  | [], [], _ => rfl
  | a :: as, b :: bs, h => by
    rw [toJson_inj (List.cons.inj h).1, toJsonAll_inj (List.cons.inj h).2]
  | [], _ :: _, h | _ :: _, [], h => nomatch h

end

mutual

theorem valuesOf_toJson : (node : Node) →
    valuesOf "token" node.toJson = node.terminals.map Token.toJson
  | .terminal t => rfl
  | .named _ cs | .anonymous _ cs => by
    have hcontents (rule : String) (isGroup : Bool) : valuesOf "token"
        (productionJson rule isGroup (toJsonAll cs)) = itemValuesOf "token" (toJsonAll cs) := by
      simp [productionJson, valuesOf, memberValuesOf]
    exact (hcontents _ _).trans (itemValuesOf_toJsonAll cs)

theorem itemValuesOf_toJsonAll : (nodes : List Node) →
    itemValuesOf "token" (toJsonAll nodes) = (terminalsAll nodes).map Token.toJson
  | [] => rfl
  | node :: nodes => by
    rw [toJsonAll, itemValuesOf, terminalsAll, List.map_append, valuesOf_toJson node,
      itemValuesOf_toJsonAll nodes]

end

/-- The indented text of a tree is read back as the value that the tree was written as. No other
tree has that text. The tokens in the value, from the front of the text on, are taken for just the
tokens of the terminals. -/
theorem toJsonText_faithful (node : Node) :
    Json.ofText? node.toJsonText = some node.toJson ∧
    (∀ other : Node, other.toJsonText = node.toJsonText ↔ other = node) ∧
    (node.toJson.valuesOf "token").map Token.ofJson = node.terminals.map .ok := by
  have hread (node : Node) : Json.ofText? node.toJsonText = some node.toJson :=
    ofText_pretty node.numberless_toJson
  refine ⟨hread node, ?_, ?_⟩
  · intro other
    constructor
    · intro h
      have hvalue := hread other
      rw [h, hread node] at hvalue
      exact toJson_inj (Option.some.inj hvalue).symm
    · rintro rfl
      rfl
  · rw [valuesOf_toJson, List.map_map]
    exact List.map_congr_left (fun t _ => t.ofJson_toJson)

end Node

section Lookalikes

/-- A production that is named like a terminal, around text that looks like structure. -/
def lookalike : Node :=
  .named Node.terminalRule [.anonymous "\"],\n\x7b" [], .terminal ⟨"a\\", "\"\x01\x7d"⟩,
    .named "" [.terminal ⟨"token", "]"⟩]]

theorem toJsonText_faithful_on_lookalike :
    Json.ofText? lookalike.toJsonText = some lookalike.toJson ∧
    lookalike.toJsonText ≠ (Node.anonymous Node.terminalRule lookalike.contents).toJsonText ∧
    (lookalike.toJson.valuesOf "token").map Token.ofJson =
      [.ok ⟨"a\\", "\"\x01\x7d"⟩, .ok ⟨"token", "]"⟩] := by
  obtain ⟨hread, honly, htokens⟩ := lookalike.toJsonText_faithful
  refine ⟨hread, ?_, htokens⟩
  intro h
  cases (honly _).mp h.symm

end Lookalikes

end TokenGrammar
