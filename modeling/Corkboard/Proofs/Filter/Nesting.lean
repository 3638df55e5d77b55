-- SUMMARY: A filter tree is read back from its text exactly if the text is not nested too deeply.
import Corkboard.Command.Reader
import Corkboard.Filter.Tree
import Corkboard.Proofs.Json.Decoder

/-!
# Filter trees, written and read back

A node is written with its kind among its fields, so its reader first takes the kind out again.
The nesting of the text is counted on the tree: each group adds an object and an array. The reader
refuses a tree with more nesting than the limit, and gives back every other one.
-/

namespace Corkboard.Filter

/-! ## Nesting of the written form -/

mutual
/-- How many arrays and objects stand around the innermost value of a written node. -/
def Node.nesting : Node → Nat
  | clause _ => 2
  | group _ nodes => Node.listNesting nodes + 2

/-- The largest nesting of the nodes. -/
def Node.listNesting : List Node → Nat
  | [] => 0
  | node :: rest => max node.nesting (Node.listNesting rest)
end

/-- How many arrays and objects stand around the innermost value of a written filter. -/
def Group.nesting (g : Group) : Nat := Node.listNesting g.nodes + 2

theorem Node.listNesting_le_iff {nodes : List Node} {n : Nat} :
    Node.listNesting nodes ≤ n ↔ ∀ node ∈ nodes, node.nesting ≤ n := by
  induction nodes with
  | nil => simp [Node.listNesting]
  | cons node rest ih => rw [Node.listNesting, Nat.max_le, ih, List.forall_mem_cons]

theorem Node.listToJson_eq_map (nodes : List Node) :
    Node.listToJson nodes = nodes.map Node.toJson := by
  induction nodes with
  | nil => rfl
  | cons node rest ih => rw [Node.listToJson, ih, List.map_cons]

theorem Clause.depth_fields (c : Clause) :
    Json.depthEntries (Json.presentEntries Clause.fieldNames c.fields) = 1 := by
  have hvalues : Json.depthItems (c.values.map .string) = 0 := by
    induction c.values with
    | nil => rfl
    | cons s rest ih => simpa [Json.depthItems, Json.depth] using ih
  simp [fieldNames, fields, Json.presentEntries, Json.depthEntries, Json.depth, Json.ofList,
    Condition.toJson, hvalues]

theorem Node.depthItems_listToJson {nodes : List Node}
    (h : ∀ node ∈ nodes, node.toJson.depth = node.nesting) :
    Json.depthItems (Node.listToJson nodes) = Node.listNesting nodes := by
  induction nodes with
  | nil => rfl
  | cons node rest ih =>
    obtain ⟨hnode, hrest⟩ := List.forall_mem_cons.1 h
    rw [Node.listToJson, Json.depthItems, hnode, ih hrest, Node.listNesting]

/-- The nesting of a node is the depth of its tree. -/
theorem Node.depth_toJson (node : Node) : node.toJson.depth = node.nesting := by
  induction node using Node.inductionOn with
  | clause c =>
    have hfields := Clause.depth_fields c
    simp [Node.toJson, Json.ofFields, Json.presentEntries, Json.depth, Json.depthEntries, hfields,
      Node.nesting]
  | group operation nodes ih =>
    have hnodes := Node.depthItems_listToJson ih
    simp [Node.toJson, Json.ofFields, Json.presentEntries, Json.depth, Json.depthEntries,
      Group.fieldNames, Operation.toJson, hnodes, Node.nesting]

theorem Group.depth_toJson (g : Group) : g.toJson.depth = g.nesting := by
  have hnodes := Node.depthItems_listToJson fun node (_ : node ∈ g.nodes) => node.depth_toJson
  simp [Group.toJson, Json.ofFields, Json.presentEntries, Json.depth, Json.depthEntries,
    Group.fieldNames, Operation.toJson, hnodes, Group.nesting]

/-! ## Reading a node -/

theorem Clause.plain_fields (c : Clause) : ∀ field ∈ c.fields, Decoder.PlainField field := by
  simp [fields, Condition.toJson, (Decoder.restores_texts c.values).plain]

theorem Node.plain_listToJson {nodes : List Node} (h : ∀ node ∈ nodes, node.toJson.Plain) :
    (Json.array (Node.listToJson nodes)).Plain := by
  refine .array fun value hvalue => ?_
  rw [Node.listToJson_eq_map] at hvalue
  obtain ⟨node, hnode, rfl⟩ := List.mem_map.1 hvalue
  exact h node hnode

theorem Node.plain_toJson (node : Node) : node.toJson.Plain := by
  induction node using Node.inductionOn with
  | clause c =>
    refine Decoder.plain_ofFields _ (List.forall_mem_cons.2 ⟨?_, c.plain_fields⟩)
    simp
  | group operation nodes ih =>
    refine Decoder.plain_ofFields _ ?_
    simp [Operation.toJson, Node.plain_listToJson ih]

theorem Group.plain_toJson (g : Group) : g.toJson.Plain := by
  have hnodes := Node.plain_listToJson fun node (_ : node ∈ g.nodes) => node.plain_toJson
  refine Decoder.plain_ofFields _ ?_
  simp [Operation.toJson, hnodes]

@[simp] theorem loosely_string {α : Type} (ofName? : String → Option α) (n : Nat) (name : String) :
    loosely ofName? n (.string name) = ofName? name := rfl

theorem Clause.ofFields_fields {condition : Decoder Condition} {c : Clause} {n : Nat} (hn : 1 ≤ n)
    (hcondition : condition n c.condition.toJson = some c.condition) :
    Clause.ofFields condition n c.fields = some c := by
  have hvalues := (Decoder.restores_texts c.values).reads n hn
  simp [Clause.ofFields, fields, hcondition, hvalues]

/-- The kind of a written node is taken out, and its own record is left. -/
theorem splitKind?_clause (inner : Bool) (c : Clause) :
    splitKind? inner (Node.clause c).toJson = some (false, c.toJson) := by
  simp [Node.toJson, Json.ofFields, Json.presentEntries, Clause.fieldNames, Clause.fields,
    splitKind?, isGroup?, Clause.toJson]

theorem splitKind?_group (inner : Bool) (operation : Operation) (nodes : List Node) :
    splitKind? inner (Node.group operation nodes).toJson =
      some (true, Group.toJson ⟨operation, nodes⟩) := by
  simp [Node.toJson, Json.ofFields, Json.presentEntries, Group.fieldNames,
    splitKind?, isGroup?, Group.toJson]

theorem mapM_listToJson {decode : Json → Option Node} {nodes : List Node}
    (h : ∀ node ∈ nodes, decode node.toJson = some node) :
    (Node.listToJson nodes).mapM decode = some nodes := by
  induction nodes with
  | nil => rfl
  | cons node rest ih =>
    obtain ⟨hnode, hrest⟩ := List.forall_mem_cons.1 h
    simp [Node.listToJson, hnode, ih hrest]

/-- A node is read back if its nesting is within the limit. -/
theorem Node.decode_toJson (node : Node) {inner : Bool} {n : Nat} (hn : node.nesting ≤ n) :
    Node.decode inner n node.toJson = some node := by
  induction node using Node.inductionOn generalizing inner n with
  | clause c =>
    rw [Node.nesting] at hn
    obtain ⟨m, rfl⟩ := Nat.exists_eq_add_of_le' hn
    have hrecord : Decoder.fields? Clause.fieldNames c.toJson = some c.fields :=
      Decoder.fields?_ofFields (by decide) rfl
    have hclause : Clause.ofFields (loosely Condition.ofName?) (m + 1) c.fields = some c :=
      Clause.ofFields_fields (by omega) (by simp [Condition.toJson])
    simp [Node.decode, Node.ofRecord, splitKind?_clause, hrecord, hclause]
  | group operation nodes ih =>
    rw [Node.nesting] at hn
    obtain ⟨m, rfl⟩ := Nat.exists_eq_add_of_le' (Nat.le_of_add_left_le hn)
    have hnodes : (Node.listToJson nodes).mapM (Node.decode true m) = some nodes :=
      mapM_listToJson fun node hnode => ih node hnode
        (Node.listNesting_le_iff.1 (by omega) node hnode)
    have hrecord : Decoder.fields? Group.fieldNames (Group.toJson ⟨operation, nodes⟩) =
        some [some operation.toJson, some (.array (Node.listToJson nodes))] :=
      Decoder.fields?_ofFields (by decide) rfl
    simp [Node.decode, Node.ofRecord, splitKind?_group, hrecord, Group.ofFields, Operation.toJson,
      hnodes, Group.toNode]

/-! ## Reading a filter -/

theorem Node.ofJson_toJson (node : Node) (n : Nat) :
    Node.ofJson n node.toJson = if node.nesting ≤ n then some node else none := by
  rw [Node.ofJson, node.plain_toJson.usable, node.depth_toJson]
  by_cases hn : node.nesting ≤ n
  · simp [hn, node.decode_toJson hn]
  · simp [hn]

/-- A list of nodes is refused as soon as one of them is. -/
theorem Node.mapM_ofJson_listToJson (nodes : List Node) (n : Nat) :
    (Node.listToJson nodes).mapM (Node.ofJson n) =
      if Node.listNesting nodes ≤ n then some nodes else none := by
  induction nodes with
  | nil => rfl
  | cons node rest ih =>
    have hnesting : Node.listNesting (node :: rest) ≤ n ↔
        node.nesting ≤ n ∧ Node.listNesting rest ≤ n := by
      rw [Node.listNesting, Nat.max_le]
    rw [Node.listToJson, List.mapM_cons, ih, Node.ofJson_toJson]
    by_cases hnode : node.nesting ≤ n
    · by_cases hrest : Node.listNesting rest ≤ n
      · simp [hnesting, hnode, hrest]
      · simp only [hnesting, hnode, hrest]
        rfl
    · simp only [hnesting, hnode]
      rfl

/-- The object and the array of the filter itself are entered first. -/
theorem Group.ofJson_toJson (g : Group) (n : Nat) :
    Group.ofJson n g.toJson = if g.nesting ≤ n then some g else none := by
  have hrecord : Decoder.fields? fieldNames g.toJson =
      some [some g.operation.toJson, some (.array (Node.listToJson g.nodes))] :=
    Decoder.fields?_ofFields (by decide) rfl
  match n with
  | 0 => rfl
  | 1 => simp [Group.ofJson, Decoder.record, hrecord, Group.ofFields, Operation.toJson,
      Decoder.list, Group.nesting]
  | n + 2 =>
    simp only [Group.ofJson, Decoder.record, hrecord, Group.ofFields, Operation.toJson,
      Decoder.list, Group.nesting, Option.bind_eq_bind, Option.bind_some, Decoder.required_some,
      Decoder.named_string, Operation.ofName?_name, Decoder.orDefault_some,
      Node.mapM_ofJson_listToJson, Nat.add_le_add_iff_right]
    split <;> rfl

/-- A filter is read back as it was if its text is nested 127 levels deep at most, and is refused
    otherwise. Therefore it is never read back as another filter. -/
theorem group_restored_iff_nesting (g : Group) :
    g.toJson.depth = g.nesting ∧
      Group.ofJson.ofText? g.toJson.compact = (if g.nesting ≤ 127 then some g else none) ∧
      ∀ (words : ParserWords) (path : String),
        FileReader.record ⟨fun _ => .ok g.toJson.compact, words⟩ Group.ofJson path =
          if g.nesting ≤ 127 then .ok g
          else .error (.malformed ⟨path, words Group Group.ofJson g.toJson.compact⟩) := by
  have hread : Group.ofJson.ofText? g.toJson.compact =
      if g.nesting ≤ 127 then some g else none := by
    rw [Decoder.ofText?_compact _ g.plain_toJson]
    exact g.ofJson_toJson nestingLimit
  refine ⟨g.depth_toJson, hread, fun words path => ?_⟩
  rw [FileReader.record_of_text ⟨fun _ => .ok g.toJson.compact, words⟩ Group.ofJson rfl, hread]
  by_cases hnesting : g.nesting ≤ 127
  · simp [hnesting]
  · simp [hnesting]

end Corkboard.Filter
