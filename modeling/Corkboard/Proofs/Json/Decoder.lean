-- SUMMARY: What is needed to read a record back: laws for single values, for lists and maps, and for the fields of a record.
import Corkboard.Proofs.Json.Compact

/-!
# Decoders, after writing

A written value has a nesting of its own, and it is read back when that many arrays and objects may
be entered, or more. A record is read back from its fields: its object gives every field its own
value again, so only the fields have to be looked at one by one.
-/

namespace Corkboard

open Json (Plain)

/-- Written as `value`, `a` is read back wherever `k` arrays and objects may be entered. -/
structure Decoder.Restores {α : Type} (decode : Decoder α) (k : Nat) (value : Json) (a : α) :
    Prop where
  plain : value.Plain
  reads : ∀ n, k ≤ n → decode n value = some a

namespace Decoder

variable {α : Type}

/-- A value that is not nested too deeply is read back from every text of its written form. -/
theorem Restores.ofText? {decode : Decoder α} {k : Nat} {value : Json} {a : α}
    (h : decode.Restores k value a) (hk : k ≤ nestingLimit) {text : String}
    (htext : Json.ofText? text = some value) : decode.ofText? text = some a :=
  Option.bind_eq_some_iff.2 ⟨value, htext, h.reads nestingLimit hk⟩

theorem Restores.ofText?_compact {decode : Decoder α} {k : Nat} {value : Json} {a : α}
    (h : decode.Restores k value a) (hk : k ≤ nestingLimit) :
    decode.ofText? value.compact = some a :=
  h.ofText? hk h.plain.ofText?_compact

/-! ## Values without parts -/

@[simp] theorem plain_string (s : String) : Plain (.string s) := .string s

@[simp] theorem plain_bool (b : Bool) : Plain (.bool b) := .bool b

@[simp] theorem plain_int64 (i : Int64) : Plain (.integer i.toInt) := by
  have hlow := i.le_toInt
  have hhigh := i.toInt_lt
  exact .integer (Json.Token.inRange_of_natAbs_lt (by omega))

@[simp] theorem plain_int32 (i : Int32) : Plain (.integer i.toInt) := by
  have hlow := i.le_toInt
  have hhigh := i.toInt_lt
  exact .integer (Json.Token.inRange_of_natAbs_lt (by omega))

theorem plain_nat64 {i : Nat} (hi : i < 0x10000000000000000) : Plain (.integer i) :=
  .integer (Json.Token.inRange_of_natAbs_lt (by omega))

@[simp] theorem string_string (n : Nat) (s : String) : string n (.string s) = some s := rfl

@[simp] theorem bool_bool (n : Nat) (b : Bool) : bool n (.bool b) = some b := rfl

@[simp] theorem int64_integer (n : Nat) (i : Int64) : int64 n (.integer i.toInt) = some i := by
  have hlow := i.le_toInt
  have hhigh := i.toInt_lt
  rw [int64, if_pos ⟨by omega, by omega⟩, Int64.ofInt_toInt]

@[simp] theorem int32_integer (n : Nat) (i : Int32) : int32 n (.integer i.toInt) = some i := by
  have hlow := i.le_toInt
  have hhigh := i.toInt_lt
  rw [int32, if_pos ⟨by omega, by omega⟩, Int32.ofInt_toInt]

theorem nat64_integer (n : Nat) {i : Nat} (hi : i < 0x10000000000000000) :
    nat64 n (.integer i) = some i := by
  rw [nat64, if_pos ⟨by omega, by omega⟩, Int.toNat_natCast]

@[simp] theorem named_string (ofName? : String → Option α) (n : Nat) (name : String) :
    named ofName? n (.string name) = ofName? name := rfl

theorem restores_string (s : String) : string.Restores 0 (.string s) s :=
  ⟨plain_string s, fun n _ => string_string n s⟩

/-! ## Lists and maps -/

theorem restores_list {item : Decoder α} {k : Nat} {write : α → Json} {items : List α}
    (h : ∀ a ∈ items, item.Restores k (write a) a) :
    (list item).Restores (k + 1) (.ofList write items) items where
  plain := by
    refine .array fun value hvalue => ?_
    obtain ⟨a, ha, rfl⟩ := List.mem_map.1 hvalue
    exact (h a ha).plain
  reads n hn := by
    cases n with
    | zero => omega
    | succ n =>
      show (items.map write).mapM (item n) = some items
      induction items with
      | nil => rfl
      | cons a rest ih =>
        obtain ⟨ha, hrest⟩ := List.forall_mem_cons.1 h
        simp [ha.reads n (by omega), ih hrest]

theorem restores_texts (items : List String) :
    (list string).Restores 1 (.ofList .string items) items :=
  restores_list fun s _ => restores_string s

/-- A map is written with its keys in order, and each key once. -/
theorem restores_keyMap {value : Decoder α} {k : Nat} {write : α → Json}
    (h : ∀ a, value.Restores k (write a) a) (m : KeyMap α) :
    (keyMap value).Restores (k + 1) (.ofKeyMap write m) m where
  plain := by
    refine .object fun e he => ?_
    obtain ⟨entry, -, rfl⟩ := List.mem_map.1 he
    exact (h entry.2).plain
  reads n hn := by
    cases n with
    | zero => omega
    | succ n =>
      have hentries (entries : List (String × α)) :
          (entries.map fun e => (e.1, write e.2)).mapM
            (fun e : String × Json => (value n e.2).map (e.1, ·)) = some entries := by
        induction entries with
        | nil => rfl
        | cons e rest ih => simp [(h e.2).reads n (by omega), ih]
      have hsame : KeyMap.ofList m.entries = m := KeyMap.ext_get? fun key => by
        rw [KeyMap.get?_ofList, KeyMap.lookup_reverse_entries]
      calc
        keyMap value (n + 1) (.ofKeyMap write m)
        _ = (some m.entries).map KeyMap.ofList :=
          congrArg (Option.map KeyMap.ofList) (hentries m.entries)
        _ = some m := congrArg some hsame

/-! ## Fields -/

@[simp] theorem required_some (decode : Decoder α) (n : Nat) (value : Json) :
    decode.required n (some value) = decode n value := rfl

@[simp] theorem orDefault_some (decode : Decoder α) (default : α) (n : Nat) (value : Json) :
    decode.orDefault default n (some value) = decode n value := rfl

/-- A field that may be absent is left out when it is, and null is no written form. -/
theorem optional_map {decode : Decoder α} {n : Nat} {write : α → Json} {field : Option α}
    (h : ∀ a ∈ field, decode n (write a) = some a) (hnull : ∀ a, write a ≠ .null) :
    decode.optional n (field.map write) = some field := by
  cases field with
  | none => rfl
  | some a =>
    have hread := h a rfl
    have hwritten := hnull a
    rw [Option.map_some]
    cases hwrite : write a with
    | null => exact absurd hwrite hwritten
    | _ => simp [Decoder.optional, ← hwrite, hread]

@[simp] theorem optional_string (n : Nat) (field : Option String) :
    string.optional n (field.map .string) = some field :=
  optional_map (fun _ _ => rfl) (by simp)

@[simp] theorem optional_bool (n : Nat) (field : Option Bool) :
    bool.optional n (field.map .bool) = some field :=
  optional_map (fun _ _ => rfl) (by simp)

@[simp] theorem optional_int64 (n : Nat) (field : Option Int64) :
    int64.optional n (field.map fun i => .integer i.toInt) = some field :=
  optional_map (by simp) (by simp)

@[simp] theorem optional_int32 (n : Nat) (field : Option Int32) :
    int32.optional n (field.map fun i => .integer i.toInt) = some field :=
  optional_map (by simp) (by simp)

/-- What stands in the field is plain, if anything does. -/
def PlainField (field : Option Json) : Prop := ∀ value ∈ field, value.Plain

@[simp] theorem plainField_some (value : Json) : PlainField (some value) ↔ value.Plain := by
  simp [PlainField]

@[simp] theorem plainField_map (write : α → Json) (field : Option α) :
    PlainField (field.map write) ↔ ∀ a ∈ field, (write a).Plain := by
  simp [PlainField]

/-! ## Records -/

theorem keys_presentEntries_sublist (names : List String) (values : List (Option Json)) :
    ((Json.presentEntries names values).map (·.1)).Sublist names := by
  induction names generalizing values with
  | nil => simp [Json.presentEntries]
  | cons name rest ih =>
    match values with
    | [] => exact List.nil_sublist _
    | none :: values => exact (ih values).cons name
    | some value :: values => exact (ih values).cons_cons name

/-- Under distinct names no key of the object is repeated. -/
theorem length_filter_presentEntries_le {names : List String} (hnames : names.Nodup)
    (values : List (Option Json)) (name : String) :
    ((Json.presentEntries names values).filter (·.1 == name)).length ≤ 1 := by
  have hkeys := hnames.sublist (keys_presentEntries_sublist names values)
  have hcount := List.nodup_iff_count.1 hkeys name
  rwa [List.count, List.countP_map, List.countP_eq_length_filter] at hcount

/-- Under distinct names each field finds its own value in the object. -/
theorem map_lookup_presentEntries {names : List String} (hnames : names.Nodup)
    {values : List (Option Json)} (hlength : values.length = names.length) :
    names.map (fun name => (Json.presentEntries names values).lookup name) = values := by
  induction names generalizing values with
  | nil => exact (List.length_eq_zero_iff.1 hlength).symm
  | cons first rest ih =>
    obtain ⟨hfirst, hrest⟩ := List.nodup_cons.1 hnames
    cases values with
    | nil => simp at hlength
    | cons field values =>
      have hvalues := ih hrest (by simpa using hlength)
      have hother : ∀ name ∈ rest, (name == first) = false := fun name hname =>
        beq_eq_false_iff_ne.2 fun h => hfirst (h ▸ hname)
      cases field with
      | none =>
        have hkey : first ∉ (Json.presentEntries rest values).map (·.1) := fun h =>
          hfirst ((keys_presentEntries_sublist rest values).subset h)
        have hnone : (Json.presentEntries rest values).lookup first = none :=
          List.lookup_eq_none_iff.2 fun e he =>
            bne_iff_ne.2 fun h => hkey (h ▸ List.mem_map_of_mem he)
        rw [Json.presentEntries, List.map_cons, hnone, hvalues]
      | some value =>
        rw [Json.presentEntries, List.map_cons, List.lookup_cons_self]
        congr 1
        refine Eq.trans (List.map_congr_left fun name hname => ?_) hvalues
        rw [List.lookup_cons, hother name hname]

theorem fields?_ofFields {names : List String} (hnames : names.Nodup)
    {values : List (Option Json)} (hlength : values.length = names.length) :
    fields? names (.ofFields names values) = some values := by
  have honce : names.all fun name =>
      ((Json.presentEntries names values).filter (·.1 == name)).length ≤ 1 :=
    List.all_eq_true.2 fun name _ =>
      decide_eq_true (length_filter_presentEntries_le hnames values name)
  rw [Json.ofFields, fields?, byName?, if_pos honce, map_lookup_presentEntries hnames hlength]

theorem plain_ofFields (names : List String) {values : List (Option Json)}
    (h : ∀ field ∈ values, PlainField field) : (Json.ofFields names values).Plain := by
  refine .object fun e he => ?_
  induction names generalizing values with
  | nil => simp [Json.presentEntries] at he
  | cons name rest ih =>
    match values with
    | [] => simp [Json.presentEntries] at he
    | none :: values => exact ih (fun field hfield => h field (List.mem_cons_of_mem _ hfield)) he
    | some value :: values =>
      rcases List.mem_cons.1 he with rfl | he
      · exact h _ (List.mem_cons_self ..) value rfl
      · exact ih (fun field hfield => h field (List.mem_cons_of_mem _ hfield)) he

/-- A record is read back if its fields are. -/
theorem restores_record {names : List String} {read : Nat → List (Option Json) → Option α}
    {k : Nat} {values : List (Option Json)} {a : α} (hnames : names.Nodup)
    (hlength : values.length = names.length)
    (hplain : ∀ field ∈ values, PlainField field)
    (hread : ∀ n, k ≤ n → read n values = some a) :
    (record names read).Restores (k + 1) (.ofFields names values) a where
  plain := plain_ofFields names hplain
  reads n hn := by
    cases n with
    | zero => omega
    | succ n =>
      show (fields? names (.ofFields names values)).bind (read n) = some a
      rw [fields?_ofFields hnames hlength]
      exact hread n (by omega)

end Decoder
end Corkboard
