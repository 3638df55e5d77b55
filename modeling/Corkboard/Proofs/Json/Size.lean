-- SUMMARY: A value that is read from a text has no more parts than the text has characters.
import Mathlib.Algebra.GroupWithZero.Nat
import Mathlib.Algebra.Order.BigOperators.Group.List
import Mathlib.Algebra.Order.Group.Nat
import Corkboard.Json.Text

/-!
# The size of a value

Each part of a value takes a token in the text, and each token takes a character. So the length of a
text bounds every list that is read from it. A number that counts the items of such a list, or says
where one of them stands, fits wherever the length of the text fits.
-/

namespace Corkboard

namespace Json

/-! ## Parts -/

mutual
/-- How many values there are in the value, itself included. -/
def size : Json → Nat
  | .array items => sizeItems items + 1
  | .object entries => sizeEntries entries + 1
  | _ => 1

/-- How many values there are in the items. -/
def sizeItems : List Json → Nat
  | [] => 0
  | item :: rest => size item + sizeItems rest

/-- How many values there are in the values of the entries. -/
def sizeEntries : List (String × Json) → Nat
  | [] => 0
  | (_, value) :: rest => size value + sizeEntries rest
end

theorem sizeItems_eq_sum (items : List Json) : sizeItems items = (items.map size).sum := by
  induction items with
  | nil => rfl
  | cons item rest ih => rw [sizeItems, ih, List.map_cons, List.sum_cons]

theorem sizeEntries_eq_sum (entries : List (String × Json)) :
    sizeEntries entries = (entries.map fun e => e.2.size).sum := by
  induction entries with
  | nil => rfl
  | cons e rest ih => rw [sizeEntries, ih, List.map_cons, List.sum_cons]

@[simp] theorem size_array (items : List Json) :
    (Json.array items).size = (items.map size).sum + 1 := by
  rw [size, sizeItems_eq_sum]

@[simp] theorem size_object (entries : List (String × Json)) :
    (Json.object entries).size = (entries.map fun e => e.2.size).sum + 1 := by
  rw [size, sizeEntries_eq_sum]

theorem one_le_size (v : Json) : 1 ≤ v.size := by
  cases v with
  | array items => simp
  | object entries => simp
  | _ => exact Nat.le_refl 1

theorem length_lt_size_array (items : List Json) : items.length < (Json.array items).size := by
  have hle := List.length_le_sum_of_one_le (items.map size) (by simp [one_le_size])
  rw [List.length_map] at hle
  rw [size_array]
  omega

theorem size_lt_of_mem_items {items : List Json} {item : Json} (h : item ∈ items) :
    item.size < (Json.array items).size := by
  have hle := List.le_sum_of_mem (List.mem_map_of_mem (f := size) h)
  rw [size_array]
  omega

theorem size_lt_of_mem_entries {entries : List (String × Json)} {e : String × Json}
    (h : e ∈ entries) : e.2.size < (Json.object entries).size := by
  have hle := List.le_sum_of_mem (List.mem_map_of_mem (f := fun e : String × Json => e.2.size) h)
  rw [size_object]
  omega

/-! ## Tokens -/

/-- The token adds one value at most. -/
def Token.Single : Token → Prop
  | .scalar v => v.size = 1
  | _ => True

namespace Token

theorem size_numberOf (negative : Bool) (whole fraction : List Char) (exponent : Option Int) :
    (numberOf negative whole fraction exponent).size = 1 := by
  rw [numberOf]
  split
  · rfl
  · split <;> rfl

theorem size_unsigned? {negative : Bool} {text rest : List Char} {v : Json}
    (h : unsigned? negative text = some (v, rest)) : v.size = 1 := by
  simp only [unsigned?, Option.bind_eq_bind] at h
  split at h
  · cases h
  · obtain ⟨_, -, h⟩ := Option.bind_eq_some_iff.1 h
    obtain ⟨_, -, h⟩ := Option.bind_eq_some_iff.1 h
    obtain ⟨rfl, -⟩ := Prod.mk.inj (Option.some.inj h)
    exact size_numberOf ..

theorem single_of_next? {text rest : List Char} {token : Token}
    (h : next? text = some (token, rest)) : token.Single := by
  unfold next? at h
  split at h
  case h_7 =>
    obtain ⟨_, -, heq⟩ := Option.map_eq_some_iff.1 h
    obtain ⟨rfl, -⟩ := Prod.mk.inj heq
    trivial
  case h_8 | h_12 =>
    obtain ⟨⟨v, after⟩, hread, heq⟩ := Option.map_eq_some_iff.1 h
    obtain ⟨rfl, -⟩ := Prod.mk.inj heq
    exact size_unsigned? hread
  -- Marks, and the words for null and the truth values.
  all_goals
    obtain ⟨rfl, -⟩ := Prod.mk.inj (Option.some.inj h)
    trivial

/-- A token or a blank uses up one unit of fuel. -/
theorem length_le_of_scanUpTo {fuel : Nat} {text : List Char} {tokens : List Token}
    (h : scanUpTo fuel text = some tokens) :
    tokens.length ≤ fuel ∧ ∀ token ∈ tokens, token.Single := by
  induction fuel generalizing text tokens with
  | zero =>
    cases text with
    | nil =>
      obtain rfl := Option.some.inj h
      simp
    | cons c rest => cases h
  | succ fuel ih =>
    cases text with
    | nil =>
      obtain rfl := Option.some.inj h
      simp
    | cons c rest =>
      rw [scanUpTo] at h
      split at h
      case isTrue =>
        obtain ⟨hlength, hsingle⟩ := ih h
        exact ⟨by omega, hsingle⟩
      case isFalse =>
        obtain ⟨⟨token, after⟩, hnext, h⟩ := Option.bind_eq_some_iff.1 h
        obtain ⟨more, hmore, h⟩ := Option.bind_eq_some_iff.1 h
        obtain rfl := Option.some.inj h
        obtain ⟨hlength, hsingle⟩ := ih hmore
        exact ⟨Nat.succ_le_succ hlength, List.forall_mem_cons.2 ⟨single_of_next? hnext, hsingle⟩⟩

end Token

/-! ## Open arrays and objects -/

/-- The values that the frame has so far. -/
def Frame.size : Frame → Nat
  | .array items => (items.map Json.size).sum
  | .object entries _ => (entries.map fun e => e.2.size).sum

/-- The values of all frames. -/
def sizeAround (around : List Frame) : Nat := (around.map Frame.size).sum

@[simp] theorem sizeAround_cons (frame : Frame) (around : List Frame) :
    sizeAround (frame :: around) = frame.size + sizeAround around := by
  rw [sizeAround, List.map_cons, List.sum_cons, ← sizeAround]

theorem values_namedEntries? {entries : List (Option String × Json)}
    {named : List (String × Json)} (h : namedEntries? entries = some named) :
    named.map (·.2) = entries.map (·.2) := by
  induction entries generalizing named with
  | nil =>
    obtain rfl := Option.some.inj h
    rfl
  | cons e rest ih =>
    obtain ⟨key, -, h⟩ := Option.bind_eq_some_iff.1 h
    obtain ⟨more, hmore, h⟩ := Option.bind_eq_some_iff.1 h
    obtain rfl := Option.some.inj h
    rw [List.map_cons, List.map_cons, ih hmore]

theorem size_objectOf_le (entries : List (Option String × Json)) :
    (objectOf entries).size ≤ (entries.map fun e => e.2.size).sum + 1 := by
  rw [objectOf]
  split
  case h_1 named hnamed =>
    have hvalues := congrArg (List.map size) (values_namedEntries? hnamed)
    rw [List.map_map, List.map_map] at hvalues
    rw [size_object]
    exact Nat.le_of_eq (congrArg (·.sum + 1) hvalues)
  case h_2 => exact Nat.le_add_left 1 _

namespace State

/-- The values that have been read so far. -/
def size : State → Nat
  | .value around | .firstItem around | .firstKey around => sizeAround around
  | .key entries around | .colon entries _ around =>
    (entries.map fun e => e.2.size).sum + sizeAround around
  | .done v around => v.size + sizeAround around

section Step

variable {v : Json} {around : List Frame} {token : Token} {state state' : State}

theorem size_of_openValue (htoken : token.Single) (h : openValue around token = some state) :
    state.size ≤ sizeAround around + 1 := by
  unfold openValue at h
  split at h
  all_goals cases h
  case h_1 | h_2 => exact Nat.le_add_right _ 1
  case h_3 value =>
    have hvalue : value.size = 1 := htoken
    rw [size]
    omega
  case h_4 text =>
    have hvalue : (stringOf text).size = 1 := by cases text <;> rfl
    rw [size]
    omega

/-- The value joins the parts of the innermost frame. If the frame is closed, its own value is one
    more. -/
theorem size_of_closeValue (h : closeValue v around token = some state) :
    state.size ≤ v.size + sizeAround around + 1 := by
  unfold closeValue at h
  split at h
  case h_5 => cases h
  case h_4 entries name around =>
    obtain rfl := Option.some.inj h
    have hobject := size_objectOf_le ((name, v) :: entries).reverse
    simp only [List.map_reverse, List.sum_reverse_nat, List.map_cons, List.sum_cons] at hobject
    rw [size, sizeAround_cons, Frame.size]
    omega
  case h_2 items around =>
    obtain rfl := Option.some.inj h
    rw [size, size_array, List.map_reverse, List.sum_reverse_nat, List.map_cons, List.sum_cons,
      sizeAround_cons, Frame.size]
    omega
  -- The value is followed by a comma.
  all_goals
    obtain rfl := Option.some.inj h
    simp only [size, sizeAround_cons, Frame.size, List.map_cons, List.sum_cons]
    omega

theorem size_of_step (htoken : token.Single) (h : state.step token = some state') :
    state'.size ≤ state.size + 1 := by
  unfold step at h
  split at h
  case h_1 => exact size_of_openValue htoken h
  case h_3 =>
    have hopen := size_of_openValue htoken h
    rwa [sizeAround_cons, Frame.size, List.map_nil, List.sum_nil, Nat.zero_add] at hopen
  case h_8 => exact size_of_closeValue h
  case h_9 => cases h
  -- The other tokens end an empty value, or stand in front of a value.
  all_goals
    obtain rfl := Option.some.inj h
    simp [size, Frame.size, Nat.add_comm]

end Step

theorem size_of_run {tokens : List Token} {state state' : State}
    (htokens : ∀ token ∈ tokens, token.Single) (h : run state tokens = some state') :
    state'.size ≤ state.size + tokens.length := by
  induction tokens generalizing state with
  | nil =>
    obtain rfl := Option.some.inj h
    exact Nat.le_refl _
  | cons token rest ih =>
    obtain ⟨htoken, hrest⟩ := List.forall_mem_cons.1 htokens
    obtain ⟨next, hnext, h⟩ := Option.bind_eq_some_iff.1 h
    have hstep := size_of_step htoken hnext
    have hrun := ih hrest h
    rw [List.length_cons]
    omega

end State

/-- A value that is read from a text has no more parts than the text has characters. -/
theorem size_le_length_of_ofText? {text : String} {v : Json} (h : ofText? text = some v) :
    v.size ≤ text.length := by
  obtain ⟨tokens, hscan, hread⟩ := Option.bind_eq_some_iff.1 h
  obtain ⟨hlength, hsingle⟩ := Token.length_le_of_scanUpTo hscan
  rw [ofTokens?] at hread
  split at hread
  case h_1 hrun =>
    obtain rfl := Option.some.inj hread
    have hsize := State.size_of_run hsingle hrun
    simp only [State.size, sizeAround, List.map_nil, List.sum_nil] at hsize
    rw [String.length_toList] at hlength
    omega
  case h_2 => cases hread

end Json

/-! ## What a decoder takes from a value -/

namespace Decoder

variable {α : Type}

theorem length_of_mapM {item : Json → Option α} {values : List Json} {items : List α}
    (h : values.mapM item = some items) : items.length = values.length := by
  induction values generalizing items with
  | nil =>
    obtain rfl := Option.some.inj h
    rfl
  | cons value rest ih =>
    rw [List.mapM_cons] at h
    obtain ⟨first, -, h⟩ := Option.bind_eq_some_iff.1 h
    obtain ⟨more, hmore, h⟩ := Option.bind_eq_some_iff.1 h
    obtain rfl := Option.some.inj h
    rw [List.length_cons, List.length_cons, ih hmore]

theorem length_lt_size_of_list {item : Decoder α} {n : Nat} {v : Json} {items : List α}
    (h : list item n v = some items) : items.length < v.size := by
  unfold list at h
  split at h
  case h_1 n values =>
    rw [length_of_mapM h]
    exact Json.length_lt_size_array values
  case h_2 => cases h

theorem exists_fields_of_record {names : List String} {read : Nat → List (Option Json) → Option α}
    {n : Nat} {v : Json} {a : α} (h : record names read n v = some a) :
    ∃ m fields, fields? names v = some fields ∧ read m fields = some a := by
  cases n with
  | zero => cases h
  | succ m => exact ⟨m, Option.bind_eq_some_iff.1 h⟩

/-- The value of a field is a part of the record. -/
theorem size_lt_of_mem_fields? {names : List String} {v value : Json}
    {fields : List (Option Json)} (h : fields? names v = some fields)
    (hvalue : some value ∈ fields) : value.size < v.size := by
  unfold fields? at h
  split at h
  case h_1 entries =>
    rw [byName?] at h
    split at h
    case isTrue =>
      obtain rfl := Option.some.inj h
      obtain ⟨name, -, hlookup⟩ := List.mem_map.1 hvalue
      obtain ⟨front, back, hentries, -⟩ := List.lookup_eq_some_iff.1 hlookup
      exact Json.size_lt_of_mem_entries (e := (name, value)) (by simp [hentries])
    case isFalse => cases h
  case h_2 items =>
    rw [byPlace?] at h
    split at h
    case isTrue =>
      obtain rfl := Option.some.inj h
      exact Json.size_lt_of_mem_items (by simpa using hvalue)
    case isFalse => cases h
  case h_3 => cases h

/-- What is read from a text is read from a value that is no larger than the text. -/
theorem exists_size_le_of_ofText? {decode : Decoder α} {text : String} {a : α}
    (h : decode.ofText? text = some a) :
    ∃ v : Json, v.size ≤ text.length ∧ decode nestingLimit v = some a := by
  obtain ⟨v, hv, h⟩ := Option.bind_eq_some_iff.1 h
  exact ⟨v, Json.size_le_length_of_ofText? hv, h⟩

end Decoder
end Corkboard
