-- SUMMARY: Every record is read back from its JSON text as it was.
import Corkboard.Card
import Corkboard.DateSpan
import Corkboard.Filter.Tree
import Corkboard.LinkedCards
import Corkboard.Patch.Basic
import Corkboard.Proofs.Json.Decoder

/-!
# Records, written and read back

Each record is written with all its fields under their names, apart from those that are absent. It
is read back because each of its fields is: values without parts by their own laws, and lists, maps
and inner records by the laws of what they hold. The number beside each record says how deeply its
written form is nested.
-/

namespace Corkboard

open Property (Choice Kind Template Value)

/-! ## Names -/

@[simp] theorem Access.ofName?_name (a : Access) : Access.ofName? a.name = some a := by
  cases a <;> decide

@[simp] theorem Role.ofName?_name (r : Role) : Role.ofName? r.name = some r := by
  cases r <;> decide

namespace Property

/-! ## Values and templates -/

theorem Value.restores (v : Value) : Value.ofJson.Restores 1 v.toJson v := by
  cases v with
  | text s => exact ⟨.string s, fun _ _ => rfl⟩
  | list items =>
    have hlist := Decoder.restores_texts items
    refine ⟨hlist.plain, fun n hn => ?_⟩
    show (Decoder.string.list n (.ofList .string items)).map Value.list = _
    rw [hlist.reads n hn, Option.map_some]

theorem Choice.restores (c : Choice) : Choice.ofJson.Restores 1 c.toJson c :=
  Decoder.restores_record (by decide) rfl (by simp) fun n _ => by simp

/-- The note of a template on its place is a number of 64 bits, as its field holds it. -/
def Template.IndexFits (t : Template) : Prop := ∀ i ∈ t.index, i < 0x10000000000000000

theorem Template.restores {t : Template} (h : t.IndexFits) :
    Template.ofJson.Restores 3 t.toJson t := by
  have hchoices := Decoder.restores_list fun c (_ : c ∈ t.choices) => c.restores
  have hwritten : t.toJson = .ofFields fieldNames
      [some (.string t.id), some (.string t.name), some t.kind.toJson,
        some (.ofList Choice.toJson t.choices), t.index.map fun i : Nat => .integer i] := by
    rw [toJson]
    cases t.index <;> rfl
  rw [hwritten]
  refine Decoder.restores_record (by decide) rfl ?_ fun n hn => ?_
  · have hplain := fun i hi => Decoder.plain_nat64 (h i hi)
    simpa [Kind.toJson, hchoices.plain] using hplain
  · have hindex : Decoder.nat64.optional n (t.index.map fun i : Nat => .integer i) =
        some t.index :=
      Decoder.optional_map (fun i hi => Decoder.nat64_integer n (h i hi)) (by simp)
    simp [Kind.ofJson, Kind.toJson, hchoices.reads n hn, hindex]

end Property

/-! ## Boards, cards and patches -/

theorem Board.restores {b : Board} (h : ∀ t ∈ b.templates, t.IndexFits) :
    Board.ofJson.Restores 5 b.toJson b := by
  have htemplates := Decoder.restores_list fun t ht => Template.restores (h t ht)
  have hproperties := Decoder.restores_keyMap Value.restores b.properties
  refine Decoder.restores_record (by decide) rfl ?_ fun n hn => ?_
  · simp [Access.toJson, Role.toJson, hproperties.plain, htemplates.plain]
  · simp [Access.ofJson, Access.toJson, Role.ofJson, Role.toJson,
      hproperties.reads n (by omega), htemplates.reads n hn]

theorem Card.restores (c : Card) : Card.ofJson.Restores 4 c.toJson c := by
  have hproperties := Decoder.restores_keyMap Value.restores c.properties
  have hstored : storedOfJson.Restores 3 (storedToJson c.properties) c.properties :=
    Decoder.restores_record (by decide) rfl (by simpa using hproperties.plain)
      fun n hn => by simpa using hproperties.reads n hn
  refine Decoder.restores_record (by decide) rfl ?_ fun n hn => ?_
  · simp [hstored.plain]
  · simp [hstored.reads n hn]

theorem Patch.restores {p : Patch} (h : ∀ t ∈ p.updatedTemplates, t.IndexFits) :
    Patch.ofJson.Restores 5 p.toJson p := by
  have htemplates := Decoder.restores_list fun t ht => Template.restores (h t ht)
  have hproperties := Decoder.restores_keyMap Value.restores p.updatedProperties
  have hkeys := Decoder.restores_texts
  refine Decoder.restores_record (by decide) rfl ?_ fun n hn => ?_
  · simp [Access.toJson, Role.toJson, (hkeys _).plain, hproperties.plain, htemplates.plain]
  · have haccess : Access.ofJson.optional n (p.details.access.map Access.toJson) =
        some p.details.access :=
      Decoder.optional_map (by simp [Access.ofJson, Access.toJson]) (by simp [Access.toJson])
    have hrole : Role.ofJson.optional n (p.details.minimumRole.map Role.toJson) =
        some p.details.minimumRole :=
      Decoder.optional_map (by simp [Role.ofJson, Role.toJson]) (by simp [Role.toJson])
    simp [haccess, hrole, (hkeys _).reads n (by omega), hproperties.reads n (by omega),
      htemplates.reads n hn]

/-! ## Stored encodings and clauses -/

theorem DateSpan.restores (d : DateSpan) : DateSpan.ofJson.Restores 1 d.toJson d :=
  Decoder.restores_record (by decide) rfl (by simp) fun n _ => by simp

theorem LinkedCard.restores (c : LinkedCard) : LinkedCard.ofJson.Restores 1 c.toJson c :=
  Decoder.restores_record (by decide) rfl (by simp) fun n _ => by simp

theorem LinkedCards.restores (l : LinkedCards) : LinkedCards.ofJson.Restores 3 l.toJson l := by
  have hcards := Decoder.restores_list fun c (_ : c ∈ l.cards) => c.restores
  refine Decoder.restores_record (by decide) rfl ?_ fun n hn => ?_
  · simp [hcards.plain]
  · simp [hcards.reads n hn]

theorem Filter.Clause.restores (c : Clause) : Clause.ofJson.Restores 2 c.toJson c := by
  have hvalues := Decoder.restores_texts c.values
  refine Decoder.restores_record (by decide) rfl ?_ fun n hn => ?_
  · simp [fields, Condition.toJson, hvalues.plain]
  · simp [ofFields, fields, Condition.toJson, hvalues.reads n hn]

/-! ## All records -/

/-- Every record is read back from its text as it was, with whatever characters, numbers and absent
    fields it has. -/
theorem records_restored :
    (∀ b : Board, (∀ t ∈ b.templates, t.IndexFits) →
      Board.ofJson.ofText? b.toJson.compact = some b) ∧
    (∀ c : Card, Card.ofJson.ofText? c.toJson.compact = some c) ∧
    (∀ cards : List Card,
      (Decoder.list Card.ofJson).ofText? (Json.ofList Card.toJson cards).compact = some cards) ∧
    (∀ p : Patch, (∀ t ∈ p.updatedTemplates, t.IndexFits) →
      Patch.ofJson.ofText? p.toJson.compact = some p) ∧
    (∀ t : Template, t.IndexFits → Template.ofJson.ofText? t.toJson.compact = some t) ∧
    (∀ c : Choice, Choice.ofJson.ofText? c.toJson.compact = some c) ∧
    (∀ v : Value, Value.ofJson.ofText? v.toJson.compact = some v) ∧
    (∀ d : DateSpan, DateSpan.ofJson.ofText? d.toJson.compact = some d) ∧
    (∀ l : LinkedCards, LinkedCards.ofJson.ofText? l.toJson.compact = some l) ∧
    (∀ c : Filter.Clause, Filter.Clause.ofJson.ofText? c.toJson.compact = some c) := by
  refine ⟨fun b hb => ?_, fun c => ?_, fun cards => ?_, fun p hp => ?_, fun t ht => ?_, fun c => ?_,
    fun v => ?_, fun d => ?_, fun l => ?_, fun c => ?_⟩
  · exact (Board.restores hb).ofText?_compact (by decide)
  · exact c.restores.ofText?_compact (by decide)
  · have hcards := Decoder.restores_list fun c (_ : c ∈ cards) => c.restores
    exact hcards.ofText?_compact (by decide)
  · exact (Patch.restores hp).ofText?_compact (by decide)
  · exact (Template.restores ht).ofText?_compact (by decide)
  · exact c.restores.ofText?_compact (by decide)
  · exact v.restores.ofText?_compact (by decide)
  · exact d.restores.ofText?_compact (by decide)
  · exact l.restores.ofText?_compact (by decide)
  · exact c.restores.ofText?_compact (by decide)

/-- A template with the last index there is, among texts that need escapes. -/
theorem records_restored_extreme :
    let t : Template := ⟨"\"\\", "\u0000 📌", .unknown, [⟨"", "/\t", ""⟩], some 18446744073709551615⟩
    let b : Board := Board.new "b\n" "" (-9223372036854775808) [t]
    let p : Patch := { Patch.empty with updatedTemplates := [t] }
    t.IndexFits ∧ Board.ofJson.ofText? b.toJson.compact = some b ∧
      Patch.ofJson.ofText? p.toJson.compact = some p ∧
      Template.ofJson.ofText? t.toJson.compact = some t := by
  intro t b p
  have ht : t.IndexFits := by simp [t, Template.IndexFits]
  have hall : ∀ t' ∈ [t], t'.IndexFits := List.forall_mem_singleton.2 ht
  obtain ⟨hboard, -, -, hpatch, htemplate, -⟩ := records_restored
  exact ⟨ht, hboard b hall, hpatch p hall, htemplate t ht⟩

end Corkboard
