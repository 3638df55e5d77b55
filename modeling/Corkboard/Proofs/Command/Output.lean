-- SUMMARY: What a command prints is read back, indented or not, and holds the result on the records in its files.
import Corkboard.Proofs.Command.Hiding
import Corkboard.Proofs.Json.Indented
import Corkboard.Proofs.Json.Size
import Corkboard.Proofs.Patch.Content

/-!
# Output, read back

A program that calls a command reads the report from the standard output. It finds an envelope, and
under `data` the records that the command has computed: these are read back as they were, from the
indented form as from the compact form. Numbers in a report count cards or say where a template
stands. They are no larger than the texts that were read, and therefore fit in their fields.
-/

namespace Corkboard

open Property (Template)

/-! ## Reading a report -/

/-- What stands in the envelope around an answer. -/
structure Envelope (α : Type) where
  success : Bool
  apiVersion : String
  data : α

namespace Envelope

variable {α : Type}

def fieldNames : List String := ["success", "api_version", "data"]

def ofJson (data : Decoder α) : Decoder (Envelope α) :=
  .record fieldNames fun n fields =>
    match fields with
    | [success, apiVersion, content] => do
      return {
        success := ← Decoder.bool.required n success
        apiVersion := ← Decoder.string.required n apiVersion
        data := ← data.required n content }
    | _ => none

/-- The report of a success tells the data, and that it is one. -/
theorem restores {decode : Decoder α} {k : Nat} {data : Json} {a : α}
    (h : decode.Restores k data a) :
    (ofJson decode).Restores (k + 1) (successReport data) ⟨true, version, a⟩ := by
  have hwritten : successReport data =
      .ofFields fieldNames [some (.bool true), some (.string version), some data] := rfl
  rw [hwritten]
  refine Decoder.restores_record (by decide) rfl ?_ fun n hn => ?_
  · simp [h.plain]
  · simp [h.reads n hn]

end Envelope

/-- The selected cards, with the number that is told for them. -/
structure Selection where
  items : List Card
  count : Nat

namespace Selection

def fieldNames : List String := ["items", "count"]

def ofJson : Decoder Selection :=
  .record fieldNames fun n fields =>
    match fields with
    | [items, count] => do
      return {
        items := ← (Decoder.list Card.ofJson).required n items
        count := ← Decoder.nat64.required n count }
    | _ => none

theorem restores {cards : List Card} (h : cards.length < 0x10000000000000000) :
    ofJson.Restores 6 (Command.selectionToJson cards) ⟨cards, cards.length⟩ := by
  have hcards := Decoder.restores_list fun c (_ : c ∈ cards) => c.restores
  refine Decoder.restores_record (by decide) rfl ?_ fun n hn => ?_
  · simp [hcards.plain, Decoder.plain_nat64 h]
  -- Each field is read by its law, for the bound of the number is nothing to compute with.
  · have hitems := (Decoder.required_some _ n _).trans (hcards.reads n hn)
    have hcount := (Decoder.required_some _ n _).trans (Decoder.nat64_integer n h)
    simp only [hitems, hcount, Option.bind_eq_bind, Option.bind_some, Option.pure_def]

end Selection

theorem Edit.restores {e : Edit} (hupdate : ∀ t ∈ e.update.updatedTemplates, t.IndexFits)
    (hundo : ∀ t ∈ e.undo.updatedTemplates, t.IndexFits) :
    Edit.ofJson.Restores 6 e.toJson e := by
  have hupdate := Patch.restores hupdate
  have hundo := Patch.restores hundo
  refine Decoder.restores_record (by decide) rfl ?_ fun n hn => ?_
  · simp [hupdate.plain, hundo.plain]
  · simp [hupdate.reads n hn, hundo.reads n hn]

namespace Grouping

theorem Column.restores (c : Column) : Column.ofJson.Restores 6 c.toJson c := by
  have hcards := Decoder.restores_list fun card (_ : card ∈ c.cards) => card.restores
  refine Decoder.restores_record (by decide) rfl ?_ fun n hn => ?_
  · simp [c.heading.restores.plain, hcards.plain]
  · simp [c.heading.restores.reads n (by omega), hcards.reads n hn]

theorem Columns.restores (c : Columns) : Columns.ofJson.Restores 8 c.toJson c := by
  have hcolumns (columns : List Column) :=
    Decoder.restores_list fun column (_ : column ∈ columns) => column.restores
  refine Decoder.restores_record (by decide) rfl ?_ fun n hn => ?_
  · simp [(hcolumns _).plain]
  · simp [(hcolumns _).reads n hn]

end Grouping

/-! ## Numbers in a report -/

/-- Every text that is read fits in the memory of a machine with 64 bits, as the texts of a program
    do. -/
def FileReader.InMemory (read : FileReader) : Prop :=
  ∀ path text, read path = .ok text → text.length < 0x10000000000000000

/-- The templates of a board stand in one field of its record. -/
theorem Board.length_templates_lt {n : Nat} {v : Json} {b : Board}
    (h : Board.ofJson n v = some b) : b.templates.length < v.size := by
  obtain ⟨m, fields, hfields, h⟩ := Decoder.exists_fields_of_record h
  split at h
  case h_2 => cases h
  case h_1 templates _ _ _ =>
    -- The templates are the last of the fields to be read.
    iterate 17 obtain ⟨_, -, h⟩ := Option.bind_eq_some_iff.1 h
    obtain ⟨items, hitems, h⟩ := Option.bind_eq_some_iff.1 h
    obtain rfl := Option.some.inj h
    cases templates with
    | none =>
      obtain rfl := Option.some.inj hitems
      exact v.one_le_size
    | some value =>
      have hvalue : value.size < v.size := Decoder.size_lt_of_mem_fields? hfields (by simp)
      exact (Decoder.length_lt_size_of_list hitems).trans hvalue

namespace FileReader

variable {read : FileReader} (hread : read.InMemory) {path : String}
include hread

/-- A record that is read comes from a value whose parts can be counted in 64 bits. -/
theorem InMemory.exists_size_lt {α : Type} {decode : Decoder α} {a : α}
    (h : read.record decode path = .ok a) :
    ∃ v : Json, v.size < 0x10000000000000000 ∧ decode nestingLimit v = some a := by
  obtain ⟨text, htext, ha⟩ := record_eq_ok_iff.1 h
  obtain ⟨v, hsize, ha⟩ := Decoder.exists_size_le_of_ofText? ha
  exact ⟨v, hsize.trans_lt (hread path text htext), ha⟩

theorem InMemory.length_cards_lt {cards : List Card}
    (h : read.record (.list Card.ofJson) path = .ok cards) :
    cards.length < 0x10000000000000000 := by
  obtain ⟨v, hsize, hcards⟩ := hread.exists_size_lt h
  exact (Decoder.length_lt_size_of_list hcards).trans hsize

theorem InMemory.length_templates_lt {board : Board}
    (h : read.record Board.ofJson path = .ok board) :
    board.templates.length < 0x10000000000000000 := by
  obtain ⟨v, hsize, hboard⟩ := hread.exists_size_lt h
  exact (Board.length_templates_lt hboard).trans hsize

end FileReader

/-- A note that an edit makes says where the template stands on the new board. -/
theorem Patch.indexFits_between {before after : Board}
    (hafter : after.templates.length < 0x10000000000000000) :
    ∀ t ∈ (Patch.between before after).updatedTemplates, t.IndexFits := by
  intro t ht
  obtain ⟨i, u, hu, rfl⟩ := mem_templateUpdates ht
  obtain ⟨hi, -⟩ := List.getElem?_eq_some_iff.1 hu
  intro j hj
  obtain rfl : i = j := Option.some.inj hj
  omega

/-! ## The answer of a command -/

/-- The document reports a success, and its data is the result of the command on the records in its
    files. -/
inductive Command.Answers (read : FileReader) (document : String) : Command → Prop
  | diff {old new : String} {before after : Board}
      (hold : read.record Board.ofJson old = .ok before)
      (hnew : read.record Board.ofJson new = .ok after)
      (hdata : (Envelope.ofJson Edit.ofJson).ofText? document =
        some ⟨true, version, .between before after⟩) :
      Answers read document (.diff old new)
  | filter {boardPath cardsPath filterPath : String} {board : Board} {cards : List Card}
      {group : Filter.Group}
      (hboard : read.record Board.ofJson boardPath = .ok board)
      (hcards : read.record (.list Card.ofJson) cardsPath = .ok cards)
      (hfilter : read.record Filter.Group.ofJson filterPath = .ok group)
      (hdata : (Envelope.ofJson Selection.ofJson).ofText? document =
        some ⟨true, version, group.select board.templates cards,
          (group.select board.templates cards).length⟩) :
      Answers read document (.filter boardPath cardsPath filterPath)
  | suggest {boardPath filterPath : String} {board : Board} {group : Filter.Group}
      (hboard : read.record Board.ofJson boardPath = .ok board)
      (hfilter : read.record Filter.Group.ofJson filterPath = .ok group)
      (hdata : (Envelope.ofJson (Decoder.keyMap .string)).ofText? document =
        some ⟨true, version, group.suggestions board.templates⟩) :
      Answers read document (.suggest boardPath filterPath)
  | group {boardPath cardsPath property : String} {visible hidden : List String} {board : Board}
      {cards : List Card} {template : Template}
      (hboard : read.record Board.ofJson boardPath = .ok board)
      (hcards : read.record (.list Card.ofJson) cardsPath = .ok cards)
      (htemplate : board.findTemplate? property = some template)
      (hdata : (Envelope.ofJson Grouping.Columns.ofJson).ofText? document =
        some ⟨true, version, Grouping.columns template visible hidden cards⟩) :
      Answers read document (.group boardPath cardsPath property visible hidden)

/-- The report of a result is plain, and every document that is read as this report is an answer. -/
theorem Command.answers_of_result {read : FileReader} (hread : read.InMemory) {command : Command}
    {data : Json} (h : command.result read = .ok data) :
    (successReport data).Plain ∧
      ∀ document, Json.ofText? document = some (successReport data) →
        command.Answers read document := by
  cases command with
  | diff old new =>
    obtain ⟨before, hold, h⟩ := bind_eq_ok_iff.1 h
    obtain ⟨after, hnew, h⟩ := bind_eq_ok_iff.1 h
    obtain rfl := Except.ok.inj h
    have hreport := Envelope.restores (Edit.restores (e := .between before after)
      (Patch.indexFits_between (hread.length_templates_lt hnew))
      (Patch.indexFits_between (hread.length_templates_lt hold)))
    exact ⟨hreport.plain, fun document hdocument =>
      .diff hold hnew (hreport.ofText? (by decide) hdocument)⟩
  | filter boardPath cardsPath filterPath =>
    obtain ⟨board, hboard, h⟩ := bind_eq_ok_iff.1 h
    obtain ⟨cards, hcards, h⟩ := bind_eq_ok_iff.1 h
    obtain ⟨group, hgroup, h⟩ := bind_eq_ok_iff.1 h
    obtain rfl := Except.ok.inj h
    have hselected : (group.select board.templates cards).length ≤ cards.length :=
      List.length_filter_le ..
    have hreport := Envelope.restores
      (Selection.restores (hselected.trans_lt (hread.length_cards_lt hcards)))
    exact ⟨hreport.plain, fun document hdocument =>
      .filter hboard hcards hgroup (hreport.ofText? (by decide) hdocument)⟩
  | suggest boardPath filterPath =>
    obtain ⟨board, hboard, h⟩ := bind_eq_ok_iff.1 h
    obtain ⟨group, hgroup, h⟩ := bind_eq_ok_iff.1 h
    obtain rfl := Except.ok.inj h
    have hreport := Envelope.restores
      (Decoder.restores_keyMap Decoder.restores_string (group.suggestions board.templates))
    exact ⟨hreport.plain, fun document hdocument =>
      .suggest hboard hgroup (hreport.ofText? (by decide) hdocument)⟩
  | group boardPath cardsPath property visible hidden =>
    obtain ⟨board, hboard, h⟩ := bind_eq_ok_iff.1 h
    obtain ⟨cards, hcards, h⟩ := bind_eq_ok_iff.1 h
    split at h
    case h_1 => cases h
    case h_2 template htemplate =>
      obtain rfl := Except.ok.inj h
      have hreport :=
        Envelope.restores (Grouping.columns template visible hidden cards).restores
      exact ⟨hreport.plain, fun document hdocument =>
        .group hboard hcards htemplate (hreport.ofText? (by decide) hdocument)⟩

theorem exists_document_of_plain {report : Json} (h : report.Plain) (pretty : Bool) :
    ∃ document, reportText pretty report = document ++ "\n" ∧
      Json.ofText? document = some report := by
  cases pretty with
  | true => exact ⟨report.indented, rfl, h.ofText?_indented⟩
  | false => exact ⟨report.compact, rfl, h.ofText?_compact⟩

/-- What a command prints when it ends well is a document with a line end behind it. The document is
    read as the same report whether it is indented or not, and holds the result of the command on
    the records in its files. Settings, environment and flags decide about the indentation only. -/
theorem output_read_back {settings : Settings} {environment : Option String} {read : FileReader}
    {arguments : List String} {invocation : Invocation} (hread : read.InMemory)
    (harguments : Arguments.read? arguments = some (.run invocation))
    (hstatus : (run settings environment read arguments).status = 0) :
    ∃ report : Json,
      (∀ pretty, ∃ document, reportText pretty report = document ++ "\n" ∧
        Json.ofText? document = some report ∧ invocation.command.Answers read document) ∧
      (∃ pretty, run settings environment read arguments =
        .answered (reportText pretty report)) ∧
      ∀ (settings' : Settings) (environment' : Option String) (arguments' : List String)
        (fromEnvironment pretty : Bool),
        prettyVariable? arguments' environment' = some fromEnvironment →
        Arguments.read? arguments' = some (.run ⟨invocation.command, pretty⟩) →
        run settings' environment' read arguments' =
          .answered (reportText
            (pretty || fromEnvironment || settings'.effectivePrettyOutput) report) := by
  obtain ⟨⟨fromEnvironment, hvariable⟩, data, hresult⟩ :=
    exists_result_of_status harguments hstatus
  obtain ⟨hplain, hanswers⟩ := Command.answers_of_result hread hresult
  refine ⟨successReport data, fun pretty => ?_, ?_, ?_⟩
  · obtain ⟨document, htext, hdocument⟩ := exists_document_of_plain hplain pretty
    exact ⟨document, htext, hdocument, hanswers document hdocument⟩
  · exact ⟨_, run_of_result harguments hvariable hresult⟩
  · intro settings' environment' arguments' fromEnvironment' pretty hvariable' harguments'
    exact run_of_result harguments' hvariable' hresult

namespace TeamBoard

theorem inMemory_files : files.InMemory := by
  intro path text h
  simp only [files] at h
  split at h
  all_goals
    obtain rfl := Except.ok.inj h
    rw [Json.compact, String.length_ofList]
    decide +kernel

/-- The columns of the team are read back from what the command prints. -/
theorem output_read_back_for_team :
    (run .default none files arguments).status = 0 ∧
      ∃ document, run .default none files arguments = .answered (document ++ "\n") ∧
        (Envelope.ofJson Grouping.Columns.ofJson).ofText? document =
          some ⟨true, version, Grouping.columns team [] [] [alone, together]⟩ := by
  have hstatus : (run .default none files arguments).status = 0 := by
    rw [run_of_result read?_arguments (rfl : prettyVariable? arguments none = some false)
      (Command.result_group files_board files_cards findTemplate?_team [] [])]
    rfl
  obtain ⟨report, hdocuments, ⟨pretty, hprinted⟩, -⟩ :=
    output_read_back inMemory_files read?_arguments hstatus
  obtain ⟨document, htext, -, hanswers⟩ := hdocuments pretty
  refine ⟨hstatus, document, htext ▸ hprinted, ?_⟩
  cases hanswers with
  | group hboard hcards htemplate hdata =>
    obtain rfl := Except.ok.inj (files_board.symm.trans hboard)
    obtain rfl := Except.ok.inj (files_cards.symm.trans hcards)
    obtain rfl := Option.some.inj (findTemplate?_team.symm.trans htemplate)
    exact hdata

end TeamBoard
end Corkboard
