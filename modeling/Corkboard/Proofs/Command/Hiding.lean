-- SUMMARY: A column that the group command shows is hidden by its id exactly if there is no comma in the id.
import Corkboard.Proofs.Command.Result
import Corkboard.Proofs.Grouping.Columns
import Corkboard.Proofs.Json.Records

/-!
# Hiding a column by its id

The group command prints the ids of its columns, and takes ids of columns to hide. It takes several
of them in one value, with commas between them. The id of a column for several people, choices or
links has commas of its own: it joins theirs. Given back to the command, such an id arrives in
pieces, and hides the columns of the pieces.
-/

namespace Corkboard

/-! ## One more option -/

namespace Arguments

/-- An option with its value after an equals sign. -/
def optionText (name value : String) : String := "--" ++ name ++ "=" ++ value

/-- The arguments with one more option, right behind the name of the command. -/
def withOption (name value : String) : List String → List String
  | [] => []
  | argument :: rest =>
    if argument = prettyFlag then argument :: withOption name value rest
    else argument :: optionText name value :: rest

theorem optionText_ne (name value : String) {other : String} (hother : '=' ∉ other.toList) :
    optionText name value ≠ other := by
  rintro rfl
  exact hother (by simp [optionText])

/-- One more option is no flag for indented output. -/
theorem flaggedTwice_withOption (name value : String) (arguments : List String) :
    flaggedTwice (withOption name value arguments) = flaggedTwice arguments := by
  have hpretty : optionText name value ≠ prettyFlag := optionText_ne name value (by decide)
  have hcount : (withOption name value arguments).count prettyFlag =
      arguments.count prettyFlag := by
    induction arguments with
    | nil => rfl
    | cons argument rest ih =>
      rw [withOption]
      split
      case isTrue => rw [List.count_cons, List.count_cons, ih]
      case isFalse hargument =>
        rw [List.count_cons_of_ne hargument, List.count_cons_of_ne hpretty,
          List.count_cons_of_ne hargument]
  rw [flaggedTwice, flaggedTwice, hcount]

section Option

variable {name : String} (hname : '=' ∉ name.toList) (value : String)
include hname

theorem optionOf?_optionText : optionOf? (optionText name value) = some (name, some value) := by
  have htext : (optionText name value).toList =
      '-' :: '-' :: (name.toList ++ '=' :: value.toList) := by
    simp [optionText]
  simp [optionOf?, htext, Text.cutAt_append hname]

theorem options?_optionText {names : List String} (hmem : name ∈ names) (rest : List String) :
    options? names (optionText name value :: rest) =
      (options? names rest).map (.option name value :: ·) := by
  have hpretty : optionText name value ≠ prettyFlag := optionText_ne name value (by decide)
  have hdashes : optionText name value ≠ "--" := optionText_ne name value (by decide)
  rw [options?, if_neg hpretty, optionOf?_optionText hname]
  · simp [hmem]
  · exact fun h _ => hdashes h

end Option

section Given

variable {name n : String} (value : String) (given : List Given)

@[simp] theorem prettyOf?_option : prettyOf? (.option n value :: given) = prettyOf? given := by
  rw [prettyOf?, prettyOf?, List.count_cons_of_ne (by simp)]

@[simp] theorem valuesOf_option_self :
    valuesOf name (.option name value :: given) = value :: valuesOf name given := by
  simp [valuesOf]

variable (h : n ≠ name)
include h

@[simp] theorem valuesOf_option_of_ne :
    valuesOf name (.option n value :: given) = valuesOf name given := by
  simp [valuesOf, h]

@[simp] theorem one?_option_of_ne : one? name (.option n value :: given) = one? name given := by
  rw [one?, one?, valuesOf_option_of_ne value given h]

@[simp] theorem path?_option_of_ne : path? name (.option n value :: given) = path? name given := by
  rw [path?, path?, one?_option_of_ne value given h]

@[simp] theorem parts_option_of_ne : parts name (.option n value :: given) = parts name given := by
  rw [parts, parts, valuesOf_option_of_ne value given h]

end Given

/-! ## One more id to hide -/

/-- The ids that stand in one value of an option. -/
def idsIn (value : String) : List String :=
  (Text.pieces ',' value.toList).map String.ofList

theorem parts_option_self (name value : String) (given : List Given) :
    parts name (.option name value :: given) = idsIn value ++ parts name given := by
  rw [parts, valuesOf_option_self, List.flatMap_cons]
  rfl

/-- An id arrives as it is exactly if there is no comma in it. -/
theorem mem_idsIn_self_iff {id : String} : id ∈ idsIn id ↔ ',' ∉ id.toList := by
  constructor
  · intro h
    obtain ⟨piece, hpiece, rfl⟩ := List.mem_map.1 h
    rw [String.toList_ofList]
    exact Text.notMem_of_mem_pieces hpiece
  · intro h
    simp [idsIn, Text.pieces_of_notMem h]

/-- A question for help runs no command. -/
theorem help?_ne_run (rest : List String) (invocation : Invocation) :
    help? rest ≠ some (.run invocation) := by
  unfold help?
  split
  case h_2 => split <;> simp
  all_goals simp

/-- A question for completions runs no command. -/
theorem completions?_ne_run (seen : Bool) (shell : Option String) (rest : List String)
    (invocation : Invocation) : completions? seen shell rest ≠ some (.run invocation) := by
  induction rest generalizing seen shell with
  | nil => simp [completions?]
  | cons argument rest ih =>
    rw [completions?]
    split
    case isTrue =>
      split
      case isTrue => simp
      case isFalse => exact ih true shell
    case isFalse =>
      split
      case isTrue => simp
      case isFalse =>
        split
        case isTrue =>
          split
          case h_1 => split <;> simp
          case h_2 => simp
        case isFalse =>
          split
          case isTrue => exact ih seen (some argument)
          case isFalse => simp

/-- No flag and no question has the name of a command. -/
theorem readFrom_eq_run_iff {seen : Bool} {argument : String} {rest : List String}
    {invocation : Invocation} (hpretty : argument ≠ prettyFlag) :
    readFrom seen (argument :: rest) = some (.run invocation) ↔
      invocation? seen argument rest = some invocation := by
  rw [readFrom, if_neg hpretty]
  constructor
  · intro h
    split at h
    · cases h
    split at h
    · cases h
    split at h
    · exact absurd h (help?_ne_run rest invocation)
    split at h
    · exact absurd h (completions?_ne_run false none rest invocation)
    split at h
    case h_1 read hread =>
      obtain rfl : read = invocation := Request.run.inj (Option.some.inj h)
      exact hread
    case h_2 => split at h <;> cases h
  · intro h
    obtain ⟨form, hform, -⟩ := Option.bind_eq_some_iff.1 h
    have hname : argument ∈ ["diff", "filter", "suggest", "group"] := by
      unfold formOf? at hform
      split at hform
      case h_5 => cases hform
      all_goals decide
    simp only [List.mem_cons, List.not_mem_nil, or_false] at hname
    rw [h]
    rcases hname with rfl | rfl | rfl | rfl <;> rfl

section Hidden

variable {board cards property : String} {visible hidden : List String} {pretty : Bool}

/-- A form that asks for columns takes ids to hide, and puts new ones in front. -/
theorem command?_hidden {name : String} {form : Form} {given : List Given}
    (hform : formOf? name = some form)
    (hcommand : form.command? given = some (.group board cards property visible hidden))
    (id : String) :
    "hidden" ∈ form.names ∧ form.command? (.option "hidden" id :: given) =
      some (.group board cards property visible (idsIn id ++ hidden)) := by
  unfold formOf? at hform
  split at hform
  case h_4 =>
    obtain rfl := Option.some.inj hform
    simp only [Option.bind_eq_bind, Option.bind_eq_some_iff, Option.pure_def, Option.some.injEq,
      Command.group.injEq] at hcommand
    obtain ⟨_, hboard, _, hcards, _, hproperty, rfl, rfl, rfl, rfl, rfl⟩ := hcommand
    simp [hboard, hcards, hproperty, parts_option_self]
  case h_5 => simp at hform
  -- The other commands are not the one that groups.
  all_goals
    obtain rfl := Option.some.inj hform
    simp [Option.bind_eq_some_iff] at hcommand

/-- The command is formed with one more id to hide, or with several if there are commas. -/
theorem invocation?_hidden {seen : Bool} {name : String} {rest : List String}
    (h : invocation? seen name rest =
      some ⟨.group board cards property visible hidden, pretty⟩) (id : String) :
    invocation? seen name (optionText "hidden" id :: rest) =
      some ⟨.group board cards property visible (idsIn id ++ hidden), pretty⟩ := by
  simp only [invocation?, Option.bind_eq_bind, Option.bind_eq_some_iff, Option.pure_def,
    Option.some.injEq, Invocation.mk.injEq] at h
  obtain ⟨form, hform, given, hgiven, command, hcommand, inner, hinner, rfl, rfl⟩ := h
  obtain ⟨hname, hhidden⟩ := command?_hidden hform hcommand id
  have hmore := options?_optionText (by decide) id hname rest
  simp [invocation?, hform, hmore, hgiven, hhidden, hinner]

/-- The command is read with one more id to hide, or with several if there are commas. -/
theorem readFrom_withOption_hidden {seen : Bool} {arguments : List String}
    (h : readFrom seen arguments =
      some (.run ⟨.group board cards property visible hidden, pretty⟩)) (id : String) :
    readFrom seen (withOption "hidden" id arguments) =
      some (.run ⟨.group board cards property visible (idsIn id ++ hidden), pretty⟩) := by
  induction arguments generalizing seen with
  | nil => simp [readFrom] at h
  | cons argument rest ih =>
    by_cases hpretty : argument = prettyFlag
    · rw [readFrom, if_pos hpretty] at h
      rw [withOption, if_pos hpretty, readFrom, if_pos hpretty]
      cases seen with
      | true => simp at h
      | false => exact ih h
    · rw [withOption, if_neg hpretty, readFrom_eq_run_iff hpretty]
      exact invocation?_hidden ((readFrom_eq_run_iff hpretty).1 h) id

end Hidden

end Arguments

/-! ## Running the group command -/

section Running

variable {read : FileReader}

theorem Command.result_group {boardPath cardsPath property : String} {board : Board}
    {cards : List Card} {template : Property.Template}
    (hboard : read.record Board.ofJson boardPath = .ok board)
    (hcards : read.record (.list Card.ofJson) cardsPath = .ok cards)
    (htemplate : board.findTemplate? property = some template) (visible hidden : List String) :
    Command.result read (.group boardPath cardsPath property visible hidden) =
      .ok (Grouping.columns template visible hidden cards).toJson := by
  rw [Command.result, hboard, hcards]
  simp only [bind, Except.bind, htemplate]
  rfl

end Running

/-! ## Columns that are hidden -/

namespace Grouping

open Property (Template)

/-- Where columns follow the values, a column is hidden if its id is given, and no list of ids makes
    other columns. -/
theorem mem_columns_of_visible {template : Template} (hkind : template.kind ∈ valueKinds)
    {visible : List String} {cards : List Card} {column : Column}
    (hcolumn : column ∈ (columns template visible [] cards).visible) (hidden : List String) :
    (column ∈ (columns template visible hidden cards).hidden ↔ column.heading.id ∈ hidden) ∧
      (column ∈ (columns template visible hidden cards).visible ↔ column.heading.id ∉ hidden) := by
  cases hheading : headingOf? template with
  | none => exact absurd hkind (headingOf?_eq_none_iff.1 hheading)
  | some headingOf =>
    simp only [columns, hheading, byValue] at hcolumn ⊢
    have hcollected := (List.mem_filter.1 hcolumn).1
    simp [hcollected]

end Grouping

/-! ## The command with one more option -/

/-- A column that the group command shows is hidden by its id exactly if there is no comma in the
    id. Where there is one, the command ends well all the same, and goes on showing the column. -/
theorem shown_column_hidden_iff_no_comma {settings : Settings} {environment : Option String}
    {read : FileReader} {arguments : List String} {boardPath cardsPath property : String}
    {visible : List String} {pretty fromEnvironment : Bool} {board : Board} {cards : List Card}
    {template : Property.Template}
    (harguments : Arguments.read? arguments =
      some (.run ⟨.group boardPath cardsPath property visible [], pretty⟩))
    (hvariable : prettyVariable? arguments environment = some fromEnvironment)
    (hboard : read.record Board.ofJson boardPath = .ok board)
    (hcards : read.record (.list Card.ofJson) cardsPath = .ok cards)
    (htemplate : board.findTemplate? property = some template)
    (hkind : template.kind ∈ Grouping.valueKinds) :
    let indented := pretty || fromEnvironment || settings.effectivePrettyOutput
    let before := Grouping.columns template visible [] cards
    run settings environment read arguments =
        .answered (reportText indented (successReport before.toJson)) ∧
      ∀ column ∈ before.visible,
        let after := Grouping.columns template visible (Arguments.idsIn column.heading.id) cards
        run settings environment read (Arguments.withOption "hidden" column.heading.id arguments) =
            .answered (reportText indented (successReport after.toJson)) ∧
          (column ∈ after.hidden ↔ ',' ∉ column.heading.id.toList) ∧
          (column ∈ after.visible ↔ ',' ∈ column.heading.id.toList) := by
  intro indented before
  have hresult := Command.result_group hboard hcards htemplate visible
  refine ⟨run_of_result harguments hvariable (hresult []), fun column hcolumn => ?_⟩
  intro after
  have hmore := Arguments.readFrom_withOption_hidden harguments column.heading.id
  rw [List.append_nil] at hmore
  have hafter := Grouping.mem_columns_of_visible hkind hcolumn (Arguments.idsIn column.heading.id)
  rw [Arguments.mem_idsIn_self_iff, not_not] at hafter
  have hmoreVariable : prettyVariable?
      (Arguments.withOption "hidden" column.heading.id arguments) environment =
        some fromEnvironment := by
    rw [prettyVariable?, Arguments.flaggedTwice_withOption]
    exact hvariable
  exact ⟨run_of_result hmore hmoreVariable (hresult _), hafter⟩

/-! ## A board with a team -/

namespace TeamBoard

open Grouping (Columns personHeading)

/-- A property with several people. -/
def team : Property.Template := ⟨"team", "Team", .multiPerson, [], none⟩

def board : Board := Board.new "b" "Board" 0 [team]

/-- A card for one person. -/
def alone : Card := (Card.new "c1" "b" "Alone" 0).setProperty "team" (.list ["u1"])

/-- A card for two people, one of them the same. -/
def together : Card := (Card.new "c2" "b" "Together" 0).setProperty "team" (.list ["u1", "u2"])

/-- The working directory, with two files. -/
def files : FileReader where
  text path :=
    if path = "board.json" then .ok board.toJson.compact
    else .ok (Json.ofList Card.toJson [alone, together]).compact
  words _ _ _ := none

def arguments : List String :=
  ["group", "--board", "board.json", "--cards", "cards.json", "--property", "team"]

theorem files_board : files.record Board.ofJson "board.json" = .ok board := by
  have hindex : ∀ t ∈ board.templates, t.IndexFits :=
    List.forall_mem_singleton.2 (by simp [team, Property.Template.IndexFits])
  exact FileReader.record_of_restores rfl (Board.restores hindex) (by decide)

theorem files_cards : files.record (.list Card.ofJson) "cards.json" = .ok [alone, together] :=
  FileReader.record_of_restores rfl (Decoder.restores_list fun c _ => c.restores) (by decide)

theorem findTemplate?_team : board.findTemplate? "team" = some team := by decide

theorem read?_arguments : Arguments.read? arguments =
    some (.run ⟨.group "board.json" "cards.json" "team" [] [], false⟩) := by decide

theorem people_alone : Grouping.people team alone = personHeading "u1" := by
  have hentries : Grouping.sortedEntries team alone = ["u1"] :=
    Grouping.sortedEntries_of_sorted rfl (by decide) (by decide)
  rw [Grouping.people, hentries]
  rfl

theorem people_together : Grouping.people team together = personHeading "u1,u2" := by
  have hentries : Grouping.sortedEntries team together = ["u1", "u2"] :=
    Grouping.sortedEntries_of_sorted rfl (by decide) (by decide)
  rw [Grouping.people, hentries]
  rfl

/-- Each of the two cards has a column of its own. -/
theorem collect_people : Grouping.collect (Grouping.people team) [alone, together] =
    [⟨personHeading "u1", [alone]⟩, ⟨personHeading "u1,u2", [together]⟩] := by
  simp [Grouping.collect, Grouping.addCard, people_alone, people_together, personHeading]

theorem columns_team (hidden : List String) :
    Grouping.columns team [] hidden [alone, together] =
      Grouping.byValue (Grouping.people team) hidden [alone, together] := rfl

/-- The column of one person is hidden by its id. -/
theorem shown_column_hidden_for_one_person :
    ⟨personHeading "u1", [alone]⟩ ∈ (Grouping.columns team [] [] [alone, together]).visible ∧
      run .default none files (Arguments.withOption "hidden" "u1" arguments) =
        .answered (reportText false
          (successReport (Grouping.columns team [] ["u1"] [alone, together]).toJson)) ∧
      ⟨personHeading "u1", [alone]⟩ ∈
        (Grouping.columns team [] ["u1"] [alone, together]).hidden := by
  have hcolumn : ⟨personHeading "u1", [alone]⟩ ∈
      (Grouping.columns team [] [] [alone, together]).visible := by
    rw [columns_team, Grouping.byValue, collect_people]
    exact List.mem_cons_self ..
  have hids : Arguments.idsIn "u1" = ["u1"] := by decide
  obtain ⟨-, hshown⟩ := shown_column_hidden_iff_no_comma read?_arguments
    (rfl : prettyVariable? arguments none = some false) files_board files_cards findTemplate?_team
    (by decide)
  obtain ⟨hrun, hhidden, -⟩ := hshown _ hcolumn
  simp only [personHeading, hids] at hrun hhidden
  exact ⟨hcolumn, hrun, hhidden.2 (by decide)⟩

/-- The id of the column of two people hides the column of one of them instead. -/
theorem shown_column_kept_for_two_people :
    run .default none files arguments =
        .answered (reportText false (successReport (Columns.toJson
          ⟨[⟨personHeading "u1", [alone]⟩, ⟨personHeading "u1,u2", [together]⟩], []⟩))) ∧
      run .default none files (Arguments.withOption "hidden" "u1,u2" arguments) =
        .answered (reportText false (successReport (Columns.toJson
          ⟨[⟨personHeading "u1,u2", [together]⟩], [⟨personHeading "u1", [alone]⟩]⟩))) := by
  have hresult := Command.result_group files_board files_cards findTemplate?_team []
  have harguments : Arguments.read? (Arguments.withOption "hidden" "u1,u2" arguments) =
      some (.run ⟨.group "board.json" "cards.json" "team" [] ["u1", "u2"], false⟩) := by decide
  have hbefore : Grouping.columns team [] [] [alone, together] =
      ⟨[⟨personHeading "u1", [alone]⟩, ⟨personHeading "u1,u2", [together]⟩], []⟩ := by
    rw [columns_team, Grouping.byValue, collect_people]
    rfl
  have hafter : Grouping.columns team [] ["u1", "u2"] [alone, together] =
      ⟨[⟨personHeading "u1,u2", [together]⟩], [⟨personHeading "u1", [alone]⟩]⟩ := by
    rw [columns_team, Grouping.byValue, collect_people]
    rfl
  rw [← hbefore, ← hafter]
  have hvariable (arguments : List String) : prettyVariable? arguments none = some false := rfl
  exact ⟨run_of_result read?_arguments (hvariable _) (hresult []),
    run_of_result harguments (hvariable _) (hresult ["u1", "u2"])⟩

end TeamBoard
end Corkboard
