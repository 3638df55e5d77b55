-- SUMMARY: A command fails with the first of its needs that is not met, and prints nothing else.
import Corkboard.Command.Launch
import Corkboard.Command.Workspace
import Corkboard.Proofs.Command.Hiding

/-!
# Failing runs

A command needs the records in its files, and the command that groups also needs its property. The
needs have an order. If all are met, the command ends well; otherwise the first one that is not met
decides what the report says. What comes after it is not looked at.

A report names the file or the property that is missing, or the file without a record. If the system
cannot read a file, its report tells the fault and does not name the file. What the log writes on
the error stream stands in front of the report. It is told of the files that have been read and of
the failure, and of nothing else. A log that cannot be opened keeps the command from being run.
-/

namespace Corkboard

/-! ## Files that hold a record -/

namespace Files

variable {α : Type}

/-- The file at the path is a text, and the value is read from it. -/
def Holds (files : Files) (decode : Decoder α) (path : String) (a : α) : Prop :=
  ∃ bytes text, files.find path = .bytes bytes ∧ String.fromUTF8? bytes = some text ∧
    decode.ofText? text = some a

/-- Why no value is read from the path. -/
inductive Lacks (files : Files) (decode : Decoder α) (path : String) : Failure → Prop
  | nothing (hfind : files.find path = .nothing) : Lacks files decode path (.noFile path)
  | fault {f : ReadFault} (hfind : files.find path = .fault f) :
      Lacks files decode path (.unreadable f)
  | notUtf8 {bytes : ByteArray} (hfind : files.find path = .bytes bytes)
      (htext : String.fromUTF8? bytes = none) : Lacks files decode path (.unreadable .notUtf8)
  | malformed {bytes : ByteArray} {text : String} (hfind : files.find path = .bytes bytes)
      (htext : String.fromUTF8? bytes = some text) (hvalue : decode.ofText? text = none) :
      Lacks files decode path (.malformed ⟨path, files.words α decode text⟩)

section Record

variable {files : Files} {decode : Decoder α} {path : String}

theorem holds_or_lacks (files : Files) (decode : Decoder α) (path : String) :
    (∃ a, files.Holds decode path a) ∨ ∃ cause, files.Lacks decode path cause := by
  cases hfind : files.find path with
  | nothing => exact .inr ⟨_, .nothing hfind⟩
  | fault f => exact .inr ⟨_, .fault hfind⟩
  | bytes bytes =>
    cases htext : String.fromUTF8? bytes with
    | none => exact .inr ⟨_, .notUtf8 hfind htext⟩
    | some text =>
      cases hvalue : decode.ofText? text with
      | none => exact .inr ⟨_, .malformed hfind htext hvalue⟩
      | some a => exact .inl ⟨a, bytes, text, hfind, htext, hvalue⟩

theorem record_of_holds {a : α} (h : files.Holds decode path a) :
    files.reader.record decode path = .ok a := by
  obtain ⟨bytes, text, hfind, htext, hvalue⟩ := h
  exact FileReader.record_eq_ok_iff.2 ⟨text, by simp [reader, hfind, htext], hvalue⟩

theorem record_of_lacks {cause : Failure} (h : files.Lacks decode path cause) :
    files.reader.record decode path = .error cause := by
  cases h with
  | nothing hfind => simp [FileReader.record, reader, hfind, bind, Except.bind]
  | fault hfind => simp [FileReader.record, reader, hfind, bind, Except.bind]
  | notUtf8 hfind htext => simp [FileReader.record, reader, hfind, htext, bind, Except.bind]
  | malformed hfind htext hvalue =>
    simp [FileReader.record, reader, hfind, htext, hvalue, bind, Except.bind]

theorem record_eq_ok_iff {a : α} :
    files.reader.record decode path = .ok a ↔ files.Holds decode path a := by
  refine ⟨fun h => ?_, record_of_holds⟩
  rcases files.holds_or_lacks decode path with ⟨b, hb⟩ | ⟨cause, hcause⟩
  · obtain rfl := Except.ok.inj ((record_of_holds hb).symm.trans h)
    exact hb
  · exact nomatch (record_of_lacks hcause).symm.trans h

end Record

/-- A file with the bytes of a text is read as this text. -/
theorem fromUTF8?_toUTF8 (s : String) : String.fromUTF8? s.toUTF8 = some s := by
  rw [String.toUTF8_eq_toByteArray, String.fromUTF8?, dif_pos s.isValidUTF8]
  rfl

end Files

/-! ## The needs of a command -/

/-- Something that a command cannot do without: a record in a file, or a property of a board. -/
inductive Need : Type 1 where
  | record {α : Type} (decode : Decoder α) (path : String)
  | property (boardPath id : String)

/-- The needs of a command, in the order in which they are looked at. -/
def Command.needs : Command → List Need
  | diff old new => [.record Board.ofJson old, .record Board.ofJson new]
  | filter board cards criteria =>
    [.record Board.ofJson board, .record (.list Card.ofJson) cards,
      .record Filter.Group.ofJson criteria]
  | suggest board criteria => [.record Board.ofJson board, .record Filter.Group.ofJson criteria]
  | group board cards property _ _ =>
    [.record Board.ofJson board, .record (.list Card.ofJson) cards, .property board property]

/-- Whatever the parser says, the path stands in front of it. -/
theorem Complaint.exists_message_eq (path : String) (words : Option String) :
    ∃ back, Complaint.message ⟨path, words⟩ = path ++ back := by
  cases words with
  | none => exact ⟨"", (String.append_empty ..).symm⟩
  | some words => exact ⟨": " ++ words, String.append_assoc ..⟩

namespace Need

/-- What a message has to name: the file, or the property. -/
def subject : Need → String
  | record _ path => path
  | property _ id => id

/-- The need is met. A property is needed of a board that can be read. -/
def Met (files : Files) : Need → Prop
  | record decode path => ∃ a, files.Holds decode path a
  | property boardPath id =>
    ∀ b, files.Holds Board.ofJson boardPath b → ∃ t ∈ b.templates, t.id = id

/-- The need is not met, for this cause. -/
def Fails (files : Files) (cause : Failure) : Need → Prop
  | record decode path => files.Lacks decode path cause
  | property boardPath id =>
    cause = .noProperty id ∧
      ∃ b, files.Holds Board.ofJson boardPath b ∧ ∀ t ∈ b.templates, t.id ≠ id

/-- The message has the subject of the need in it. -/
def IsNamed (need : Need) (message : String) : Prop :=
  ∃ front back, message = front ++ need.subject ++ back

/-- A message names what it is about, unless the system cannot read the file. -/
theorem isNamed_or_unreadable {files : Files} {need : Need} {cause : Failure}
    (h : need.Fails files cause) :
    need.IsNamed cause.message ∨ ∃ fault, cause = .unreadable fault := by
  cases need with
  | @record α decode path =>
    cases h with
    | nothing => exact .inl ⟨"Not found: ", "", (String.append_empty ..).symm⟩
    | fault => exact .inr ⟨_, rfl⟩
    | notUtf8 => exact .inr ⟨_, rfl⟩
    | @malformed _ text =>
      obtain ⟨back, hback⟩ := Complaint.exists_message_eq path (files.words α decode text)
      refine .inl ⟨"Serialization error: ", back, ?_⟩
      rw [subject, String.append_assoc, ← hback]
      rfl
  | property boardPath id =>
    obtain ⟨rfl, -⟩ := h
    exact .inl ⟨"Not found: Card property ", "", (String.append_empty ..).symm⟩

/-- What is told while the need is looked at. -/
def told (read : FileReader) : Need → List Event
  | record _ path => read.told path
  | property _ _ => []

/-! ### Looking at a need -/

/-- Looks whether the need is met. -/
def check (read : FileReader) : Need → Except Failure Unit
  | record decode path => (read.record decode path).map fun _ => ()
  | property boardPath id =>
    match read.record Board.ofJson boardPath with
    | .error _ => .ok ()
    | .ok b => if (b.findTemplate? id).isSome then .ok () else .error (.noProperty id)

theorem isSome_findTemplate?_iff {b : Board} {id : String} :
    (b.findTemplate? id).isSome ↔ ∃ t ∈ b.templates, t.id = id := by
  simp [Board.findTemplate?, Property.Template.find?, List.find?_isSome]

theorem met_or_fails (files : Files) (need : Need) :
    need.Met files ∨ ∃ cause, need.Fails files cause := by
  cases need with
  | record decode path => exact files.holds_or_lacks decode path
  | property boardPath id =>
    refine Classical.or_iff_not_imp_left.2 fun h => ?_
    simp only [Met, not_forall, not_exists, not_and] at h
    obtain ⟨b, hb, hnone⟩ := h
    exact ⟨_, rfl, b, hb, hnone⟩

variable {files : Files} {need : Need}

theorem check_of_met (h : need.Met files) : need.check files.reader = .ok () := by
  cases need with
  | record decode path =>
    obtain ⟨a, ha⟩ := h
    rw [check, Files.record_of_holds ha]
    rfl
  -- A board that cannot be read is a need of its own.
  | property boardPath id =>
    cases hread : files.reader.record Board.ofJson boardPath with
    | error cause => simp only [check, hread]
    | ok b =>
      have htemplate := isSome_findTemplate?_iff.2 (h b (Files.record_eq_ok_iff.1 hread))
      simp only [check, hread, if_pos htemplate]

theorem check_of_fails {cause : Failure} (h : need.Fails files cause) :
    need.check files.reader = .error cause := by
  cases need with
  | record decode path =>
    rw [check, Files.record_of_lacks h]
    rfl
  | property boardPath id =>
    obtain ⟨rfl, b, hb, hnone⟩ := h
    have htemplate : ¬(b.findTemplate? id).isSome := by
      rw [isSome_findTemplate?_iff]
      exact fun ⟨t, ht, hid⟩ => hnone t ht hid
    simp only [check, Files.record_of_holds hb, if_neg htemplate]

theorem check_eq_ok_iff : need.check files.reader = .ok () ↔ need.Met files := by
  refine ⟨fun h => ?_, check_of_met⟩
  rcases met_or_fails files need with hmet | ⟨cause, hfails⟩
  · exact hmet
  · exact nomatch (check_of_fails hfails).symm.trans h

end Need

/-! ## The first need that is not met -/

section First

variable {α : Type*} {ε : Type} {check : α → Except ε Unit}

theorem forM_eq_ok_iff {needs : List α} :
    forM needs check = .ok () ↔ ∀ need ∈ needs, check need = .ok () := by
  induction needs with
  | nil => simp [pure, Except.pure]
  | cons need rest ih =>
    rw [List.forM_cons, bind_eq_ok_iff, List.forall_mem_cons, ← ih]
    exact ⟨fun ⟨_, h⟩ => h, fun h => ⟨(), h⟩⟩

theorem forM_of_first {front back : List α} {need : α} {e : ε}
    (hfront : ∀ n ∈ front, check n = .ok ()) (hneed : check need = .error e) :
    forM (front ++ need :: back) check = .error e := by
  rw [List.forM_append, forM_eq_ok_iff.2 hfront, List.forM_cons, hneed]
  rfl

end First

/-- The result of a command is there if all its needs are met, and the needs are looked at in their
    order. -/
theorem Command.map_result (read : FileReader) (command : Command) :
    (command.result read).map (fun _ => ()) = forM command.needs (Need.check read) := by
  -- Both sides read the same files in the same order, so they part at the same file.
  cases command with
  | diff old new =>
    simp only [result, needs, List.forM_cons, List.forM_nil, Need.check]
    cases read.record Board.ofJson old with
    | error cause => rfl
    | ok before => cases read.record Board.ofJson new <;> rfl
  | filter board cards criteria =>
    simp only [result, needs, List.forM_cons, List.forM_nil, Need.check]
    cases read.record Board.ofJson board with
    | error cause => rfl
    | ok board =>
      cases read.record (.list Card.ofJson) cards with
      | error cause => rfl
      | ok cards => cases read.record Filter.Group.ofJson criteria <;> rfl
  | suggest board criteria =>
    simp only [result, needs, List.forM_cons, List.forM_nil, Need.check]
    cases read.record Board.ofJson board with
    | error cause => rfl
    | ok board => cases read.record Filter.Group.ofJson criteria <;> rfl
  | group board cards property visible hidden =>
    simp only [result, needs, List.forM_cons, List.forM_nil, Need.check]
    cases read.record Board.ofJson board with
    | error cause => rfl
    | ok board =>
      cases read.record (.list Card.ofJson) cards with
      | error cause => rfl
      | ok cards =>
        cases htemplate : board.findTemplate? property with
        | none => simp [htemplate, bind, Except.bind, Except.map]
        | some template => simp [htemplate, bind, Except.bind, Except.map, pure, Except.pure]

theorem Command.result_error_of_first {files : Files} {command : Command} {front back : List Need}
    {need : Need} {cause : Failure} (hneeds : command.needs = front ++ need :: back)
    (hfront : ∀ n ∈ front, n.Met files) (hneed : need.Fails files cause) :
    command.result files.reader = .error cause := by
  have hresult := command.map_result files.reader
  rw [hneeds, forM_of_first (fun n hn => Need.check_of_met (hfront n hn))
    (Need.check_of_fails hneed)] at hresult
  cases h : command.result files.reader with
  | error other =>
    rw [h] at hresult
    exact congrArg Except.error (Except.error.inj hresult)
  | ok data =>
    rw [h] at hresult
    cases hresult

theorem Command.exists_result_iff_met {files : Files} {command : Command} :
    (∃ data, command.result files.reader = .ok data) ↔ ∀ need ∈ command.needs, need.Met files := by
  have hresult := command.map_result files.reader
  have hmet : (∀ need ∈ command.needs, need.Met files) ↔
      (command.result files.reader).map (fun _ => ()) = .ok () := by
    simp only [hresult, forM_eq_ok_iff, Need.check_eq_ok_iff]
  rw [hmet]
  cases command.result files.reader with
  | error cause => simp [Except.map]
  | ok data => simp [Except.map]

/-- If some needs are not met, one of them is the first. -/
theorem Need.exists_first_failing {files : Files} {needs : List Need}
    (h : ¬∀ need ∈ needs, need.Met files) :
    ∃ front need back cause, needs = front ++ need :: back ∧ (∀ n ∈ front, n.Met files) ∧
      need.Fails files cause := by
  induction needs with
  | nil => exact absurd (List.forall_mem_nil _) h
  | cons first rest ih =>
    rcases met_or_fails files first with hmet | ⟨cause, hfails⟩
    · have hrest : ¬∀ need ∈ rest, need.Met files := fun hall =>
        h (List.forall_mem_cons.2 ⟨hmet, hall⟩)
      obtain ⟨front, need, back, cause, rfl, hfront, hneed⟩ := ih hrest
      exact ⟨first :: front, need, back, cause, rfl, List.forall_mem_cons.2 ⟨hmet, hfront⟩, hneed⟩
    · exact ⟨[], first, rest, cause, rfl, List.forall_mem_nil _, hfails⟩

/-! ## What is told of the needs -/

/-- What is told while needs are looked at, up to the first that is not met. -/
def Need.toldUpTo (read : FileReader) : List Need → List Event
  | [] => []
  | need :: rest =>
    need.told read ++
      match need.check read with
      | .ok () => Need.toldUpTo read rest
      | .error _ => []

theorem Need.toldUpTo_of_first {read : FileReader} {front back : List Need} {need : Need}
    {cause : Failure} (hfront : ∀ n ∈ front, n.check read = .ok ())
    (hneed : need.check read = .error cause) :
    Need.toldUpTo read (front ++ need :: back) = (front ++ [need]).flatMap (Need.told read) := by
  induction front with
  | nil => simp [toldUpTo, hneed]
  | cons first rest ih =>
    obtain ⟨hfirst, hrest⟩ := List.forall_mem_cons.1 hfront
    simp [toldUpTo, hfirst, ih hrest]

section Records

variable {α : Type} {read : FileReader} {decode : Decoder α} {path : String}

/-- What is told of a file depends on what comes behind it only if it holds a record. -/
theorem FileReader.events_congr {next next' : α → List Event}
    (h : ∀ a, read.record decode path = .ok a → next a = next' a) :
    read.events decode path next = read.events decode path next' := by
  cases hread : read.record decode path with
  | error cause => simp only [events, hread]
  | ok a => simp only [events, hread, h a hread]

theorem Need.toldUpTo_record (rest : List Need) :
    Need.toldUpTo read (.record decode path :: rest) =
      read.events decode path fun _ => Need.toldUpTo read rest := by
  cases hread : read.record decode path with
  | error cause => simp [toldUpTo, told, check, FileReader.events, hread, Except.map]
  | ok a => simp [toldUpTo, told, check, FileReader.events, hread, Except.map]

/-- Nothing is told of a property, and no need comes behind it. -/
theorem Need.toldUpTo_property (id : String) :
    Need.toldUpTo read [.property path id] = [] := by
  simp only [toldUpTo, told, List.nil_append]
  split <;> rfl

end Records

/-- A command that fails has done nothing but look at its needs. -/
theorem Command.progress_of_error {read : FileReader} {command : Command} {cause : Failure}
    (h : command.result read = .error cause) :
    command.progress read = Need.toldUpTo read command.needs := by
  cases command with
  | diff old new =>
    simp only [progress, needs, Need.toldUpTo_record]
    refine FileReader.events_congr fun before hold => FileReader.events_congr fun after hnew => ?_
    rw [result, hold, hnew] at h
    cases h
  | filter board cards criteria =>
    simp only [progress, needs, Need.toldUpTo_record]
    refine FileReader.events_congr fun board hboard => FileReader.events_congr fun cards hcards =>
      FileReader.events_congr fun group hgroup => ?_
    rw [result, hboard, hcards, hgroup] at h
    cases h
  | suggest board criteria =>
    simp only [progress, needs, Need.toldUpTo_record]
    refine FileReader.events_congr fun board hboard =>
      FileReader.events_congr fun group hgroup => ?_
    rw [result, hboard, hgroup] at h
    cases h
  | group board cards property visible hidden =>
    simp only [progress, needs, Need.toldUpTo_record, Need.toldUpTo_property]
    refine FileReader.events_congr fun board hboard =>
      FileReader.events_congr fun cards hcards => ?_
    cases htemplate : board.findTemplate? property with
    | none => rfl
    | some template =>
      rw [result, hboard, hcards] at h
      simp [htemplate, bind, Except.bind, pure, Except.pure] at h

/-- What a failing run tells: the files up to the one that is to blame, and the failure. -/
theorem Command.events_of_first {files : Files} {command : Command} {front back : List Need}
    {need : Need} {cause : Failure} (hneeds : command.needs = front ++ need :: back)
    (hfront : ∀ n ∈ front, n.Met files) (hneed : need.Fails files cause) :
    command.events files.reader =
      (front ++ [need]).flatMap (Need.told files.reader) ++ [.commandFailed cause] := by
  have hresult := Command.result_error_of_first hneeds hfront hneed
  rw [events, progress_of_error hresult, hresult, hneeds,
    Need.toldUpTo_of_first (fun n hn => Need.check_of_met (hfront n hn))
      (Need.check_of_fails hneed)]

/-! ## The whole run -/

@[simp] theorem Log.onErrorStream_silent (log : Log) (refusal? : String → Option String)
    (events : List Event) : log.onErrorStream (.silent refusal?) events = "" := by
  cases log <;> rfl

section Launch

variable {environment : Environment} {arguments : List String} {invocation : Invocation}
  (logger : Logger) (guides : Guides) (settings : Settings) (read : FileReader)
  (haccepted : accepted? arguments environment.pretty = some invocation)

/-- A log that cannot be opened ends the run at once. -/
theorem launch_of_refused {reason : String}
    (hlog : (Log.choose logger environment settings).refusal? logger = some reason) :
    launch logger guides settings environment read arguments =
      ⟨1, "", "Error: " ++ reason ++ "\n"⟩ := by
  simp only [launch, hlog]

include haccepted

/-- Otherwise the command is run, and what it tells goes to the log. -/
theorem launch_of_accepted
    (hlog : (Log.choose logger environment settings).refusal? logger = none) :
    launch logger guides settings environment read arguments =
      let outcome := run settings environment.pretty read arguments guides
      ⟨outcome.status, outcome.stdout,
        (Log.choose logger environment settings).onErrorStream logger
            (invocation.command.events read) ++
          outcome.report (guides.misuse arguments environment.pretty)⟩ := by
  simp only [launch, hlog, haccepted, Option.map_some, Option.getD_some]

theorem status_launch_eq_zero_iff :
    (launch logger guides settings environment read arguments).status = 0 ↔
      (Log.choose logger environment settings).refusal? logger = none ∧
        ∃ data, invocation.command.result read = .ok data := by
  cases hlog : (Log.choose logger environment settings).refusal? logger with
  | none =>
    rw [launch_of_accepted logger guides settings read haccepted hlog]
    simp [status_run_eq_zero_iff haccepted]
  | some reason =>
    rw [launch_of_refused logger guides settings read hlog]
    simp

/-- The first need that is not met decides how the run ends. -/
theorem launch_of_first {files : Files} {front back : List Need} {need : Need} {cause : Failure}
    (hlog : (Log.choose logger environment settings).refusal? logger = none)
    (hneeds : invocation.command.needs = front ++ need :: back)
    (hfront : ∀ n ∈ front, n.Met files) (hneed : need.Fails files cause) :
    launch logger guides settings environment files.reader arguments =
      ⟨1, "",
        (Log.choose logger environment settings).onErrorStream logger
            ((front ++ [need]).flatMap (Need.told files.reader) ++ [.commandFailed cause]) ++
          reportText (invocation.pretty || settings.effectivePrettyOutput)
            (failureReport cause)⟩ := by
  have hresult := Command.result_error_of_first hneeds hfront hneed
  simp only [launch_of_accepted logger guides settings files.reader haccepted hlog,
    run_of_failure haccepted hresult, Command.events_of_first hneeds hfront hneed]
  rfl

/-- A run that does not end well has nothing on the standard output. -/
theorem failed_of_status_launch_ne_zero
    (hstatus : (launch logger guides settings environment read arguments).status ≠ 0) :
    (launch logger guides settings environment read arguments).status = 1 ∧
      (launch logger guides settings environment read arguments).stdout = "" := by
  cases hlog : (Log.choose logger environment settings).refusal? logger with
  | some reason =>
    rw [launch_of_refused logger guides settings read hlog]
    exact ⟨rfl, rfl⟩
  | none =>
    cases hresult : invocation.command.result read with
    | ok data =>
      exact absurd ((status_launch_eq_zero_iff logger guides settings read haccepted).2
        ⟨hlog, data, hresult⟩) hstatus
    | error cause =>
      rw [launch_of_accepted logger guides settings read haccepted hlog,
        run_of_failure haccepted hresult]
      exact ⟨rfl, rfl⟩

end Launch

/-- A command that is accepted ends well exactly if the log can be opened and all needs of the
    command are met. Otherwise it ends with status one, and nothing is on the standard output. The
    first need that is not met decides what is on the error stream, whatever the others are: what
    the log writes there of the files up to this one and of the failure, and a report that tells the
    cause. The report names the file or the property unless the system could not read the file. -/
theorem run_decided_by_first_need {environment : Environment} {arguments : List String}
    {invocation : Invocation} (logger : Logger) (guides : Guides) (settings : Settings)
    (files : Files) (haccepted : accepted? arguments environment.pretty = some invocation) :
    let log := Log.choose logger environment settings
    let ending := launch logger guides settings environment files.reader arguments
    let pretty := invocation.pretty || settings.effectivePrettyOutput
    (ending.status = 0 ↔
        log.refusal? logger = none ∧ ∀ need ∈ invocation.command.needs, need.Met files) ∧
      (ending.status ≠ 0 → ending.status = 1 ∧ ending.stdout = "") ∧
      (log.refusal? logger = none → ending.status ≠ 0 → ∃ front need back cause,
        invocation.command.needs = front ++ need :: back ∧ (∀ n ∈ front, n.Met files) ∧
          need.Fails files cause) ∧
      ∀ front need back cause, log.refusal? logger = none →
        invocation.command.needs = front ++ need :: back → (∀ n ∈ front, n.Met files) →
          need.Fails files cause →
            ending.status = 1 ∧ ending.stdout = "" ∧
              ending.stderr =
                log.onErrorStream logger
                  ((front ++ [need]).flatMap (Need.told files.reader) ++ [.commandFailed cause]) ++
                reportText pretty (failureReport cause) ∧
              (need.IsNamed cause.message ∨ ∃ fault, cause = .unreadable fault) := by
  intro log ending pretty
  have hstatus : ending.status = 0 ↔
      log.refusal? logger = none ∧ ∀ need ∈ invocation.command.needs, need.Met files := by
    rw [← Command.exists_result_iff_met]
    exact status_launch_eq_zero_iff logger guides settings files.reader haccepted
  refine ⟨hstatus, failed_of_status_launch_ne_zero logger guides settings files.reader haccepted,
    fun hlog hfailed => ?_, fun front need back cause hlog hneeds hfront hneed => ?_⟩
  · exact Need.exists_first_failing fun hmet => hfailed (hstatus.2 ⟨hlog, hmet⟩)
  · have hending : ending = _ :=
      launch_of_first logger guides settings haccepted hlog hneeds hfront hneed
    rw [hending]
    exact ⟨rfl, rfl, rfl, Need.isNamed_or_unreadable hneed⟩

/-! ## The board of a team, spoiled -/

namespace TeamBoard

/-- What the parser says about an empty text. -/
def wordsOnEmpty : ParserWords := fun _ _ text =>
  if text = "" then some "EOF while parsing a value at line 1 column 0" else none

/-- A working directory with the board of the team. The file of the cards is empty. -/
def noCards : Files :=
  Workspace.files
    [("board.json", .file board.toJson.compact.toUTF8), ("cards.json", .file ByteArray.empty)]
    wordsOnEmpty

def unknownProperty : List String :=
  ["group", "--board", "board.json", "--cards", "cards.json", "--property", "nobody"]

theorem find_board : noCards.find "board.json" = .bytes board.toJson.compact.toUTF8 := rfl

theorem find_cards : noCards.find "cards.json" = .bytes ByteArray.empty := rfl

theorem holds_board : noCards.Holds Board.ofJson "board.json" board := by
  have hindex : ∀ t ∈ board.templates, t.IndexFits :=
    List.forall_mem_singleton.2 (by simp [team, Property.Template.IndexFits])
  exact ⟨_, _, find_board, Files.fromUTF8?_toUTF8 _,
    (Board.restores hindex).ofText?_compact (by decide)⟩

/-- The property is missing as well, but the file of the cards comes first. The log has only details
    to tell of, and writes none of them. -/
theorem run_decided_by_empty_cards :
    let ending := launch (.silent fun _ => none) .brief .default {} noCards.reader unknownProperty
    (Need.property "board.json" "nobody").Fails noCards (.noProperty "nobody") ∧
      ending.status = 1 ∧ ending.stdout = "" ∧
      ending.stderr = reportText false (failureReport
        (.malformed ⟨"cards.json", some "EOF while parsing a value at line 1 column 0"⟩)) := by
  have haccepted : accepted? unknownProperty ({} : Environment).pretty =
      some ⟨.group "board.json" "cards.json" "nobody" [] [], false⟩ := by decide
  have hproperty : (Need.property "board.json" "nobody").Fails noCards (.noProperty "nobody") :=
    ⟨rfl, board, holds_board, List.forall_mem_singleton.2 (by decide)⟩
  have htext : String.fromUTF8? ByteArray.empty = some "" := by decide
  have hcards : (Need.record (Decoder.list Card.ofJson) "cards.json").Fails noCards
      (.malformed ⟨"cards.json", some "EOF while parsing a value at line 1 column 0"⟩) :=
    .malformed find_cards htext (by decide)
  obtain ⟨-, -, -, hfirst⟩ :=
    run_decided_by_first_need (.silent fun _ => none) .brief .default noCards haccepted
  obtain ⟨hstatus, hstdout, hstderr, -⟩ := hfirst [.record Board.ofJson "board.json"]
    (.record (.list Card.ofJson) "cards.json") [.property "board.json" "nobody"] _ rfl rfl
    (List.forall_mem_singleton.2 ⟨board, holds_board⟩) hcards
  rw [Log.onErrorStream_silent, String.empty_append] at hstderr
  exact ⟨hproperty, hstatus, hstdout, hstderr⟩

/-- A working directory whose board is no text. -/
def garbled : Workspace :=
  [("board.json", .file ⟨#[0xff]⟩),
    ("filter.json", .file "\x7b\"operation\":\"and\"\x7d".toUTF8)]

def suggestForGarbled : List String :=
  ["suggest", "--board", "board.json", "--filter", "filter.json"]

/-- A board that is no text fails the command, and the message does not say which file it is. -/
theorem garbled_board_not_named :
    ∃ cause, (Need.record Board.ofJson "board.json").Fails (garbled.files fun _ _ _ => none) cause ∧
      launch (.silent fun _ => none) .brief .default {} garbled.readText suggestForGarbled =
        ⟨1, "", reportText false (failureReport cause)⟩ ∧
      ¬(Need.record Board.ofJson "board.json").IsNamed cause.message := by
  have haccepted : accepted? suggestForGarbled ({} : Environment).pretty =
      some ⟨.suggest "board.json" "filter.json", false⟩ := by decide
  have hfind : (garbled.files fun _ _ _ => none).find "board.json" = .bytes ⟨#[0xff]⟩ := rfl
  have hboard : (Need.record Board.ofJson "board.json").Fails (garbled.files fun _ _ _ => none)
      (.unreadable .notUtf8) := .notUtf8 hfind (by decide)
  have hneeds : Command.needs (.suggest "board.json" "filter.json") =
      [] ++ .record Board.ofJson "board.json" :: [.record Filter.Group.ofJson "filter.json"] := rfl
  refine ⟨.unreadable .notUtf8, hboard, ?_, ?_⟩
  · rw [Workspace.readText, launch_of_first _ _ _ haccepted rfl hneeds (List.forall_mem_nil _) hboard,
      Log.onErrorStream_silent, String.empty_append]
    rfl
  · rintro ⟨front, back, hmessage⟩
    have hin : 'b' ∈ (Failure.unreadable .notUtf8).message.toList := by
      rw [hmessage]
      simp [Need.subject]
    exact absurd hin (by decide)

end TeamBoard
end Corkboard
