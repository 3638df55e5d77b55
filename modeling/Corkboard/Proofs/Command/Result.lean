-- SUMMARY: A run reports the result of its command, and a record is read if the file has a text for it.
import Corkboard.Command.Run
import Corkboard.Proofs.Json.Decoder

/-!
# Results

A run whose arguments are understood reports the result of its command, whatever the settings and
the environment say about blanks. A command goes on after a file only with the record that stands in
it.
-/

namespace Corkboard

/-! ## Records -/

/-- A computation that goes on has had a result up to there. -/
theorem bind_eq_ok_iff {ε α β : Type} {x : Except ε α} {f : α → Except ε β} {b : β} :
    x >>= f = .ok b ↔ ∃ a, x = .ok a ∧ f a = .ok b := by
  cases x with
  | error e => simp [bind, Except.bind]
  | ok a => simp [bind, Except.bind]

namespace FileReader

variable {read : FileReader} {α : Type} {decode : Decoder α} {path : String}

theorem record_eq_ok_iff {a : α} :
    read.record decode path = .ok a ↔
      ∃ text, read path = .ok text ∧ decode.ofText? text = some a := by
  refine bind_eq_ok_iff.trans (exists_congr fun text => and_congr_right fun _ => ?_)
  cases decode.ofText? text with
  | none => simp
  | some b => simp [pure, Except.pure]

/-- A file with the written form of a value is read as this value. -/
theorem record_of_restores {k : Nat} {value : Json} {a : α} (hfile : read path = .ok value.compact)
    (h : decode.Restores k value a) (hk : k ≤ nestingLimit) : read.record decode path = .ok a :=
  record_eq_ok_iff.2 ⟨value.compact, hfile, h.ofText?_compact hk⟩

end FileReader

/-! ## Runs -/

section Run

variable {settings : Settings} {environment : Option String} {fromEnvironment : Bool}
  {read : FileReader} {arguments : List String} {guides : Guides} {invocation : Invocation}

section Accepted

variable (h : accepted? arguments environment = some invocation)
include h

/-- A run of an accepted command reports its result. -/
theorem run_of_accepted :
    run settings environment read arguments guides =
      .ofResult (invocation.pretty || settings.effectivePrettyOutput)
        (invocation.command.result read) := by
  rw [run, h]
  unfold accepted? at h
  split at h
  case h_1 given hread => simp only [hread]
  case h_2 => cases h

theorem run_of_failure {cause : Failure} (hresult : invocation.command.result read = .error cause) :
    run settings environment read arguments guides =
      .failed cause (reportText (invocation.pretty || settings.effectivePrettyOutput)
        (failureReport cause)) := by
  rw [run_of_accepted h, hresult, Outcome.ofResult]

/-- A run of an accepted command ends well exactly if there is a result to report. -/
theorem status_run_eq_zero_iff :
    (run settings environment read arguments guides).status = 0 ↔
      ∃ data, invocation.command.result read = .ok data := by
  rw [run_of_accepted h]
  cases invocation.command.result read with
  | ok data => simp [Outcome.ofResult, Outcome.status]
  | error cause => simp [Outcome.ofResult, Outcome.status]

end Accepted

section Understood

variable (harguments : Arguments.read? arguments = some (.run invocation))
include harguments

/-- A command that is understood is accepted if the variable for indented output is. -/
theorem accepted?_of_read? (environment : Option String) :
    accepted? arguments environment =
      (prettyVariable? arguments environment).map fun fromEnvironment =>
        ⟨invocation.command, invocation.pretty || fromEnvironment⟩ := by
  rw [accepted?, harguments]

theorem run_of_result (hvariable : prettyVariable? arguments environment = some fromEnvironment)
    {data : Json} (hresult : invocation.command.result read = .ok data) :
    run settings environment read arguments guides =
      .answered (reportText
        (invocation.pretty || fromEnvironment || settings.effectivePrettyOutput)
        (successReport data)) := by
  have haccepted : accepted? arguments environment =
      some ⟨invocation.command, invocation.pretty || fromEnvironment⟩ := by
    rw [accepted?_of_read? harguments environment, hvariable]
    rfl
  rw [run_of_accepted haccepted, hresult, Outcome.ofResult]

/-- A run of a command that ends well has had a result to report. -/
theorem exists_result_of_status
    (hstatus : (run settings environment read arguments guides).status = 0) :
    (∃ fromEnvironment, prettyVariable? arguments environment = some fromEnvironment) ∧
      ∃ data, invocation.command.result read = .ok data := by
  have haccepted := accepted?_of_read? harguments environment
  cases hvariable : prettyVariable? arguments environment with
  | none =>
    rw [hvariable] at haccepted
    simp [run, harguments, haccepted, Outcome.status] at hstatus
  | some fromEnvironment =>
    rw [hvariable] at haccepted
    exact ⟨⟨fromEnvironment, rfl⟩, (status_run_eq_zero_iff haccepted).1 hstatus⟩

end Understood

end Run
end Corkboard
