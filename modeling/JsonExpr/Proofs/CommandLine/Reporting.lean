import JsonExpr.CommandLine.Outcome
import JsonExpr.Proofs.Settings.Document
import Mathlib

-- What commands come to if the settings document is not accepted: an error line, unless the tools in
-- the document are no table, which nothing foresees.
namespace JsonExpr

namespace CommandLine

-- The end of a command with an error line: nothing else is printed, and the exit code is 1.
structure Performance.EndsInError (performance : Performance) (message : String) : Prop where
  exitCode : performance.outcome.exitCode = 1
  summary : performance.outcome.summary = "Error: " ++ message
  rows : performance.outcome.rows = []
  standardOutput : performance.outcome.standardOutput = ""
  log : performance.log = []

-- A command that would have to read the standard input twice, which it refuses first of all.
def Command.ReadsTwice : Command → Prop
  | apply expression data _ => expression = "-" ∧ data = some "-"
  | _ => False

variable {host : Host} {command : Command} {outcome : Outcome} {failure : SettingsFailure}

theorem endsInError_failed (message : String) :
    ({ outcome := .failed message } : Performance).EndsInError message :=
  ⟨rfl, rfl, rfl, rfl, rfl⟩

theorem ofSettings_of_isForeseen {α : Type} (h : failure.IsForeseen) :
    (ofSettings (.error failure) : Attempt α) = .error (.failed failure.message) := by
  cases failure with
  | fault => exact h.elim
  | reference problem =>
    cases problem with
    | fault => exact h.elim
    | _ => rfl
  | _ => rfl

theorem Command.perform_of_error (h : command.attempt host = .error outcome) :
    command.perform host = { outcome } := by rw [perform, h]

-- Every command reads the settings before anything else.
theorem Command.attempt_of_readSettings (h : readSettings host = .error outcome)
    (hhelp : command ≠ .help) (htwice : ¬command.ReadsTwice) :
    command.attempt host = .error outcome := by
  have hengine (options : Options) : buildEngine host options = .error outcome := by
    rw [buildEngine, h]
    rfl
  cases command with
  | apply expression data options =>
    have hguard : ¬(expression = "-" ∧ data = some "-") := htwice
    rw [attempt, runApply, if_neg hguard, hengine]
    rfl
  | evaluate expression options =>
    rw [attempt, runEvaluate, hengine]
    rfl
  | validate expression options =>
    rw [attempt, runValidate, hengine]
    rfl
  | names options =>
    rw [attempt, runNames, hengine]
    rfl
  | help => exact absurd rfl hhelp

theorem Command.ReadsTwice.endsInError (h : command.ReadsTwice) (host : Host) :
    ∃ message, (command.perform host).EndsInError message := by
  cases command with
  | apply expression data options =>
    obtain ⟨rfl, rfl⟩ := h
    exact ⟨_, endsInError_failed _⟩
  | _ => exact h.elim

section Documents

variable {path source : String} {table : Fields Value}
  (hsettings : host.settings = some (path, source)) (htable : Toml.read? source = some table)

include hsettings htable

theorem readSettings_eq :
    readSettings host = ofSettings (Settings.ofTable path table host.readBoolean) := by
  simp only [readSettings, hsettings, Settings.ofSource, htable]

variable (hfailure : Settings.ofTable path table host.readBoolean = .error failure)
  (hhelp : command ≠ .help)

include hfailure hhelp

theorem Command.endsInError (hforeseen : failure.IsForeseen) :
    ∃ message, (command.perform host).EndsInError message ∧
      (¬command.ReadsTwice → message = failure.message) := by
  by_cases htwice : command.ReadsTwice
  · obtain ⟨message, hends⟩ := htwice.endsInError host
    exact ⟨message, hends, fun hnot => absurd htwice hnot⟩
  · have hread : readSettings host = .error (.failed failure.message) := by
      rw [readSettings_eq hsettings htable, hfailure, ofSettings_of_isForeseen hforeseen]
    rw [perform_of_error (attempt_of_readSettings hread hhelp htwice)]
    exact ⟨_, endsInError_failed _, fun _ => rfl⟩

omit hfailure hhelp in
theorem Command.perform_of_strayTools (hstray : Settings.HasStrayTools table)
    (hhelp : command ≠ .help) (htwice : ¬command.ReadsTwice) :
    command.perform host = { outcome := .crashed (.fault .notATable) } := by
  have hread : readSettings host = .error (.crashed (.fault .notATable)) := by
    rw [readSettings_eq hsettings htable, Settings.ofTable_of_error hstray.sectionOf_eq]
    rfl
  exact perform_of_error (attempt_of_readSettings hread hhelp htwice)

end Documents

-- Whatever the way is in which values are read as true or false, the table of a document comes to
-- settings exactly if its section describes them, all packs among them being names of shipped ones
-- or references with a colon. Otherwise it fails, in a foreseen way unless the tools in it are no
-- table; and if the failure is foreseen, every command ends with an error line and exit code 1, while
-- the other one stops each that gets to the settings.
theorem settings_problems_reported (readBoolean : Settings.BooleanReader) (path : String)
    (table : Fields Value) :
    (∀ settings, Settings.ofTable path table readBoolean = .ok settings ↔
      ∃ fields, Settings.HasSection table fields ∧
        Settings.Describes readBoolean fields settings) ∧
    (∀ failure, Settings.ofTable path table readBoolean = .error failure →
      (failure.IsForeseen ↔ ¬Settings.HasStrayTools table)) ∧
    ((∃ fault, Settings.ofTable path table readBoolean = .error (.fault fault)) ↔
      Settings.HasStrayTools table) ∧
    ∀ (host : Host) (source : String) (command : Command), host.readBoolean = readBoolean →
      host.settings = some (path, source) → Toml.read? source = some table → command ≠ .help →
        (∀ failure, Settings.ofTable path table readBoolean = .error failure →
          ¬Settings.HasStrayTools table → ∃ message, (command.perform host).EndsInError message ∧
            (¬command.ReadsTwice → message = failure.message)) ∧
        (Settings.HasStrayTools table → ¬command.ReadsTwice →
          (command.perform host).outcome = .crashed (.fault .notATable)) := by
  have hforeseen : ∀ failure, Settings.ofTable path table readBoolean = .error failure →
      (failure.IsForeseen ↔ ¬Settings.HasStrayTools table) :=
    fun _ h => Settings.isForeseen_iff_of_ofTable h
  refine ⟨fun _ => Settings.ofTable_eq_ok_iff, hforeseen, ⟨?_, fun hstray => ?_⟩, ?_⟩
  · rintro ⟨fault, hfault⟩
    exact Classical.byContradiction (hforeseen _ hfault).mpr
  · exact ⟨_, Settings.ofTable_of_error hstray.sectionOf_eq⟩
  · rintro host source command rfl hsettings htable hhelp
    refine ⟨fun failure hfailure hplain => ?_, fun hstray htwice => ?_⟩
    · exact Command.endsInError hsettings htable hfailure hhelp ((hforeseen _ hfailure).mpr hplain)
    · rw [Command.perform_of_strayTools hsettings htable hstray hhelp htwice]

section Documents

-- A host whose settings document has this text.
def hostWith (source : String) : Host where
  settings := some ("/pyproject.toml", source)
  input := ""
  file? _ := none
  surroundings := ⟨mkStdGen 0, default⟩

-- A section that is no table is reported by all commands.
theorem section_no_table_reported :
    let source := "[tool]\ndataexpr = \"math\"\n"
    let table : Fields Value := [("tool", .object [("dataexpr", .string "math")])]
    Toml.read? source = some table ∧ ¬Settings.HasStrayTools table ∧
      ∀ options, ((Command.names options).perform (hostWith source)).EndsInError
        "Invalid [tool.dataexpr] configuration. Expected a table." := by
  intro source table
  have htable : Toml.read? source = some table := by cbv
  have hplain : ¬Settings.HasStrayTools table := by
    rintro ⟨value, hvalue, hnot⟩
    cases hvalue
    exact hnot _ rfl
  refine ⟨htable, hplain, fun options => ?_⟩
  obtain ⟨-, -, -, hcommands⟩ :=
    settings_problems_reported Settings.boolean "/pyproject.toml" table
  obtain ⟨hends, -⟩ := hcommands (hostWith source) source (.names options) rfl rfl htable (by simp)
  obtain ⟨message, hmessage, hsame⟩ := hends .sectionNotTable rfl hplain
  obtain rfl := hsame id
  exact hmessage

-- Tools that are no table are not reported.
theorem tools_no_table_unforeseen :
    let source := "tool = 1\n"
    Toml.read? source = some [("tool", .int 1)] ∧
      Settings.ofSource "/pyproject.toml" source = .error (.fault .notATable) ∧
      ∀ options message,
        ((Command.names options).perform (hostWith source)).outcome =
            .crashed (.fault .notATable) ∧
          ¬((Command.names options).perform (hostWith source)).EndsInError message := by
  intro source
  have htable : Toml.read? source = some [("tool", .int 1)] := by cbv
  have hstray : Settings.HasStrayTools [("tool", .int 1)] := ⟨.int 1, rfl, by simp⟩
  refine ⟨htable, ?_, fun options message => ?_⟩
  · simp only [Settings.ofSource, htable, Settings.ofTable_of_error hstray.sectionOf_eq]
  · rw [Command.perform_of_strayTools rfl htable hstray (by simp) id]
    refine ⟨rfl, fun hends => ?_⟩
    have hfirst := congrArg (fun text : String => text.toList.head?) hends.summary
    simp [Outcome.summary] at hfirst

end Documents

end CommandLine

end JsonExpr
