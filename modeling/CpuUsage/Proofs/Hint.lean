import CpuUsage.Proofs.Except
import CpuUsage.Proofs.Failure

/-! When the hint at the platform is given. All that the user has set is checked before anything is asked, so a run fails
either at a check, without any request, or at a request or what it told. The hint goes with what a request failed for, and
not with what the user has left out; it also goes with settings that cannot be read. -/
namespace CpuUsage
open Failure Session

namespace Failure

/-- The user is to blame: something is left out, cannot be used, or cannot be read. -/
def IsUser (e : Failure) : Prop :=
  e.IsSettings ∨ e.IsUnread

end Failure

namespace Settings
variable {s : Settings} {e : Failure}

theorem isUser_of_required {missing : SettingsError} {value : Option α} (failed : required missing value = .error e) :
    e.IsUser := by
  cases value with
  | none =>
    cases failed
    exact .inl (.settings missing)
  | some a => cases failed

theorem isUser_of_api (failed : s.api = .error e) : e.IsUser := by
  rcases error_of_bind failed with missing | ⟨text, _, unparsed⟩
  · exact isUser_of_required missing
  · cases parsed : Url.parse text with
    | ok u => simp [parsed] at unparsed
    | error cause =>
      simp only [parsed, Except.error.injEq] at unparsed
      cases unparsed
      exact .inr (.invalidApiUrl text cause)

theorem isUser_of_metrics (failed : s.metrics = .error e) : e.IsUser := by
  rw [metrics] at failed
  split at failed
  · next text _ =>
    split at failed
    · cases failed
    · next cause _ =>
      cases failed
      exact .inr (.invalidMetricsUrl text cause)
  · rcases error_of_bind failed with unset | ⟨api, _, underived⟩
    · exact isUser_of_api unset
    · rw [Url.deriveMetricsUrl] at underived
      split at underived
      · cases underived
      · cases underived
        exact .inl (.settings _)

theorem isUser_of_historyStart {now : Instant} (failed : s.historyStart now = .error e) : e.IsUser := by
  rcases error_of_bind failed with invalid | ⟨seconds, _, outside⟩
  · rw [historySeconds] at invalid
    split at invalid
    · cases invalid
      exact .inl (.settings _)
    · cases invalid
  · exact isUser_of_required outside

theorem isUser_of_load {file : Option (FileFormat × String)} {environment : List (String × String)}
    {overrides : Overrides} (failed : load file environment overrides = .error e) : e.IsUser := by
  simp only [load] at failed
  split at failed
  · cases failed
    exact .inr .unreadableSettings
  · split at failed
    · cases failed
    · cases failed
      exact .inr .unusableSettings

end Settings

theorem Platform.isUser_of_ofSettings {s : Settings} {e : Failure} (failed : Platform.ofSettings s = .error e) :
    e.IsUser := by
  rcases error_of_bind failed with token | ⟨_, _, failed⟩
  · exact Settings.isUser_of_required token
  rcases error_of_bind failed with metrics | ⟨_, _, failed⟩
  · exact Settings.isUser_of_metrics metrics
  rcases error_of_bind failed with api | ⟨_, _, failed⟩
  · exact Settings.isUser_of_api api
  rcases error_of_bind failed with org | ⟨_, _, failed⟩
  · exact Settings.isUser_of_required org
  · cases failed

namespace Command

/-- What is checked before anything is asked, in this order. -/
def check (s : Settings) (now : Instant) : Command → Except Failure Platform
  | .application _ => do
    let _ ← s.targetSpace
    let _ ← s.historyStart now
    Platform.ofSettings s
  | .fleet => Platform.ofSettings s

theorem isUser_of_check {s : Settings} {now : Instant} {c : Command} {e : Failure} (failed : c.check s now = .error e) :
    e.IsUser := by
  cases c with
  | fleet => exact Platform.isUser_of_ofSettings failed
  | application name =>
    rcases error_of_bind failed with space | ⟨_, _, failed⟩
    · exact Settings.isUser_of_required space
    rcases error_of_bind failed with start | ⟨_, _, failed⟩
    · exact Settings.isUser_of_historyStart start
    · exact Platform.isUser_of_ofSettings failed

/-- A check that fails leaves the wire as it is. -/
theorem show_of_check_error {s : Settings} {now : Instant} {c : Command} {e : Failure}
    (failed : c.check s now = .error e) (format : OutputFormat) (coloured : Bool) (w : Wire) :
    (c.show s now format coloured).run w = (.error e, w) := by
  cases c with
  | fleet =>
    have failed : Platform.ofSettings s = .error e := failed
    rw [Command.show, showFleet, failed]
    rfl
  | application name =>
    rcases error_of_bind failed with space | ⟨_, space, failed⟩
    · rw [Command.show, showApplication, space]
      rfl
    rcases error_of_bind failed with start | ⟨_, start, failed⟩
    · rw [Command.show, showApplication, space, start]
      rfl
    · rw [Command.show, showApplication, space, start, failed]
      rfl

/-- Once the platform is known, a command asks it and nothing else. -/
theorem show_within {s : Settings} {now : Instant} {c : Command} {p : Platform} (passed : c.check s now = .ok p)
    {allowed : Request → Prop} (permits : p.Permits allowed) (format : OutputFormat) (coloured : Bool) :
    Within (Wire.Step allowed) IsRemote (c.show s now format coloured) := by
  cases c with
  | fleet =>
    have passed : Platform.ofSettings s = .ok p := passed
    rw [Command.show, showFleet, passed]
    exact (FleetReport.within_create permits.within_ask).map _
  | application name =>
    obtain ⟨_, space, passed⟩ := ok_of_bind passed
    obtain ⟨start, started, passed⟩ := ok_of_bind passed
    rw [Command.show, showApplication, space, started, passed]
    exact (ApplicationReport.within_create permits.within_ask _ _ name fun a => .inr (.platform _)).map _

theorem show_failsWith {s : Settings} {now : Instant} {c : Command} {p : Platform} (passed : c.check s now = .ok p)
    (format : OutputFormat) (coloured : Bool) : FailsWith IsRemote (c.show s now format coloured) := by
  have permits : p.Permits fun _ => True := ⟨fun _ => trivial, fun _ => trivial⟩
  exact (show_within passed permits format coloured).fails

end Command

namespace CommandLine

def check (w : Surroundings) (c : CommandLine) : Except Failure Platform := do
  let s ← c.settings w
  c.command.check s w.now

variable {w : Surroundings} {c : CommandLine}

theorem isUser_of_check {e : Failure} (failed : c.check w = .error e) : e.IsUser := by
  rcases error_of_bind failed with unset | ⟨s, _, failed⟩
  · exact Settings.isUser_of_load unset
  · exact Command.isUser_of_check failed

theorem perform_of_check_error {e : Failure} (failed : c.check w = .error e) (wire : Wire) :
    (c.perform w).run wire = (.error e, wire) := by
  rcases error_of_bind failed with unset | ⟨s, set, failed⟩
  · rw [perform, unset]
    rfl
  · rw [perform, set]
    exact Command.show_of_check_error failed c.format w.coloured wire

theorem perform_failsWith {p : Platform} (passed : c.check w = .ok p) : FailsWith IsRemote (c.perform w) := by
  obtain ⟨s, set, passed⟩ := ok_of_bind passed
  rw [perform, set]
  exact Command.show_failsWith passed c.format w.coloured

end CommandLine

/-- The text begins otherwise than the hint. -/
def UnlikeHint (text : String) : Prop :=
  ∃ c, c ≠ 'Y' ∧ text.toList.head? = some c

theorem UnlikeHint.append {text : String} (unlike : UnlikeHint text) (more : String) : UnlikeHint (text ++ more) := by
  obtain ⟨c, other, first⟩ := unlike
  exact ⟨c, other, by rw [String.toList_append, List.head?_append, first, Option.some_or]⟩

theorem UnlikeHint.ne_featureHint {text : String} (unlike : UnlikeHint text) : text ≠ featureHint := by
  rintro rfl
  obtain ⟨c, other, first⟩ := unlike
  have isY : featureHint.toList.head? = some 'Y' := by decide
  exact other (Option.some.inj (first.symm.trans isY))

theorem SettingsError.unlikeHint (e : SettingsError) : UnlikeHint e.message := by
  cases e with
  | missingApiUrl | missingAccessToken => exact ⟨'N', by decide, by decide⟩
  | missingTarget target => cases target <;> exact ⟨'N', by decide, by decide⟩
  | underivableMetricsUrl apiUrl => exact .append (.append ⟨'C', by decide, by decide⟩ _) _
  | invalidHistoryWindow days => exact .append (.append ⟨'I', by decide, by decide⟩ _) _

theorem PlatformError.unlikeHint (e : PlatformError) : UnlikeHint e.message := by
  cases e with
  | unsupportedDeployment application => exact .append (.append ⟨'C', by decide, by decide⟩ _) _
  | applicationNotFound name => exact .append (.append ⟨'A', by decide, by decide⟩ _) _
  | orgNotFound name => exact .append (.append ⟨'O', by decide, by decide⟩ _) _
  | spaceNotFound name => exact .append (.append ⟨'S', by decide, by decide⟩ _) _

theorem Failure.fullMessage_of_causes_eq_nil {words : Failure → List String} {e : Failure}
    (none : e.causes words = []) : e.fullMessage words = e.message := by
  rw [fullMessage, none]
  exact String.intercalate_singleton

theorem errorLine_inj {coloured : Bool} {message message' : String} :
    errorLine coloured message = errorLine coloured message' ↔ message = message' :=
  String.append_right_inj _

namespace Outcome

/-- The hint is among what is told. -/
def Hints (coloured : Bool) (o : Outcome) : Prop :=
  errorLine coloured featureHint ∈ o.errors

/-- The run failed for this: nothing is shown, and what is told begins with the failure and its causes. -/
structure FailedFor (w : Surroundings) (e : Failure) (o : Outcome) : Prop where
  exitCode : o.exitCode = 1
  output : o.output = ""
  told : o.errors.head? = some (errorLine w.coloured (": ".intercalate (e.message :: e.causes w.words)))

theorem failedFor_ofFailure (w : Surroundings) (e : Failure) : (ofFailure w.coloured w.words e).FailedFor w e :=
  ⟨rfl, rfl, rfl⟩

variable {coloured : Bool} {words : Failure → List String} {e : Failure}

theorem hints_of_mayBePlatform (mayBe : e.mayBePlatform = true) : (ofFailure coloured words e).Hints coloured := by
  simp [Hints, ofFailure, mayBe]

/-- Of the settings and of the platform no causes are told, and the message is not the hint. -/
theorem not_hints_of_not_mayBePlatform (mayNotBe : e.mayBePlatform = false) :
    ¬ (ofFailure coloured words e).Hints coloured := by
  have other : e.fullMessage words ≠ featureHint := by
    cases e with
    | platform e =>
      rw [fullMessage_of_causes_eq_nil rfl]
      exact e.unlikeHint.ne_featureHint
    | settings e =>
      rw [fullMessage_of_causes_eq_nil rfl]
      exact e.unlikeHint.ne_featureHint
    | _ => cases mayNotBe
  simp [Hints, ofFailure, mayNotBe, errorLine_inj, other.symm]

end Outcome

theorem run_of_failure {w : Surroundings} {args : List String} {c : CommandLine} (read : CommandLine.read args = .ok c)
    {replies : List Reply} {e : Failure} {wire : Wire} (failed : (c.perform w).run (.new replies) = (.error e, wire)) :
    run w args replies = (.ofFailure w.coloured w.words e, wire.sent) := by
  simp only [run, read, failed]

/-- A run that cannot begin, for what the user has set, makes no request; the hint is given exactly if that cannot be read.
A run that fails later fails for a request or its answer, and then the hint is given, or for what is not there, and then
not. A run that does not fail gives no hint. -/
theorem run_hints {w : Surroundings} {args : List String} {c : CommandLine} (read : CommandLine.read args = .ok c)
    (replies : List Reply) :
    (∀ e, c.check w = .error e →
      (run w args replies).2 = [] ∧ (run w args replies).1.FailedFor w e ∧
        (e.IsSettings ∧ ¬ (run w args replies).1.Hints w.coloured ∨
          e.IsUnread ∧ (run w args replies).1.Hints w.coloured)) ∧
    (∀ p, c.check w = .ok p → ∀ e wire, (c.perform w).run (.new replies) = (.error e, wire) →
      (run w args replies).1.FailedFor w e ∧
        (e.IsPlatform ∧ ¬ (run w args replies).1.Hints w.coloured ∨
          e.IsBackend ∧ (run w args replies).1.Hints w.coloured)) ∧
    ∀ text wire, (c.perform w).run (.new replies) = (.ok text, wire) →
      (run w args replies).1.exitCode = 0 ∧ ¬ (run w args replies).1.Hints w.coloured := by
  refine ⟨fun e failed => ?_, fun p passed e wire failed => ?_, fun text wire shown => ?_⟩
  · rw [run_of_failure read (CommandLine.perform_of_check_error failed (.new replies))]
    refine ⟨rfl, Outcome.failedFor_ofFailure w e, ?_⟩
    rcases CommandLine.isUser_of_check failed with settings | unread
    · refine .inl ⟨settings, Outcome.not_hints_of_not_mayBePlatform ?_⟩
      cases settings
      rfl
    · refine .inr ⟨unread, Outcome.hints_of_mayBePlatform ?_⟩
      cases unread <;> rfl
  · rw [run_of_failure read failed]
    refine ⟨Outcome.failedFor_ofFailure w e, ?_⟩
    rcases CommandLine.perform_failsWith passed _ _ _ failed with backend | platform
    · refine .inr ⟨backend, Outcome.hints_of_mayBePlatform ?_⟩
      cases backend <;> rfl
    · refine .inl ⟨platform, Outcome.not_hints_of_not_mayBePlatform ?_⟩
      cases platform
      rfl
  · simp only [run, read, shown]
    exact ⟨trivial, List.not_mem_nil⟩

/-! A user with a token and an organization, whose address of the platform is no URL, or is left out. -/
namespace NoAddress

def surroundings : Surroundings where
  files := fun _ => none
  formats := fileFormats (fun _ => none) (fun _ => none) (fun _ => none) fun _ => none
  settingsPath := some "config.toml"
  environment := [("CPU_ENTITLEMENT_ACCESS_TOKEN", "token")]
  coloured := false
  now := .epoch
  words := fun _ => []

def unparsed : List String :=
  ["oei", "--api-url", "not a url", "--org", "org"]

def unset : List String :=
  ["oei", "--org", "org"]

def unsetLine : CommandLine :=
  ⟨.fleet, ⟨none, none, some "org", none, false⟩, none, .table, false, .text⟩

end NoAddress

/-- Nothing is asked, and the user's own setting is at fault, and still there is the hint. -/
theorem run_hints_unparsed :
    run NoAddress.surroundings NoAddress.unparsed [] =
      (⟨1, "", ["✗ Invalid API URL 'not a url': relative URL without a base",
        "✗ Your Cloud Foundry may not have enabled the CPU Entitlements feature. Please consult your operator."]⟩, []) := by
  decide +kernel

/-- Here no address is set, and there is no hint. -/
theorem run_hints_unset :
    CommandLine.read NoAddress.unset = .ok NoAddress.unsetLine ∧
      NoAddress.unsetLine.check NoAddress.surroundings = .error (.settings .missingApiUrl) ∧
      run NoAddress.surroundings NoAddress.unset [] =
        (⟨1, "", ["✗ No API endpoint set. Use --api-url or CPU_ENTITLEMENT_API_URL"]⟩, []) ∧
      ¬ (run NoAddress.surroundings NoAddress.unset []).1.Hints false := by
  have read : CommandLine.read NoAddress.unset = .ok NoAddress.unsetLine := by rfl
  have failed : NoAddress.unsetLine.check NoAddress.surroundings = .error (.settings .missingApiUrl) := by rfl
  refine ⟨read, failed, by decide +kernel, ?_⟩
  obtain ⟨_, _, told⟩ := (run_hints read []).1 _ failed
  rcases told with ⟨_, silent⟩ | ⟨unread, _⟩
  · exact silent
  · cases unread

end CpuUsage
