import CpuUsage.Proofs.Credentials
import CpuUsage.Proofs.Settings.Window

/-! What is checked before anything is asked, and in which order. A command fails with the complaint of the first check that
its settings do not pass, and leaves the wire as it is; once they pass all checks, it never fails for what the user has
set. -/
namespace CpuUsage
open Failure

/-- What a command needs of the settings. -/
inductive Check where
  | space
  | historyWindow
  | token
  | metricsUrl
  | apiUrl
  | org
  deriving DecidableEq

/-- The checks in their order: an application is looked for in a space, and has a past. -/
def Command.checks : Command → List Check
  | .application _ => [.space, .historyWindow, .token, .metricsUrl, .apiUrl, .org]
  | .fleet => [.token, .metricsUrl, .apiUrl, .org]

namespace Settings

/-- What is wrong with the settings at a check, and the complaint about it. A metrics store that is not set is looked for
beside the API, so that all that is wrong with the API is wrong with it too. -/
inductive Faulty (s : Settings) (now : Instant) : Check → Failure → Prop where
  | spaceUnset : s.space = none → Faulty s now .space (.settings (.missingTarget .space))
  | windowInvalid : ¬ s.SpansTo now →
      Faulty s now .historyWindow (.settings (.invalidHistoryWindow s.historyWindowDays))
  | tokenBlank : (∀ token ∈ s.accessToken, AreBlanks token.toList) →
      Faulty s now .token (.settings .missingAccessToken)
  | metricsUnparsed {text : String} {cause : Url.Error} : s.metricsUrl = some text → Url.parse text = .error cause →
      Faulty s now .metricsUrl (.invalidMetricsUrl text cause)
  | metricsWithoutApi {e : Failure} : s.metricsUrl = none → Faulty s now .apiUrl e → Faulty s now .metricsUrl e
  | metricsUnderivable {text : String} {api : Url} : s.metricsUrl = none → s.apiUrl = some text →
      Url.parse text = .ok api → Url.metricsUrl? api = none →
      Faulty s now .metricsUrl (.settings (.underivableMetricsUrl api.text))
  | apiUnset : s.apiUrl = none → Faulty s now .apiUrl (.settings .missingApiUrl)
  | apiUnparsed {text : String} {cause : Url.Error} : s.apiUrl = some text → Url.parse text = .error cause →
      Faulty s now .apiUrl (.invalidApiUrl text cause)
  | orgUnset : s.org = none → Faulty s now .org (.settings (.missingTarget .org))

/-- Nothing is wrong at a check. -/
def Passes (s : Settings) (now : Instant) (check : Check) : Prop :=
  ∀ e, ¬ s.Faulty now check e

/-- The complaint of the first of these checks that the settings do not pass. -/
inductive FirstFault (s : Settings) (now : Instant) : List Check → Failure → Prop where
  | here {check : Check} {later : List Check} {e : Failure} : s.Faulty now check e → FirstFault s now (check :: later) e
  | later {check : Check} {later : List Check} {e : Failure} : s.Passes now check → FirstFault s now later e →
      FirstFault s now (check :: later) e

variable {s : Settings} {now : Instant}

/-- Either some check is the first that is not passed, or all are passed. -/
theorem firstFault_or_passes (s : Settings) (now : Instant) (checks : List Check) :
    (∃ e, s.FirstFault now checks e) ∨ ∀ check ∈ checks, s.Passes now check := by
  induction checks with
  | nil => exact .inr (List.forall_mem_nil _)
  | cons check later ih =>
    by_cases passes : s.Passes now check
    · rcases ih with ⟨e, fault⟩ | all
      · exact .inl ⟨e, .later passes fault⟩
      · exact .inr (List.forall_mem_cons.mpr ⟨passes, all⟩)
    · obtain ⟨e, unpassed⟩ := Classical.not_forall.mp passes
      exact .inl ⟨e, .here (Classical.not_not.mp unpassed)⟩

/-- A result that is the complaint of the first check that is not passed, and no failure if all are passed. -/
structure DecidedBy (s : Settings) (now : Instant) (checks : List Check) (x : Except Failure α) : Prop where
  refused : ∀ e, s.FirstFault now checks e → x = .error e
  accepted : (∀ check ∈ checks, s.Passes now check) → ∃ a, x = .ok a

theorem decidedBy_nil (a : α) : s.DecidedBy now [] (.ok a) where
  refused := by
    intro e fault
    cases fault
  accepted := fun _ => ⟨a, rfl⟩

/-- One check is decided if its complaints are those of the result, and there is one wherever the result fails. -/
theorem decidedBy_single {check : Check} {x : Except Failure α} (complains : ∀ e, s.Faulty now check e → x = .error e)
    (complained : ∀ e, x = .error e → s.Faulty now check e) : s.DecidedBy now [check] x where
  refused := by
    intro e fault
    cases fault with
    | here faulty => exact complains e faulty
    | later _ none => cases none
  accepted := by
    intro passes
    cases result : x with
    | ok a => exact ⟨a, rfl⟩
    | error e => exact absurd (complained e result) (passes check List.mem_cons_self e)

theorem DecidedBy.bind {check : Check} {later : List Check} {x : Except Failure α} {f : α → Except Failure β}
    (first : s.DecidedBy now [check] x) (next : ∀ a, s.DecidedBy now later (f a)) :
    s.DecidedBy now (check :: later) (x >>= f) where
  refused := by
    intro e fault
    cases fault with
    | here faulty =>
      rw [first.refused e (.here faulty)]
      rfl
    | later passes fault =>
      obtain ⟨a, passed⟩ := first.accepted fun _ member => List.mem_singleton.mp member ▸ passes
      rw [passed]
      exact (next a).refused e fault
  accepted := by
    intro passes
    obtain ⟨here, all⟩ := List.forall_mem_cons.mp passes
    obtain ⟨a, passed⟩ := first.accepted fun _ member => List.mem_singleton.mp member ▸ here
    rw [passed]
    exact (next a).accepted all

theorem DecidedBy.passes {check : Check} {x : Except Failure α} (decided : s.DecidedBy now [check] x)
    (passed : x.isOk = true) : s.Passes now check := by
  intro e faulty
  rw [decided.refused e (.here faulty)] at passed
  cases passed

/-- A value that has to be there: the one complaint is that it is missing. -/
theorem decidedBy_required {check : Check} {missing : SettingsError} {value : Option α}
    (faulty : ∀ e, s.Faulty now check e ↔ value = none ∧ e = .settings missing) :
    s.DecidedBy now [check] (required missing value) := by
  apply decidedBy_single
  · intro e complaint
    obtain ⟨rfl, rfl⟩ := (faulty e).mp complaint
    rfl
  · intro e failed
    cases value with
    | some a => cases failed
    | none =>
      cases failed
      exact (faulty _).mpr ⟨rfl, rfl⟩

theorem decidedBy_space : s.DecidedBy now [.space] s.targetSpace := by
  refine decidedBy_required fun e => ⟨fun faulty => ?_, fun ⟨unset, complaint⟩ => complaint ▸ .spaceUnset unset⟩
  cases faulty with
  | spaceUnset unset => exact ⟨unset, rfl⟩

theorem decidedBy_org : s.DecidedBy now [.org] s.targetOrg := by
  refine decidedBy_required fun e => ⟨fun faulty => ?_, fun ⟨unset, complaint⟩ => complaint ▸ .orgUnset unset⟩
  cases faulty with
  | orgUnset unset => exact ⟨unset, rfl⟩

theorem decidedBy_token : s.DecidedBy now [.token] s.token := by
  have blank : s.accessToken.filter (fun t => !t.toList.all isBlank) = none ↔
      ∀ token ∈ s.accessToken, AreBlanks token.toList := by
    cases s.accessToken with
    | none => simp
    | some token => simp [Option.filter, AreBlanks]
  refine decidedBy_required fun e => ?_
  rw [blank]
  constructor
  · intro faulty
    cases faulty with
    | tokenBlank blanks => exact ⟨blanks, rfl⟩
  · rintro ⟨blanks, rfl⟩
    exact .tokenBlank blanks

theorem decidedBy_historyWindow : s.DecidedBy now [.historyWindow] (s.historyStart now) := by
  apply decidedBy_single
  · intro e faulty
    cases faulty with
    | windowInvalid invalid => exact historyStart_of_not_spansTo invalid
  · intro e failed
    have invalid : ¬ s.SpansTo now := by
      intro spans
      obtain ⟨start, begun, _⟩ := historyStart_of_spansTo spans
      rw [begun] at failed
      cases failed
    rw [historyStart_of_not_spansTo invalid] at failed
    cases failed
    exact .windowInvalid invalid

theorem api_of_unset (unset : s.apiUrl = none) : s.api = .error (.settings .missingApiUrl) := by
  rw [api, unset]
  rfl

theorem api_of_set {text : String} (set : s.apiUrl = some text) :
    s.api = (Url.parse text).mapError (invalidApiUrl text) := by
  rw [api, set]
  cases parsed : Url.parse text <;> simp [required, Except.mapError, parsed, bind, Except.bind]

theorem metrics_of_set {text : String} (set : s.metricsUrl = some text) :
    s.metrics = (Url.parse text).mapError (invalidMetricsUrl text) := by
  simp only [metrics, set]
  cases Url.parse text <;> rfl

theorem metrics_of_unset (unset : s.metricsUrl = none) : s.metrics = s.api >>= Url.deriveMetricsUrl := by
  simp only [metrics, unset]

theorem mapError_eq_error_iff {x : Except ε α} {f : ε → Failure} {e : Failure} :
    x.mapError f = .error e ↔ ∃ cause, x = .error cause ∧ f cause = e := by
  cases x <;> simp [Except.mapError]

theorem faulty_apiUrl_iff {e : Failure} : s.Faulty now .apiUrl e ↔ s.api = .error e := by
  constructor
  · intro faulty
    cases faulty with
    | apiUnset unset => exact api_of_unset unset
    | apiUnparsed set unparsed =>
      rw [api_of_set set]
      exact mapError_eq_error_iff.mpr ⟨_, unparsed, rfl⟩
  · intro failed
    cases held : s.apiUrl with
    | none =>
      rw [api_of_unset held] at failed
      cases failed
      exact .apiUnset held
    | some text =>
      rw [api_of_set held] at failed
      obtain ⟨cause, unparsed, rfl⟩ := mapError_eq_error_iff.mp failed
      exact .apiUnparsed held unparsed

theorem deriveMetricsUrl_eq_error_iff {api : Url} {e : Failure} :
    api.deriveMetricsUrl = .error e ↔
      Url.metricsUrl? api = none ∧ .settings (.underivableMetricsUrl api.text) = e := by
  rw [Url.deriveMetricsUrl]
  cases Url.metricsUrl? api <;> simp

theorem api_eq_ok_iff {u : Url} : s.api = .ok u ↔ ∃ text, s.apiUrl = some text ∧ Url.parse text = .ok u := by
  cases held : s.apiUrl with
  | none => simp [api_of_unset held]
  | some text =>
    rw [api_of_set held]
    cases parsed : Url.parse text <;> simp [Except.mapError, parsed]

theorem faulty_metricsUrl_iff {e : Failure} : s.Faulty now .metricsUrl e ↔ s.metrics = .error e := by
  constructor
  · intro faulty
    cases faulty with
    | metricsUnparsed set unparsed =>
      rw [metrics_of_set set]
      exact mapError_eq_error_iff.mpr ⟨_, unparsed, rfl⟩
    | metricsWithoutApi unset faulty =>
      rw [metrics_of_unset unset, faulty_apiUrl_iff.mp faulty]
      rfl
    | metricsUnderivable unset set parsed underivable =>
      rw [metrics_of_unset unset, api_eq_ok_iff.mpr ⟨_, set, parsed⟩]
      exact deriveMetricsUrl_eq_error_iff.mpr ⟨underivable, rfl⟩
  · intro failed
    cases held : s.metricsUrl with
    | some text =>
      rw [metrics_of_set held] at failed
      obtain ⟨cause, unparsed, rfl⟩ := mapError_eq_error_iff.mp failed
      exact .metricsUnparsed held unparsed
    | none =>
      rw [metrics_of_unset held] at failed
      rcases error_of_bind failed with failed | ⟨api, accepted, underived⟩
      · exact .metricsWithoutApi held (faulty_apiUrl_iff.mpr failed)
      · obtain ⟨text, set, parsed⟩ := api_eq_ok_iff.mp accepted
        obtain ⟨underivable, rfl⟩ := deriveMetricsUrl_eq_error_iff.mp underived
        exact .metricsUnderivable held set parsed underivable

theorem decidedBy_apiUrl : s.DecidedBy now [.apiUrl] s.api :=
  decidedBy_single (fun _ => faulty_apiUrl_iff.mp) fun _ => faulty_apiUrl_iff.mpr

theorem decidedBy_metricsUrl : s.DecidedBy now [.metricsUrl] s.metrics :=
  decidedBy_single (fun _ => faulty_metricsUrl_iff.mp) fun _ => faulty_metricsUrl_iff.mpr

theorem decidedBy_platform : s.DecidedBy now [.token, .metricsUrl, .apiUrl, .org] (Platform.ofSettings s) :=
  decidedBy_token.bind fun _ =>
    decidedBy_metricsUrl.bind fun _ =>
      decidedBy_apiUrl.bind fun _ =>
        decidedBy_org.bind fun _ =>
          decidedBy_nil _

end Settings

namespace Command
open Settings

theorem decidedBy_check (s : Settings) (now : Instant) (c : Command) : s.DecidedBy now c.checks (c.check s now) := by
  cases c with
  | fleet => exact decidedBy_platform
  | application name =>
    exact decidedBy_space.bind fun _ => decidedBy_historyWindow.bind fun _ => decidedBy_platform

theorem isUser_of_faulty {s : Settings} {now : Instant} {check : Check} {e : Failure} (faulty : s.Faulty now check e) :
    e.IsUser := by
  induction faulty with
  | spaceUnset | windowInvalid | tokenBlank | metricsUnderivable | apiUnset | orgUnset => exact .inl (.settings _)
  | metricsUnparsed => exact .inr (.invalidMetricsUrl _ _)
  | apiUnparsed => exact .inr (.invalidApiUrl _ _)
  | metricsWithoutApi _ _ ih => exact ih

theorem isUser_of_firstFault {s : Settings} {now : Instant} {checks : List Check} {e : Failure}
    (fault : s.FirstFault now checks e) : e.IsUser := by
  induction fault with
  | here faulty => exact isUser_of_faulty faulty
  | later _ _ ih => exact ih

theorem not_isUser_of_isRemote {e : Failure} (remote : e.IsRemote) : ¬ e.IsUser := by
  rintro (settings | unread)
  · cases settings
    rcases remote with backend | platform
    · cases backend
    · cases platform
  · rcases remote with backend | platform
    · cases backend <;> cases unread
    · cases platform
      cases unread

/-- Some check is the first that is not passed, or all are passed. In the one case the command fails with the complaint of
that check, and the wire is left as it is; in the other it never fails with a complaint of this kind. -/
theorem show_checks (s : Settings) (now : Instant) (c : Command) :
    ((∃ e, s.FirstFault now c.checks e) ∨ ∀ check ∈ c.checks, s.Passes now check) ∧
    (∀ e, s.FirstFault now c.checks e →
      e.IsUser ∧ ∀ format coloured w, (c.show s now format coloured).run w = (.error e, w)) ∧
    ((∀ check ∈ c.checks, s.Passes now check) →
      ∀ format coloured w e w', (c.show s now format coloured).run w = (.error e, w') → ¬ e.IsUser) := by
  have decided := decidedBy_check s now c
  refine ⟨firstFault_or_passes s now c.checks, ?_, ?_⟩
  · intro e fault
    exact ⟨isUser_of_firstFault fault, show_of_check_error (decided.refused e fault)⟩
  · intro passes format coloured w e w' failed
    obtain ⟨p, passed⟩ := decided.accepted passes
    exact not_isUser_of_isRemote (show_failsWith passed format coloured w e w' failed)

/-! A user with neither an address of the platform nor an organization, first without one of the metrics store, and then
with it. -/
namespace NoPlatform

def settings : Settings :=
  { Settings.default with accessToken := some "token" }

def withStore : Settings :=
  { settings with metricsUrl := some "https://log-cache.example.org", apiUrl := some "example.org" }

end NoPlatform

/-- What is wrong with the API is told at the check of the metrics store, or behind it. -/
theorem show_checks_noPlatform :
    NoPlatform.settings.FirstFault .epoch fleet.checks (.settings .missingApiUrl) ∧
    NoPlatform.withStore.FirstFault .epoch fleet.checks (.invalidApiUrl "example.org" .noScheme) ∧
    ∀ format coloured w,
      (fleet.show NoPlatform.settings .epoch format coloured).run w = (.error (.settings .missingApiUrl), w) ∧
      (fleet.show NoPlatform.withStore .epoch format coloured).run w =
        (.error (.invalidApiUrl "example.org" .noScheme), w) := by
  have store : NoPlatform.withStore.Passes .epoch .metricsUrl := decidedBy_metricsUrl.passes (by decide +kernel)
  have unparsed : Url.parse "example.org" = .error .noScheme := by rfl
  have first : NoPlatform.settings.FirstFault .epoch fleet.checks (.settings .missingApiUrl) :=
    .later (decidedBy_token.passes rfl) (.here (.metricsWithoutApi rfl (.apiUnset rfl)))
  have second : NoPlatform.withStore.FirstFault .epoch fleet.checks (.invalidApiUrl "example.org" .noScheme) :=
    .later (decidedBy_token.passes rfl) (.later store (.here (.apiUnparsed rfl unparsed)))
  refine ⟨first, second, fun format coloured w => ⟨?_, ?_⟩⟩
  · exact ((show_checks NoPlatform.settings .epoch .fleet).2.1 _ first).2 format coloured w
  · exact ((show_checks NoPlatform.withStore .epoch .fleet).2.1 _ second).2 format coloured w

end Command

end CpuUsage
