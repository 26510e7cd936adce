import CpuUsage.Program
import CpuUsage.Proofs.Wire

/-! Where failures come from, and where requests come from. Once the interfaces are known, all that can go wrong is a
request, its answer, or that what is named is not there; and all that is sent are requests of these interfaces. -/
namespace CpuUsage

namespace Failure

/-- A request or the answer to it went wrong. -/
inductive IsBackend : Failure → Prop where
  | invalidPath (cause : Url.Error) : IsBackend (.invalidPath cause)
  | invalidLink (text : String) (cause : Url.Error) : IsBackend (.invalidLink text cause)
  | unanswered : IsBackend .unanswered
  | refused (status : Nat) (body : String) : IsBackend (.refused status body)
  | undecodable : IsBackend .undecodable
  | queryFailed (reason : String) : IsBackend (.queryFailed reason)

/-- The platform lacks what is named, or lacks the metrics. -/
inductive IsPlatform : Failure → Prop where
  | platform (e : PlatformError) : IsPlatform (.platform e)

/-- A request or its answer went wrong, or something is not there. -/
def IsRemote (e : Failure) : Prop :=
  e.IsBackend ∨ e.IsPlatform

/-- The user has left something out or set it to what cannot be used. -/
inductive IsSettings : Failure → Prop where
  | settings (e : SettingsError) : IsSettings (.settings e)

/-- What the user has set cannot be read at all. -/
inductive IsUnread : Failure → Prop where
  | unreadableSettings : IsUnread .unreadableSettings
  | unusableSettings : IsUnread .unusableSettings
  | invalidApiUrl (text : String) (cause : Url.Error) : IsUnread (.invalidApiUrl text cause)
  | invalidMetricsUrl (text : String) (cause : Url.Error) : IsUnread (.invalidMetricsUrl text cause)

end Failure

namespace Session
variable {σ α β : Type} {step : σ → σ → Prop} {P Q : Failure → Prop}

/-- Every failure of the computation is one of these. -/
def FailsWith (P : Failure → Prop) (x : Session σ α) : Prop :=
  ∀ s e s', x.run s = (.error e, s') → P e

/-- Every run, whether it fails or not, is made of these steps, and every failure is one of these. -/
structure Within (step : σ → σ → Prop) (P : Failure → Prop) (x : Session σ α) : Prop where
  steps : ∀ s, Relation.ReflTransGen step s (x.run s).2
  fails : FailsWith P x

theorem Within.mono {x : Session σ α} (within : Within step P x) (weaker : ∀ e, P e → Q e) : Within step Q x :=
  ⟨within.steps, fun s e s' ran => weaker e (within.fails s e s' ran)⟩

theorem within_pure (a : α) : Within step P (pure a : Session σ α) := by
  refine ⟨fun s => .refl, ?_⟩
  intro s e s' ran
  cases ran

theorem within_fail {e : Failure} (one : P e) : Within step P (fail e : Session σ α) := by
  refine ⟨fun s => .refl, ?_⟩
  intro s e' s' ran
  cases ran
  exact one

theorem within_ofExcept {x : Except Failure α} (one : ∀ e, x = .error e → P e) :
    Within step P (ofExcept x : Session σ α) := by
  cases x with
  | ok a => exact within_pure a
  | error e => exact within_fail (one e rfl)

theorem Within.bind {x : Session σ α} {f : α → Session σ β} (first : Within step P x)
    (next : ∀ a, Within step P (f a)) : Within step P (x >>= f) := by
  constructor
  · intro s
    have steps := first.steps s
    rcases begun : x.run s with ⟨result, between⟩
    rw [begun] at steps
    cases result with
    | error e => rwa [run_bind_error begun]
    | ok a =>
      rw [run_bind_ok begun]
      exact steps.trans ((next a).steps between)
  · intro s e s' ran
    rcases begun : x.run s with ⟨result, between⟩
    cases result with
    | error e' =>
      rw [run_bind_error begun] at ran
      cases ran
      exact first.fails s _ _ begun
    | ok a =>
      rw [run_bind_ok begun] at ran
      exact (next a).fails between e s' ran

theorem Within.map {x : Session σ α} (within : Within step P x) (f : α → β) :
    Within step P (x >>= fun a => pure (f a)) :=
  within.bind fun a => within_pure (f a)

/-- A computation that looks at its state first to choose how to go on. -/
theorem within_of_state {f : σ → Session σ α} (each : ∀ s, Within step P (f s)) : Within step P fun s => f s s :=
  ⟨fun s => (each s).steps s, fun s => (each s).fails s⟩

end Session

open Failure Session

section
variable {allowed : Request → Prop} {api : Api} (permits : ∀ u, allowed (api.request u))
include permits

namespace Api

theorem within_fetch (decoder : Decoder α) (u : Url) :
    Within (Wire.Step allowed) IsBackend (api.fetch decoder u) := by
  rw [fetch]
  split
  · exact within_fail .unanswered
  · have exchanged : Within (Wire.Step allowed) IsBackend (Wire.exchange (api.request u)) := by
      refine ⟨fun w => .single ⟨api.request u, permits u, rfl⟩, ?_⟩
      rintro ⟨replies, sent⟩ e w' ran
      cases replies with
      | nil =>
        cases ran
        exact .unanswered
      | cons reply rest =>
        cases reply with
        | dropped =>
          cases ran
          exact .unanswered
        | answered => cases ran
    refine exchanged.bind fun answer => within_ofExcept fun e refused => ?_
    rw [decodeReply] at refused
    split at refused
    · cases refused
      exact .refused _ _
    · split at refused
      · cases refused
        exact .undecodable
      · split at refused
        · cases refused
        · cases refused
          exact .undecodable

theorem within_get (path : String) (ps : Parameters) (decoder : Decoder α) :
    Within (Wire.Step allowed) IsBackend (api.get path ps decoder) := by
  rw [get]
  split
  · exact within_fetch permits decoder _
  · exact within_fail (.invalidPath _)

theorem within_follow (link : String) (decoder : Decoder α) :
    Within (Wire.Step allowed) IsBackend (api.follow link decoder) := by
  rw [follow]
  split
  · exact within_fetch permits decoder _
  · exact within_fail (.invalidLink _ _)

end Api

theorem MetricsStore.within_query (path : String) (ps : Parameters) (item : Decoder α) :
    Within (Wire.Step allowed) IsBackend (query api path ps item) := by
  refine (Api.within_get permits path ps _).bind fun answer => within_ofExcept fun e failed => ?_
  rw [Outcome.toExcept] at failed
  split at failed
  · cases failed
  · cases failed
    exact .queryFailed _

namespace Catalog

theorem within_listFrom (pages : Nat) (first : Page) :
    Within (Wire.Step allowed) IsBackend (listFrom api pages first) := by
  induction pages generalizing first with
  | zero =>
    obtain ⟨next, resources⟩ := first
    cases next with
    | none => exact within_pure resources
    | some link => exact within_fail .unanswered
  | succ pages ih =>
    obtain ⟨next, resources⟩ := first
    cases next with
    | none => exact within_pure resources
    | some link => exact (Api.within_follow permits link page).bind fun following => (ih following).map _

theorem within_list (path : String) (ps : Parameters) :
    Within (Wire.Step allowed) IsBackend (list api path ps) :=
  (Api.within_get permits path ps page).bind fun first =>
    within_of_state fun w => within_listFrom permits (w.replies.length + 1) first

end Catalog
end

namespace Catalog
variable {allowed : Request → Prop}

theorem within_guidOf (missing : PlatformError) (found : List Resource) :
    Within (Wire.Step allowed) IsRemote (guidOf missing found) := by
  cases found with
  | nil => exact within_fail (.inr (.platform missing))
  | cons first rest => exact within_pure first.guid

variable {c : Catalog} (permits : ∀ u, allowed (c.api.request u))
include permits

theorem within_orgGuid : Within (Wire.Step allowed) IsRemote c.orgGuid :=
  ((within_list permits _ _).mono fun _ => .inl).bind (within_guidOf _)

theorem within_spaceGuid (org : String) : Within (Wire.Step allowed) IsRemote (c.spaceGuid org) :=
  ((within_list permits _ _).mono fun _ => .inl).bind (within_guidOf _)

theorem within_deployments (spaces : List Resource) :
    Within (Wire.Step allowed) IsBackend (c.deployments spaces) := by
  induction spaces with
  | nil => exact within_pure []
  | cons space rest ih => exact (within_list permits _ _).bind fun apps => ih.map _

theorem within_spaces : Within (Wire.Step allowed) IsRemote c.spaces :=
  (within_orgGuid permits).bind fun _ =>
    ((within_list permits _ _).bind (within_deployments permits)).mono fun _ => .inl

theorem within_application (name : String) : Within (Wire.Step allowed) IsRemote (c.application name) := by
  refine (within_orgGuid permits).bind fun org => (within_spaceGuid permits org).bind fun space =>
    ((within_list permits _ _).mono fun _ => .inl).bind fun found => ?_
  split
  · exact within_pure _
  · exact within_fail (.inr (.platform (.applicationNotFound name)))

end Catalog

/-- Both interfaces of a platform make allowed requests only. -/
structure Platform.Permits (p : Platform) (allowed : Request → Prop) : Prop where
  metrics : ∀ u, allowed (p.metrics.request u)
  catalog : ∀ u, allowed (p.catalog.api.request u)

theorem Platform.Permits.within_ask {p : Platform} {allowed : Request → Prop} (permits : p.Permits allowed) (c : Call) :
    Within (Wire.Step allowed) IsRemote (p.ask c) := by
  cases c with
  | instant query => exact ((MetricsStore.within_query permits.metrics _ _ _).map _).mono fun _ => .inl
  | range query start stop step =>
    exact ((MetricsStore.within_query permits.metrics _ _ _).map _).mono fun _ => .inl
  | read source start options => exact (Api.within_get permits.metrics _ _ _).mono fun _ => .inl
  | org | space | username => exact within_pure _
  | spaces => exact Catalog.within_spaces permits.catalog
  | application name => exact Catalog.within_application permits.catalog name

section
variable {σ : Type} {step : σ → σ → Prop} {P : Failure → Prop} {ask : Collaborators σ} (asked : ∀ c, Within step P (ask c))
include asked

namespace Usage

theorem within_cumulative (guid : String) (instances : Instances) : Within step P (cumulative ask guid instances) :=
  (asked _).map _

theorem within_current (guid : String) (instances : Instances) :
    Within step P (current ask (cumulative ask) guid instances) := by
  refine (asked _).bind fun samples => ?_
  dsimp only
  split
  · exact within_pure _
  · exact (within_cumulative asked guid instances).map _

theorem within_historical (window : Window) (guid : String) (instances : Instances) :
    Within step P (historical ask window guid instances) :=
  (asked _).bind fun _ => (asked _).map _

end Usage

theorem Processes.within_readPages (guid : String) (limit pages : Nat) (stop : Option Instant) (found : Processes) :
    Within step P (readPages ask guid limit pages stop found) := by
  induction pages generalizing stop found with
  | zero => exact within_pure found
  | succ pages ih =>
    refine (asked _).bind fun page => ?_
    split
    · exact within_pure _
    · split
      · exact ih _ _
      · exact within_pure _

omit asked in
theorem InstanceReports.within_collect {historical current : Fetcher σ}
    (past : ∀ guid instances, Within step P (historical guid instances))
    (present : ∀ guid instances, Within step P (current guid instances)) (a : Application) :
    Within step P (collect historical current a) :=
  (past _ _).bind fun _ => (present _ _).map _

/-- The report adds one failure to those of the calls. -/
theorem ApplicationReport.within_create (paging : Paging) (window : Window) (name : String)
    (unsupported : ∀ a, P (.platform (.unsupportedDeployment a))) :
    Within step P (create ask paging (Usage.historical ask window) (Usage.current ask (Usage.cumulative ask)) name) := by
  refine (asked _).bind fun org => (asked _).bind fun space => (asked _).bind fun username => (asked _).bind fun found =>
    (Processes.within_readPages asked _ _ _ _ _).bind fun processes => ?_
  dsimp only
  split
  · exact within_pure _
  · refine (InstanceReports.within_collect (Usage.within_historical asked window) (Usage.within_current asked)
      _).bind fun reports => ?_
    split
    · exact within_fail (unsupported _)
    · exact within_pure _

theorem exceeding_within (placed : List (String × Application)) :
    Within step P (exceeding (Usage.cumulative ask) placed) := by
  induction placed with
  | nil => exact within_pure []
  | cons first rest ih => exact (Usage.within_cumulative asked _ _).bind fun usage => ih.map _

theorem FleetReport.within_create : Within step P (create ask (Usage.cumulative ask)) :=
  (asked _).bind fun _ => (asked _).bind fun _ => (asked _).bind fun _ =>
    (exceeding_within asked _).map _

end
end CpuUsage
