import CpuUsage.Application.Json
import CpuUsage.Proofs.Json.Codec
import CpuUsage.Report.Json

/-! Every model is read back from the text that is written for it. Doubles are the exception: the reader rounds at each
power of ten, so that the text of a double may be read as one of its neighbours. -/
namespace CpuUsage
open Decoder

/-- A finite double that is read back from its own numeral. -/
def Binary64.ReadsBack (x : Binary64) : Prop :=
  x.isFinite = true ∧ decodeText? Decoder.binary64 (Json.ofBinary64 x).compact = some x

instance (x : Binary64) : Decidable x.ReadsBack :=
  inferInstanceAs (Decidable (_ ∧ _))

theorem Json.wellFormed_ofBinary64 (x : Binary64) : (ofBinary64 x).WellFormed := by
  rw [ofBinary64]
  split
  · exact .number (Numeral.wellFormed_ofBinary64 x)
  · exact .null

theorem Binary64.ReadsBack.tells {x : Binary64} (readsBack : x.ReadsBack) : Tells binary64 (.ofBinary64 x) x where
  wellFormed := Json.wellFormed_ofBinary64 x
  told := by
    have read := readsBack.2
    rwa [decodeText?, Json.read?_compact (Json.wellFormed_ofBinary64 x), Option.bind_some] at read

example : Binary64.one.ReadsBack := by decide +kernel
example : ¬ (Binary64.ofDecimal false 31245270191439438 (-15)).ReadsBack := by decide +kernel

/-! A model tells what the documents of its fields tell. -/

namespace Instance

theorem tells_toJson (i : Instance) : Tells decode i.toJson i := by
  have id := tells_uint32 i.id
  have process := tells_string i.process
  refine tells_record rfl (by decide) ?_ ?_
  · simp [id.wellFormed, process.wellFormed]
  · simp [required, id.told, process.told]

end Instance

namespace Application

theorem tells_toJson (a : Application) : Tells decode a.toJson a := by
  have name := tells_string a.name
  have guid := tells_string a.guid
  have instances := tells_numberMap (m := a.instances) fun e _ => e.2.tells_toJson
  refine tells_record rfl (by decide) ?_ ?_
  · simp [name.wellFormed, guid.wellFormed, instances.wellFormed]
  · simp [required, name.told, guid.told, instances.told]

end Application

namespace Space

theorem tells_toJson (s : Space) : Tells decode s.toJson s := by
  have name := tells_string s.name
  have applications := tells_list (List.forall₂_same.mpr fun a (_ : a ∈ s.applications) => a.tells_toJson)
  refine tells_record rfl (by decide) ?_ ?_
  · simp [name.wellFormed, applications.wellFormed]
  · simp [required, name.told, applications.told]

end Space

namespace UsageSample

def ReadsBack (s : UsageSample) : Prop :=
  s.value.ReadsBack

theorem tells_toJson {s : UsageSample} {x : Binary64} (value : Tells binary64 (.ofBinary64 s.value) x) :
    Tells decode s.toJson { s with value := x } := by
  have slot := tells_uint32 s.slot
  have time := tells_instant s.time
  refine tells_record rfl (by decide) ?_ ?_
  · simp [slot.wellFormed, time.wellFormed, value.wellFormed]
  · simp [required, slot.told, time.told, value.told]

end UsageSample

namespace Spike

theorem tells_toJson (s : Spike) : Tells decode s.toJson s := by
  have start := tells_instant s.start
  have stop := tells_instant s.stop
  refine tells_record rfl (by decide) ?_ ?_
  · simp [start.wellFormed, stop.wellFormed]
  · simp [required, start.told, stop.told]

end Spike

namespace HistoricalUsage

def ReadsBack (u : HistoricalUsage) : Prop :=
  u.value.ReadsBack

theorem tells_toJson {u : HistoricalUsage} {x : Binary64} (value : Tells binary64 (.ofBinary64 u.value) x) :
    Tells decode u.toJson { u with value := x } := by
  have refuses : Spike.decode .null = none := rfl
  have spike := tells_option refuses fun s (_ : s ∈ u.lastSpike) => s.tells_toJson
  refine tells_record rfl (by decide) ?_ ?_
  · simp [value.wellFormed, spike.wellFormed]
  · simp [required, Decoder.optional, value.told, spike.told]

end HistoricalUsage

namespace CurrentUsage

def ReadsBack (u : CurrentUsage) : Prop :=
  u.value.ReadsBack

theorem tells_toJson {u : CurrentUsage} {x : Binary64} (value : Tells binary64 (.ofBinary64 u.value) x) :
    Tells decode u.toJson ⟨x⟩ := by
  refine tells_record rfl (by decide) ?_ ?_
  · simp [value.wellFormed]
  · simp [required, value.told]

end CurrentUsage

namespace InstanceReport

def ReadsBack (r : InstanceReport) : Prop :=
  r.historical.ReadsBack ∧ r.current.ReadsBack

theorem tells_toJson {r : InstanceReport} {u : HistoricalUsage} {u' : CurrentUsage}
    (historical : Tells HistoricalUsage.decode r.historical.toJson u)
    (current : Tells CurrentUsage.decode r.current.toJson u') : Tells decode r.toJson ⟨r.slot, u, u'⟩ := by
  have slot := tells_uint32 r.slot
  refine tells_record rfl (by decide) ?_ ?_
  · simp [slot.wellFormed, historical.wellFormed, current.wellFormed]
  · simp [required, slot.told, historical.told, current.told]

theorem ReadsBack.tells {r : InstanceReport} (readsBack : r.ReadsBack) : Tells decode r.toJson r :=
  tells_toJson (HistoricalUsage.tells_toJson readsBack.1.tells) (CurrentUsage.tells_toJson readsBack.2.tells)

end InstanceReport

namespace ApplicationReport

def ReadsBack (r : ApplicationReport) : Prop :=
  ∀ i ∈ r.instances, i.ReadsBack

theorem tells_toJson {r : ApplicationReport} {reports : List InstanceReport}
    (each : List.Forall₂ (fun i i' => Tells InstanceReport.decode i.toJson i') r.instances reports) :
    Tells decode r.toJson { r with instances := reports } := by
  have org := tells_string r.org
  have space := tells_string r.space
  have username := tells_string r.username
  have application := tells_string r.application
  have instances := tells_list each
  refine tells_record rfl (by decide) ?_ ?_
  · simp [org.wellFormed, space.wellFormed, username.wellFormed, application.wellFormed, instances.wellFormed]
  · simp [required, org.told, space.told, username.told, application.told, instances.told]

theorem ReadsBack.tells {r : ApplicationReport} (readsBack : r.ReadsBack) : Tells decode r.toJson r :=
  tells_toJson (List.forall₂_same.mpr fun i member => (readsBack i member).tells)

end ApplicationReport

namespace SpaceReport

theorem tells_toJson (r : SpaceReport) : Tells decode r.toJson r := by
  have space := tells_string r.space
  have applications := tells_list (List.forall₂_same.mpr fun a (_ : a ∈ r.applications) => tells_string a)
  refine tells_record rfl (by decide) ?_ ?_
  · simp [space.wellFormed, applications.wellFormed]
  · simp [required, space.told, applications.told]

end SpaceReport

namespace FleetReport

theorem tells_toJson (r : FleetReport) : Tells decode r.toJson r := by
  have org := tells_string r.org
  have username := tells_string r.username
  have spaces := tells_list (List.forall₂_same.mpr fun s (_ : s ∈ r.spaces) => s.tells_toJson)
  refine tells_record rfl (by decide) ?_ ?_
  · simp [org.wellFormed, username.wellFormed, spaces.wellFormed]
  · simp [required, org.told, username.told, spaces.told]

end FleetReport

/-- Written in either way, such a value is read back, so that no two are written alike. -/
structure Faithful (exact : α → Prop) (encode : α → Json) (decoder : Decoder α) : Prop where
  readsBack : ∀ write ∈ [Json.compact, Json.pretty], ∀ a, exact a → decodeText? decoder (write (encode a)) = some a
  injective : ∀ write ∈ [Json.compact, Json.pretty], ∀ a b, exact a → exact b →
    write (encode a) = write (encode b) → a = b

theorem faithful_of_tells {exact : α → Prop} {encode : α → Json} {decoder : Decoder α}
    (tells : ∀ a, exact a → Tells decoder (encode a) a) : Faithful exact encode decoder := by
  have readsBack : ∀ write ∈ [Json.compact, Json.pretty], ∀ a, exact a →
      decodeText? decoder (write (encode a)) = some a := by
    intro write either a holds
    simp only [List.mem_cons, List.not_mem_nil, or_false] at either
    rcases either with rfl | rfl
    · exact (tells a holds).decodeText?_compact
    · exact (tells a holds).decodeText?_pretty
  refine ⟨readsBack, ?_⟩
  intro write either a b holds holds' same
  have read := readsBack write either a holds
  rw [same, readsBack write either b holds'] at read
  exact (Option.some.inj read).symm

/-- Whatever text a value is read from, the text that is then written for it is read again and written as it was. -/
def Stable (encode : α → Json) (decoder : Decoder α) : Prop :=
  ∀ write ∈ [Json.compact, Json.pretty], ∀ text a, decodeText? decoder text = some a →
    ∃ b, decodeText? decoder (write (encode a)) = some b ∧ write (encode b) = write (encode a)

theorem Faithful.stable {encode : α → Json} {decoder : Decoder α} (faithful : Faithful (fun _ => True) encode decoder) :
    Stable encode decoder :=
  fun write either _ a _ => ⟨a, faithful.readsBack write either a trivial, rfl⟩

/-- Every model is read back from its text. Those without a double are so whatever their fields hold, and from any text
that they are read from they settle at once. -/
structure ModelsReadBack : Prop where
  instances : Faithful (fun _ => True) Instance.toJson Instance.decode ∧ Stable Instance.toJson Instance.decode
  applications : Faithful (fun _ => True) Application.toJson Application.decode ∧
    Stable Application.toJson Application.decode
  spaces : Faithful (fun _ => True) Space.toJson Space.decode ∧ Stable Space.toJson Space.decode
  samples : Faithful UsageSample.ReadsBack UsageSample.toJson UsageSample.decode
  spikes : Faithful (fun _ => True) Spike.toJson Spike.decode ∧ Stable Spike.toJson Spike.decode
  historical : Faithful HistoricalUsage.ReadsBack HistoricalUsage.toJson HistoricalUsage.decode
  current : Faithful CurrentUsage.ReadsBack CurrentUsage.toJson CurrentUsage.decode
  instanceReports : Faithful InstanceReport.ReadsBack InstanceReport.toJson InstanceReport.decode
  applicationReports : Faithful ApplicationReport.ReadsBack ApplicationReport.toJson ApplicationReport.decode
  spaceReports : Faithful (fun _ => True) SpaceReport.toJson SpaceReport.decode ∧
    Stable SpaceReport.toJson SpaceReport.decode
  fleetReports : Faithful (fun _ => True) FleetReport.toJson FleetReport.decode ∧
    Stable FleetReport.toJson FleetReport.decode

theorem models_readBack : ModelsReadBack := by
  have always {α : Type} {encode : α → Json} {decoder : Decoder α} (tells : ∀ a, Tells decoder (encode a) a) :
      Faithful (fun _ => True) encode decoder ∧ Stable encode decoder := by
    have faithful : Faithful (fun _ => True) encode decoder := faithful_of_tells fun a _ => tells a
    exact ⟨faithful, faithful.stable⟩
  constructor
  case instances => exact always Instance.tells_toJson
  case applications => exact always Application.tells_toJson
  case spaces => exact always Space.tells_toJson
  case samples =>
    exact faithful_of_tells fun s readsBack => UsageSample.tells_toJson (Binary64.ReadsBack.tells readsBack)
  case spikes => exact always Spike.tells_toJson
  case historical =>
    exact faithful_of_tells fun u readsBack => HistoricalUsage.tells_toJson (Binary64.ReadsBack.tells readsBack)
  case current =>
    exact faithful_of_tells fun u readsBack => CurrentUsage.tells_toJson (Binary64.ReadsBack.tells readsBack)
  case instanceReports => exact faithful_of_tells fun r readsBack => readsBack.tells
  case applicationReports => exact faithful_of_tells fun r readsBack => readsBack.tells
  case spaceReports => exact always SpaceReport.tells_toJson
  case fleetReports => exact always FleetReport.tells_toJson

end CpuUsage
