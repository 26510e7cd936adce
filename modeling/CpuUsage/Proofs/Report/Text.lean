import CpuUsage.Proofs.Binary64.Rounding
import CpuUsage.Proofs.MetricsStore
import CpuUsage.Proofs.Report.Application
import CpuUsage.Report.Text

/-! What the table of an application tells of spikes. A warning can be told from the others by the slot it begins with,
so the warnings about one instance can be counted in the text; an instance is over its entitlement now, or was and is
warned about once, or never was. -/
namespace CpuUsage

/-- A warning begins with the number of the instance it is about. -/
def isAbout (slot : InstanceId) (warning : String) : Bool :=
  ("Instance #" ++ toString slot.toNat ++ " ").toList.isPrefixOf warning.toList

def warningText (slot : InstanceId) (times : String) : String :=
  "Instance #" ++ toString slot.toNat ++ " was over entitlement " ++ times

def momentText (slot : InstanceId) (t : Instant) : String :=
  warningText slot ("at " ++ t.plainText)

def periodText (slot : InstanceId) (start stop : Instant) : String :=
  warningText slot ("from " ++ start.plainText ++ " to " ++ stop.plainText)

theorem blank_not_mem_toDigits (n : Nat) : ' ' ∉ Nat.toDigits 10 n := by
  intro member
  exact absurd (Nat.isDigit_of_mem_toDigits (by decide) (by decide) member) (by decide)

/-- The digits before a blank are those of one number only. -/
theorem eq_of_digits_eq {m n : Nat} {rest rest' : List Char}
    (same : Nat.toDigits 10 m ++ ' ' :: rest = Nat.toDigits 10 n ++ ' ' :: rest') : m = n := by
  have upToBlank (n : Nat) (rest : List Char) :
      (Nat.toDigits 10 n ++ ' ' :: rest).takeWhile (· ≠ ' ') = Nat.toDigits 10 n := by
    rw [List.takeWhile_append_of_pos, List.takeWhile_cons_of_neg (by simp), List.append_nil]
    intro c member
    exact decide_eq_true fun isBlank => blank_not_mem_toDigits n (isBlank ▸ member)
  have digits : Nat.toDigits 10 m = Nat.toDigits 10 n := by rw [← upToBlank m rest, same, upToBlank]
  rw [← Nat.ofDigitChars_ten_toDigits (n := m), digits, Nat.ofDigitChars_ten_toDigits]

theorem isAbout_warningText {slot slot' : InstanceId} {times : String} :
    isAbout slot (warningText slot' times) = true ↔ slot = slot' := by
  have whole : (warningText slot' times).toList = "Instance #".toList ++
      (Nat.toDigits 10 slot'.toNat ++ ' ' :: ("was over entitlement ".toList ++ times.toList)) := by
    simp [warningText]
  have head : ("Instance #" ++ toString slot.toNat ++ " ").toList =
      "Instance #".toList ++ (Nat.toDigits 10 slot.toNat ++ [' ']) := by
    simp
  rw [isAbout, whole, head, List.isPrefixOf_iff_prefix, List.prefix_append_right_inj]
  constructor
  · rintro ⟨rest, same⟩
    rw [List.append_assoc, List.singleton_append] at same
    exact UInt32.toNat_inj.mp (eq_of_digits_eq same)
  · rintro rfl
    exact ⟨_, by rw [List.append_assoc, List.singleton_append]⟩

theorem momentText_ne_periodText (slot : InstanceId) (t start stop : Instant) :
    momentText slot t ≠ periodText slot start stop := by
  intro same
  have times : "at " ++ t.plainText = "from " ++ start.plainText ++ " to " ++ stop.plainText :=
    (String.append_right_inj _).mp same
  have characters := congrArg String.toList times
  simp at characters

namespace InstanceReport

theorem level_eq_over_iff (r : InstanceReport) : r.level = .over ↔ .one < r.historical.value := by
  rw [level, UsageLevel.of, entitlement]
  split
  · next exceeds => exact iff_of_true rfl exceeds
  · next within =>
    refine iff_of_false ?_ within
    split <;> simp

theorem spikeWarning?_eq_none_iff (r : InstanceReport) :
    r.spikeWarning? = none ↔ (r.historical.value ≤ .one → r.historical.lastSpike = none) := by
  rw [spikeWarning?, entitlement]
  split
  · next within => simp [within]
  · next notWithin => simp [notWithin]

/-- The warning of a spike: of one time if it is at one time, and of two otherwise. -/
structure Warns (slot : InstanceId) (spike : Spike) (warning : String) : Prop where
  moment_iff : (∃ t, warning = momentText slot t) ↔ spike.start = spike.stop
  text_eq : warning =
    if spike.start = spike.stop then momentText slot spike.start else periodText slot spike.start spike.stop

theorem spikeWarning?_eq_some {r : InstanceReport} {warning : String} (warned : r.spikeWarning? = some warning) :
    r.historical.value ≤ .one ∧ ∃ spike, r.historical.lastSpike = some spike ∧ Warns r.slot spike warning := by
  rw [spikeWarning?, entitlement] at warned
  split at warned
  · next within =>
    obtain ⟨spike, spiked, rfl⟩ := Option.map_eq_some_iff.mp warned
    refine ⟨within, spike, spiked, ?_⟩
    by_cases moment : spike.start = spike.stop
    · rw [Spike.isInstant, if_pos (decide_eq_true moment)]
      exact ⟨iff_of_true ⟨_, rfl⟩ moment, (if_pos moment).symm⟩
    · rw [Spike.isInstant, if_neg (by simpa using moment)]
      refine ⟨iff_of_false ?_ moment, (if_neg moment).symm⟩
      rintro ⟨t, same⟩
      exact momentText_ne_periodText r.slot t spike.start spike.stop same.symm
  · contradiction

theorem isAbout_spikeWarning? {r : InstanceReport} {warning : String} (warned : r.spikeWarning? = some warning)
    (slot : InstanceId) : isAbout slot warning = true ↔ slot = r.slot := by
  obtain ⟨_, spike, _, warns⟩ := spikeWarning?_eq_some warned
  have text_eq := warns.text_eq
  split at text_eq
  all_goals rw [text_eq]; exact isAbout_warningText

theorem filter_isAbout_own (r : InstanceReport) :
    r.spikeWarning?.toList.filter (isAbout r.slot) = r.spikeWarning?.toList := by
  cases warned : r.spikeWarning? with
  | none => rfl
  | some warning =>
    have isOurs := (isAbout_spikeWarning? warned r.slot).mpr rfl
    simp [isOurs]

theorem filter_isAbout_others {slot : InstanceId} {others : List InstanceReport} (apart : ∀ r ∈ others, r.slot ≠ slot) :
    (others.filterMap (·.spikeWarning?)).filter (isAbout slot) = [] := by
  rw [List.filter_eq_nil_iff]
  intro warning member isOurs
  obtain ⟨r, isOther, warned⟩ := List.mem_filterMap.mp member
  exact apart r isOther ((isAbout_spikeWarning? warned slot).mp isOurs).symm

end InstanceReport

namespace ApplicationReport

def warnings (r : ApplicationReport) : List String :=
  r.instances.filterMap (·.spikeWarning?)

def tipText (status : String) : String :=
  "Some instances are " ++ status ++ " their CPU entitlement. Consider scaling your memory or instances."

/-- No point that counts was over the entitlement, and nothing is said. -/
structure Quiet (told : Instant → Binary64 → Prop) (report : ApplicationReport) (r : InstanceReport) : Prop where
  within : ∀ t v, told t v → ¬ .one < v
  level : r.level ≠ .over
  unwarned : report.warnings.filter (isAbout r.slot) = []

/-- The row itself says that the instance is over its entitlement now. -/
structure OverNow (report : ApplicationReport) (r : InstanceReport) : Prop where
  exceeds : .one < r.historical.value
  level : r.level = .over
  unwarned : report.warnings.filter (isAbout r.slot) = []

/-- The instance was over its entitlement and is not now; one warning says when. -/
structure OverBefore (told : Instant → Binary64 → Prop) (report : ApplicationReport) (r : InstanceReport) : Prop where
  within : r.historical.value ≤ .one
  exceeded : ∃ t v, told t v ∧ .one < v
  level : r.level ≠ .over
  warned : ∃ spike warning, r.historical.lastSpike = some spike ∧
    report.warnings.filter (isAbout r.slot) = [warning] ∧ InstanceReport.Warns r.slot spike warning

def ExactlyOne (p q r : Prop) : Prop :=
  (p ∧ ¬ q ∧ ¬ r) ∨ (¬ p ∧ q ∧ ¬ r) ∨ (¬ p ∧ ¬ q ∧ r)

/-- What the table of a report says of spikes: every one is surfaced once, in the row or by a warning, the warnings
come in the order of the slots, and the advice is for the highest level of the rows. -/
structure Surfaces (told : InstanceId → Instant → Binary64 → Prop) (report : ApplicationReport) : Prop where
  once : ∀ r ∈ report.instances,
    ExactlyOne (Quiet (told r.slot) report r) (OverNow report r) (OverBefore (told r.slot) report r)
  ascending : ∃ slots : List InstanceId, slots.Pairwise (· < ·) ∧
    List.Forall₂ (fun slot warning => isAbout slot warning = true) slots report.warnings
  tip_over_iff : report.tip? = some (tipText "over") ↔ ∃ r ∈ report.instances, r.level = .over
  tip_near_iff : report.tip? = some (tipText "near") ↔
    (∀ r ∈ report.instances, r.level ≠ .over) ∧ ∃ r ∈ report.instances, r.level = .near
  no_tip_iff : report.tip? = none ↔ ∀ r ∈ report.instances, r.level = .normal

/-- The warnings about an instance are its own one, or none. -/
theorem warnings_about {report : ApplicationReport}
    (ascending : report.instances.Pairwise fun r r' => r.slot < r'.slot) {r : InstanceReport}
    (reported : r ∈ report.instances) :
    report.warnings.filter (isAbout r.slot) = r.spikeWarning?.toList := by
  obtain ⟨before, behind, split⟩ := List.append_of_mem reported
  rw [split] at ascending
  -- The slots ascend, so what stands before and behind is about other instances.
  obtain ⟨_, later, earlier⟩ := List.pairwise_append.mp ascending
  have beforeApart : ∀ r' ∈ before, r'.slot ≠ r.slot := fun r' member =>
    UInt32.ne_of_lt (earlier r' member r List.mem_cons_self)
  have behindApart : ∀ r' ∈ behind, r'.slot ≠ r.slot := fun r' member =>
    (UInt32.ne_of_lt ((List.pairwise_cons.mp later).1 r' member)).symm
  have parts : report.warnings = before.filterMap (·.spikeWarning?) ++
      (r.spikeWarning?.toList ++ behind.filterMap (·.spikeWarning?)) := by
    rw [warnings, split, List.filterMap_append]
    cases warned : r.spikeWarning? <;> simp [warned]
  rw [parts, List.filter_append, List.filter_append, InstanceReport.filter_isAbout_others beforeApart,
    InstanceReport.filter_isAbout_own, InstanceReport.filter_isAbout_others behindApart, List.nil_append, List.append_nil]

theorem warnings_ascending {report : ApplicationReport}
    (ascending : report.instances.Pairwise fun r r' => r.slot < r'.slot) :
    ∃ slots : List InstanceId, slots.Pairwise (· < ·) ∧
      List.Forall₂ (fun slot warning => isAbout slot warning = true) slots report.warnings := by
  refine ⟨(report.instances.filter (·.spikeWarning?.isSome)).map (·.slot), ?_, ?_⟩
  · exact List.pairwise_map.mpr (ascending.sublist List.filter_sublist)
  · rw [warnings]
    induction report.instances with
    | nil => exact .nil
    | cons r rest ih =>
      cases warned : r.spikeWarning? with
      | none => simpa [warned] using ih
      | some warning =>
        have isOurs := (InstanceReport.isAbout_spikeWarning? warned r.slot).mpr rfl
        simpa [warned, isOurs] using ih

section Once
variable {told : Instant → Binary64 → Prop} {report : ApplicationReport} {r : InstanceReport}
  (own : report.warnings.filter (isAbout r.slot) = r.spikeWarning?.toList)
include own

theorem overNow_of_exceeds (exceeds : .one < r.historical.value) (notWithin : ¬ r.historical.value ≤ .one) :
    OverNow report r := by
  have silent : r.spikeWarning? = none := r.spikeWarning?_eq_none_iff.mpr fun within => absurd within notWithin
  rw [silent] at own
  exact ⟨exceeds, r.level_eq_over_iff.mpr exceeds, own⟩

theorem quiet_of_calm (never : ∀ t v, told t v → ¬ .one < v) (calm : r.historical.lastSpike = none)
    (notOver : ¬ .one < r.historical.value) : Quiet told report r := by
  have silent : r.spikeWarning? = none := r.spikeWarning?_eq_none_iff.mpr fun _ => calm
  rw [silent] at own
  exact ⟨never, mt r.level_eq_over_iff.mp notOver, own⟩

theorem overBefore_of_spike (exceeded : ∃ t v, told t v ∧ .one < v) {spike : Spike}
    (spiked : r.historical.lastSpike = some spike) (within : r.historical.value ≤ .one)
    (notOver : ¬ .one < r.historical.value) : OverBefore told report r := by
  have loud : r.spikeWarning? ≠ none := by
    intro silent
    rw [r.spikeWarning?_eq_none_iff.mp silent within] at spiked
    contradiction
  obtain ⟨warning, warned⟩ := Option.ne_none_iff_exists'.mp loud
  obtain ⟨_, spike', spiked', warns⟩ := InstanceReport.spikeWarning?_eq_some warned
  rw [warned] at own
  exact ⟨within, exceeded, mt r.level_eq_over_iff.mp notOver, spike', warning, spiked', own, warns⟩

/-- Needs a value that is a number: no other is within the entitlement or over it, and its spike would be lost. -/
theorem once_of_rightOn (right : r.historical.RightOn told) (ordered : r.historical.value.isNaN = false) :
    ExactlyOne (Quiet told report r) (OverNow report r) (OverBefore told report r) := by
  have within_iff : r.historical.value ≤ .one ↔ ¬ .one < r.historical.value :=
    Binary64.le_iff_not_lt ordered (by decide)
  by_cases exceeds : .one < r.historical.value
  · have now := overNow_of_exceeds own exceeds fun within => within_iff.mp within exceeds
    exact .inr (.inl ⟨fun quiet => quiet.level now.level, now, fun before => before.level now.level⟩)
  · cases spiked : r.historical.lastSpike with
    | none =>
      have never : ¬ ∃ t v, told t v ∧ .one < v := by simpa [spiked] using right.spike_iff
      have quiet := quiet_of_calm own (fun t v tells above => never ⟨t, v, tells, above⟩) spiked exceeds
      exact .inl ⟨quiet, fun now => exceeds now.exceeds, fun before => never before.exceeded⟩
    | some spike =>
      have exceeded : ∃ t v, told t v ∧ .one < v := right.spike_iff.mp (by rw [spiked]; rfl)
      have before := overBefore_of_spike own exceeded spiked (within_iff.mpr exceeds) exceeds
      refine .inr (.inr ⟨fun quiet => ?_, fun now => exceeds now.exceeds, before⟩)
      obtain ⟨t, v, tells, above⟩ := exceeded
      exact quiet.within t v tells above

end Once

/-- Advice follows the highest level among the rows. -/
theorem tip?_cases (report : ApplicationReport) :
    ((∃ r ∈ report.instances, r.level = .over) ∧ report.tip? = some (tipText "over")) ∨
    ((∀ r ∈ report.instances, r.level ≠ .over) ∧ (∃ r ∈ report.instances, r.level = .near) ∧
      report.tip? = some (tipText "near")) ∨
    ((∀ r ∈ report.instances, r.level = .normal) ∧ report.tip? = none) := by
  by_cases someOver : ∃ r ∈ report.instances, r.level = .over
  · exact .inl ⟨someOver, if_pos (by simpa using someOver)⟩
  · have noneOver : ∀ r ∈ report.instances, r.level ≠ .over := fun r member isOver => someOver ⟨r, member, isOver⟩
    by_cases near : ∃ r ∈ report.instances, r.level = .near
    · exact .inr (.inl ⟨noneOver, near, (if_neg (by simpa using someOver)).trans (if_pos (by simpa using near))⟩)
    · refine .inr (.inr ⟨?_, (if_neg (by simpa using someOver)).trans (if_neg (by simpa using near))⟩)
      intro r member
      cases isLevel : r.level
      · rfl
      · exact absurd ⟨r, member, isLevel⟩ near
      · exact absurd isLevel (noneOver r member)

theorem tipText_over_ne_near : tipText "over" ≠ tipText "near" := by
  decide

theorem tip?_over_iff (report : ApplicationReport) :
    report.tip? = some (tipText "over") ↔ ∃ r ∈ report.instances, r.level = .over := by
  rcases tip?_cases report with ⟨someOver, tip⟩ | ⟨noneOver, _, tip⟩ | ⟨allNormal, tip⟩
  · exact iff_of_true tip someOver
  · refine iff_of_false ?_ fun ⟨r, member, isOver⟩ => noneOver r member isOver
    rw [tip, Option.some.injEq]
    exact tipText_over_ne_near.symm
  · refine iff_of_false (by simp [tip]) fun ⟨r, member, isOver⟩ => ?_
    rw [allNormal r member] at isOver
    contradiction

theorem tip?_near_iff (report : ApplicationReport) :
    report.tip? = some (tipText "near") ↔
      (∀ r ∈ report.instances, r.level ≠ .over) ∧ ∃ r ∈ report.instances, r.level = .near := by
  rcases tip?_cases report with ⟨⟨r, member, isOver⟩, tip⟩ | ⟨noneOver, near, tip⟩ | ⟨allNormal, tip⟩
  · refine iff_of_false ?_ fun ⟨noneOver, _⟩ => noneOver r member isOver
    rw [tip, Option.some.injEq]
    exact tipText_over_ne_near
  · exact iff_of_true tip ⟨noneOver, near⟩
  · refine iff_of_false (by simp [tip]) fun ⟨_, r, member, isNear⟩ => ?_
    rw [allNormal r member] at isNear
    contradiction

theorem tip?_eq_none_iff (report : ApplicationReport) :
    report.tip? = none ↔ ∀ r ∈ report.instances, r.level = .normal := by
  rcases tip?_cases report with ⟨⟨r, member, isOver⟩, tip⟩ | ⟨_, ⟨r, member, isNear⟩, tip⟩ | ⟨allNormal, tip⟩
  · refine iff_of_false (by simp [tip]) fun allNormal => ?_
    rw [allNormal r member] at isOver
    contradiction
  · refine iff_of_false (by simp [tip]) fun allNormal => ?_
    rw [allNormal r member] at isNear
    contradiction
  · exact iff_of_true tip allNormal

/-- A report with ordered values and with spikes that are right surfaces them. -/
theorem surfaces_of_rightOn {told : InstanceId → Instant → Binary64 → Prop} {report : ApplicationReport}
    (ascending : report.instances.Pairwise fun r r' => r.slot < r'.slot)
    (right : ∀ r ∈ report.instances, r.historical.RightOn (told r.slot))
    (ordered : ∀ r ∈ report.instances, r.historical.value.isNaN = false) : Surfaces told report where
  once r reported := once_of_rightOn (warnings_about ascending reported) (right r reported) (ordered r reported)
  ascending := warnings_ascending ascending
  tip_over_iff := tip?_over_iff report
  tip_near_iff := tip?_near_iff report
  no_tip_iff := tip?_eq_none_iff report

theorem surfaces_of_reconcile {present : List Sample} {series : List Series} {current : Usage}
    {report : ApplicationReport} (finite : ∀ s ∈ series, ∀ p ∈ s.points, p.value.isFinite = true)
    (instances : report.instances =
      (InstanceReports.reconcile (Usage.ofSeries (Usage.activeProcesses present) series) current).values) :
    report.Surfaces (Usage.Accepted present series) := by
  apply surfaces_of_rightOn
  · rw [instances]
    exact InstanceReports.reconcile_ascending _ current
  · intro r reported
    exact InstanceReports.rightOn_of_reconcile (instances ▸ reported)
  · intro r reported
    rcases InstanceReports.value_of_reconcile (instances ▸ reported) with zero | ⟨t, accepted⟩
    · rw [zero]
      decide
    · exact Binary64.not_isNaN_of_isFinite (Usage.isFinite_of_accepted finite accepted)

end ApplicationReport
end CpuUsage
