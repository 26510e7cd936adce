import CpuUsage.Proofs.Instant
import CpuUsage.Proofs.Processes.Reads
import CpuUsage.Proofs.Text.Digits

/-! Resolution against a store that answers reads as documented. Page after page, the reads pass once over the newest
envelopes, so of each slot the newest envelope that names its process decides, whatever the size of a page. -/
namespace CpuUsage

/-- The text is the number of the slot: decimal digits, behind a plus sign or not. -/
def Spells (text : String) (slot : InstanceId) : Prop :=
  ∃ digits : List Char, (text.toList = digits ∨ text.toList = '+' :: digits) ∧ digits ≠ [] ∧
    (∀ c ∈ digits, c.isDigit = true) ∧ Nat.ofDigitChars 10 digits 0 = slot.toNat

theorem readInstanceId?_eq_some_iff {text : String} {slot : InstanceId} :
    readInstanceId? text = some slot ↔ Spells text slot := by
  simp only [readInstanceId?, Option.map_eq_some_iff, readUnsigned?_eq_some_iff, Spells,
    ← digitsValue_eq_ofDigitChars, ← isDigit_eq]
  constructor
  · rintro ⟨n, ⟨fits, digits, written, areDigits, spelt⟩, rfl⟩
    exact ⟨digits, written, areDigits.nonempty, areDigits.all, by rw [spelt, UInt32.toNat_ofNat_of_lt' fits]⟩
  · rintro ⟨digits, written, nonempty, all, spelt⟩
    exact ⟨slot.toNat, ⟨slot.toNat_lt, digits, written, ⟨nonempty, all⟩, spelt⟩, UInt32.ofNat_toNat⟩

/-- The envelope names the process that fills a slot: its id is the slot's, and its tag is the process and not empty. -/
structure Envelope.Names (e : Envelope) (slot : InstanceId) (process : String) : Prop where
  numbered : Spells e.instanceId slot
  tagged : e.tags.get? "process_instance_id" = some process
  named : process ≠ ""

theorem Envelope.processIn?_eq_some_iff_names {e : Envelope} {t : Instant} (time : e.time? = some t)
    {slot : InstanceId} {process : String} : e.processIn? slot = some process ↔ e.Names slot process := by
  rw [processIn?_of_time time, Option.ite_none_right_eq_some, readInstanceId?_eq_some_iff, processOf?,
    Option.filter_eq_some_iff, decide_eq_true_eq]
  exact ⟨fun ⟨numbered, tagged, named⟩ => ⟨numbered, tagged, named⟩,
    fun names => ⟨names.numbered, names.tagged, names.named⟩⟩

/-- The time of an envelope, in nanoseconds since the epoch. -/
def Envelope.stamp? (e : Envelope) : Option Int :=
  readInt64? (trimBlanks e.timestamp.toList)

/-- Envelopes of one source, newest first and no two at one time. -/
structure EnvelopeStore where
  envelopes : List Envelope
  stamped : ∀ e ∈ envelopes, ∃ n, e.stamp? = some n ∧ 0 ≤ n
  newestFirst : envelopes.Pairwise fun a b => ∀ m n, a.stamp? = some m → b.stamp? = some n → n < m

namespace EnvelopeStore

def before (S : EnvelopeStore) : Option Instant → List Envelope
  | none => S.envelopes
  | some t => S.envelopes.filter fun e => e.stamp?.any (· < t.toNanos)

/-- Answers a descending read with its newest envelopes, as many as are asked for; nothing else is offered. -/
def ask (S : EnvelopeStore) : Collaborators Unit
  | .read _ _ ⟨stop, true, _, _, some limit⟩ => Session.pure ((S.before stop).take limit)
  | _ => Session.fail .unanswered

/-- Of these envelopes the first one that names a process for the slot names this one. -/
def FirstNamed (envelopes : List Envelope) (slot : InstanceId) (process : String) : Prop :=
  ∃ newer e older, envelopes = newer ++ e :: older ∧ e.Names slot process ∧ ∀ x ∈ newer, ∀ p, ¬ x.Names slot p

theorem fits_of_readInt64? {cs : List Char} (read : readInt64? cs = some n) : fitsInt64 n = true := by
  simp only [readInt64?, Option.filter_eq_some_iff] at read
  exact read.2

theorem time_of_stamp {e : Envelope} (stamp : e.stamp? = some n) : ∃ t, e.time? = some t ∧ t.toNanos = n := by
  obtain ⟨t, made, nanos⟩ := Instant.exists_ofNanos? (fits_of_readInt64? stamp)
  refine ⟨t, ?_, nanos⟩
  rw [Envelope.time?, readNanos?, ← Envelope.stamp?, stamp, Option.bind_some, made]

variable {S : EnvelopeStore}

theorem time_of_mem (member : e ∈ S.envelopes) : ∃ t, e.time? = some t ∧ e.stamp? = some t.toNanos := by
  obtain ⟨n, stamp, _⟩ := S.stamped e member
  obtain ⟨t, time, nanos⟩ := time_of_stamp stamp
  exact ⟨t, time, nanos ▸ stamp⟩

theorem before_time {newer older : List Envelope} {e : Envelope} (split : S.envelopes = newer ++ e :: older)
    (time : e.time? = some t) : S.before (some t) = older := by
  have sorted := S.newestFirst
  have member : e ∈ S.envelopes := by simp [split]
  obtain ⟨t', time', stamp⟩ := time_of_mem member
  cases Option.some.inj (time.symm.trans time')
  rw [split] at sorted
  obtain ⟨_, olderSorted, newerAbove⟩ := List.pairwise_append.mp sorted
  have olderBelow := (List.pairwise_cons.mp olderSorted).1
  have newerOut : newer.filter (fun x => x.stamp?.any (· < t.toNanos)) = [] := by
    apply List.filter_eq_nil_iff.mpr
    intro x inNewer
    obtain ⟨n, xStamp, _⟩ := S.stamped x (by simp [split, inNewer])
    have above := newerAbove x inNewer e List.mem_cons_self n t.toNanos xStamp stamp
    simp [xStamp]
    omega
  have olderIn : older.filter (fun x => x.stamp?.any (· < t.toNanos)) = older := by
    apply List.filter_eq_self.mpr
    intro x inOlder
    obtain ⟨n, xStamp, _⟩ := S.stamped x (by simp [split, inOlder])
    simpa [xStamp] using olderBelow x inOlder t.toNanos n stamp xStamp
  simp [before, split, newerOut, olderIn, stamp]

/-- After a page that has an envelope, reading goes on right behind the page. -/
theorem page_resumes {newer page older : List Envelope} (split : S.envelopes = newer ++ (page ++ older))
    (nonempty : page ≠ []) : ∃ t, Processes.resumeAt? page = some t ∧ S.before (some t) = older := by
  obtain ⟨init, e, rfl⟩ : ∃ init e, page = init ++ [e] :=
    ⟨page.dropLast, page.getLast nonempty, (List.dropLast_concat_getLast nonempty).symm⟩
  obtain ⟨t, time, _⟩ := time_of_mem (S := S) (e := e) (by simp [split])
  have split' : S.envelopes = (newer ++ init) ++ e :: older := by simpa using split
  exact ⟨t, by simp [Processes.resumeAt?, time], before_time split' time⟩

/-- The reads of a resolution that goes on behind `newer` return the next envelopes, one page after the other, and
there is one more of them than there are full pages. -/
theorem reads_pass {limit : Nat} (positive : 0 < limit) {reads : List Processes.PageRead}
    (h : Processes.Reads limit pages stop reads) (answered : ∀ r ∈ reads, r.page = (S.before r.stop).take limit)
    {newer : List Envelope} (split : S.envelopes = newer ++ S.before stop) :
    Processes.envelopesOf reads = (S.before stop).take (limit * pages) ∧
      reads.length = min pages ((S.before stop).length / limit + 1) := by
  induction h generalizing newer with
  | spent => simp [Processes.envelopesOf]
  | @last pages stop page final =>
    obtain rfl : page = (S.before stop).take limit := answered _ List.mem_cons_self
    have short : (S.before stop).length < limit := by
      rcases final with short | unreadable
      · rw [List.length_take] at short
        omega
      · by_contra full
        rw [← List.take_append_drop limit (S.before stop)] at split
        obtain ⟨t, resumes, _⟩ := page_resumes split (List.ne_nil_of_length_pos (by rw [List.length_take]; omega))
        rw [unreadable] at resumes
        contradiction
    have whole : limit ≤ limit * (pages + 1) := Nat.le_mul_of_pos_right limit (Nat.succ_pos pages)
    constructor
    · simp [Processes.envelopesOf, List.take_of_length_le (Nat.le_of_lt short),
        List.take_of_length_le (Nat.le_trans (Nat.le_of_lt short) whole)]
    · simp [Nat.div_eq_of_lt short]
  | @next pages stop page time rest full resumes _ ih =>
    obtain rfl : page = (S.before stop).take limit := answered _ List.mem_cons_self
    rw [List.length_take] at full
    have enough : limit ≤ (S.before stop).length := by omega
    have split' : S.envelopes = newer ++ ((S.before stop).take limit ++ (S.before stop).drop limit) := by
      rw [List.take_append_drop]
      exact split
    obtain ⟨t, resumes', behind⟩ := page_resumes split' (List.ne_nil_of_length_pos (by rw [List.length_take]; omega))
    cases Option.some.inj (resumes.symm.trans resumes')
    rw [← behind, ← List.append_assoc] at split'
    obtain ⟨restPass, restLength⟩ := ih (fun r member => answered r (List.mem_cons_of_mem _ member)) split'
    rw [behind] at restPass restLength
    constructor
    · calc
        _ = (S.before stop).take limit ++ Processes.envelopesOf rest := rfl
        _ = (S.before stop).take (limit + limit * pages) := by rw [restPass, List.take_add]
        _ = (S.before stop).take (limit * (pages + 1)) := by rw [Nat.mul_succ, Nat.add_comm]
    · have quotient : (S.before stop).length / limit = ((S.before stop).length - limit) / limit + 1 := by
        rw [← Nat.add_div_right _ positive, Nat.sub_add_cancel enough]
      rw [List.length_cons, restLength, List.length_drop, quotient]
      omega

theorem ask_page (S : EnvelopeStore) (guid : String) (limit : Nat) (stop : Option Instant) :
    (S.ask (.read guid .epoch (Processes.pageOptions limit stop)) ()).1 = .ok ((S.before stop).take limit) := rfl

/-- A store answers every read, so a resolution comes to its end. -/
theorem resolve_run (S : EnvelopeStore) (paging : Paging) (guid : String) :
    ∃ reads, Processes.Reads paging.pageSize paging.pageCount none reads ∧
      (∀ r ∈ reads, r.page = (S.before r.stop).take paging.pageSize) ∧
      (Processes.resolve S.ask.recorded paging guid).run ((), []) =
        (.ok (.record .empty (Processes.envelopesOf reads)), (), reads.map (·.exchange guid paging.pageSize)) := by
  obtain ⟨said, result, _, ran, failFast, theirs⟩ :=
    (Processes.conducts_resolve S.ask paging guid).course () []
  cases failFast with
  | finished _ course =>
    obtain ⟨_, rfl, reads, isReads, rfl, rfl⟩ := course
    refine ⟨reads, isReads, ?_, ran⟩
    intro r member
    obtain ⟨_, answer⟩ := theirs _ (List.mem_map_of_mem member)
    exact (Except.ok.inj (answer.symm.trans (ask_page S guid paging.pageSize r.stop)))
  | @brokenOff before after c answer _ e _ course =>
    obtain ⟨_, _, reads, _, same, _⟩ := course
    have member : (⟨c, .ok answer⟩ : Exchange) ∈ reads.map (·.exchange guid paging.pageSize) := by
      rw [← same]
      simp
    obtain ⟨r, _, isRead⟩ := List.mem_map.mp member
    obtain ⟨rfl, _⟩ := Exchange.mk.inj isRead
    obtain ⟨_, failed⟩ := theirs _ (List.mem_append_right before List.mem_cons_self)
    have answered := failed.symm.trans (ask_page S guid paging.pageSize r.stop)
    contradiction

theorem get?_record_eq_some_iff {envelopes : List Envelope} (readable : ∀ e ∈ envelopes, ∃ t, e.time? = some t)
    {slot : InstanceId} {process : String} :
    (Processes.record .empty envelopes).get? slot = some process ↔ FirstNamed envelopes slot process := by
  rw [Processes.get?_record, SortedMap.get?_empty, Option.none_or, List.findSome?_eq_some_iff]
  have names : ∀ x ∈ envelopes, ∀ p, x.processIn? slot = some p ↔ x.Names slot p := by
    intro x member p
    obtain ⟨t, time⟩ := readable x member
    exact Envelope.processIn?_eq_some_iff_names time
  constructor
  · rintro ⟨newer, e, older, rfl, told, silent⟩
    refine ⟨newer, e, older, rfl, (names e (by simp) process).mp told, fun x isNewer p named => ?_⟩
    rw [← names x (by simp [isNewer]) p, silent x isNewer] at named
    contradiction
  · rintro ⟨newer, e, older, rfl, named, silent⟩
    refine ⟨newer, e, older, rfl, (names e (by simp) process).mpr named, fun x isNewer => ?_⟩
    exact Option.eq_none_iff_forall_ne_some.mpr fun p told => silent x isNewer p ((names x (by simp [isNewer]) p).mp told)

theorem resolve_passes (S : EnvelopeStore) (paging : Paging) (guid : String) :
    ∃ log, (Processes.resolve S.ask.recorded paging guid).run ((), []) =
        (.ok (.record .empty (S.envelopes.take (paging.pageSize * paging.pageCount))), (), log) ∧
      (∀ x ∈ log, ∃ options, x.call = .read guid .epoch options) ∧
      log.length = min paging.pageCount (S.envelopes.length / paging.pageSize + 1) := by
  obtain ⟨reads, isReads, answered, ran⟩ := resolve_run S paging guid
  have positive : 0 < paging.pageSize := Nat.le_max_right ..
  have split : S.envelopes = [] ++ S.before none := rfl
  obtain ⟨passed, count⟩ := reads_pass positive isReads answered split
  refine ⟨_, passed ▸ ran, ?_, by rw [List.length_map]; exact count⟩
  intro x member
  obtain ⟨r, _, rfl⟩ := List.mem_map.mp member
  exact ⟨_, rfl⟩

/-- A resolution never fails. It takes the process of every slot from the newest envelope that names one, among as many
of the newest envelopes as the pages hold, and reads once more than there are full pages, within the number of pages
allowed. Where the pages hold the whole store, another paging that holds it too resolves the same. -/
theorem resolve_newest (S : EnvelopeStore) (paging : Paging) (guid : String) :
    ∃ found log, (Processes.resolve S.ask.recorded paging guid).run ((), []) = (.ok found, (), log) ∧
      (∀ slot process, found.get? slot = some process ↔
        FirstNamed (S.envelopes.take (max paging.limit 1 * max paging.maxPages 1)) slot process) ∧
      (∀ x ∈ log, ∃ options, x.call = .read guid .epoch options) ∧
      log.length = min (max paging.maxPages 1) (S.envelopes.length / max paging.limit 1 + 1) ∧
      ∀ other : Paging, S.envelopes.length ≤ max paging.limit 1 * max paging.maxPages 1 →
        S.envelopes.length ≤ max other.limit 1 * max other.maxPages 1 →
        ((Processes.resolve S.ask.recorded other guid).run ((), [])).1 = .ok found := by
  obtain ⟨log, ran, onlyReads, count⟩ := resolve_passes S paging guid
  refine ⟨_, log, ran, ?_, onlyReads, count, ?_⟩
  · intro slot process
    apply get?_record_eq_some_iff
    intro e member
    obtain ⟨t, time, _⟩ := time_of_mem (List.mem_of_mem_take member)
    exact ⟨t, time⟩
  · intro other holds otherHolds
    obtain ⟨_, otherRan, _⟩ := resolve_passes S other guid
    rw [otherRan, Paging.pageSize, Paging.pageCount, Paging.pageSize, Paging.pageCount, List.take_of_length_le holds,
      List.take_of_length_le otherHolds]

/-! Five envelopes, four of which two pages hold. Of the first two one has no slot and the other no process; the next two
are of one slot, and the last one is of another. -/
namespace Five

def newest : List Envelope :=
  [.telling "50" "-1" "a", .telling " 40 " "7" "", .telling "30" "+7" "b", .telling "20" "07" "c",
    .telling "0" "8" "d"]

def stamps : List Int :=
  [50, 40, 30, 20, 0]

theorem stamp?_newest : newest.map (·.stamp?) = stamps.map some := by
  decide +kernel

def store : EnvelopeStore where
  envelopes := newest
  stamped := by
    have each : newest.all (fun e => e.stamp?.any (0 ≤ ·)) = true := by decide +kernel
    intro e member
    simpa [Option.any_eq_true] using List.all_eq_true.mp each e member
  newestFirst := by
    have sorted : stamps.Pairwise fun m n => n < m := by decide
    have stamped : (newest.map (·.stamp?)).Pairwise fun a b => ∀ m n, a = some m → b = some n → n < m := by
      rw [stamp?_newest, List.pairwise_map]
      refine sorted.imp fun less m n first second => ?_
      rwa [← Option.some.inj first, ← Option.some.inj second]
    exact List.pairwise_map.mp stamped

end Five

theorem resolve_newest_five : ∃ found log all,
    (Processes.resolve Five.store.ask.recorded ⟨2, 2⟩ "guid").run ((), []) = (.ok found, (), log) ∧
    found.entries = [(7, "b")] ∧
    (∀ slot process, found.get? slot = some process ↔ FirstNamed (Five.newest.take 4) slot process) ∧
    log.map (·.call) = [.read "guid" .epoch (Processes.pageOptions 2 none),
      .read "guid" .epoch (Processes.pageOptions 2 (Instant.ofNanos? 40))] ∧
    log.length = 2 ∧
    ((Processes.resolve Five.store.ask.recorded ⟨1, 5⟩ "guid").run ((), [])).1 = .ok all ∧
    ((Processes.resolve Five.store.ask.recorded ⟨9, 0⟩ "guid").run ((), [])).1 = .ok all ∧
    all.entries = [(7, "b"), (8, "d")] := by
  obtain ⟨found, log, ran, tells, _, count, _⟩ := resolve_newest Five.store ⟨2, 2⟩ "guid"
  obtain ⟨all, _, ranAll, _, _, _, alike⟩ := resolve_newest Five.store ⟨1, 5⟩ "guid"
  have entries : ((Processes.resolve Five.store.ask.recorded ⟨2, 2⟩ "guid").run ((), [])).1.toOption.map (·.entries) =
      some [(7, "b")] := by
    decide +kernel
  have calls : ((Processes.resolve Five.store.ask.recorded ⟨2, 2⟩ "guid").run ((), [])).2.2.map (·.call) =
      [.read "guid" .epoch (Processes.pageOptions 2 none),
        .read "guid" .epoch (Processes.pageOptions 2 (Instant.ofNanos? 40))] := by
    decide +kernel
  have allEntries : ((Processes.resolve Five.store.ask.recorded ⟨1, 5⟩ "guid").run ((), [])).1.toOption.map
      (·.entries) = some [(7, "b"), (8, "d")] := by
    decide +kernel
  rw [ran] at entries calls
  rw [ranAll] at allEntries
  exact ⟨found, log, all, ran, Option.some.inj entries, tells, calls, count, congrArg Prod.fst ranAll,
    alike ⟨9, 0⟩ (by decide) (by decide), Option.some.inj allEntries⟩

end EnvelopeStore
end CpuUsage
