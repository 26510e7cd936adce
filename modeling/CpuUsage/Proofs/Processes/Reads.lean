import CpuUsage.Processes
import CpuUsage.Proofs.Conversation
import CpuUsage.Proofs.SortedMap

/-! What a resolution reads and what it makes of the pages. `Reads` tells which sequences of pages a resolution goes
through, `conducts_readPages` that it goes through no others, and `get?_record` that of all envelopes read the first
one that tells the process of a slot decides. -/
namespace CpuUsage

/-- The process that an envelope with a readable time tells for this slot. -/
def Envelope.processIn? (slot : InstanceId) (e : Envelope) : Option String :=
  (e.process?.filter fun p => p.1 = slot).map (·.2)

theorem Envelope.processIn?_of_time {e : Envelope} {t : Instant} (readable : e.time? = some t) (slot : InstanceId) :
    e.processIn? slot = if readInstanceId? e.instanceId = some slot then processOf? e.tags else none := by
  simp only [processIn?, process?, readable, Option.bind_eq_bind, Option.bind_some]
  cases readInstanceId? e.instanceId with
  | none => simp
  | some id => cases processOf? e.tags <;> by_cases same : id = slot <;> simp [same, Option.filter_some]

/-- An envelope with this time, this id of an instance and this process. -/
def Envelope.telling (timestamp instanceId process : String) : Envelope :=
  ⟨"guid", instanceId, timestamp, .ofList [("process_instance_id", process)], .empty⟩

namespace Processes

/-- One read: where it stops and the page that answers it. -/
structure PageRead where
  stop : Option Instant
  page : List Envelope

def PageRead.exchange (guid : String) (limit : Nat) (r : PageRead) : Exchange :=
  ⟨.read guid .epoch (pageOptions limit r.stop), .ok r.page⟩

/-- The reads of a resolution that may make a number of reads more: a page that is not full or shows no time is the
last, and else the next one stops at the last time that the page shows. -/
inductive Reads (limit : Nat) : Nat → Option Instant → List PageRead → Prop where
  | spent {stop : Option Instant} : Reads limit 0 stop []
  | last {pages : Nat} {stop : Option Instant} {page : List Envelope} :
      page.length < limit ∨ resumeAt? page = none → Reads limit (pages + 1) stop [⟨stop, page⟩]
  | next {pages : Nat} {stop : Option Instant} {page : List Envelope} {time : Instant} {rest : List PageRead} :
      limit ≤ page.length → resumeAt? page = some time → Reads limit pages (some time) rest →
      Reads limit (pages + 1) stop (⟨stop, page⟩ :: rest)

def envelopesOf (reads : List PageRead) : List Envelope :=
  reads.flatMap PageRead.page

theorem Reads.length_le {reads : List PageRead} (h : Reads limit pages stop reads) : reads.length ≤ pages := by
  induction h with
  | spent => exact Nat.le_refl 0
  | last => exact Nat.succ_le_succ (Nat.zero_le _)
  | next _ _ _ ih => exact Nat.succ_le_succ ih

theorem Reads.length_pos {reads : List PageRead} (h : Reads limit pages stop reads) (some : 0 < pages) :
    0 < reads.length := by
  cases h with
  | spent => contradiction
  | last => exact Nat.zero_lt_succ _
  | next => exact Nat.zero_lt_succ _

theorem record_append (found : Processes) (page later : List Envelope) :
    (found.record page).record later = found.record (page ++ later) := by
  simp only [record, List.filterMap_append, List.foldl_append]

/-- What is known of a slot stays; else the first envelope that tells its process decides. -/
theorem get?_record (found : Processes) (page : List Envelope) (slot : InstanceId) :
    (found.record page).get? slot = (found.get? slot).or (page.findSome? (Envelope.processIn? slot)) := by
  refine (SortedMap.get?_foldl_insertNew Prod.fst Prod.snd _ found slot).trans (congrArg _ ?_)
  induction page with
  | nil => rfl
  | cons e rest ih =>
    cases told : e.process? with
    | none => simpa [told, Envelope.processIn?] using ih
    | some p => by_cases same : p.1 = slot <;> simp_all [Envelope.processIn?, Option.filter_some]

theorem conducts_readPages (ask : Collaborators σ) (guid : String) (limit : Nat) (pages : Nat) (stop : Option Instant)
    (found : Processes) :
    Session.Conducts ask (readPages ask.recorded guid limit pages stop found) (Session.Yields fun log processes =>
      ∃ reads, Reads limit pages stop reads ∧ log = reads.map (PageRead.exchange guid limit) ∧
        processes = found.record (envelopesOf reads)) := by
  induction pages generalizing stop found with
  | zero =>
    apply (Session.conducts_pure found).mono
    rintro log result ⟨_, rfl, rfl, rfl⟩
    exact ⟨_, rfl, [], .spent, rfl, rfl⟩
  | succ pages ih =>
    refine (Session.Conducts.bind (Session.conducts_ask (.read guid .epoch (pageOptions limit stop)))
      fun page : List Envelope => (?afterPage : Session.Conducts ask _ (Session.Yields fun log processes =>
        ∃ rest, Reads limit (pages + 1) stop (⟨stop, page⟩ :: rest) ∧ log = rest.map (PageRead.exchange guid limit) ∧
          processes = found.record (page ++ envelopesOf rest)))).mono ?_
    case afterPage =>
      split
      · next short =>
        apply (Session.conducts_pure _).mono
        rintro log result ⟨_, rfl, rfl, rfl⟩
        exact ⟨_, rfl, [], .last (.inl short), rfl, by simp [envelopesOf]⟩
      · next full =>
        split
        · next time resumes =>
          apply (ih (some time) (found.record page)).mono
          rintro log result ⟨_, rfl, rest, reads, rfl, rfl⟩
          exact ⟨_, rfl, rest, .next (Nat.le_of_not_lt full) resumes reads, rfl, record_append ..⟩
        · next unreadable =>
          apply (Session.conducts_pure _).mono
          rintro log result ⟨_, rfl, rfl, rfl⟩
          exact ⟨_, rfl, [], .last (.inr unreadable), rfl, by simp [envelopesOf]⟩
    rintro log result ⟨_, page, later, rfl, rfl, processes, rfl, rest, reads, rfl, rfl⟩
    exact ⟨_, rfl, ⟨stop, page⟩ :: rest, reads, rfl, rfl⟩

/-- A resolution makes at least one read, and its processes are those of all envelopes that it has read. -/
theorem conducts_resolve (ask : Collaborators σ) (paging : Paging) (guid : String) :
    Session.Conducts ask (resolve ask.recorded paging guid) (Session.Yields fun log processes =>
      ∃ reads, Reads paging.pageSize paging.pageCount none reads ∧
        log = reads.map (PageRead.exchange guid paging.pageSize) ∧
        processes = record .empty (envelopesOf reads)) :=
  conducts_readPages ask guid paging.pageSize paging.pageCount none .empty

end Processes
end CpuUsage
