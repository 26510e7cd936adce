import CpuUsage.Proofs.Processes.Reads
import Mathlib.Order.Bounds.Basic

/-! Resolution against any answers, however disordered or corrupt. A read that fails, a page that is not full, one that
shows no time and the last page allowed each end the reading, and nothing else does. Of all envelopes read, the first
that tells the process of a slot decides, so that more pages add processes and change none. -/
namespace CpuUsage

/-- The envelope shows a time, and names a slot and the process that fills it. -/
structure Envelope.Tells (e : Envelope) (slot : InstanceId) (process : String) : Prop where
  timed : (readNanos? e.timestamp).isSome
  numbered : readInstanceId? e.instanceId = some slot
  tagged : e.tags.get? "process_instance_id" = some process
  named : process ≠ ""

theorem Envelope.processIn?_eq_some_iff {e : Envelope} {slot : InstanceId} {process : String} :
    e.processIn? slot = some process ↔ e.Tells slot process := by
  cases time : e.time? with
  | none =>
    have untimed : ¬ e.Tells slot process := fun tells => by
      have := tells.timed
      rw [← Envelope.time?, time] at this
      contradiction
    simp [processIn?, process?, time, untimed]
  | some t =>
    rw [processIn?_of_time time]
    constructor
    · intro told
      split at told
      · next same =>
        obtain ⟨tag, named⟩ := Option.filter_eq_some_iff.mp told
        exact ⟨Option.isSome_iff_exists.mpr ⟨t, time⟩, same, tag, of_decide_eq_true named⟩
      · contradiction
    · rintro ⟨_, same, tag, named⟩
      rw [if_pos same, processOf?, tag, Option.filter_some, if_pos (by simpa using named)]

namespace Processes

/-- Of these envelopes the first one that names a process for the slot names this one. -/
def FirstTells (envelopes : List Envelope) (slot : InstanceId) (process : String) : Prop :=
  ∃ before e after, envelopes = before ++ e :: after ∧ e.Tells slot process ∧ ∀ x ∈ before, ∀ p, ¬ x.Tells slot p

theorem get?_record_empty_eq_some_iff {envelopes : List Envelope} {slot : InstanceId} {process : String} :
    (record .empty envelopes).get? slot = some process ↔ FirstTells envelopes slot process := by
  rw [get?_record, SortedMap.get?_empty, Option.none_or, List.findSome?_eq_some_iff]
  simp only [FirstTells, Envelope.processIn?_eq_some_iff, Option.eq_none_iff_forall_ne_some, ne_eq]

/-- The time of the last envelope that shows one. -/
def LastTime (page : List Envelope) (t : Instant) : Prop :=
  ∃ before e after, page = before ++ e :: after ∧ readNanos? e.timestamp = some t ∧
    ∀ x ∈ after, readNanos? x.timestamp = none

theorem resumeAt?_eq_some_iff {page : List Envelope} {t : Instant} : resumeAt? page = some t ↔ LastTime page t := by
  have fromEnd : resumeAt? page = page.reverse.findSome? Envelope.time? := List.getLast?_filterMap
  rw [fromEnd, List.findSome?_eq_some_iff]
  constructor
  · rintro ⟨after, e, before, split, time, untimed⟩
    refine ⟨before.reverse, e, after.reverse, ?_, time, fun x member => untimed x (List.mem_reverse.mp member)⟩
    rw [← List.reverse_reverse page, split]
    simp
  · rintro ⟨before, e, after, rfl, time, untimed⟩
    exact ⟨after.reverse, e, before.reverse, by simp, time, fun x member => untimed x (List.mem_reverse.mp member)⟩

theorem resumeAt?_eq_none_iff {page : List Envelope} : resumeAt? page = none ↔ ∀ e ∈ page, e.time? = none := by
  rw [resumeAt?, List.getLast?_eq_none_iff, List.filterMap_eq_nil_iff]

/-- What successive reads are answered, whatever they ask for. -/
abbrev Answers : Type :=
  Nat → Except Failure (List Envelope)

namespace Answers

/-- Answers reads one after the other and nothing else; the state is how many there were. -/
def ask (answers : Answers) : Collaborators Nat
  | .read .. => fun n => (answers n, n + 1)
  | _ => Session.fail .unanswered

/-- No more is read behind this answer. -/
inductive Ends (limit : Nat) : Except Failure (List Envelope) → Prop where
  | failed (e : Failure) : Ends limit (.error e)
  | short {page : List Envelope} : page.length < limit → Ends limit (.ok page)
  | untimed {page : List Envelope} : (∀ e ∈ page, readNanos? e.timestamp = none) → Ends limit (.ok page)

theorem exists_of_not_ends {limit : Nat} {answer : Except Failure (List Envelope)} (more : ¬ Ends limit answer) :
    ∃ page t, answer = .ok page ∧ limit ≤ page.length ∧ resumeAt? page = some t := by
  cases answer with
  | error e => exact absurd (.failed e) more
  | ok page =>
    have full : limit ≤ page.length := Nat.le_of_not_lt fun short => more (.short short)
    cases resumes : resumeAt? page with
    | none => exact absurd (.untimed (resumeAt?_eq_none_iff.mp resumes)) more
    | some t => exact ⟨page, t, rfl, full, resumes⟩

theorem not_ends_of_full {limit : Nat} {page : List Envelope} {t : Instant} (full : limit ≤ page.length)
    (resumes : resumeAt? page = some t) : ¬ Ends limit (.ok page) := by
  rintro (_ | short | untimed)
  · exact absurd short (Nat.not_lt.mpr full)
  · rw [resumeAt?_eq_none_iff.mpr untimed] at resumes
    contradiction

/-- Where a read stops: the first one nowhere, any other at the last time that the page before it shows. -/
inductive StopsAt (answers : Answers) : Nat → Option Instant → Prop where
  | first : StopsAt answers 0 none
  | behind {n : Nat} {page : List Envelope} {t : Instant} : answers n = .ok page → LastTime page t →
      StopsAt answers (n + 1) (some t)

/-- The envelopes of so many reads from the `n`-th on, in the order in which they arrive. -/
def envelopes (answers : Answers) (n reads : Nat) : List Envelope :=
  (List.range' n reads).flatMap fun m => (answers m).toOption.getD []

theorem envelopes_succ (answers : Answers) (n reads : Nat) :
    answers.envelopes n (reads + 1) = (answers n).toOption.getD [] ++ answers.envelopes (n + 1) reads := by
  rw [envelopes, List.range'_succ, List.flatMap_cons, envelopes]

theorem prefix_envelopes (answers : Answers) (n : Nat) {reads more : Nat} (le : reads ≤ more) :
    answers.envelopes n reads <+: answers.envelopes n more := by
  obtain ⟨further, rfl⟩ := Nat.exists_eq_add_of_le le
  rw [envelopes, envelopes, ← List.range'_append_1, List.flatMap_append]
  exact List.prefix_append ..

/-- A read of entitlement envelopes of any time up to where it stops, and its answer. -/
def exchange (guid : String) (limit : Nat) (stop : Option Instant) (answer : Except Failure (List Envelope)) :
    Exchange :=
  ⟨.read guid .epoch (pageOptions limit stop), answer⟩

/-- These are the exchanges of the reads from the `n`-th on; all ask for the same but for where they stop. -/
def Exchanged (answers : Answers) (guid : String) (limit n : Nat) (said : Conversation) : Prop :=
  ∀ m x, said[m]? = some x →
    ∃ stop, answers.StopsAt (n + m) stop ∧ x = exchange guid limit stop (answers (n + m))

theorem Exchanged.cons {answers : Answers} {stop : Option Instant} {said : Conversation}
    (stops : answers.StopsAt n stop) (later : answers.Exchanged guid limit (n + 1) said) :
    answers.Exchanged guid limit n (exchange guid limit stop (answers n) :: said) := by
  intro m x held
  cases m with
  | zero => exact ⟨stop, stops, (Option.some.inj held).symm⟩
  | succ m =>
    rw [List.getElem?_cons_succ] at held
    rw [Nat.add_comm m 1, ← Nat.add_assoc]
    exact later m x held

theorem Exchanged.one {answers : Answers} {stop : Option Instant} (stops : answers.StopsAt n stop) :
    answers.Exchanged guid limit n [exchange guid limit stop (answers n)] :=
  .cons stops fun _ _ held => nomatch held

/-- From the `n`-th read on so many are made, until one ends the reading or all the pages allowed are read. -/
def Lasts (answers : Answers) (limit n pages reads : Nat) : Prop :=
  IsLeast {k | ∃ m, k = m + 1 ∧ (k = pages ∨ Ends limit (answers (n + m)))} reads

namespace Lasts
variable {answers : Answers} {limit n pages reads : Nat}

theorem one (last : pages = 1 ∨ Ends limit (answers n)) : answers.Lasts limit n pages 1 := by
  refine ⟨⟨0, rfl, last.imp_left Eq.symm⟩, ?_⟩
  rintro k ⟨m, rfl, _⟩
  exact Nat.le_add_left 1 m

theorem succ (more : ¬ Ends limit (answers n)) (later : answers.Lasts limit (n + 1) (pages + 1) reads) :
    answers.Lasts limit n (pages + 2) (reads + 1) := by
  obtain ⟨⟨m, rfl, last⟩, least⟩ := later
  constructor
  · refine ⟨m + 1, rfl, last.imp (congrArg (· + 1)) fun ends => ?_⟩
    rwa [Nat.add_comm m 1, ← Nat.add_assoc]
  · rintro k ⟨i, rfl, ends⟩
    cases i with
    | zero => exact ends.elim (fun one => by omega) fun ends => absurd ends more
    | succ i =>
      rw [Nat.add_comm i 1, ← Nat.add_assoc] at ends
      have := least ⟨i, rfl, ends.imp_left fun all => by omega⟩
      omega

theorem pos (lasts : answers.Lasts limit n pages reads) : 0 < reads := by
  obtain ⟨⟨m, rfl, _⟩, _⟩ := lasts
  exact Nat.zero_lt_succ m

/-- With more pages allowed there are as many reads or more. -/
theorem le (lasts : answers.Lasts limit n pages reads) (some : 0 < pages) {more further : Nat} (le : pages ≤ more)
    (longer : answers.Lasts limit n more further) : reads ≤ further := by
  obtain ⟨m, rfl, last⟩ := longer.1
  cases last with
  | inl all =>
    have := lasts.2 ⟨pages - 1, by omega, .inl rfl⟩
    omega
  | inr ends => exact lasts.2 ⟨m, rfl, .inr ends⟩

end Lasts

/-- What a resolution knows after these reads: if the last one fails there is its error instead. -/
def outcome (answers : Answers) (n reads : Nat) (found : Processes) : Except Failure Processes :=
  (answers (n + reads - 1)).map fun _ => found.record (answers.envelopes n reads)

theorem outcome_one (answers : Answers) (n : Nat) (found : Processes) :
    answers.outcome n 1 found = (answers n).map found.record := by
  cases answered : answers n <;> simp [outcome, envelopes, answered, Except.map, Except.toOption]

theorem outcome_succ {answers : Answers} {page : List Envelope} {found : Processes} (answered : answers n = .ok page)
    (more : 0 < reads) : answers.outcome n (reads + 1) found = answers.outcome (n + 1) reads (found.record page) := by
  have sameLast : n + (reads + 1) - 1 = n + 1 + reads - 1 := by omega
  rw [outcome, outcome, sameLast, envelopes_succ, answered, record_append]
  rfl

end Answers

section Run
variable {answers : Answers} {guid : String} {limit pages n : Nat} {stop : Option Instant} {found : Processes}
variable {log : Conversation}

/-- A read that is answered with a page records it and goes on as the page tells. -/
theorem run_readPages_of_ok {page : List Envelope} (answered : answers n = .ok page) :
    (readPages answers.ask.recorded guid limit (pages + 1) stop found).run (n, log) =
      (if page.length < limit then pure (found.record page)
        else match resumeAt? page with
          | some t => readPages answers.ask.recorded guid limit pages (some t) (found.record page)
          | none => pure (found.record page)).run (n + 1, log ++ [Answers.exchange guid limit stop (answers n)]) := by
  have asked : (answers.ask (.read guid .epoch (pageOptions limit stop))).run n = (.ok page, n + 1) :=
    congrArg (·, n + 1) answered
  rw [answered]
  exact Session.run_bind_ok (Collaborators.run_recorded asked log)

/-- Nothing is read behind a read that ends the reading or uses up the pages. -/
theorem run_readPages_of_last (last : pages + 1 = 1 ∨ Answers.Ends limit (answers n)) :
    (readPages answers.ask.recorded guid limit (pages + 1) stop found).run (n, log) =
      ((answers n).map found.record, n + 1, log ++ [Answers.exchange guid limit stop (answers n)]) := by
  cases answered : answers n with
  | error e =>
    have asked : (answers.ask (.read guid .epoch (pageOptions limit stop))).run n = (.error e, n + 1) :=
      congrArg (·, n + 1) answered
    exact Session.run_bind_error (Collaborators.run_recorded asked log)
  | ok page =>
    rw [run_readPages_of_ok answered, answered]
    split
    · rfl
    · next full =>
      cases resumes : resumeAt? page with
      | none => rfl
      | some t =>
        -- The page ends nothing, so it is the last one allowed.
        have spent : pages + 1 = 1 := last.resolve_right fun ends => by
          rw [answered] at ends
          exact Answers.not_ends_of_full (Nat.le_of_not_lt full) resumes ends
        cases Nat.succ.inj spent
        rfl

theorem run_readPages_of_full {page : List Envelope} {t : Instant} (answered : answers n = .ok page)
    (full : limit ≤ page.length) (resumes : resumeAt? page = some t) :
    (readPages answers.ask.recorded guid limit (pages + 1) stop found).run (n, log) =
      (readPages answers.ask.recorded guid limit pages (some t) (found.record page)).run
        (n + 1, log ++ [Answers.exchange guid limit stop (answers n)]) := by
  rw [run_readPages_of_ok answered, if_neg (Nat.not_lt.mpr full), resumes]

end Run

/-- From the `n`-th read on, a resolution makes as many reads as the answers tell and knows what they tell. -/
theorem run_readPages (answers : Answers) (guid : String) (limit pages n : Nat) (stop : Option Instant)
    (found : Processes) (log : Conversation) (stops : answers.StopsAt n stop) :
    ∃ reads said, (readPages answers.ask.recorded guid limit (pages + 1) stop found).run (n, log) =
        (answers.outcome n reads found, n + reads, log ++ said) ∧
      answers.Lasts limit n (pages + 1) reads ∧ said.length = reads ∧ answers.Exchanged guid limit n said := by
  induction pages generalizing n stop found log with
  | zero =>
    have last : 0 + 1 = 1 ∨ Answers.Ends limit (answers n) := .inl rfl
    exact ⟨1, _, by rw [run_readPages_of_last last, Answers.outcome_one], .one last, rfl, .one stops⟩
  | succ pages ih =>
    by_cases ends : Answers.Ends limit (answers n)
    · exact ⟨1, _, by rw [run_readPages_of_last (.inr ends), Answers.outcome_one], .one (.inr ends), rfl,
        .one stops⟩
    · obtain ⟨page, t, answered, full, resumes⟩ := Answers.exists_of_not_ends ends
      have behind : answers.StopsAt (n + 1) (some t) := .behind answered (resumeAt?_eq_some_iff.mp resumes)
      obtain ⟨reads, said, ran, lasts, length, exchanged⟩ :=
        ih (n + 1) (some t) (found.record page) (log ++ [Answers.exchange guid limit stop (answers n)]) behind
      refine ⟨reads + 1, _ :: said, ?_, lasts.succ ends, congrArg (· + 1) length, .cons stops exchanged⟩
      rw [run_readPages_of_full answered full resumes, ran, Answers.outcome_succ answered lasts.pos,
        List.append_assoc, List.singleton_append, Nat.add_assoc, Nat.add_comm 1]

theorem run_resolve (answers : Answers) (paging : Paging) (guid : String) :
    ∃ reads said, (resolve answers.ask.recorded paging guid).run (0, []) =
        (answers.outcome 0 reads .empty, reads, said) ∧
      answers.Lasts paging.pageSize 0 paging.pageCount reads ∧ said.length = reads ∧
      answers.Exchanged guid paging.pageSize 0 said := by
  obtain ⟨pages, count⟩ : ∃ pages, paging.pageCount = pages + 1 :=
    Nat.exists_eq_add_one.mpr (Nat.lt_of_lt_of_le Nat.zero_lt_one (Nat.le_max_right ..))
  obtain ⟨reads, said, ran, lasts, length, exchanged⟩ :=
    run_readPages answers guid paging.pageSize pages 0 none .empty [] .first
  rw [Nat.zero_add, List.nil_append] at ran
  exact ⟨reads, said, by rw [resolve, count, ran], by rw [count]; exact lasts, length, exchanged⟩

/-- How a resolution ends after these reads: with the error of the last one, or with the process of each slot that some
envelope tells, as the first such envelope tells it. -/
inductive Ending (answers : Answers) (reads : Nat) : Except Failure Processes → Prop where
  | failed {e : Failure} : answers (reads - 1) = .error e → Ending answers reads (.error e)
  | resolved {page : List Envelope} {found : Processes} : answers (reads - 1) = .ok page →
      (∀ slot process, found.get? slot = some process ↔ FirstTells (answers.envelopes 0 reads) slot process) →
      Ending answers reads (.ok found)

theorem ending_outcome (answers : Answers) (reads : Nat) : Ending answers reads (answers.outcome 0 reads .empty) := by
  rw [Answers.outcome, Nat.zero_add]
  cases answered : answers (reads - 1) with
  | error e => exact .failed answered
  | ok page => exact .resolved answered fun slot process => get?_record_empty_eq_some_iff

theorem FirstTells.mono {envelopes more : List Envelope} (le : envelopes <+: more)
    (tells : FirstTells envelopes slot process) : FirstTells more slot process := by
  obtain ⟨later, rfl⟩ := le
  obtain ⟨before, e, after, rfl, told, first⟩ := tells
  exact ⟨before, e, after ++ later, by simp, told, first⟩

/-- With more pages allowed a resolution adds processes and changes none, unless a further read fails. -/
theorem Ending.grows {answers : Answers} {found : Processes} {result : Except Failure Processes} {reads more : Nat}
    (le : reads ≤ more) (shorter : Ending answers reads (.ok found)) (longer : Ending answers more result) :
    (∃ e, result = .error e ∧ reads < more ∧ answers (more - 1) = .error e) ∨
      ∃ all, result = .ok all ∧ ∀ slot process, found.get? slot = some process → all.get? slot = some process := by
  cases shorter with
  | resolved answered tells =>
    cases longer with
    | failed failed =>
      refine .inl ⟨_, rfl, Nat.lt_of_le_of_ne le ?_, failed⟩
      rintro rfl
      rw [answered] at failed
      contradiction
    | resolved _ tellsMore =>
      refine .inr ⟨_, rfl, fun slot process known => ?_⟩
      exact (tellsMore slot process).mpr (((tells slot process).mp known).mono (answers.prefix_envelopes 0 le))

theorem Ending.named {answers : Answers} {found : Processes} {reads : Nat} (ending : Ending answers reads (.ok found))
    {slot : InstanceId} {process : String} (known : found.get? slot = some process) : process ≠ "" := by
  cases ending with
  | resolved _ tells =>
    obtain ⟨_, _, _, _, told, _⟩ := (tells slot process).mp known
    exact told.named

/-- The course of a resolution against any answers: it makes as many reads as it takes to one that ends the reading or
is the last one allowed, each of which stops where the page before it tells and all of which ask for the same else. -/
structure Course (answers : Answers) (paging : Paging) (guid : String) (reads : Nat) (said : Conversation)
    (result : Except Failure Processes) : Prop where
  lasts : answers.Lasts (max paging.limit 1) 0 (max paging.maxPages 1) reads
  length : said.length = reads
  exchanged : answers.Exchanged guid (max paging.limit 1) 0 said
  ending : Ending answers reads result

/-- Every resolution takes its course and ends. No process that is resolved is empty, and to allow more pages adds
processes and changes none unless a further read fails. -/
theorem resolve_course (answers : Answers) (paging : Paging) (guid : String) :
    ∃ reads said result, (resolve answers.ask.recorded paging guid).run (0, []) = (result, reads, said) ∧
      Course answers paging guid reads said result ∧
      ∀ found, result = .ok found →
        (∀ slot process, found.get? slot = some process → process ≠ "") ∧
        ∀ maxPages, paging.maxPages ≤ maxPages →
          ∃ more longer grown, (resolve answers.ask.recorded ⟨paging.limit, maxPages⟩ guid).run (0, []) =
              (grown, more, longer) ∧ reads ≤ more ∧
            ((∃ e, grown = .error e ∧ reads < more ∧ answers (more - 1) = .error e) ∨
              ∃ all, grown = .ok all ∧
                ∀ slot process, found.get? slot = some process → all.get? slot = some process) := by
  obtain ⟨reads, said, ran, lasts, length, exchanged⟩ := run_resolve answers paging guid
  have ending := ending_outcome answers reads
  refine ⟨reads, said, _, ran, ⟨lasts, length, exchanged, ending⟩, ?_⟩
  intro found resolved
  rw [resolved] at ending
  refine ⟨fun slot process => ending.named, fun maxPages le => ?_⟩
  obtain ⟨more, longer, ranLonger, lastsLonger, _, _⟩ := run_resolve answers ⟨paging.limit, maxPages⟩ guid
  have pagesLe : max paging.maxPages 1 ≤ max maxPages 1 := by omega
  have further : reads ≤ more :=
    lasts.le (Nat.lt_of_lt_of_le Nat.zero_lt_one (Nat.le_max_right ..)) pagesLe lastsLonger
  exact ⟨more, longer, _, ranLonger, further, ending.grows further (ending_outcome answers more)⟩

/-- Full pages in no order. A number that 64 bits hold is a time, below zero too and between blanks; nothing else is one,
so the last of these pages shows none. -/
def disordered : Answers
  | 0 => .ok [.telling " 5 " "3" "first", .telling "soon" "4" "untimed", .telling "9" "3" "later"]
  | 1 => .ok [.telling "9223372036854775808" "4" "too late", .telling "-7" "4294967296" "nowhere", .telling "" "5" "never"]
  | 2 => .ok [.telling "1e3" "4" "x", .telling "1.5" "4" "y", .telling "+" "4" "z"]
  | _ => .error .unanswered

theorem resolve_course_disordered : ∃ said found,
    (resolve disordered.ask.recorded ⟨3, 5⟩ "guid").run (0, []) = (.ok found, 3, said) ∧
    Course disordered ⟨3, 5⟩ "guid" 3 said (.ok found) ∧
    found.entries = [(3, "first")] ∧
    said.map (·.call) = [.read "guid" .epoch (pageOptions 3 none),
      .read "guid" .epoch (pageOptions 3 (Instant.ofNanos? 9)),
      .read "guid" .epoch (pageOptions 3 (Instant.ofNanos? (-7)))] := by
  obtain ⟨reads, said, result, ran, course, _⟩ := resolve_course disordered ⟨3, 5⟩ "guid"
  have entries : ((resolve disordered.ask.recorded ⟨3, 5⟩ "guid").run (0, [])).1.toOption.map (·.entries) =
      some [(3, "first")] := by
    decide +kernel
  have count : ((resolve disordered.ask.recorded ⟨3, 5⟩ "guid").run (0, [])).2.1 = 3 := by decide +kernel
  have calls : ((resolve disordered.ask.recorded ⟨3, 5⟩ "guid").run (0, [])).2.2.map (·.call) =
      [.read "guid" .epoch (pageOptions 3 none), .read "guid" .epoch (pageOptions 3 (Instant.ofNanos? 9)),
        .read "guid" .epoch (pageOptions 3 (Instant.ofNanos? (-7)))] := by
    decide +kernel
  rw [ran] at entries count calls
  obtain rfl : reads = 3 := count
  cases result with
  | error e => cases entries
  | ok found => exact ⟨said, found, ran, course, Option.some.inj entries, calls⟩

end Processes
end CpuUsage
