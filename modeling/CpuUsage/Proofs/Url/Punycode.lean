import CpuUsage.Proofs.Text.Split
import CpuUsage.Url.Punycode
import Mathlib.Tactic.Ring

/-! Reading punycode undoes writing it. A writer goes over a label once for each code point, and a reader who has read what
is written so far has placed just the characters that the writer has passed. -/
namespace CpuUsage

/-- A run of the same number counts once, and in a list that ascends all that are the same form a run. -/
theorem eraseReps_cons_cons (a b : Nat) (rest : List Nat) :
    (a :: b :: rest).eraseReps = if a = b then (b :: rest).eraseReps else a :: (b :: rest).eraseReps := by
  have apart : ∀ (rest : List Nat) (a : Nat) (before : List Nat),
      List.eraseRepsBy.loop (fun x y => x == y) a rest before =
        before.reverse ++ List.eraseRepsBy.loop (fun x y => x == y) a rest [] := by
    intro rest
    induction rest with
    | nil => simp [List.eraseRepsBy.loop]
    | cons b rest ih =>
      intro a before
      rw [List.eraseRepsBy.loop, List.eraseRepsBy.loop]
      split
      · exact ih a before
      · rw [ih b (a :: before), ih b [a]]
        simp
  simp only [List.eraseReps, List.eraseRepsBy, List.eraseRepsBy.loop]
  by_cases same : a = b
  · simp [same]
  · rw [if_neg same]
    simp only [beq_eq_false_iff_ne.mpr same]
    exact apart rest b [a]

theorem mem_eraseReps {a : Nat} {as : List Nat} : a ∈ as.eraseReps ↔ a ∈ as := by
  induction as with
  | nil => rfl
  | cons b rest ih =>
    cases rest with
    | nil => rfl
    | cons c rest =>
      rw [eraseReps_cons_cons]
      split
      · next same => rw [ih, same]; simp
      · rw [List.mem_cons, ih, List.mem_cons (a := a) (b := b)]

theorem pairwise_eraseReps {as : List Nat} (ascends : as.Pairwise (· ≤ ·)) : as.eraseReps.Pairwise (· < ·) := by
  induction as with
  | nil => exact .nil
  | cons b rest ih =>
    have later := ih ascends.of_cons
    cases rest with
    | nil => exact List.pairwise_singleton _ _
    | cons c rest =>
      rw [eraseReps_cons_cons]
      split
      · exact later
      · next other =>
        refine List.pairwise_cons.mpr ⟨fun d member => ?_, later⟩
        have atLeast := List.rel_of_pairwise_cons ascends (List.mem_cons_self (a := c))
        rcases List.mem_cons.mp (mem_eraseReps.mp member) with rfl | behind
        · omega
        · have := List.rel_of_pairwise_cons ascends.of_cons behind
          omega

namespace Punycode

theorem digitValue?_digit {n : Nat} (small : n < 36) : digitValue? (digit n) = some n := by
  have all : ∀ n < 36, digitValue? (digit n) = some n := by decide
  exact all n small

/-- A distance is read back, whatever follows it. -/
theorem readDistance?_writeDistance (bias position n weight before : Nat) (rest : List Char) :
    readDistance? bias position weight before (writeDistance bias position n ++ rest) =
      some (before + n * weight, rest) := by
  fun_induction writeDistance bias position n generalizing weight before with
  | case1 position n t last =>
    have small : n < 36 := Nat.lt_trans last (threshold_lt bias position)
    simp [readDistance?, digitValue?_digit small, show n < threshold bias position from last]
  | case2 position n t more ih =>
    have positive := threshold_pos bias position
    have least : t < 36 := threshold_lt bias position
    have remainder : (n - t) % (36 - t) < 36 - t := Nat.mod_lt _ (by omega)
    have small : t + (n - t) % (36 - t) < 36 := by omega
    have goesOn : ¬ t + (n - t) % (36 - t) < threshold bias position := Nat.not_lt.mpr (Nat.le_add_right _ _)
    rw [List.cons_append, readDistance?]
    simp only [digitValue?_digit small, Option.bind_eq_bind, Option.bind_some, if_neg goesOn]
    rw [ih]
    have parts : t + (n - t) % (36 - t) + (36 - t) * ((n - t) / (36 - t)) = n := by
      rw [Nat.add_assoc, Nat.mod_add_div]
      omega
    have spelt : before + (t + (n - t) % (36 - t)) * weight + (n - t) / (36 - t) * (weight * (36 - t)) =
        before + n * weight :=
      calc _ = before + (t + (n - t) % (36 - t) + (36 - t) * ((n - t) / (36 - t))) * weight := by ring
        _ = before + n * weight := by rw [parts]
    exact congrArg (fun sum => some (sum, rest)) spelt

theorem mem_writeDistance {bias position n : Nat} {c : Char} (member : c ∈ writeDistance bias position n) :
    ∃ d < 36, c = digit d := by
  fun_induction writeDistance bias position n with
  | case1 position n t last =>
    exact ⟨n, Nat.lt_trans last (threshold_lt bias position), List.mem_singleton.mp member⟩
  | case2 position n t more ih =>
    rcases List.mem_cons.mp member with here | later
    · have least : t < 36 := threshold_lt bias position
      have remainder : (n - t) % (36 - t) < 36 - t := Nat.mod_lt _ (by omega)
      exact ⟨_, by omega, here⟩
    · exact ih later

theorem writeDistance_ne_nil (bias position n : Nat) : writeDistance bias position n ≠ [] := by
  rw [writeDistance]
  split <;> exact List.cons_ne_nil _ _

/-- Where a reader is: behind the place where `code` was put last, with these code points so far. -/
structure Reader where
  code : Nat
  place : Nat
  bias : Nat
  codes : List Nat

namespace Reader

/-- What is read from there on. -/
def read? (r : Reader) (fuel : Nat) (cs : List Char) : Option (List Nat) :=
  decodeFrom? fuel cs r.code r.place r.bias r.codes

/-- The reader who has put a code point at a place, `n` steps on. -/
def put (r : Reader) (n code place : Nat) : Reader :=
  ⟨code, place + 1, adapt n (r.codes.length + 1) (r.place = 0), insertAt r.codes place code⟩

/-- That place is `n` steps on: there is one place more than there are code points, for each code point. -/
structure Leads (r : Reader) (n code place : Nat) : Prop where
  distance : n + r.place = (code - r.code) * (r.codes.length + 1) + place
  within : place ≤ r.codes.length
  ascends : r.code ≤ code
  isCode : code ≤ 0x10FFFF

theorem read?_writeDistance {r : Reader} {n code place : Nat} (leads : r.Leads n code place) (fuel : Nat)
    (rest : List Char) :
    r.read? (fuel + 1) (writeDistance r.bias 36 n ++ rest) = (r.put n code place).read? fuel rest := by
  obtain ⟨c, digits, written⟩ := List.exists_cons_of_ne_nil (writeDistance_ne_nil r.bias 36 n)
  have told := readDistance?_writeDistance r.bias 36 n 1 0 rest
  have inside : place < r.codes.length + 1 := Nat.lt_succ_of_le leads.within
  have sum : r.place + n = place + (r.codes.length + 1) * (code - r.code) := by
    rw [Nat.add_comm r.place, leads.distance, Nat.add_comm, Nat.mul_comm]
  have quotient : (r.place + n) / (r.codes.length + 1) = code - r.code := by
    rw [sum, Nat.add_mul_div_left _ _ (Nat.succ_pos _), Nat.div_eq_of_lt inside, Nat.zero_add]
  have remainder : (r.place + n) % (r.codes.length + 1) = place := by
    rw [sum, Nat.add_mul_mod_self_left, Nat.mod_eq_of_lt inside]
  have reached : r.code + (code - r.code) = code := Nat.add_sub_cancel' leads.ascends
  rw [written, List.cons_append] at told ⊢
  rw [read?, decodeFrom?, told]
  simp only [Option.bind_eq_bind, Option.bind_some, Nat.zero_add, Nat.mul_one, quotient, remainder, reached,
    if_neg (Nat.not_lt.mpr leads.isCode)]
  · rfl
  · exact List.cons_ne_nil _ _

/-- What a reader has read, one distance after the other, and where that has led. -/
inductive Reads (first : Reader) : List Char → Reader → Prop where
  | nothing : Reads first [] first
  | more {cs : List Char} {r : Reader} {n code place : Nat} : Reads first cs r → r.Leads n code place →
      Reads first (cs ++ writeDistance r.bias 36 n) (r.put n code place)

/-- Who has read so far reads on from there, if there is fuel for every character. -/
theorem Reads.read? {first r : Reader} {cs : List Char} (reads : first.Reads cs r) {fuel : Nat} {rest : List Char}
    (enough : (cs ++ rest).length ≤ fuel) :
    ∃ left, rest.length ≤ left ∧ first.read? fuel (cs ++ rest) = r.read? left rest := by
  induction reads generalizing rest with
  | nothing => exact ⟨fuel, enough, rfl⟩
  | @more cs r n code place _ leads ih =>
    rw [List.append_assoc] at enough ⊢
    obtain ⟨left, kept, same⟩ := ih enough
    have some := List.length_pos_iff.mpr (writeDistance_ne_nil r.bias 36 n)
    rw [List.length_append] at kept
    obtain ⟨left, rfl⟩ : ∃ fewer, left = fewer + 1 := ⟨left - 1, by omega⟩
    exact ⟨left, by omega, same.trans (read?_writeDistance leads left rest)⟩

theorem Reads.mem {first r : Reader} {cs : List Char} (reads : first.Reads cs r) {c : Char} (member : c ∈ cs) :
    ∃ d < 36, c = digit d := by
  induction reads with
  | nothing => contradiction
  | more _ _ ih => exact (List.mem_append.mp member).elim ih mem_writeDistance

end Reader

/-- The characters that have been placed: all below `code`, and of the part `done` those that are `code` too. -/
def placed (code : Nat) (done rest : List Char) : List Char :=
  done.filter (·.toNat ≤ code) ++ rest.filter (·.toNat < code)

/-- A reader who has read what is written so far has placed what the writer has placed, and the distance that the writer
holds is the one to the place that is reached. -/
structure Follows (basic : Nat) (front : List Char) (first : Reader) (code : Nat) (done rest : List Char) (p : Progress)
    (r : Reader) : Prop where
  reads : ∃ digits, p.text = front ++ digits ∧ first.Reads digits r
  codes : r.codes = (placed code done rest).map Char.toNat
  ascends : r.code ≤ code
  distance : p.delta + r.place = (code - r.code) * (r.codes.length + 1) + (done.filter (·.toNat ≤ code)).length
  handled : p.handled = r.codes.length
  bias : p.bias = r.bias
  atLeast : basic ≤ p.handled
  begins : r.place = 0 ↔ p.handled = basic

variable {basic code : Nat} {front done rest : List Char} {p : Progress} {first r : Reader}

theorem insertAt_placed {c : Char} (done rest : List Char) :
    insertAt ((placed c.toNat done (c :: rest)).map Char.toNat) (done.filter (·.toNat ≤ c.toNat)).length c.toNat =
      (placed c.toNat (done ++ [c]) rest).map Char.toNat := by
  simp [insertAt, placed]

theorem length_placed_le (done rest : List Char) :
    (done.filter (·.toNat ≤ code)).length ≤ ((placed code done rest).map Char.toNat).length := by
  simp [placed]

theorem toNat_le (c : Char) : c.toNat ≤ 0x10FFFF := by
  have valid := c.valid
  simp only [UInt32.isValidChar, Nat.isValidChar, Char.toNat_val] at valid
  omega

/-- One character of the label: it is placed already, or it is placed now, or its turn has not come. -/
theorem Follows.pass {c : Char} (follows : Follows basic front first code done (c :: rest) p r) :
    ∃ r', Follows basic front first code (done ++ [c]) rest (pass basic code p c) r' := by
  rw [Punycode.pass]
  split
  · next below =>
    have known : placed code (done ++ [c]) rest = placed code done (c :: rest) := by
      simp [placed, below, Nat.le_of_lt below]
    refine ⟨r, { follows with codes := known ▸ follows.codes, distance := ?_ }⟩
    have distance := follows.distance
    simp only [List.filter_append, List.length_append, List.filter_cons, Nat.le_of_lt below, decide_true, if_true,
      List.filter_nil, List.length_singleton]
    omega
  · split
    · next same =>
      subst same
      have leads : r.Leads p.delta c.toNat (done.filter (·.toNat ≤ c.toNat)).length :=
        ⟨follows.distance, follows.codes ▸ length_placed_le done _, follows.ascends, toNat_le c⟩
      obtain ⟨digits, written, reads⟩ := follows.reads
      have atLeast := follows.atLeast
      have grown : (r.put p.delta c.toNat (done.filter (·.toNat ≤ c.toNat)).length).codes =
          (placed c.toNat (done ++ [c]) rest).map Char.toNat := by
        rw [Reader.put, follows.codes, insertAt_placed]
      refine ⟨r.put p.delta c.toNat (done.filter (·.toNat ≤ c.toNat)).length, ?_⟩
      constructor
      case reads => exact ⟨_, by rw [written, follows.bias, List.append_assoc], reads.more leads⟩
      case codes => exact grown
      case ascends => exact Nat.le_refl _
      case distance => simp [Reader.put]
      case handled =>
        rw [grown, follows.handled, follows.codes]
        simp [placed]
        omega
      case bias =>
        have begins : decide (p.handled = basic) = decide (r.place = 0) := decide_eq_decide.mpr follows.begins.symm
        rw [Reader.put, begins, follows.handled]
      case atLeast => exact Nat.le_succ_of_le atLeast
      case begins =>
        simp only [Reader.put]
        omega
    · next other =>
      have above : ¬ c.toNat ≤ code := by omega
      have known : placed code (done ++ [c]) rest = placed code done (c :: rest) := by
        simp [placed, above, show ¬ c.toNat < code by omega]
      refine ⟨r, { follows with codes := known ▸ follows.codes, distance := ?_ }⟩
      simpa [List.filter_append, above] using follows.distance

/-- Once over the label. -/
theorem Follows.foldl_pass (follows : Follows basic front first code done rest p r) :
    ∃ r', Follows basic front first code (done ++ rest) [] (rest.foldl (Punycode.pass basic code) p) r' := by
  induction rest generalizing done p r with
  | nil => exact ⟨r, by simpa using follows⟩
  | cons c rest ih =>
    obtain ⟨_, passed⟩ := follows.pass
    obtain ⟨r', all⟩ := ih passed
    exact ⟨r', by simpa using all⟩

variable {label : List Char}

/-- Behind the last character there is one place more, and then comes the next code point. -/
theorem Follows.wrap (follows : Follows basic front first code label [] p r) :
    Follows basic front first (code + 1) [] label { p with delta := p.delta + 1 } r := by
  have known : placed (code + 1) [] label = placed code label [] := by
    simp only [placed, List.filter_nil, List.append_nil, List.nil_append, Nat.lt_succ_iff]
  have count : (label.filter (·.toNat ≤ code)).length = r.codes.length := by
    rw [follows.codes]
    simp [placed]
  have ascends := follows.ascends
  refine { follows with codes := known ▸ follows.codes, ascends := Nat.le_succ_of_le ascends, distance := ?_ }
  have distance := follows.distance
  rw [count] at distance
  rw [Nat.succ_sub ascends, Nat.succ_mul]
  simp only [List.filter_nil, List.length_nil]
  omega

/-- Code points that the label does not have are skipped, with all their places. -/
theorem Follows.skip {next : Nat} (follows : Follows basic front first code [] label p r) (later : code ≤ next)
    (absent : ∀ c ∈ label, c.toNat < code ∨ next ≤ c.toNat) :
    Follows basic front first next [] label { p with delta := p.delta + (next - code) * (p.handled + 1) } r := by
  have known : placed next [] label = placed code [] label := by
    simp only [placed, List.filter_nil, List.nil_append]
    refine List.filter_congr fun c member => decide_eq_decide.mpr ?_
    have := absent c member
    omega
  have ascends := follows.ascends
  refine { follows with codes := known ▸ follows.codes, ascends := Nat.le_trans ascends later, distance := ?_ }
  have distance := follows.distance
  have steps : next - r.code = next - code + (code - r.code) := by omega
  rw [steps, Nat.add_mul, follows.handled]
  simp only [List.filter_nil, List.length_nil] at distance ⊢
  omega

/-- Who has read all that is written has placed the whole label. -/
theorem Follows.encodeFrom {codes : List Nat} (follows : Follows basic front first code [] label p r)
    (ascending : codes.Pairwise (· < ·)) (later : ∀ next ∈ codes, code ≤ next)
    (told : ∀ c ∈ label, c.toNat < code ∨ c.toNat ∈ codes) :
    ∃ digits r', encodeFrom label basic codes code p = front ++ digits ∧ first.Reads digits r' ∧
      r'.codes = label.map Char.toNat := by
  induction codes generalizing code p r with
  | nil =>
    obtain ⟨digits, written, reads⟩ := follows.reads
    refine ⟨digits, r, written, reads, ?_⟩
    have below : label.filter (·.toNat < code) = label :=
      List.filter_eq_self.mpr fun c member => decide_eq_true ((told c member).resolve_right List.not_mem_nil)
    rw [follows.codes, placed, List.filter_nil, List.nil_append, below]
  | cons next codes ih =>
    have above : ∀ other ∈ codes, next + 1 ≤ other := fun _ => List.rel_of_pairwise_cons ascending
    have absent : ∀ c ∈ label, c.toNat < code ∨ next ≤ c.toNat := by
      intro c member
      rcases told c member with below | held
      · exact .inl below
      · rcases List.mem_cons.mp held with same | held
        · exact .inr (Nat.le_of_eq same.symm)
        · exact .inr (Nat.le_of_succ_le (above _ held))
    obtain ⟨r', passed⟩ := (follows.skip (later next List.mem_cons_self) absent).foldl_pass
    refine ih passed.wrap ascending.of_cons above fun c member => ?_
    have reached := later next List.mem_cons_self
    rcases told c member with below | held
    · exact .inl (by omega)
    · rcases List.mem_cons.mp held with same | held
      · exact .inl (by omega)
      · exact .inr held

/-- What stands in front: the ASCII characters, and a mark behind them if there are any. -/
def opening (label : List Char) : List Char :=
  if label.filter isAscii = [] then [] else label.filter isAscii ++ ['-']

/-- The reader who has not read a distance yet. -/
def Reader.start (label : List Char) : Reader :=
  ⟨128, 0, 72, (label.filter isAscii).map Char.toNat⟩

theorem exists_reads_encode (label : List Char) :
    ∃ digits r, encode label = opening label ++ digits ∧ (Reader.start label).Reads digits r ∧
      r.codes = label.map Char.toNat := by
  have follows : Follows (label.filter isAscii).length (opening label) (.start label) 128 [] label
      ⟨opening label, 0, 72, (label.filter isAscii).length⟩ (.start label) := by
    constructor
    case reads => exact ⟨[], (List.append_nil _).symm, .nothing⟩
    case codes => rfl
    all_goals simp [Reader.start]
  have mem_codes : ∀ n, n ∈ ((label.filter fun c => !isAscii c).map Char.toNat).mergeSort.eraseReps ↔
      ∃ c ∈ label, isAscii c = false ∧ c.toNat = n := by
    intro n
    rw [mem_eraseReps, List.mem_mergeSort]
    simp [and_assoc]
  have sorted : ((label.filter fun c => !isAscii c).map Char.toNat).mergeSort.Pairwise (· ≤ ·) :=
    (List.pairwise_mergeSort (by simpa using fun _ _ _ => Nat.le_trans) (by simpa using Nat.le_total) _).imp
      of_decide_eq_true
  refine follows.encodeFrom (pairwise_eraseReps sorted) ?_ ?_
  · intro n held
    obtain ⟨c, _, foreign, rfl⟩ := (mem_codes n).mp held
    simpa [isAscii] using foreign
  · intro c member
    cases ascii : isAscii c with
    | true => exact .inl (by simpa [isAscii] using ascii)
    | false => exact .inr ((mem_codes _).mpr ⟨c, member, ascii, rfl⟩)

theorem isAscii_digit {n : Nat} (small : n < 36) : isAscii (digit n) = true ∧ digit n ≠ '-' := by
  have all : ∀ n < 36, isAscii (digit n) = true ∧ digit n ≠ '-' := by decide
  exact all n small

theorem mem_opening {c : Char} (member : c ∈ opening label) : c ∈ label ∧ isAscii c = true ∨ c = '-' := by
  rw [opening] at member
  split at member
  · contradiction
  · simpa using member

/-- Punycode is made of the label's own ASCII characters, marks and digits. -/
theorem mem_encode {c : Char} (member : c ∈ encode label) :
    c ∈ label ∧ isAscii c = true ∨ c = '-' ∨ ∃ n < 36, c = digit n := by
  obtain ⟨digits, r, written, reads, _⟩ := exists_reads_encode label
  rw [written] at member
  rcases List.mem_append.mp member with here | later
  · exact (mem_opening here).imp_right .inl
  · exact .inr (.inr (reads.mem later))

theorem mem_encode_of_isAscii {c : Char} (member : c ∈ label) (ascii : isAscii c = true) : c ∈ encode label := by
  obtain ⟨digits, r, written, _⟩ := exists_reads_encode label
  have held : c ∈ label.filter isAscii := List.mem_filter.mpr ⟨member, ascii⟩
  rw [written, opening, if_neg (List.ne_nil_of_mem held)]
  exact List.mem_append_left _ (List.mem_append_left _ held)

/-- A label comes back from its punycode. -/
theorem decode?_encode (label : List Char) : decode? (encode label) = some (label.map Char.toNat) := by
  have ascii : (encode label).all isAscii = true := by
    rw [List.all_eq_true]
    intro c member
    rcases mem_encode member with ⟨_, ascii⟩ | rfl | ⟨n, small, rfl⟩
    · exact ascii
    · rfl
    · exact (isAscii_digit small).1
  obtain ⟨digits, r, written, reads, codes⟩ := exists_reads_encode label
  have unmarked : ∀ c ∈ digits.reverse, decide (c ≠ '-') = true := by
    intro c member
    obtain ⟨n, small, rfl⟩ := reads.mem (List.mem_reverse.mp member)
    exact decide_eq_true (isAscii_digit small).2
  have stops : Stops (fun c => decide (c ≠ '-')) (opening label).reverse := by
    rw [opening]
    split <;> simp
  have tail : ((encode label).reverse.takeWhile (· ≠ '-')).reverse = digits := by
    rw [written, List.reverse_append, takeWhile_append_of_stops unmarked stops, List.reverse_reverse]
  have basic : (encode label).take ((encode label).length - digits.length - 1) = label.filter isAscii := by
    rw [written, opening]
    split
    · next none => simp [none]
    · rw [List.append_assoc, List.take_left' (by simp only [List.length_append, List.length_singleton]; omega)]
  have enough : (digits ++ []).length ≤ digits.length + 1 := by simp
  obtain ⟨left, _, same⟩ := reads.read? enough
  rw [List.append_nil] at same
  rw [decode?, ascii]
  simp only [tail, basic, Bool.not_true, Bool.false_eq_true, if_false]
  refine same.trans ?_
  rw [Reader.read?, decodeFrom?, codes]

end Punycode
end CpuUsage
