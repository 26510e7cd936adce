import CpuUsage.Proofs.Hint
import CpuUsage.Proofs.Text.Blank

/-! The authorization of requests. However a token is written, the header for it is one scheme, a blank and what is left
of the token; and every request that a command makes, pagination links included, carries that header. -/
namespace CpuUsage

def bearer : List Char :=
  ['b', 'e', 'a', 'r', 'e', 'r']

/-- Begins with the scheme, in any case, and a blank. -/
def HasScheme (cs : List Char) : Prop :=
  ∃ scheme rest, cs = scheme ++ ' ' :: rest ∧ scheme.map asciiLower = bearer

theorem blank_not_mem_scheme {scheme : List Char} (isBearer : scheme.map asciiLower = bearer) : ' ' ∉ scheme := by
  intro member
  have lower : asciiLower ' ' ∈ bearer := isBearer ▸ List.mem_map_of_mem member
  exact absurd lower (by decide)

theorem takeWhile_of_scheme {scheme rest : List Char} (isBearer : scheme.map asciiLower = bearer) :
    (scheme ++ ' ' :: rest).takeWhile (fun c => decide (c ≠ ' ')) = scheme := by
  apply takeWhile_append_of_stops
  · intro c member
    have other : c ≠ ' ' := fun same => blank_not_mem_scheme isBearer (same ▸ member)
    exact decide_eq_true other
  · exact stops_cons.mpr (by decide)

theorem hasScheme_iff (cs : List Char) :
    HasScheme cs ↔ (cs.takeWhile (· ≠ ' ')).length < cs.length ∧
      String.ofList ((cs.takeWhile (· ≠ ' ')).map asciiLower) = "bearer" := by
  constructor
  · rintro ⟨scheme, rest, rfl, isBearer⟩
    rw [takeWhile_of_scheme isBearer, isBearer]
    exact ⟨by simp, rfl⟩
  · rintro ⟨shorter, isBearer⟩
    have split := List.takeWhile_append_dropWhile (p := fun c => decide (c ≠ ' ')) (l := cs)
    cases behind : cs.dropWhile (fun c => decide (c ≠ ' ')) with
    | nil =>
      rw [behind, List.append_nil] at split
      rw [split] at shorter
      exact absurd shorter (Nat.lt_irrefl _)
    | cons c rest =>
      have stopped := List.head?_dropWhile_not (fun c => decide (c ≠ ' ')) cs
      rw [behind] at stopped split
      have isBlank : c = ' ' := by simpa using stopped
      refine ⟨_, rest, isBlank ▸ split.symm, ?_⟩
      simpa [bearer] using congrArg String.toList isBearer

theorem toList_bearerHeader_of_scheme {token : String} (hasScheme : HasScheme (trimBlanks token.toList)) :
    (bearerHeader token).toList = trimBlanks token.toList := by
  rw [bearerHeader, if_pos ((hasScheme_iff _).mp hasScheme), String.toList_ofList]

theorem toList_bearerHeader_of_bare {token : String} (bare : ¬ HasScheme (trimBlanks token.toList)) :
    (bearerHeader token).toList = bearer ++ ' ' :: trimBlanks token.toList := by
  rw [bearerHeader, if_neg (mt (hasScheme_iff _).mpr bare)]
  simp only [String.toList_append, String.toList_ofList]
  rfl

/-- A scheme, a blank and what follows them, without blanks around. -/
structure IsBearer (header : List Char) : Prop where
  parts : ∃ scheme rest, header = scheme ++ ' ' :: rest ∧ scheme.map asciiLower = bearer ∧ rest ≠ []
  trimmed : Trimmed header

/-- What is without blanks at its end does not end with the blank behind the scheme. -/
theorem isBearer_of_scheme {header : List Char} (hasScheme : HasScheme header) (trimmed : Trimmed header) :
    IsBearer header := by
  obtain ⟨scheme, rest, rfl, isBearer⟩ := hasScheme
  refine ⟨⟨scheme, rest, rfl, isBearer, ?_⟩, trimmed⟩
  rintro rfl
  have last := trimmed.last
  rw [List.reverse_append] at last
  exact absurd (stops_cons.mp last) (by decide)

theorem isBearer_bearer {cs : List Char} (trimmed : Trimmed cs) (some : cs ≠ []) : IsBearer (bearer ++ ' ' :: cs) := by
  refine ⟨⟨bearer, cs, rfl, by decide, some⟩, stops_cons.mpr (by decide), ?_⟩
  obtain ⟨last, isLast⟩ := Option.isSome_iff_exists.mp (List.getLast?_isSome.mpr some)
  have same : (bearer ++ ' ' :: cs).reverse.head? = cs.reverse.head? := by
    simp [List.head?_reverse, isLast]
  rw [Stops, same]
  exact trimmed.last

theorem isBearer_bearerHeader {token : String} (given : trimBlanks token.toList ≠ []) :
    IsBearer (bearerHeader token).toList := by
  have trimmed := trimmed_trimBlanks token.toList
  by_cases hasScheme : HasScheme (trimBlanks token.toList)
  · rw [toList_bearerHeader_of_scheme hasScheme]
    exact isBearer_of_scheme hasScheme trimmed
  · rw [toList_bearerHeader_of_bare hasScheme]
    exact isBearer_bearer trimmed given

/-- A header of that form is its own header. -/
theorem IsBearer.bearerHeader_eq {header : String} (isBearer : IsBearer header.toList) :
    bearerHeader header = header := by
  obtain ⟨scheme, rest, split, same, _⟩ := isBearer.parts
  have whole := isBearer.trimmed.trimBlanks_eq
  apply String.toList_injective
  rw [toList_bearerHeader_of_scheme (whole.symm ▸ ⟨scheme, rest, split, same⟩), whole]

/-- However a token is written, there is one header for it. -/
structure OneHeader (token : String) : Prop where
  isBearer : IsBearer (bearerHeader token).toList
  idempotent : bearerHeader (bearerHeader token) = bearerHeader token
  prefixed : Trimmed token.toList → ¬ HasScheme token.toList →
    bearerHeader ("bearer " ++ token) = bearerHeader token
  surrounded : ∀ before after : String, AreBlanks before.toList → AreBlanks after.toList →
    bearerHeader (before ++ token ++ after) = bearerHeader token

theorem oneHeader_of_given {token : String} (given : trimBlanks token.toList ≠ []) : OneHeader token where
  isBearer := isBearer_bearerHeader given
  idempotent := (isBearer_bearerHeader given).bearerHeader_eq
  prefixed := by
    intro trimmed bare
    have whole := trimmed.trimBlanks_eq
    have written : ("bearer " ++ token).toList = (bearerHeader token).toList := by
      rw [toList_bearerHeader_of_bare (whole.symm ▸ bare), whole, String.toList_append]
      rfl
    rw [String.toList_injective written]
    exact (isBearer_bearerHeader given).bearerHeader_eq
  surrounded := by
    intro before after blanks blanks'
    have same : trimBlanks (before ++ token ++ after).toList = trimBlanks token.toList := by
      rw [String.toList_append, String.toList_append]
      exact trimBlanks_surrounded blanks blanks' token.toList
    rw [bearerHeader, same, ← bearerHeader]

namespace Url

def hasCredentials (u : Url) : Bool :=
  u.authority.any (·.hasCredentials)

theorem authorization_of_bare {u : Url} (bare : u.hasCredentials = false) : u.authorization = [] := by
  rw [authorization]
  cases held : u.authority with
  | none => rfl
  | some a =>
    obtain ⟨username, password, host, port⟩ := a
    rw [hasCredentials, held, Option.any_some, Authority.hasCredentials] at bare
    simp only [Bool.or_eq_false_iff, decide_eq_false_iff_not, Decidable.not_not] at bare
    obtain ⟨rfl, rfl⟩ := bare
    rfl

end Url

theorem Settings.given_of_token {s : Settings} {token : String} (accepted : s.token = .ok token) :
    trimBlanks token.toList ≠ [] := by
  rw [Settings.token] at accepted
  cases held : s.accessToken.filter (fun t => !t.toList.all isBlank) with
  | none =>
    rw [held] at accepted
    cases accepted
  | some t =>
    rw [held] at accepted
    cases accepted
    obtain ⟨_, given⟩ := Option.filter_eq_some_iff.mp held
    intro none
    simp [List.all_eq_true.mpr (trimBlanks_eq_nil_iff.mp none)] at given

/-- Both interfaces are read with the user's token. -/
theorem Platform.permits_of_ofSettings {s : Settings} {token : String} {p : Platform} (accepted : s.token = .ok token)
    (connected : Platform.ofSettings s = .ok p) : p.Permits (Request.Bears (bearerHeader token)) := by
  obtain ⟨token', accepted', connected⟩ := ok_of_bind connected
  obtain ⟨metrics, _, connected⟩ := ok_of_bind connected
  obtain ⟨api, _, connected⟩ := ok_of_bind connected
  obtain ⟨org, _, connected⟩ := ok_of_bind connected
  cases accepted.symm.trans accepted'
  cases connected
  exact ⟨fun u => (Api.new metrics token).bears_request u, fun u => (Api.new api token).bears_request u⟩

theorem Command.ofSettings_of_check {s : Settings} {now : Instant} {c : Command} {p : Platform}
    (passed : c.check s now = .ok p) : Platform.ofSettings s = .ok p := by
  cases c with
  | fleet => exact passed
  | application name =>
    obtain ⟨_, _, passed⟩ := ok_of_bind passed
    obtain ⟨_, _, passed⟩ := ok_of_bind passed
    exact passed

theorem Command.bears_of_sent {s : Settings} {token : String} (accepted : s.token = .ok token) (now : Instant)
    (format : OutputFormat) (coloured : Bool) (c : Command) (replies : List Reply) :
    ∀ r ∈ ((c.show s now format coloured).run (.new replies)).2.sent, r.Bears (bearerHeader token) := by
  cases passed : c.check s now with
  | error e =>
    rw [show_of_check_error passed]
    simp [Wire.new]
  | ok p =>
    have permits := Platform.permits_of_ofSettings accepted (ofSettings_of_check passed)
    exact Wire.Steps.allowed_of_mem ((show_within passed permits format coloured).steps _)

/-- A token that is accepted has one header, however it is written, and with it goes every request that is made. -/
theorem requests_authorized {s : Settings} {token : String} (accepted : s.token = .ok token) :
    OneHeader token ∧
    ∀ (now : Instant) (format : OutputFormat) (coloured : Bool) (c : Command) (replies : List Reply),
      ∀ r ∈ ((c.show s now format coloured).run (.new replies)).2.sent,
        r.authorization = r.url.authorization ++ [bearerHeader token] ∧
        (r.url.hasCredentials = false → r.authorization = [bearerHeader token]) := by
  refine ⟨oneHeader_of_given (Settings.given_of_token accepted), ?_⟩
  intro now format coloured c replies r sent
  have bears := Command.bears_of_sent accepted now format coloured c replies r sent
  refine ⟨bears, fun bare => ?_⟩
  rw [bears, Url.authorization_of_bare bare, List.nil_append]

/-! A token with its scheme, with blanks around it and within, and a listing that goes on at another place. -/
namespace SpacedToken

def settings : Settings :=
  { Settings.default with
    apiUrl := some "https://api.example.org", accessToken := some "\tBeaRer  a b \n", org := some "org" }

def firstPage : String :=
  "\x7b\"pagination\":\x7b\"next\":\x7b\"href\":\"https://other.example.org/more\"\x7d\x7d\x7d"

def sent : List Request :=
  ((Command.fleet.show settings .epoch .table false).run (.new [.answered 200 firstPage true])).2.sent

end SpacedToken

theorem requests_authorized_spaced :
    SpacedToken.settings.token = .ok "\tBeaRer  a b \n" ∧ OneHeader "\tBeaRer  a b \n" ∧
    SpacedToken.sent.map (·.url.text) =
      ["https://api.example.org/v3/organizations?names=org", "https://other.example.org/more"] ∧
    ∀ r ∈ SpacedToken.sent, r.authorization = ["BeaRer  a b"] := by
  have accepted : SpacedToken.settings.token = .ok "\tBeaRer  a b \n" := rfl
  have header : bearerHeader "\tBeaRer  a b \n" = "BeaRer  a b" := by decide +kernel
  have bare : ∀ r ∈ SpacedToken.sent, r.url.hasCredentials = false := by decide +kernel
  obtain ⟨oneHeader, authorized⟩ := requests_authorized accepted
  refine ⟨accepted, oneHeader, by decide +kernel, fun r made => ?_⟩
  rw [(authorized .epoch .table false .fleet _ r made).2 (bare r made), header]

end CpuUsage
