import CpuUsage.Proofs.Url.Host
import CpuUsage.Url.Metrics

/-! The address of the metrics store, told by the address of the API: the first label of the host is replaced and the path
left out, and doing so again changes nothing. -/
namespace CpuUsage

/-- The label that the metrics store goes by. -/
def storeLabel : List Char :=
  ['l', 'o', 'g', '-', 'c', 'a', 'c', 'h', 'e']

theorem dot_not_mem_storeLabel : '.' ∉ storeLabel := by
  decide

namespace Domain

theorem isKept_storeLabel : ∀ c ∈ storeLabel, IsKept c ∧ c ≠ '.' := by
  have all : storeLabel.all isLabelChar = true := by decide
  exact fun c member => isKept_of_isLabelChar (List.all_eq_true.mp all c member)

theorem labelToAscii?_storeLabel : labelToAscii? storeLabel = some storeLabel := by
  rfl

end Domain

namespace Host
open Domain

theorem parentDomain?_eq_some_iff {text domain : List Char} :
    Url.parentDomain? text = some domain ↔ domain ≠ [] ∧ ∃ label, '.' ∉ label ∧ text = label ++ '.' :: domain := by
  constructor
  · intro told
    by_cases dot : '.' ∈ text
    · obtain ⟨label, rest, rfl, noDot⟩ := List.eq_append_cons_of_mem dot
      rw [Url.parentDomain?, splitFirst_append_cons noDot] at told
      cases rest with
      | nil => cases told
      | cons c rest =>
        cases told
        exact ⟨List.cons_ne_nil c rest, label, noDot, rfl⟩
    · rw [Url.parentDomain?, splitFirst_of_not_mem dot] at told
      cases told
  · rintro ⟨nonempty, label, noDot, rfl⟩
    obtain ⟨c, rest, rfl⟩ := List.exists_cons_of_ne_nil nonempty
    rw [Url.parentDomain?, splitFirst_append_cons noDot]

/-- Beside a host that is a name there is the metrics store. -/
theorem parseDomain_store_of_name {label domain : List Char} (web : IsWeb (.name (label ++ '.' :: domain)))
    (nonempty : domain ≠ []) (noDot : '.' ∉ label) :
    parseDomain (storeLabel ++ '.' :: domain) = .ok (.name (storeLabel ++ '.' :: domain)) := by
  cases web with
  | name isDomain _ unclaimed =>
    refine parseDomain_of_unclaimed ?_ (by simp) ?_
    · exact isDomain.replaceLabel noDot isKept_storeLabel labelToAscii?_storeLabel
    · rw [Ipv4.isClaimed_replaceLabel nonempty noDot dot_not_mem_storeLabel, unclaimed]

theorem isKept_of_mem_toDigits {n : Nat} {c : Char} (member : c ∈ Nat.toDigits 10 n) : IsKept c ∧ c ≠ '.' := by
  have all : ∀ n < 10, isLabelChar (Char.ofNat (48 + n)) = true := by decide
  have range := toNat_of_isDigit (isDigit_of_mem_toDigits member)
  have inLabel := all (c.toNat - 48) (by omega)
  rw [Nat.add_sub_cancel' range.1, Char.ofNat_toNat] at inLabel
  exact isKept_of_isLabelChar inLabel

theorem labelToAscii?_toDigits (n : Nat) : labelToAscii? (Nat.toDigits 10 n) = some (Nat.toDigits 10 n) := by
  have unmarked : ¬ punycodeMark.isPrefixOf (Nat.toDigits 10 n) = true := by
    intro marked
    have first : 'x' ∈ Nat.toDigits 10 n := (List.isPrefixOf_iff_prefix.mp marked).subset List.mem_cons_self
    exact absurd (isDigit_of_mem_toDigits first) (by decide)
  have ascii : (Nat.toDigits 10 n).all Punycode.isAscii = true :=
    List.all_eq_true.mpr fun c member => (isKept_of_mem_toDigits member).1.ascii
  rw [labelToAscii?, if_neg unmarked, if_pos ascii]

/-- Beside an address there is no metrics store: the name of the store is no byte of an address. -/
theorem parseDomain_store_of_bytes (a b c : Nat) :
    parseDomain (storeLabel ++ '.' :: ['.'].intercalate [Nat.toDigits 10 a, Nat.toDigits 10 b, Nat.toDigits 10 c]) =
      .error .invalidIpv4 := by
  have joined : storeLabel ++ '.' :: ['.'].intercalate [Nat.toDigits 10 a, Nat.toDigits 10 b, Nat.toDigits 10 c] =
      ['.'].intercalate [storeLabel, Nat.toDigits 10 a, Nat.toDigits 10 b, Nat.toDigits 10 c] := by
    rw [List.intercalate_cons_cons (l := storeLabel), List.append_assoc, List.singleton_append]
  have kept : ∀ label ∈ [storeLabel, Nat.toDigits 10 a, Nat.toDigits 10 b, Nat.toDigits 10 c],
      ∀ d ∈ label, IsKept d ∧ d ≠ '.' := by
    simp only [List.mem_cons, List.not_mem_nil, or_false]
    rintro label (rfl | rfl | rfl | rfl) d member
    · exact isKept_storeLabel d member
    all_goals exact isKept_of_mem_toDigits member
  have parts : Ipv4.parts (['.'].intercalate [storeLabel, Nat.toDigits 10 a, Nat.toDigits 10 b, Nat.toDigits 10 c]) =
      [storeLabel, Nat.toDigits 10 a, Nat.toDigits 10 b, Nat.toDigits 10 c] := by
    have apart := fun label held d member => decide_eq_false (kept label held d member).2
    rw [Ipv4.parts, splitParts_intercalate rfl (List.cons_ne_nil _ _) apart]
    simp [Nat.toDigits_ne_nil]
  rw [joined]
  refine parseDomain_of_claimed (isDomain_intercalate (List.cons_ne_nil _ _) kept ?_) (by simp [storeLabel]) ?_ ?_
  · simp [labelToAscii?_storeLabel, labelToAscii?_toDigits]
  · have digits : (Nat.toDigits 10 c).all isDigit = true :=
      List.all_eq_true.mpr fun _ => isDigit_of_mem_toDigits
    rw [Ipv4.isClaimed, parts]
    simp [Nat.toDigits_ne_nil, digits]
  · have unread : Ipv4.readPart? storeLabel = none := by decide
    rw [Ipv4.read?, parts]
    simp [unread]

theorem parentDomain?_ipv4 (address : Nat) : ∃ a b c, Url.parentDomain? (Host.ipv4 address).text =
    some (['.'].intercalate [Nat.toDigits 10 a, Nat.toDigits 10 b, Nat.toDigits 10 c]) := by
  refine ⟨address / Nat.pow 256 2 % 256, address / Nat.pow 256 1 % 256, address / Nat.pow 256 0 % 256, ?_⟩
  refine parentDomain?_eq_some_iff.mpr ⟨by simp, Nat.toDigits 10 (address / Nat.pow 256 3 % 256), ?_, ?_⟩
  · exact fun member => (isKept_of_mem_toDigits member).2 rfl
  · simp [text, Ipv4.write]

theorem dot_not_mem_toDigits_sixteen (n : Nat) : '.' ∉ Nat.toDigits 16 n := by
  induction n using Nat.strongRecOn with
  | ind n ih =>
    rw [Nat.toDigits_eq_if (by decide)]
    split
    · simp
    · simpa using ih (n / 16) (by omega)

/-- The text of an address of colons has no dot in it. -/
theorem parentDomain?_ipv6 (pieces : List Nat) : Url.parentDomain? (Host.ipv6 pieces).text = none := by
  have noDot : ∀ pieces : List Nat, '.' ∉ Ipv6.writePieces pieces := by
    intro pieces member
    rcases eq_or_mem_of_mem_intercalate member with same | ⟨piece, held, member⟩
    · contradiction
    · obtain ⟨n, _, rfl⟩ := List.mem_map.mp held
      exact dot_not_mem_toDigits_sixteen n member
  have plain : '.' ∉ (Host.ipv6 pieces).text := by
    simp only [text, Ipv6.write]
    split <;> simp [noDot]
  rw [Url.parentDomain?, splitFirst_of_not_mem plain]

/-- The host is a name that goes on with this domain behind its first dot. -/
structure IsUnder (host : Host) (domain : List Char) : Prop where
  nonempty : domain ≠ []
  isName : ∃ label, '.' ∉ label ∧ host = .name (label ++ '.' :: domain)

/-- A metrics store is told beside names that go on behind their first dot, and beside nothing else. -/
theorem store_eq_some_iff {host store : Host} (web : host.IsWeb) :
    ((Url.parentDomain? host.text).bind fun domain => (parseDomain (storeLabel ++ '.' :: domain)).toOption) =
        some store ↔
      ∃ domain, host.IsUnder domain ∧ store = .name (storeLabel ++ '.' :: domain) := by
  constructor
  · intro told
    obtain ⟨domain, parent, read⟩ := Option.bind_eq_some_iff.mp told
    cases host with
    | name name =>
      obtain ⟨nonempty, label, noDot, rfl⟩ := parentDomain?_eq_some_iff.mp parent
      rw [parseDomain_store_of_name web nonempty noDot] at read
      cases read
      exact ⟨domain, ⟨nonempty, label, noDot, rfl⟩, rfl⟩
    | ipv4 address =>
      obtain ⟨a, b, c, spelt⟩ := parentDomain?_ipv4 address
      cases spelt.symm.trans parent
      rw [parseDomain_store_of_bytes] at read
      cases read
    | ipv6 pieces =>
      rw [parentDomain?_ipv6] at parent
      cases parent
  · rintro ⟨domain, ⟨nonempty, label, noDot, rfl⟩, rfl⟩
    have parent : Url.parentDomain? (Host.name (label ++ '.' :: domain)).text = some domain :=
      parentDomain?_eq_some_iff.mpr ⟨nonempty, label, noDot, rfl⟩
    rw [parent, Option.bind_some, parseDomain_store_of_name web nonempty noDot]
    rfl

end Host

namespace Url

/-- The address of the metrics store in this domain. -/
def storeUrl (api : Url) (a : Authority) (domain : List Char) : Url :=
  { api with
    authority := some { a with host := .name (storeLabel ++ '.' :: domain) }
    path := .segments [[]]
    query := none }

theorem metricsUrl?_eq_some_iff {api : Url} {a : Authority} {store : Url} (http : api.isHttp = true)
    (held : api.authority = some a) (web : a.host.IsWeb) :
    metricsUrl? api = some store ↔ ∃ domain, a.host.IsUnder domain ∧ store = api.storeUrl a domain := by
  obtain ⟨special, _⟩ := isSpecialScheme_of_isHttp http
  have told : metricsUrl? api = ((parentDomain? a.host.text).bind fun domain =>
      (Host.parseDomain (storeLabel ++ '.' :: domain)).toOption).map fun host =>
        { api with authority := some { a with host }, path := .segments [[]], query := none } := by
    simp only [metricsUrl?, withHost?, withoutPath, held, isSpecial, special, if_true, Option.bind_eq_bind,
      Option.bind_some, Option.pure_def]
    cases parentDomain? a.host.text with
    | none => rfl
    | some domain =>
      have spelt : "log-cache.".toList ++ domain = storeLabel ++ '.' :: domain := rfl
      rw [Option.bind_some, Option.bind_some, spelt]
      cases Host.parseDomain (storeLabel ++ '.' :: domain) <;> simp [Except.toOption, special]
  rw [told, Option.map_eq_some_iff]
  constructor
  · rintro ⟨host, beside, rfl⟩
    obtain ⟨domain, under, rfl⟩ := (Host.store_eq_some_iff web).mp beside
    exact ⟨domain, under, rfl⟩
  · rintro ⟨domain, under, rfl⟩
    exact ⟨_, (Host.store_eq_some_iff web).mpr ⟨domain, under, rfl⟩, rfl⟩

theorem deriveMetricsUrl_eq_ok_iff {api store : Url} :
    api.deriveMetricsUrl = .ok store ↔ metricsUrl? api = some store := by
  rw [deriveMetricsUrl]
  cases metricsUrl? api <;> simp

/-- Where the metrics store is told to be, for the address of an API with this authority. -/
structure HasStore (api : Url) (a : Authority) : Prop where
  derivable : (∃ store, api.deriveMetricsUrl = .ok store) ↔ ∃ domain, a.host.IsUnder domain
  underivable : (¬ ∃ store, api.deriveMetricsUrl = .ok store) →
    api.deriveMetricsUrl = .error (.settings (.underivableMetricsUrl api.text))
  /-- Credentials and port are kept with the rest of the authority. -/
  replaced : ∀ store, api.deriveMetricsUrl = .ok store → ∃ domain, a.host.IsUnder domain ∧
    store.scheme = api.scheme ∧ store.authority = some { a with host := .name ("log-cache.".toList ++ domain) } ∧
    store.path.text = ['/'] ∧ store.query = none ∧ store.fragment = api.fragment
  settled : ∀ store, api.deriveMetricsUrl = .ok store → store.deriveMetricsUrl = .ok store

/-- The metrics store in a domain is its own metrics store. -/
theorem deriveMetricsUrl_storeUrl {api : Url} {a : Authority} {domain : List Char} (http : api.isHttp = true)
    (web : a.host.IsWeb) (under : a.host.IsUnder domain) :
    (api.storeUrl a domain).deriveMetricsUrl = .ok (api.storeUrl a domain) := by
  obtain ⟨nonempty, label, noDot, isName⟩ := under
  rw [isName] at web
  have storeHttp : (api.storeUrl a domain).isHttp = true := http
  have storeWeb : (Host.name (storeLabel ++ '.' :: domain)).IsWeb :=
    Host.isWeb_of_parseDomain (Host.parseDomain_store_of_name web nonempty noDot)
  have storeUnder : (Host.name (storeLabel ++ '.' :: domain)).IsUnder domain :=
    ⟨nonempty, storeLabel, dot_not_mem_storeLabel, rfl⟩
  exact deriveMetricsUrl_eq_ok_iff.mpr ((metricsUrl?_eq_some_iff storeHttp rfl storeWeb).mpr ⟨domain, storeUnder, rfl⟩)

/-- For every address of an API that is read from a text, what the metrics store is, or that there is none. -/
theorem metricsUrl_exact {text : String} {api : Url} (parsed : parse text = .ok api) (http : api.isHttp = true) :
    ∃ a, api.authority = some a ∧ api.HasStore a := by
  obtain ⟨a, held, web⟩ := exists_authority_of_parse parsed http
  have derived : ∀ store, api.deriveMetricsUrl = .ok store ↔
      ∃ domain, a.host.IsUnder domain ∧ store = api.storeUrl a domain :=
    fun store => deriveMetricsUrl_eq_ok_iff.trans (metricsUrl?_eq_some_iff http held web)
  refine ⟨a, held, ?_⟩
  constructor
  case derivable =>
    constructor
    · rintro ⟨store, told⟩
      obtain ⟨domain, under, _⟩ := (derived store).mp told
      exact ⟨domain, under⟩
    · rintro ⟨domain, under⟩
      exact ⟨_, (derived _).mpr ⟨domain, under, rfl⟩⟩
  case underivable =>
    intro none
    rw [deriveMetricsUrl] at none ⊢
    cases told : metricsUrl? api with
    | none => rfl
    | some store => exact absurd ⟨store, by rw [told]⟩ none
  case replaced =>
    intro store told
    obtain ⟨domain, under, rfl⟩ := (derived store).mp told
    exact ⟨domain, under, rfl, rfl, rfl, rfl, rfl⟩
  case settled =>
    intro store told
    obtain ⟨domain, under, rfl⟩ := (derived store).mp told
    exact deriveMetricsUrl_storeUrl http web under

/-! An API with credentials, a port, a path, a query and a fragment, in a domain that is not written in ASCII. -/
namespace ForeignDomain

def text : String :=
  "https://me:pw@API.B\u00dcCHER.example:8443/v2?x=1#f"

def authority : Authority :=
  ⟨"me".toList, "pw".toList, .name "api.xn--bcher-kva.example".toList, some 8443⟩

def api : Url :=
  ⟨"https".toList, some authority, .segments ["v2".toList], some "x=1".toList, some "f".toList⟩

theorem parsed : parse text = .ok api := by
  have told : (parse text).toOption = some api := by decide +kernel
  cases parsed : parse text with
  | error e => simp [parsed, Except.toOption] at told
  | ok u => simpa [parsed, Except.toOption] using told

end ForeignDomain

theorem metricsUrl_exact_foreignDomain :
    parse ForeignDomain.text = .ok ForeignDomain.api ∧ ForeignDomain.api.isHttp = true ∧
    ∃ store, ForeignDomain.api.deriveMetricsUrl = .ok store ∧ store.deriveMetricsUrl = .ok store ∧
      store.text = "https://me:pw@log-cache.xn--bcher-kva.example:8443/#f" := by
  have http : ForeignDomain.api.isHttp = true := by decide
  obtain ⟨a, held, hasStore⟩ := metricsUrl_exact ForeignDomain.parsed http
  cases held
  have under : ForeignDomain.authority.host.IsUnder "xn--bcher-kva.example".toList :=
    ⟨by decide, "api".toList, by decide, rfl⟩
  obtain ⟨store, derived⟩ := hasStore.derivable.mpr ⟨_, under⟩
  refine ⟨ForeignDomain.parsed, http, store, derived, hasStore.settled store derived, ?_⟩
  have spelt : (metricsUrl? ForeignDomain.api).map Url.text =
      some "https://me:pw@log-cache.xn--bcher-kva.example:8443/#f" := by
    decide +kernel
  rw [deriveMetricsUrl_eq_ok_iff.mp derived] at spelt
  exact Option.some.inj spelt

end Url
end CpuUsage
