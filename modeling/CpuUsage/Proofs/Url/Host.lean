import CpuUsage.Proofs.Except
import CpuUsage.Proofs.Url.Domain
import CpuUsage.Proofs.Url.Percent
import CpuUsage.Url.Parse

/-! Hosts of web-like URLs. A domain name that is read as a host is read as itself, and whether a name is an address does
not depend on its first label. -/
namespace CpuUsage

namespace Ipv4

/-- The parts behind the first one, if there is text behind it, do not depend on the first. -/
theorem exists_parts_eq {rest : List Char} (nonempty : rest ≠ []) :
    ∃ tail, tail ≠ [] ∧ ∀ label, '.' ∉ label → parts (label ++ '.' :: rest) = label :: tail := by
  have split := fun label (noDot : '.' ∉ label) => Domain.splitParts_label noDot rest
  obtain ⟨part, others, behind⟩ := List.exists_cons_of_ne_nil (splitParts_ne_nil (· = '.') rest)
  rw [behind] at split
  by_cases trailing : (part :: others).getLast? = some []
  · refine ⟨(part :: others).dropLast, ?_, fun label noDot => ?_⟩
    · cases others with
      | nil =>
        have whole := intercalate_splitParts '.' rest
        rw [behind, List.intercalate_singleton] at whole
        simp [whole, nonempty] at trailing
      | cons next others => exact List.cons_ne_nil _ _
    · rw [parts, split label noDot]
      simp [trailing]
  · refine ⟨part :: others, List.cons_ne_nil _ _, fun label noDot => ?_⟩
    rw [parts, split label noDot]
    simp [trailing]

/-- Another first label makes no address of a name, and no name of an address. -/
theorem isClaimed_replaceLabel {label other rest : List Char} (nonempty : rest ≠ []) (first : '.' ∉ label)
    (second : '.' ∉ other) : isClaimed (other ++ '.' :: rest) = isClaimed (label ++ '.' :: rest) := by
  obtain ⟨tail, more, same⟩ := exists_parts_eq nonempty
  obtain ⟨part, others, rfl⟩ := List.exists_cons_of_ne_nil more
  rw [isClaimed, isClaimed, same label first, same other second, List.getLast?_cons_cons, List.getLast?_cons_cons]

end Ipv4
namespace Host
open Domain

theorem not_mem_of_isDomain {name : List Char} (domain : IsDomain name) {c : Char} (forbidden : isForbidden c = true) :
    c ∉ name := by
  intro member
  rw [(domain.kept c member).allowed] at forbidden
  contradiction

theorem ascii_of_isDomain {name : List Char} (domain : IsDomain name) :
    (ofUtf8? (percentDecode name)).bind (fun text => toAscii? text.toList) = some name := by
  rw [percentDecode_of_not_mem (not_mem_of_isDomain domain (by decide)), utf8Bytes, ofUtf8?_flatMap,
    Option.bind_some, String.toList_ofList, domain.toAscii?_eq_self]

theorem unbracketed_of_isDomain {name : List Char} (domain : IsDomain name) (rest : List Char) : name ≠ '[' :: rest := by
  rintro rfl
  exact not_mem_of_isDomain domain (by decide) List.mem_cons_self

/-- A name in ASCII form is read as itself. -/
theorem parseDomain_of_unclaimed {name : List Char} (domain : IsDomain name) (nonempty : name ≠ [])
    (unclaimed : Ipv4.isClaimed name = false) : parseDomain name = .ok (.name name) := by
  rw [parseDomain]
  · simp [ascii_of_isDomain domain, nonempty, unclaimed]
  · exact unbracketed_of_isDomain domain

/-- A name that has to be an address, and is none. -/
theorem parseDomain_of_claimed {name : List Char} (domain : IsDomain name) (nonempty : name ≠ [])
    (claimed : Ipv4.isClaimed name = true) (misread : Ipv4.read? name = none) :
    parseDomain name = .error .invalidIpv4 := by
  rw [parseDomain]
  · simp [ascii_of_isDomain domain, nonempty, claimed, misread]
  · exact unbracketed_of_isDomain domain

/-- A host that a web-like URL can have. -/
inductive IsWeb : Host → Prop where
  | name {name : List Char} : IsDomain name → name ≠ [] → Ipv4.isClaimed name = false → IsWeb (.name name)
  | ipv4 (address : Nat) : IsWeb (.ipv4 address)
  | ipv6 (pieces : List Nat) : IsWeb (.ipv6 pieces)

theorem isWeb_of_parseBracketed {cs : List Char} {host : Host} (read : parseBracketed cs = .ok host) : IsWeb host := by
  rw [parseBracketed] at read
  split at read
  · split at read
    · cases read
      exact .ipv6 _
    · cases read
  · cases read

theorem isWeb_of_parseDomain {cs : List Char} {host : Host} (read : parseDomain cs = .ok host) : IsWeb host := by
  rw [parseDomain.eq_def] at read
  split at read
  · exact isWeb_of_parseBracketed read
  · split at read
    · cases read
    · next told =>
      obtain ⟨text, _, told⟩ := Option.bind_eq_some_iff.mp told
      split at read
      · cases read
      · next nonempty =>
        split at read
        · split at read
          · cases read
            exact .ipv4 _
          · cases read
        · next unclaimed =>
          cases read
          exact .name (isDomain_of_toAscii? told) nonempty (Bool.not_eq_true _ ▸ unclaimed)

end Host

namespace Url

variable {scheme : List Char} {parts : Parts} {u : Url}

theorem scheme_of_parseFile (parsed : parseFile scheme parts = .ok u) : u.scheme = scheme := by
  simp only [parseFile] at parsed
  split at parsed
  all_goals
    obtain ⟨_, _, parsed⟩ := ok_of_bind parsed
    cases parsed
    rfl

theorem scheme_of_parseOther (parsed : parseOther scheme parts = .ok u) : u.scheme = scheme := by
  rw [parseOther.eq_def] at parsed
  split at parsed
  · obtain ⟨_, _, parsed⟩ := ok_of_bind parsed
    cases parsed
    rfl
  · cases parsed
    rfl
  · cases parsed
    rfl

theorem isWeb_of_readAuthority {more : Bool} {cs : List Char} {a : Authority} (special : isSpecialScheme scheme = true)
    (read : readAuthority scheme more cs = .ok a) : a.host.IsWeb := by
  simp only [readAuthority, special, if_true] at read
  split at read
  · cases read
  · obtain ⟨host, told, read⟩ := ok_of_bind read
    obtain ⟨port, _, read⟩ := ok_of_bind read
    cases read
    exact Host.isWeb_of_parseDomain told

/-- A web-like URL that is read from a text has a host. -/
theorem exists_authority_of_parse {text : String} (parsed : parse text = .ok u) (http : u.isHttp = true) :
    ∃ a, u.authority = some a ∧ a.host.IsWeb := by
  obtain ⟨special, web⟩ := isSpecialScheme_of_isHttp http
  rw [parse] at parsed
  split at parsed
  · cases parsed
  · next scheme rest _ =>
    split at parsed
    · next file =>
      rw [scheme_of_parseFile parsed, file] at web
      contradiction
    · split at parsed
      · obtain ⟨a, read, parsed⟩ := ok_of_bind parsed
        cases parsed
        exact ⟨a, rfl, isWeb_of_readAuthority special read⟩
      · next other =>
        rw [scheme_of_parseOther parsed] at special
        contradiction

end Url
end CpuUsage
