import CpuUsage.Proofs.SortedMap
import CpuUsage.Settings.Load

/-! Settings resolve one by one. A setting is what the highest of its sources that gives it says: the command line, the
environment, the file, and its default under them. Values beneath that one, and names that mean no setting, do not
count, whatever they are. -/
namespace CpuUsage

inductive SettingKey where
  | apiUrl
  | metricsUrl
  | accessToken
  | org
  | space
  | username
  | skipTlsValidation
  | requestTimeoutSeconds
  | historyWindowDays
  | readLimit
  | readMaxPages
  deriving DecidableEq

namespace SettingKey

def all : List SettingKey :=
  [apiUrl, metricsUrl, accessToken, org, space, username, skipTlsValidation, requestTimeoutSeconds, historyWindowDays,
    readLimit, readMaxPages]

theorem mem_all (k : SettingKey) : k ∈ all := by
  cases k <;> decide

instance {p : SettingKey → Prop} [DecidablePred p] : Decidable (∀ k, p k) :=
  decidable_of_iff (∀ k ∈ all, p k) ⟨fun holds k => holds k (mem_all k), fun holds k _ => holds k⟩

/-- The name that a file gives a setting. -/
def name : SettingKey → String
  | apiUrl => "api_url"
  | metricsUrl => "log_cache_url"
  | accessToken => "access_token"
  | org => "org"
  | space => "space"
  | username => "username"
  | skipTlsValidation => "skip_ssl_validation"
  | requestTimeoutSeconds => "request_timeout_secs"
  | historyWindowDays => "history_window_days"
  | readLimit => "read_limit"
  | readMaxPages => "read_max_pages"

/-- The environment variable for a setting. -/
def variableName (k : SettingKey) : String :=
  "CPU_ENTITLEMENT_" ++ String.ofList (k.name.toList.map Char.toUpper)

/-- What a setting holds. -/
def Value : SettingKey → Type
  | skipTlsValidation => Bool
  | historyWindowDays => Int
  | requestTimeoutSeconds | readLimit | readMaxPages => Nat
  | _ => Option String

def field : (k : SettingKey) → Settings → k.Value
  | apiUrl, s => s.apiUrl
  | metricsUrl, s => s.metricsUrl
  | accessToken, s => s.accessToken
  | org, s => s.org
  | space, s => s.space
  | username, s => s.username
  | skipTlsValidation, s => s.skipTlsValidation
  | requestTimeoutSeconds, s => s.requestTimeoutSeconds
  | historyWindowDays, s => s.historyWindowDays
  | readLimit, s => s.readLimit
  | readMaxPages, s => s.readMaxPages

/-- A given value as what the setting holds. -/
def coerce : (k : SettingKey) → SettingValue → Option k.Value
  | apiUrl, v | metricsUrl, v | accessToken, v | org, v | space, v | username, v => v.toOptionalText?
  | skipTlsValidation, v => v.toBool?
  | historyWindowDays, v => v.toInt64?
  | requestTimeoutSeconds, v | readLimit, v | readMaxPages, v => v.toNat64?

/-- The value of a setting that is given so, or is not given. -/
def resolve (k : SettingKey) : Option SettingValue → Option k.Value
  | none => some (k.field .default)
  | some v => k.coerce v

/-- The settings that hold these values. -/
def assemble (value : (k : SettingKey) → k.Value) : Settings where
  apiUrl := value apiUrl
  metricsUrl := value metricsUrl
  accessToken := value accessToken
  org := value org
  space := value space
  username := value username
  skipTlsValidation := value skipTlsValidation
  requestTimeoutSeconds := value requestTimeoutSeconds
  historyWindowDays := value historyWindowDays
  readLimit := value readLimit
  readMaxPages := value readMaxPages

@[simp] theorem field_assemble (value : (k : SettingKey) → k.Value) (k : SettingKey) :
    k.field (assemble value) = value k := by
  cases k <;> rfl

theorem name_injective {k k' : SettingKey} (same : k.name = k'.name) : k = k' := by
  revert k k'
  decide

/-- What the command line gives. The flag can be set but not unset. -/
def override (o : Overrides) : SettingKey → Option SettingValue
  | apiUrl => o.apiUrl.map .text
  | metricsUrl => o.metricsUrl.map .text
  | org => o.org.map .text
  | space => o.space.map .text
  | skipTlsValidation => if o.skipTlsValidation then some (.bool true) else none
  | _ => none

/-- What the environment gives; where a variable stands twice, the last counts. -/
def inEnvironment (environment : List (String × String)) (k : SettingKey) : Option SettingValue :=
  (environment.reverse.lookup k.variableName).map .text

/-- What a file gives; where a name stands twice, the last counts. -/
def inFile (layer : Layer) (k : SettingKey) : Option SettingValue :=
  layer.reverse.lookup k.name

def selected (layer : Layer) (environment : List (String × String)) (o : Overrides) (k : SettingKey) :
    Option SettingValue :=
  (k.override o).or ((k.inEnvironment environment).or (k.inFile layer))

/-- A name means a setting in any case of its letters, and also where it is a path into the setting. -/
def IsMeantBy (k : SettingKey) (name : String) : Prop :=
  let cs := name.toList.map lowerLetter
  cs = k.name.toList ∨ Layer.pathRoot? cs = some k.name.toList

instance (k : SettingKey) (name : String) : Decidable (k.IsMeantBy name) :=
  inferInstanceAs (Decidable (_ ∨ _))

end SettingKey

namespace Layer

/-- What a layer says of a setting: the last that is said under a name that means it. -/
def value? : Layer → String → Option SettingValue
  | [], _ => none
  | e :: rest, name =>
    (value? rest name).or (if (target e.1 e.2).1 = name then some (target e.1 e.2).2 else none)

theorem get?_apply (layer : Layer) (settled : Settled) (name : String) :
    (apply settled layer).get? name = (layer.value? name).or (settled.get? name) := by
  induction layer generalizing settled with
  | nil => rfl
  | cons e rest ih =>
    have laid : apply settled (e :: rest) = apply (settled.insert (target e.1 e.2).1 (target e.1 e.2).2) rest := rfl
    rw [laid, ih, SortedMap.get?_insert, value?, Option.or_assoc]
    congr 1
    by_cases same : name = (target e.1 e.2).1
    · simp [same]
    · simp [same, Ne.symm same]

theorem get?_settle (layers : List Layer) (name : String) :
    (settle layers).get? name = layers.foldl (fun given layer => (layer.value? name).or given) none := by
  suffices fold : ∀ settled : Settled, (layers.foldl apply settled).get? name =
      layers.foldl (fun given layer => (layer.value? name).or given) (settled.get? name) from fold .empty
  induction layers with
  | nil => exact fun _ => rfl
  | cons layer rest ih =>
    intro settled
    simp only [List.foldl_cons]
    rw [ih, get?_apply]

/-- The names by which this layer means settings are the settings' own. -/
def IsPlain (layer : Layer) : Prop :=
  ∀ e ∈ layer, ∀ k : SettingKey, k.IsMeantBy e.1 → e.1 = k.name

instance (layer : Layer) : Decidable layer.IsPlain :=
  inferInstanceAs (Decidable (∀ e ∈ layer, _))

theorem pathRoot?_name (k : SettingKey) : pathRoot? (k.name.toList.map lowerLetter) = none := by
  cases k <;> decide

theorem map_lowerLetter_name (k : SettingKey) : k.name.toList.map lowerLetter = k.name.toList := by
  cases k <;> decide

theorem target_name (k : SettingKey) (v : SettingValue) : target k.name v = (k.name, v) := by
  simp only [target, pathRoot?_name]
  rw [map_lowerLetter_name, String.ofList_toList]

theorem isMeantBy_of_target {k : SettingKey} {name : String} {v : SettingValue} (meant : (target name v).1 = k.name) :
    k.IsMeantBy name := by
  unfold target at meant
  cases path : pathRoot? (name.toList.map lowerLetter) with
  | some root =>
    simp only [path] at meant
    exact .inr (by rw [path, ← meant, String.toList_ofList])
  | none =>
    simp only [path] at meant
    exact .inl (by rw [← meant, String.toList_ofList])

/-- A plain layer says of a setting what stands under its own name. -/
theorem IsPlain.value?_name {layer : Layer} (plain : layer.IsPlain) (k : SettingKey) :
    layer.value? k.name = k.inFile layer := by
  induction layer with
  | nil => rfl
  | cons e rest ih =>
    have behind : value? rest k.name = rest.reverse.lookup k.name := ih fun e' he' => plain e' (.tail _ he')
    rw [value?, behind, SettingKey.inFile, List.reverse_cons, List.lookup_append]
    congr 1
    obtain ⟨name, v⟩ := e
    by_cases own : name = k.name
    · subst own
      simp [target_name]
    · have other : (target name v).1 ≠ k.name := fun meant =>
        own (plain (name, v) (.head _) k (isMeantBy_of_target meant))
      have apart : (k.name == name) = false := beq_eq_false_iff_ne.2 (Ne.symm own)
      rw [List.lookup_cons, apart]
      simp [other]

theorem ofVariable?_variableName (k : SettingKey) (text : String) :
    ofVariable? (k.variableName, text) = some (k.name, .text text) := by
  have marked : variableMark.isPrefixOf (k.variableName.toList.map lowerLetter) = true ∧
      String.ofList ((k.variableName.toList.map lowerLetter).drop variableMark.length) = k.name := by
    revert k
    decide +kernel
  simp only [ofVariable?, marked, if_true]

/-- The variables by which this environment means settings are the settings' own. -/
def IsPlainEnvironment (environment : List (String × String)) : Prop :=
  ∀ v ∈ environment, ∀ e ∈ ofVariable? v, ∀ k : SettingKey, k.IsMeantBy e.1 → v.1 = k.variableName

instance (environment : List (String × String)) : Decidable (IsPlainEnvironment environment) :=
  inferInstanceAs (Decidable (∀ v ∈ environment, _))

/-- A plain environment says of a setting what its own variable holds. -/
theorem IsPlainEnvironment.value?_name {environment : List (String × String)} (plain : IsPlainEnvironment environment)
    (k : SettingKey) : (ofEnvironment environment).value? k.name = k.inEnvironment environment := by
  induction environment with
  | nil => rfl
  | cons v rest ih =>
    have behind : (ofEnvironment rest).value? k.name = (rest.reverse.lookup k.variableName).map .text :=
      ih fun v' hv' => plain v' (.tail _ hv')
    rw [SettingKey.inEnvironment, List.reverse_cons, List.lookup_append, Option.map_or, ← behind]
    obtain ⟨name, text⟩ := v
    by_cases own : name = k.variableName
    · subst own
      simp [ofEnvironment, ofVariable?_variableName, value?, target_name]
    · have absent : List.lookup k.variableName [(name, text)] = none := by
        rw [List.lookup_cons, beq_eq_false_iff_ne.2 (Ne.symm own)]
        rfl
      rw [absent, Option.map_none, Option.or_none]
      cases marked : ofVariable? (name, text) with
      | none => simp [ofEnvironment, marked]
      | some e =>
        have other : (target e.1 e.2).1 ≠ k.name := fun meant =>
          own (plain (name, text) (.head _) e marked k (isMeantBy_of_target meant))
        simp [ofEnvironment, marked, value?, other]

theorem value?_filterMap {keys : List SettingKey} (once : keys.Nodup) (given : SettingKey → Option SettingValue)
    (k : SettingKey) :
    value? (keys.filterMap fun k' => (given k').map (k'.name, ·)) k.name = if k ∈ keys then given k else none := by
  induction keys with
  | nil => rfl
  | cons head rest ih =>
    obtain ⟨fresh, onceBehind⟩ := List.nodup_cons.1 once
    by_cases same : k = head
    · subst same
      cases said : given k <;> simp [said, value?, target_name, ih onceBehind, fresh]
    · have apart : head.name ≠ k.name := fun h => same (SettingKey.name_injective h).symm
      cases said : given head <;> simp [said, value?, target_name, ih onceBehind, same, apart]

theorem value?_toLayer (o : Overrides) (k : SettingKey) : value? o.toLayer k.name = k.override o := by
  have keyed : o.toLayer = [.apiUrl, .metricsUrl, .org, .space, .skipTlsValidation].filterMap
      fun k : SettingKey => (k.override o).map (k.name, ·) := by
    obtain ⟨api, metrics, org, space, skip⟩ := o
    cases api <;> cases metrics <;> cases org <;> cases space <;> cases skip <;> rfl
  rw [keyed, value?_filterMap (by decide)]
  cases k <;> rfl

end Layer

namespace Settings

theorem withDefault_eq_resolve (k : SettingKey) (settled : Settled) :
    withDefault k.coerce settled k.name (k.field .default) = k.resolve (settled.get? k.name) := by
  unfold withDefault
  cases settled.get? k.name <;> rfl

theorem ofSettled?_eq_some_iff {settled : Settled} {s : Settings} :
    ofSettled? settled = some s ↔ ∀ k : SettingKey, k.resolve (settled.get? k.name) = some (k.field s) := by
  simp only [← withDefault_eq_resolve]
  constructor
  · intro read k
    simp only [ofSettled?, Option.bind_eq_bind, Option.bind_eq_some_iff, Option.pure_def, Option.some.injEq] at read
    obtain ⟨_, api, _, metrics, _, token, _, org, _, space, _, username, _, skip, _, timeout, _, days, _, limit,
      _, pages, rfl⟩ := read
    cases k with
    | apiUrl => exact api
    | metricsUrl => exact metrics
    | accessToken => exact token
    | org => exact org
    | space => exact space
    | username => exact username
    | skipTlsValidation => exact skip
    | requestTimeoutSeconds => exact timeout
    | historyWindowDays => exact days
    | readLimit => exact limit
    | readMaxPages => exact pages
  · intro resolved
    have api : optionalText settled "api_url" = some s.apiUrl := resolved .apiUrl
    have metrics : optionalText settled "log_cache_url" = some s.metricsUrl := resolved .metricsUrl
    have token : optionalText settled "access_token" = some s.accessToken := resolved .accessToken
    have org : optionalText settled "org" = some s.org := resolved .org
    have space : optionalText settled "space" = some s.space := resolved .space
    have username : optionalText settled "username" = some s.username := resolved .username
    have skip : withDefault SettingValue.toBool? settled "skip_ssl_validation" default.skipTlsValidation =
        some s.skipTlsValidation := resolved .skipTlsValidation
    have timeout : withDefault SettingValue.toNat64? settled "request_timeout_secs" default.requestTimeoutSeconds =
        some s.requestTimeoutSeconds := resolved .requestTimeoutSeconds
    have days : withDefault SettingValue.toInt64? settled "history_window_days" default.historyWindowDays =
        some s.historyWindowDays := resolved .historyWindowDays
    have limit : withDefault SettingValue.toNat64? settled "read_limit" default.readLimit = some s.readLimit :=
      resolved .readLimit
    have pages : withDefault SettingValue.toNat64? settled "read_max_pages" default.readMaxPages =
        some s.readMaxPages := resolved .readMaxPages
    rw [ofSettled?, api, metrics, token, org, space, username, skip, timeout, days, limit, pages]
    rfl

theorem ofSettled?_isSome {settled : Settled}
    (readable : ∀ k : SettingKey, (k.resolve (settled.get? k.name)).isSome) : (ofSettled? settled).isSome := by
  have read : ofSettled? settled = some (SettingKey.assemble fun k => (k.resolve (settled.get? k.name)).get (readable k)) :=
    ofSettled?_eq_some_iff.2 fun k => by rw [SettingKey.field_assemble, Option.some_get]
  rw [read, Option.isSome_some]

/-- What the file holds; a file that is missing holds nothing. -/
def readFile? : Option (FileFormat × String) → Option Layer
  | none => some []
  | some (format, text) => format.read? text

/-- The file can be read, to this layer, and whatever means a setting has the setting's own name. -/
structure ArePlain (file : Option (FileFormat × String)) (layer : Layer) (environment : List (String × String)) :
    Prop where
  reads : readFile? file = some layer
  plainNames : layer.IsPlain
  plainVariables : Layer.IsPlainEnvironment environment

section
variable {file : Option (FileFormat × String)} {layer : Layer} {environment : List (String × String)}

theorem load_eq (reads : readFile? file = some layer) (o : Overrides) :
    load file environment o =
      (ofSettled? (Layer.settle [layer, Layer.ofEnvironment environment, o.toLayer])).elim
        (.error .unusableSettings) .ok := by
  obtain _ | ⟨format, text⟩ := file
  · obtain rfl := Option.some.inj reads
    rw [load]
    cases ofSettled? (Layer.settle [[], Layer.ofEnvironment environment, o.toLayer]) <;> rfl
  · have held : format.read? text = some layer := reads
    simp only [load, held]
    cases ofSettled? (Layer.settle [layer, Layer.ofEnvironment environment, o.toLayer]) <;> rfl

theorem ArePlain.get?_settle (plain : ArePlain file layer environment) (o : Overrides) (k : SettingKey) :
    (Layer.settle [layer, Layer.ofEnvironment environment, o.toLayer]).get? k.name = k.selected layer environment o := by
  simp only [Layer.get?_settle, List.foldl_cons, List.foldl_nil, Option.or_none]
  rw [Layer.value?_toLayer, plain.plainVariables.value?_name, plain.plainNames.value?_name, SettingKey.selected]

theorem ArePlain.load_ok_iff (plain : ArePlain file layer environment) {o : Overrides} {s : Settings} :
    load file environment o = .ok s ↔
      ∀ k : SettingKey, k.resolve (k.selected layer environment o) = some (k.field s) := by
  simp only [← plain.get?_settle]
  rw [← ofSettled?_eq_some_iff, load_eq plain.reads]
  cases ofSettled? (Layer.settle [layer, Layer.ofEnvironment environment, o.toLayer]) <;> simp

theorem eq_unusable_of_load_error (reads : readFile? file = some layer) {o : Overrides} {e : Failure}
    (failed : load file environment o = .error e) : e = .unusableSettings := by
  rw [load_eq reads] at failed
  cases read : ofSettled? (Layer.settle [layer, Layer.ofEnvironment environment, o.toLayer]) with
  | none =>
    rw [read] at failed
    exact (Except.error.inj failed).symm
  | some s =>
    rw [read] at failed
    cases failed

theorem ArePlain.exists_load_ok_iff (plain : ArePlain file layer environment) {o : Overrides} :
    (∃ s, load file environment o = .ok s) ↔
      ∀ (k : SettingKey) v, k.selected layer environment o = some v → (k.coerce v).isSome := by
  constructor
  · rintro ⟨s, loaded⟩ k v chosen
    have resolved := plain.load_ok_iff.1 loaded k
    rw [chosen] at resolved
    exact Option.isSome_of_eq_some resolved
  · intro coerces
    have readable (k : SettingKey) :
        (k.resolve ((Layer.settle [layer, Layer.ofEnvironment environment, o.toLayer]).get? k.name)).isSome := by
      rw [plain.get?_settle]
      cases chosen : k.selected layer environment o with
      | none => rfl
      | some v => exact coerces k v chosen
    obtain ⟨s, read⟩ := Option.isSome_iff_exists.1 (ofSettled?_isSome readable)
    exact ⟨s, by rw [load_eq plain.reads, read, Option.elim_some]⟩

/-- Loading selects for each setting, by itself, what the highest source that gives it gives. It succeeds exactly when
every selected value is one the setting can hold, with these values, and otherwise finds the configuration invalid.
Sources that select the same values load alike: nothing beneath a selected value counts, and no name without a
setting. -/
theorem load_layered (plain : ArePlain file layer environment) (o : Overrides) :
    (∀ s, load file environment o = .ok s ↔
      ∀ k : SettingKey, k.resolve (k.selected layer environment o) = some (k.field s)) ∧
    ((∃ s, load file environment o = .ok s) ↔
      ∀ (k : SettingKey) v, k.selected layer environment o = some v → (k.coerce v).isSome) ∧
    (∀ e, load file environment o = .error e → e = .unusableSettings ∧ e.message = "Invalid configuration") ∧
    ∀ file' layer' environment' o', ArePlain file' layer' environment' →
      (∀ k : SettingKey, k.selected layer' environment' o' = k.selected layer environment o) →
      load file' environment' o' = load file environment o := by
  refine ⟨fun s => plain.load_ok_iff, plain.exists_load_ok_iff, fun e failed => ?_,
    fun file' layer' environment' o' plain' same => ?_⟩
  · cases eq_unusable_of_load_error plain.reads failed
    exact ⟨rfl, rfl⟩
  · cases loaded : load file environment o with
    | ok s =>
      have resolved := plain.load_ok_iff.1 loaded
      simp only [← same] at resolved
      exact plain'.load_ok_iff.2 resolved
    | error e =>
      rw [eq_unusable_of_load_error plain.reads loaded]
      cases loaded' : load file' environment' o' with
      | error e' => rw [eq_unusable_of_load_error plain'.reads loaded']
      | ok s =>
        have resolved := plain'.load_ok_iff.1 loaded'
        simp only [same] at resolved
        rw [plain.load_ok_iff.2 resolved] at loaded
        cases loaded

end

/-! A name that is no setting's own may still mean one, in other letters or as a path into it. -/

theorem load_meant :
    (∀ k : SettingKey, k.name ≠ "ORG" ∧ k.variableName ≠ "CPU_ENTITLEMENT_ORG.NAME") ∧
    load (some (.toml, "")) [] .none = .ok .default ∧
    load (some (.toml, "ORG = 'upper'")) [] .none = .ok { Settings.default with org := some "upper" } ∧
    load (some (.toml, "")) [("CPU_ENTITLEMENT_ORG.NAME", "x")] .none = .error .unusableSettings := by
  have empty : readFile? (some (.toml, "")) = some [] := by decide +kernel
  have upper : readFile? (some (.toml, "ORG = 'upper'")) = some [("ORG", .text "upper")] := by decide +kernel
  refine ⟨by decide, ?_, ?_, ?_⟩
  · rw [load_eq empty]
    rfl
  · rw [load_eq upper]
    rfl
  · rw [load_eq empty]
    rfl

namespace Shadowed

def text : String :=
  "org = 'of the file'\nspace = ['no', 'text']\nread_limit = 'many'\nhistory_window_days = 7\ncolor = 'blue'\n"

def layer : Layer :=
  [("org", .text "of the file"), ("space", .composite), ("read_limit", .text "many"),
    ("history_window_days", .integer 7), ("color", .text "blue")]

def environment : List (String × String) :=
  [("HOME", "/"), ("CPU_ENTITLEMENT_READ_LIMIT", "50"), ("CPU_ENTITLEMENT_ORG", "of the environment"),
    ("CPU_ENTITLEMENT_SKIP_SSL_VALIDATION", "perhaps"), ("CPU_ENTITLEMENT_SHAPE", "round")]

def overrides : Overrides :=
  { Overrides.none with space := some "of the command line", skipTlsValidation := true }

theorem arePlain : ArePlain (some (.toml, text)) layer environment where
  reads := by decide +kernel
  plainNames := by decide +kernel
  plainVariables := by decide +kernel

end Shadowed

theorem load_layered_shadowed :
    ArePlain (some (.toml, Shadowed.text)) Shadowed.layer Shadowed.environment ∧
    load (some (.toml, Shadowed.text)) Shadowed.environment Shadowed.overrides = .ok
      { Settings.default with
        org := some "of the environment", space := some "of the command line", skipTlsValidation := true,
        historyWindowDays := 7, readLimit := 50 } :=
  ⟨Shadowed.arePlain, ((load_layered Shadowed.arePlain Shadowed.overrides).1 _).2 fun k => by cases k <;> rfl⟩

end Settings
end CpuUsage
