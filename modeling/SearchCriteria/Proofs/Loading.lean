import SearchCriteria.Proofs.Overrides

/-! Which documents a configuration can be loaded from: a map whose entries keep to the rules for
its fields, and whatever counts as nothing. All else is refused as a configuration, unless the
reader of the document raises a failure of its own: that is passed on as it is. -/
namespace SearchCriteria

namespace Value

/-- A text, or the bytes of one. -/
def Spells (v : Value) (s : String) : Prop :=
  v = .text s ∨ ∃ bs, v = .bytes bs ∧ decodeUtf8? bs = some s

def IsWorded (v : Value) : Prop := ∃ s, v.Spells s

/-- The words for a truth value, in small letters. -/
def flagWords : List String :=
  ["0", "f", "n", "no", "off", "false", "1", "t", "y", "yes", "on", "true"]

/-- A truth value, zero or one as a number of any kind, or a word for either in any case. -/
def IsFlag (v : Value) : Prop :=
  (∃ b, v = .bool b) ∨ v = .int 0 ∨ v = .int 1 ∨
    (∃ x, v = .float x ∧ (x.equalInt 0 = true ∨ x.equalInt 1 = true)) ∨
    ∃ s, v.Spells s ∧ String.ofList (s.toList.map Char.toLower) ∈ flagWords

end Value

namespace Checked
variable {α β : Type}

/-- A value that a rule takes. -/
def Passes (a : Checked α) : Prop := ∃ x, a = .ok x

theorem passes_ok (x : α) : (Checked.ok x).Passes := ⟨x, rfl⟩

theorem not_passes_refuse (c : Complaint) : ¬ (refuse c : Checked α).Passes := by
  rintro ⟨x, absurd⟩
  cases absurd

theorem passes_map {f : α → β} {a : Checked α} : (a.map f).Passes ↔ a.Passes := by
  cases a <;> simp [Checked.map, Passes]

theorem passes_seq {f : Checked (α → β)} {a : Checked α} :
    (f.seq a).Passes ↔ f.Passes ∧ a.Passes := by
  cases f <;> cases a <;> simp [Checked.seq, Passes]

theorem passes_within {step : PathStep} {a : Checked α} : (a.within step).Passes ↔ a.Passes := by
  cases a <;> simp [Checked.within, Passes]

theorem passes_all {cs : List (Checked α)} : (Checked.all cs).Passes ↔ ∀ c ∈ cs, c.Passes := by
  induction cs with
  | nil => simp [Checked.all, Passes]
  | cons c cs ih =>
    rw [List.forall_mem_cons, ← ih]
    exact passes_seq.trans (and_congr_left fun _ => passes_map)

end Checked

section Rules
variable {v : Value} {s : String} {es : Entries}

theorem Rule.text_eq_ok_iff : Rule.text v = .ok s ↔ v.Spells s := by
  unfold Rule.text Value.Spells
  split
  · simp
  · rename_i bs
    split
    · simp_all
    · simp_all [Checked.refuse]
  · rename_i other words
    simp only [Checked.refuse, reduceCtorEq, false_iff, not_or, not_exists, not_and]
    exact ⟨fun text => other s text, fun bs bytes => absurd bytes (words bs)⟩

theorem Rule.passes_text : (Rule.text v).Passes ↔ v.IsWorded :=
  exists_congr fun _ => Rule.text_eq_ok_iff

theorem Rule.passes_optional_text :
    (Rule.optional Rule.text v).Passes ↔ v = .null ∨ v.IsWorded := by
  unfold Rule.optional
  split
  · simp [Checked.Passes]
  · rename_i present
    exact (Checked.passes_map.trans Rule.passes_text).trans (or_iff_right present).symm

theorem Rule.passes_flagInText :
    (Rule.flagInText s).Passes ↔ String.ofList (s.toList.map Char.toLower) ∈ Value.flagWords := by
  have words : Value.flagWords = ["0", "f", "n", "no", "off", "false"] ++
      ["1", "t", "y", "yes", "on", "true"] := rfl
  rw [words, List.mem_append, ← List.contains_iff_mem, ← List.contains_iff_mem]
  simp only [Rule.flagInText]
  split
  · rename_i no
    exact iff_of_true (Checked.passes_ok false) (.inl no)
  · rename_i no
    split
    · rename_i yes
      exact iff_of_true (Checked.passes_ok true) (.inr yes)
    · rename_i yes
      exact iff_of_false (Checked.not_passes_refuse _) (not_or.mpr ⟨no, yes⟩)

theorem Rule.passes_flag : (Rule.flag v).Passes ↔ v.IsFlag := by
  cases v with
  | bool b => simp [Rule.flag, Checked.passes_ok, Value.IsFlag]
  | int n =>
    simp only [Rule.flag, beq_iff_eq]
    split
    · simp_all [Checked.passes_ok, Value.IsFlag]
    · split
      · simp_all [Checked.passes_ok, Value.IsFlag]
      · split <;> simp_all [Checked.not_passes_refuse, Value.IsFlag, Value.Spells]
  | float x =>
    simp only [Rule.flag]
    split
    · simp_all [Checked.passes_ok, Value.IsFlag]
    · split
      · simp_all [Checked.passes_ok, Value.IsFlag]
      · split <;> simp_all [Checked.not_passes_refuse, Value.IsFlag, Value.Spells]
  | text t => simp [Rule.flag, Rule.passes_flagInText, Value.IsFlag, Value.Spells]
  | bytes bs =>
    simp only [Rule.flag]
    split <;> simp_all [Checked.not_passes_refuse, Rule.passes_flagInText, Value.IsFlag,
      Value.Spells]
  | _ => simp [Rule.flag, Checked.not_passes_refuse, Value.IsFlag, Value.Spells]

theorem Rule.passes_table {r : Rule Value} : (Rule.table r v).Passes ↔
    ∃ names, v = .map names ∧ ∀ e ∈ names, e.1.IsWorded ∧ (r e.2).Passes := by
  unfold Rule.table
  split
  · rename_i names
    simp only [Checked.passes_map, Checked.passes_all, List.forall_mem_map, Checked.passes_seq,
      Checked.passes_within, Rule.passes_text, Value.map.injEq, exists_eq_left']
  · rename_i other
    refine iff_of_false (Checked.not_passes_refuse _) ?_
    rintro ⟨names, map, _⟩
    exact other names map

theorem Entries.passes_withDefault {α : Type} {name : String} {r : Rule α} {a : α} :
    (Entries.withDefault name r a es).Passes ↔
      ∀ v, Entries.named? name es = some v → (r v).Passes := by
  unfold Entries.withDefault
  split
  · rename_i v found
    simp [Checked.passes_within, found]
  · rename_i found
    simp [Checked.passes_ok, found]

end Rules

namespace Config
variable {es : Entries} {v : Value} {f : Failure}

/-- Entries that fit the fields of a configuration. Each field may be left out, and entries under
other names do not count. -/
structure Fits (es : Entries) : Prop where
  flag (v : Value) : Entries.named? "analyze_wildcard" es = some v → v.IsFlag
  aliases (v : Value) : Entries.named? "field_aliases" es = some v →
    ∃ names, v = .map names ∧ ∀ e ∈ names, e.1.IsWorded ∧ e.2.IsWorded
  level (v : Value) : Entries.named? "log_level" es = some v → v = .null ∨ v.IsWorded

theorem passes_ofEntries : (ofEntries es).Passes ↔ Fits es := by
  have aliases (v : Value) : (Rule.table (fun v => (Rule.text v).map .text) v).Passes ↔
      ∃ names, v = .map names ∧ ∀ e ∈ names, e.1.IsWorded ∧ e.2.IsWorded := by
    simp only [Rule.passes_table, Checked.passes_map, Rule.passes_text]
  refine (Checked.passes_seq.trans (and_congr_left fun _ => Checked.passes_seq)).trans ?_
  simp only [Functor.map, Checked.passes_map, Entries.passes_withDefault, Rule.passes_flag, aliases,
    Rule.passes_optional_text]
  exact ⟨fun ⟨⟨flag, aliases⟩, level⟩ => ⟨flag, aliases, level⟩,
    fun fits => ⟨⟨fits.flag, fits.aliases⟩, fits.level⟩⟩

/-- What describes a configuration is nothing, or a map that fits. All else is refused as one. -/
theorem exists_ofValue?_iff :
    (∃ c, ofValue? v = .ok c) ↔ v = .null ∨ ∃ es, v = .map es ∧ Fits es := by
  unfold ofValue?
  split
  · simp
  · rename_i es
    have fits : (ofEntries es).Passes ↔ Fits es := passes_ofEntries
    cases made : ofEntries es with
    | ok c => simpa [Checked.Passes, made] using fits
    | bad issues => simpa [Checked.Passes, made] using fits
  · rename_i null map
    refine iff_of_false nofun ?_
    rintro (absurd | ⟨es, absurd, _⟩)
    · exact null absurd
    · exact map es absurd

theorem config_of_ofValue? (refused : ofValue? v = .error f) : ∃ fault, f = .config fault := by
  unfold ofValue? at refused
  split at refused
  · cases refused
  · split at refused
    · cases refused
    · exact ⟨_, (Except.error.inj refused).symm⟩
  · exact ⟨_, (Except.error.inj refused).symm⟩

theorem fits_nil : Fits [] := ⟨nofun, nofun, nofun⟩

theorem parse_result (env : Option String) (v : Value) :
    (parse env v).result = (ofValue? v).map (overridden env) := by
  rw [parse, Traced.result_bind, Traced.result_ofExcept]
  simp only [underEnvironment_eq]
  cases ofValue? v <;> rfl

end Config

namespace CommandLine
variable {env : Option String} {loader : Loader} {path : String} {d : Value}

theorem loadConfig_result (env : Option String) (loader : Loader) (given : Option (Given String)) :
    (loadConfig env loader given).result =
      (givenConfig? loader given).map (Config.overridden env) := by
  rw [loadConfig_eq, Traced.result_bind, Traced.result_ofExcept]
  simp only [Config.underEnvironment_eq]
  cases givenConfig? loader given <;> rfl

theorem givenConfig?_of_read (found : Document.read? loader path = .ok d) :
    givenConfig? loader (some (.value path)) = Config.ofValue? (Config.entriesOf? d) := by
  simp only [givenConfig?, Document.load?, found]
  rfl

theorem givenConfig?_of_unread {fault : LoadFault}
    (unread : Document.read? loader path = .error fault) :
    givenConfig? loader (some (.value path)) = .error (Document.failure .config path fault) := by
  simp only [givenConfig?, Document.load?, unread]
  rfl

/-- What is taken as the entries of a document describes a configuration where the document counts
as nothing, or is a map that fits. -/
theorem exists_ofValue?_entriesOf?_iff : (∃ c, Config.ofValue? (Config.entriesOf? d) = .ok c) ↔
    d.truthy = false ∨ ∃ es, d = .map es ∧ Config.Fits es := by
  rw [Config.exists_ofValue?_iff, Config.entriesOf?]
  cases counts : d.truthy with
  | false => simp [Config.fits_nil]
  | true =>
    have some : d ≠ .null := by
      rintro rfl
      cases counts
    simp [some]

/-- A document that counts as nothing is taken for an empty map. Where it is neither that nor null,
it describes no configuration by itself. -/
theorem taken_for_empty_iff :
    ((d.truthy = false ∨ ∃ es, d = .map es ∧ Config.Fits es) ∧
      ¬ (d = .null ∨ ∃ es, d = .map es ∧ Config.Fits es)) ↔
      d.truthy = false ∧ d ≠ .null ∧ d ≠ .map [] := by
  constructor
  · rintro ⟨taken, other⟩
    rw [not_or] at other
    refine ⟨taken.resolve_right other.2, other.1, ?_⟩
    rintro rfl
    exact other.2 ⟨[], rfl, Config.fits_nil⟩
  · rintro ⟨empty, some, other⟩
    refine ⟨.inl empty, ?_⟩
    rintro (null | ⟨es, rfl, _⟩)
    · exact some null
    · simp only [Value.truthy, Bool.not_eq_false', List.isEmpty_iff] at empty
      exact other (congrArg Value.map empty)

/-- What becomes of the file that a configuration is to be loaded from, whatever reads the documents
that are no JSON. A file that cannot be read is refused as a configuration, and what the reader
raises is passed on. Any other file is accepted exactly where its document counts as nothing or is a
map that fits, and is refused as a configuration elsewhere. So there are documents that are accepted
although they describe none by themselves: those that count as nothing, and are neither null nor an
empty map. -/
theorem loadConfig_accepts_iff (env : Option String) (loader : Loader) (path : String) :
    let loaded := (loadConfig env loader (some (.value path))).result
    (∀ fault, Document.read? loader path = .error (.unread fault) →
      loaded = .error (.config (.unreadable .config path fault))) ∧
    (∀ f, Document.Raises loader path f → loaded = .error f) ∧
    ∀ d, Document.read? loader path = .ok d →
      ((∃ c, loaded = .ok c) ↔ d.truthy = false ∨ ∃ es, d = .map es ∧ Config.Fits es) ∧
      (∀ f, loaded = .error f → ∃ fault, f = .config fault) ∧
      ((∃ c, loaded = .ok c) ∧ ¬ (∃ c, (Config.parse env d).result = .ok c) ↔
        d.truthy = false ∧ d ≠ .null ∧ d ≠ .map []) := by
  intro loaded
  have result : loaded = _ := loadConfig_result env loader (some (.value path))
  refine ⟨fun fault unread => ?_, fun f raises => ?_, ?_⟩
  · rw [result, givenConfig?_of_unread unread]
    rfl
  · rw [result, givenConfig?_of_unread (Document.read?_eq_raised_iff.mpr raises)]
    rfl
  · intro d found
    rw [givenConfig?_of_read found] at result
    have accepts : (∃ c, loaded = .ok c) ↔
        d.truthy = false ∨ ∃ es, d = .map es ∧ Config.Fits es := by
      rw [result, exists_map_iff, exists_ofValue?_entriesOf?_iff]
    refine ⟨accepts, fun f refused => ?_, ?_⟩
    · rw [result, map_eq_error_iff] at refused
      exact Config.config_of_ofValue? refused
    · rw [accepts, Config.parse_result, exists_map_iff, Config.exists_ofValue?_iff]
      exact taken_for_empty_iff

/-- Files one of which holds a document, while all others are missing. -/
def onlyFile (name document : String) : Files := fun path =>
  if path = name then .ok document.toUTF8.data.toList else .error .notFound

/-- A file that is missing, one whose reader raises a failure, and one that fits. -/
theorem loadConfig_accepts_iff_sample :
    let loader := Loader.ofFiles (onlyFile "config.json"
      "\x7b\"analyze_wildcard\": \"Off\", \"field_aliases\": \x7b\"name\": \"title\"\x7d\x7d")
    let raising : Loader := ⟨onlyFile "config.yaml" "!!bool maybe",
      fun _ => .error (.raised (.missingKey (.text "maybe")))⟩
    (loadConfig none loader (some (.value "missing.json"))).result =
        .error (.config (.unreadable .config "missing.json" .notFound)) ∧
      (loadConfig none raising (some (.value "config.yaml"))).result =
        .error (.missingKey (.text "maybe")) ∧
      ∃ d, Document.read? loader "config.json" = .ok d ∧ d.truthy = true ∧
        ∃ c, (loadConfig none loader (some (.value "config.json"))).result = .ok c := by
  intro loader raising
  obtain ⟨unread, _⟩ := loadConfig_accepts_iff none loader "missing.json"
  obtain ⟨_, raised, _⟩ := loadConfig_accepts_iff none raising "config.yaml"
  obtain ⟨_, _, read⟩ := loadConfig_accepts_iff none loader "config.json"
  have missing : Document.read? loader "missing.json" = .error (.unread .notFound) := rfl
  have found : Document.read? loader "config.json" =
      .ok (.map [(.text "analyze_wildcard", .text "Off"),
        (.text "field_aliases", .map [(.text "name", .text "title")])]) := by
    decide +kernel
  have raises : Document.Raises raising "config.yaml" (.missingKey (.text "maybe")) :=
    ⟨by decide, _, _, rfl, rfl, rfl⟩
  refine ⟨unread _ missing, raised _ raises, _, found, rfl, ?_⟩
  refine (read _ found).1.mpr (.inr ⟨_, rfl, ?_⟩)
  have word (s : String) : (Value.text s).IsWorded := ⟨s, .inl rfl⟩
  refine ⟨fun v flag => ?_, fun v aliases => ?_, fun v level => ?_⟩
  · cases flag
    exact .inr (.inr (.inr (.inr ⟨"Off", .inl rfl, by decide⟩)))
  · cases aliases
    exact ⟨_, rfl, List.forall_mem_singleton.mpr ⟨word "name", word "title"⟩⟩
  · cases level

/-- A file with an empty list in it is loaded as the standard configuration, while the list itself
describes none. -/
theorem loadConfig_takes_empty_list :
    let loader := Loader.ofFiles (onlyFile "config.json" "[]")
    Document.read? loader "config.json" = .ok (.list []) ∧
      (loadConfig none loader (some (.value "config.json"))).result = .ok .default ∧
      (Config.parse none (.list [])).result = .error (.config .notMap) := by
  decide +kernel

end CommandLine
end SearchCriteria
