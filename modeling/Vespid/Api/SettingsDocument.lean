import Vespid.Api.OrgSettings

/-!
# The settings document

Normalization and the update with every key of `llm.providers`: `normalizeLlmProviderId` asks the
table of aliases with `in`, which also finds what the table inherits.
-/

namespace Vespid.Api.SettingsDocument

open ProviderRegistry OrgSettings

/-- An inherited property whose name has no capital letters. -/
inductive Inherited where
  | constructor | proto
  deriving DecidableEq

def Inherited.property : Inherited → String
  | constructor => "constructor"
  | proto => "__proto__"

/-- The value of the property, as a key: `Object`, or `Object.prototype`. -/
def Inherited.key : Inherited → String
  | constructor => "function Object() { [native code] }"
  | proto => "[object Object]"

/-- What `normalizeLlmProviderId` returns for a text. -/
inductive ProviderKey where
  | known (id : LlmProviderId)
  | inherited (value : Inherited)
  deriving DecidableEq

def normalText (lower : LowerCase) (input : String) : List Char :=
  lower.toLowerCase (Scheduler.trim input.toList)

/-- `normalizeLlmProviderId` -/
def providerKey (lower : LowerCase) (input : String) : Option ProviderKey :=
  let trimmed := normalText lower input
  if trimmed = "gemini".toList then some (.known .google)
  else if trimmed = "vertex".toList then some (.known .googleVertex)
  else if trimmed = Inherited.constructor.property.toList then some (.inherited .constructor)
  else if trimmed = Inherited.proto.property.toList then some (.inherited .proto)
  else (LlmProviderId.all.find? fun id => id.name.toList = trimmed).map .known

section document
variable {formats : Formats}

/-- The loops over the entries of `llm.providers`. -/
def putKeys (lower : LowerCase) (existing : ProviderKey → Option (ProviderConf formats))
    (entries : List (String × ProviderConf formats)) :
    ProviderKey → Option (ProviderConf formats) :=
  entries.foldl (fun out entry =>
    match providerKey lower entry.1 with
    | none => out
    | some key => Function.update out key (some entry.2)) existing

/-- Normalized settings, with what stands under inherited keys. -/
structure Document (formats : Formats) where
  settings : Settings formats
  inherited : Inherited → Option (ProviderConf formats)

def Document.providers (d : Document formats) : ProviderKey → Option (ProviderConf formats)
  | .known id => d.settings.providers id
  | .inherited value => d.inherited value

def Document.withProviders (settings : Settings formats)
    (providers : ProviderKey → Option (ProviderConf formats)) : Document formats where
  settings := { settings with providers := fun id => providers (.known id) }
  inherited value := providers (.inherited value)

def providerEntries (input : Json) : List (String × Json) :=
  (((input.field? "llm").bind (·.field? "providers")).bind (·.asObject)).getD []

/-- `normalizeOrgSettings` -/
def normalizeDocument (input : Json) : Document formats :=
  .withProviders (normalizeOrgSettings input)
    (putKeys formats.lower (fun _ => none)
      ((providerEntries input).map fun entry => (entry.1, readProviderConf entry.2)))

/-- `next` of `PUT /v1/orgs/:orgId/settings` -/
def mergeDocument (body : Body formats) (existing : Document formats) : Document formats :=
  .withProviders (merge body existing.settings)
    (putKeys formats.lower existing.providers body.providers)

def Document.toJson (d : Document formats) : Json :=
  .obj [("tools", .obj [("shellRunEnabled", .bool d.settings.shellRunEnabled)]),
    ("toolsets", .obj [("defaultToolsetId", jsonText d.settings.defaultToolsetId)]),
    ("llm", .obj [("defaults", .obj [("primary", d.settings.primary.toJson)]),
      ("providers", .obj ((LlmProviderId.all.filterMap fun id =>
          (d.settings.providers id).map fun conf => (id.name, conf.toJson)) ++
        [Inherited.constructor, .proto].filterMap fun value =>
          (d.inherited value).map fun conf => (value.key, conf.toJson)))]),
    ("agents", .obj [
      ("engineAuthDefaults", enginesJson fun engine => (d.settings.engineAuth engine).toJson),
      ("engineRuntimeDefaults",
        enginesJson fun engine => runtimeJson (d.settings.engineRuntime engine))])]

/-- What an update writes over the document that is stored. -/
def written (body : Body formats) (stored : Json) : Json :=
  (mergeDocument body (normalizeDocument stored)).toJson

/-- `PUT /v1/orgs/:orgId/settings` with an accepted body: the document in the response, and the
one that is stored. -/
def putSettings (body : Body formats) (stored : Json) : Document formats × Json :=
  (normalizeDocument (written body stored), written body stored)

/-- `GET /v1/orgs/:orgId/settings` -/
def getSettings (stored : Json) : Document formats := normalizeDocument stored

/-! ### The claim and its condition -/

/-- The old document with the settings of the body in place of its own. -/
def Replaced (body : Body formats) (old new : Document formats) : Prop :=
  (∀ key, new.settings.get key = (body.get key).getD (old.settings.get key)) ∧
  ∀ value, new.inherited value =
    (putKeys formats.lower (fun _ => none) body.providers (.inherited value)).or
      (old.inherited value)

/-- A key names an inherited property, up to case and the white space around it. -/
def NamesInherited (lower : LowerCase) (key : String) : Prop :=
  ∃ value : Inherited, normalText lower key = value.property.toList

/-- `toLowerCase` on ASCII texts. -/
def LowersAscii (lower : LowerCase) : Prop :=
  ∀ s : List Char, (∀ c ∈ s, c.toNat < 128) → lower.toLowerCase s = s.map Char.toLower

/-! ### Keys -/

theorem properties_apart (value : Inherited) :
    value.property.toList ≠ "gemini".toList ∧ value.property.toList ≠ "vertex".toList ∧
      LlmProviderId.all.find? (fun id => id.name.toList = value.property.toList) = none := by
  simp only [ne_eq, String.toList_inj]
  cases value <;> decide +kernel

theorem providerKey_inherited {lower : LowerCase} {input : String} {value : Inherited} :
    providerKey lower input = some (.inherited value) ↔
      normalText lower input = value.property.toList := by
  unfold providerKey
  dsimp only
  constructor
  · intro found
    split_ifs at found with gemini vertex constructor proto
    · cases found
    · cases found
    · cases found
      exact constructor
    · cases found
      exact proto
    · simp at found
  · intro same
    obtain ⟨gemini, vertex, -⟩ := properties_apart value
    rw [same, if_neg gemini, if_neg vertex]
    cases value with
    | constructor => rw [if_pos rfl]
    | proto => rw [if_neg (by decide), if_pos rfl]

theorem normalize_eq (lower : LowerCase) (input : String) :
    normalizeLlmProviderId lower input =
      if normalText lower input = "gemini".toList then some .google
      else if normalText lower input = "vertex".toList then some .googleVertex
      else LlmProviderId.all.find? fun id => id.name.toList = normalText lower input := rfl

theorem providerKey_known {lower : LowerCase} {input : String} {id : LlmProviderId} :
    providerKey lower input = some (.known id) ↔ normalizeLlmProviderId lower input = some id := by
  by_cases inherited : ∃ value : Inherited, normalText lower input = value.property.toList
  · obtain ⟨value, same⟩ := inherited
    obtain ⟨gemini, vertex, missing⟩ := properties_apart value
    have unknown : normalizeLlmProviderId lower input = none := by
      rw [normalize_eq, same, if_neg gemini, if_neg vertex, missing]
    simp [providerKey_inherited.mpr same, unknown]
  · have constructor : normalText lower input ≠ Inherited.constructor.property.toList :=
      fun same => inherited ⟨_, same⟩
    have proto : normalText lower input ≠ Inherited.proto.property.toList :=
      fun same => inherited ⟨_, same⟩
    have same : providerKey lower input = (normalizeLlmProviderId lower input).map .known := by
      unfold providerKey
      rw [normalize_eq]
      dsimp only
      rw [if_neg constructor, if_neg proto]
      split_ifs <;> rfl
    rw [same]
    simp

theorem normalize_of_inherited {lower : LowerCase} {input : String} {value : Inherited}
    (found : providerKey lower input = some (.inherited value)) :
    normalizeLlmProviderId lower input = none := by
  rw [Option.eq_none_iff_forall_ne_some]
  intro id named
  rw [providerKey_known.mpr named] at found
  cases found

theorem normalize_of_none {lower : LowerCase} {input : String}
    (found : providerKey lower input = none) : normalizeLlmProviderId lower input = none := by
  rw [Option.eq_none_iff_forall_ne_some]
  intro id named
  rw [providerKey_known.mpr named] at found
  cases found

theorem putKeys_known (lower : LowerCase) (entries : List (String × ProviderConf formats))
    (out : ProviderKey → Option (ProviderConf formats)) :
    (fun id => putKeys lower out entries (.known id)) =
      putProviders lower (fun id => out (.known id)) entries := by
  unfold putKeys putProviders
  induction entries generalizing out with
  | nil => rfl
  | cons entry rest ih =>
    rw [List.foldl_cons, List.foldl_cons, ih]
    congr 1
    funext id
    cases found : providerKey lower entry.1 with
    | none => simp only [normalize_of_none found]
    | some key =>
      cases key with
      | known named =>
        simp only [providerKey_known.mp found]
        by_cases same : id = named
        · subst same
          simp
        · simp [same]
      | inherited value => simp [normalize_of_inherited found]

theorem putKeys_none_iff (lower : LowerCase) (entries : List (String × ProviderConf formats))
    (out : ProviderKey → Option (ProviderConf formats)) (key : ProviderKey) :
    putKeys lower out entries key = none ↔
      out key = none ∧ ∀ entry ∈ entries, providerKey lower entry.1 ≠ some key := by
  unfold putKeys
  induction entries generalizing out with
  | nil => simp
  | cons entry rest ih =>
    rw [List.foldl_cons, ih, List.forall_mem_cons]
    cases found : providerKey lower entry.1 with
    | none => simp
    | some named =>
      by_cases same : key = named
      · subst same
        simp
      · simp [same, Ne.symm same]

/-- Entries count over what there was. -/
theorem putKeys_or (lower : LowerCase) (entries : List (String × ProviderConf formats))
    {inner outer : ProviderKey → Option (ProviderConf formats)} {key : ProviderKey}
    {base : Option (ProviderConf formats)} (under : outer key = (inner key).or base) :
    putKeys lower outer entries key = (putKeys lower inner entries key).or base := by
  unfold putKeys
  induction entries generalizing inner outer with
  | nil => exact under
  | cons entry rest ih =>
    rw [List.foldl_cons, List.foldl_cons]
    apply ih
    cases providerKey lower entry.1 with
    | none => exact under
    | some named =>
      by_cases same : key = named
      · subst same
        simp
      · simpa [same] using under

/-! ### Documents that were written -/

theorem normalizeDocument_settings (input : Json) :
    (@normalizeDocument formats input).settings = normalizeOrgSettings input := by
  change { (normalizeOrgSettings input : Settings formats) with
    providers := fun id => putKeys formats.lower (fun _ => none)
      ((providerEntries input).map fun entry => (entry.1, readProviderConf entry.2)) (.known id) } =
    normalizeOrgSettings input
  rw [putKeys_known]
  rfl

theorem mergeDocument_settings (body : Body formats) (existing : Document formats) :
    (mergeDocument body existing).settings = merge body existing.settings := by
  change { (merge body existing.settings : Settings formats) with
    providers := fun id => putKeys formats.lower existing.providers body.providers (.known id) } =
    merge body existing.settings
  rw [putKeys_known]
  rfl

theorem key_unknown {lower : LowerCase} (ascii : LowersAscii lower) (value : Inherited) :
    providerKey lower value.key = none := by
  have text : normalText lower value.key =
      (Scheduler.trim value.key.toList).map Char.toLower := by
    apply ascii
    have plain : ((Scheduler.trim value.key.toList).all fun c => decide (c.toNat < 128)) = true := by
      cases value <;> decide +kernel
    intro c member
    exact of_decide_eq_true (List.all_eq_true.mp plain c member)
  unfold providerKey
  rw [text]
  cases value <;> decide +kernel

def knownEntries (d : Document formats) : List (String × ProviderConf formats) :=
  LlmProviderId.all.filterMap fun id => (d.settings.providers id).map fun conf => (id.name, conf)

def inheritedEntries (d : Document formats) : List (String × ProviderConf formats) :=
  [Inherited.constructor, .proto].filterMap fun value =>
    (d.inherited value).map fun conf => (value.key, conf)

theorem entries_toJson (d : Document formats) :
    (providerEntries d.toJson).map (fun entry => (entry.1, @readProviderConf formats entry.2)) =
      knownEntries d ++ inheritedEntries d := by
  have read {α : Type} (key : α → String) (confs : α → Option (ProviderConf formats))
      (all : List α) : (all.filterMap fun a => (confs a).map fun conf => (key a, conf.toJson)).map
        (fun entry => (entry.1, @readProviderConf formats entry.2)) =
          all.filterMap fun a => (confs a).map fun conf => (key a, conf) := by
    rw [List.map_filterMap]
    congr 1
    funext a
    cases confs a with
    | none => rfl
    | some conf => simp [providerConf_toJson]
  have entries : providerEntries d.toJson =
      (LlmProviderId.all.filterMap fun id =>
          (d.settings.providers id).map fun conf => (id.name, conf.toJson)) ++
        [Inherited.constructor, .proto].filterMap fun value =>
          (d.inherited value).map fun conf => (value.key, conf.toJson) := by
    simp [providerEntries, Document.toJson, Json.asObject, List.lookup_cons]
  rw [entries, List.map_append, read, read]
  rfl

theorem no_key_inherited (ascii : LowersAscii formats.lower) (d : Document formats)
    (value : Inherited) :
    ∀ entry ∈ knownEntries d ++ inheritedEntries d,
      providerKey formats.lower entry.1 ≠ some (.inherited value) := by
  intro entry listed found
  obtain known | inherited := List.mem_append.mp listed
  · obtain ⟨id, -, made⟩ := List.mem_filterMap.mp known
    obtain ⟨conf, -, rfl⟩ := Option.map_eq_some_iff.mp made
    rw [providerKey_known.mpr (normalize_name formats.lower id)] at found
    cases found
  · obtain ⟨other, -, made⟩ := List.mem_filterMap.mp inherited
    obtain ⟨conf, -, rfl⟩ := Option.map_eq_some_iff.mp made
    rw [key_unknown ascii] at found
    cases found

theorem putProviders_unknown (lower : LowerCase)
    {entries : List (String × ProviderConf formats)}
    (unknown : ∀ entry ∈ entries, normalizeLlmProviderId lower entry.1 = none)
    (out : LlmProviderId → Option (ProviderConf formats)) :
    putProviders lower out entries = out := by
  unfold putProviders
  induction entries with
  | nil => rfl
  | cons entry rest ih =>
    obtain ⟨here, later⟩ := List.forall_mem_cons.mp unknown
    rw [List.foldl_cons]
    simp only [here]
    exact ih later

theorem normalize_document (ascii : LowersAscii formats.lower) (d : Document formats) :
    normalizeOrgSettings d.toJson =
      { d.settings with primary := d.settings.primary.filled } := by
  have unknown : ∀ entry ∈ inheritedEntries d,
      normalizeLlmProviderId formats.lower entry.1 = none := by
    intro entry listed
    obtain ⟨value, -, made⟩ := List.mem_filterMap.mp listed
    obtain ⟨conf, -, rfl⟩ := Option.map_eq_some_iff.mp made
    exact normalize_of_none (key_unknown ascii value)
  have providers : (normalizeOrgSettings d.toJson : Settings formats).providers =
      d.settings.providers := by
    change putProviders formats.lower (fun _ => none) ((providerEntries d.toJson).map
      fun entry => (entry.1, readProviderConf entry.2)) = _
    rw [entries_toJson]
    have split : putProviders formats.lower (fun _ => none)
        (knownEntries d ++ inheritedEntries d) =
          putProviders formats.lower (putProviders formats.lower (fun _ => none) (knownEntries d))
            (inheritedEntries d) := List.foldl_append
    rw [split, putProviders_unknown formats.lower unknown]
    funext id
    rw [knownEntries, putProviders_named, if_pos id.mem_all, Option.or_none]
  have others : (normalizeOrgSettings d.toJson : Settings formats) =
      { (normalizeOrgSettings d.settings.toJson : Settings formats) with
        providers := (normalizeOrgSettings d.toJson : Settings formats).providers } := by
    simp [normalizeOrgSettings, Document.toJson, Settings.toJson, List.lookup_cons]
  rw [others, providers, normalize_toJson]

theorem normalizeDocument_toJson (ascii : LowersAscii formats.lower) (d : Document formats) :
    normalizeDocument d.toJson =
      { settings := { d.settings with primary := d.settings.primary.filled }
        inherited := fun _ => none } := by
  have settings := @normalizeDocument_settings formats d.toJson
  rw [normalize_document ascii] at settings
  have inherited : ∀ value, (normalizeDocument d.toJson : Document formats).inherited value =
      none := by
    intro value
    change putKeys formats.lower (fun _ => none) ((providerEntries d.toJson).map
      fun entry => (entry.1, readProviderConf entry.2)) (.inherited value) = none
    rw [entries_toJson, putKeys_none_iff]
    exact ⟨rfl, no_key_inherited ascii d value⟩
  cases read : (normalizeDocument d.toJson : Document formats) with
  | mk settings' inherited' =>
    rw [read] at settings inherited
    rw [← settings]
    congr 1
    funext value
    exact inherited value

/-! ### The laws -/

theorem inherited_none_iff (input : Json) :
    (∀ value, (normalizeDocument input : Document formats).inherited value = none) ↔
      ∀ entry ∈ providerEntries input, ¬ NamesInherited formats.lower entry.1 := by
  have each (value : Inherited) :
      (normalizeDocument input : Document formats).inherited value = none ↔
        ∀ entry ∈ providerEntries input,
          normalText formats.lower entry.1 ≠ value.property.toList := by
    change putKeys formats.lower (fun _ => none) ((providerEntries input).map
      fun entry => (entry.1, @readProviderConf formats entry.2)) (.inherited value) = none ↔ _
    rw [putKeys_none_iff]
    simp only [List.forall_mem_map, ne_eq, providerKey_inherited, true_and]
  simp only [each, NamesInherited, not_exists]
  exact ⟨fun all entry listed value => all value entry listed,
    fun all value entry listed => all entry listed value⟩

theorem body_none_iff (body : Body formats) :
    (∀ value, putKeys formats.lower (fun _ => none) body.providers (.inherited value) = none) ↔
      ∀ entry ∈ body.providers, ¬ NamesInherited formats.lower entry.1 := by
  simp only [putKeys_none_iff, ne_eq, providerKey_inherited, true_and, NamesInherited, not_exists]
  exact ⟨fun all entry listed value => all value entry listed,
    fun all value entry listed => all entry listed value⟩

theorem projection_iff (ascii : LowersAscii formats.lower) (input : Json) :
    (normalizeDocument (normalizeDocument input : Document formats).toJson =
        (normalizeDocument input : Document formats)) ↔
      ∀ entry ∈ providerEntries input, ¬ NamesInherited formats.lower entry.1 := by
  rw [normalizeDocument_toJson ascii, ← inherited_none_iff]
  constructor
  · intro same value
    rw [← same]
  · intro none
    have filled : (normalizeDocument input : Document formats).settings.primary.filled =
        (normalizeDocument input : Document formats).settings.primary := by
      rw [normalizeDocument_settings]
      exact primary_normal input
    rw [filled]
    cases read : (normalizeDocument input : Document formats) with
    | mk settings inherited =>
      rw [read] at none
      congr 1
      funext value
      exact (none value).symm

theorem put_settings (ascii : LowersAscii formats.lower) (body : Body formats) (stored : Json)
    (key : Setting) :
    (putSettings body stored).1.settings.get key =
      (body.get key).getD ((normalizeDocument stored : Document formats).settings.get key) := by
  rw [normalizeDocument_settings, ← merge_get, normalize_toJson]
  change (normalizeDocument (mergeDocument body (normalizeDocument stored)).toJson).settings.get
    key = _
  rw [normalizeDocument_toJson ascii, mergeDocument_settings, normalizeDocument_settings]

theorem replaced_iff (ascii : LowersAscii formats.lower) (body : Body formats) (stored : Json) :
    Replaced body (normalizeDocument stored) (putSettings body stored).1 ↔
      (∀ entry ∈ providerEntries stored, ¬ NamesInherited formats.lower entry.1) ∧
        ∀ entry ∈ body.providers, ¬ NamesInherited formats.lower entry.1 := by
  have dropped : ∀ value, (putSettings body stored).1.inherited value = none := by
    intro value
    change (normalizeDocument (mergeDocument body (normalizeDocument stored)).toJson).inherited
      value = none
    rw [normalizeDocument_toJson ascii]
  rw [← inherited_none_iff, ← body_none_iff]
  constructor
  · rintro ⟨-, inherited⟩
    have none : ∀ value, putKeys formats.lower (fun _ => none) body.providers (.inherited value) =
        none ∧ (normalizeDocument stored : Document formats).inherited value = none := by
      intro value
      have here := inherited value
      rw [dropped] at here
      exact Option.or_eq_none_iff.mp here.symm
    exact ⟨fun value => (none value).2, fun value => (none value).1⟩
  · rintro ⟨old, new⟩
    refine ⟨put_settings ascii body stored, fun value => ?_⟩
    rw [dropped, old value, new value]
    rfl

/-- Normalization is a projection, and an update replaces what its body names, exactly where no
key of the providers names what the table of aliases inherits; a later read returns the document
of the response in any case. -/
theorem settings_laws (formats : Formats) (ascii : LowersAscii formats.lower) :
    (∀ input : Json,
      (normalizeDocument (normalizeDocument input : Document formats).toJson =
          (normalizeDocument input : Document formats)) ↔
        ∀ entry ∈ providerEntries input, ¬ NamesInherited formats.lower entry.1) ∧
    (∀ (body : Body formats) (stored : Json),
      Replaced body (normalizeDocument stored) (putSettings body stored).1 ↔
        (∀ entry ∈ providerEntries stored, ¬ NamesInherited formats.lower entry.1) ∧
          ∀ entry ∈ body.providers, ¬ NamesInherited formats.lower entry.1) ∧
    ∀ (body : Body formats) (stored : Json),
      getSettings (putSettings body stored).2 = (putSettings body stored).1 :=
  ⟨projection_iff ascii, replaced_iff ascii, fun _ _ => rfl⟩

end document

/-! ### A key that the table inherits -/

def asciiFormats : Formats where
  uuid _ := true
  url _ := true
  lower := {
    toLowerCase := List.map Char.toLower
    stays := by
      intro s plain
      have low : ∀ c ∈ "abcdefghijklmnopqrstuvwxyz0123456789-".toList, c.toLower = c := by
        simp
      have same : s.map Char.toLower = s.map id := by
        apply List.map_congr_left
        intro c member
        exact low c (by simpa using List.all_eq_true.mp plain c member)
      rw [same, List.map_id] }

theorem asciiFormats_lowers : LowersAscii asciiFormats.lower := fun _ _ => rfl

/-- Two spellings of one provider: `{"llm":{"providers":{"Gemini":{},"google":{}}}}` -/
def twoSpellings : Json :=
  .obj [("llm", .obj [("providers", .obj [("Gemini", .obj []), ("google", .obj [])])])]

theorem settings_laws_two_spellings :
    (normalizeDocument (normalizeDocument twoSpellings : Document asciiFormats).toJson =
        (normalizeDocument twoSpellings : Document asciiFormats)) := by
  refine ((settings_laws asciiFormats asciiFormats_lowers).1 twoSpellings).mpr ?_
  have entries : providerEntries twoSpellings = [("Gemini", .obj []), ("google", .obj [])] := by
    simp [providerEntries, twoSpellings, Json.asObject]
  rw [entries]
  simp only [List.forall_mem_cons, List.not_mem_nil, false_imp_iff, implies_true, and_true]
  have apart : ∀ value : Inherited, normalText asciiFormats.lower "Gemini" ≠ value.property.toList ∧
      normalText asciiFormats.lower "google" ≠ value.property.toList := by
    intro value
    cases value <;> decide +kernel
  constructor
  · rintro ⟨value, same⟩
    exact (apart value).1 same
  · rintro ⟨value, same⟩
    exact (apart value).2 same

/-- `{"llm":{"providers":{"Constructor":{}}}}` -/
def inheritedInput : Json :=
  .obj [("llm", .obj [("providers", .obj [("Constructor", .obj [])])])]

def inheritedBody : Body asciiFormats where
  shellRunEnabled := none
  defaultToolsetId := none
  primary := none
  providers := [("Constructor", { baseUrl := none, apiKind := none })]
  engineAuth _ := none
  engineRuntime _ := none

theorem inherited_key_dropped :
    (normalizeDocument (normalizeDocument inheritedInput : Document asciiFormats).toJson ≠
        (normalizeDocument inheritedInput : Document asciiFormats)) ∧
      ¬ Replaced inheritedBody (normalizeDocument (.obj []))
        (putSettings inheritedBody (.obj [])).1 := by
  have names : NamesInherited asciiFormats.lower "Constructor" := ⟨.constructor, by decide +kernel⟩
  constructor
  · intro same
    exact (projection_iff asciiFormats_lowers inheritedInput).mp same ("Constructor", .obj [])
      (by simp [providerEntries, inheritedInput, Json.asObject]) names
  · intro replaced
    exact ((replaced_iff asciiFormats_lowers inheritedBody (.obj [])).mp replaced).2 _
      (List.mem_singleton.mpr rfl) names

end Vespid.Api.SettingsDocument
