import Mathlib.Data.List.Nodup
import Vespid.Lib.History
import Vespid.Lib.OrderedMap

/-!
# Connector secrets

A secret is encrypted under a key of its own, and that key under the key of the environment. Two
stores keep the secrets, one in a map and one in a table. Both do what a vault does that keeps the
values as they are, each with the id of the environment's key at the time.
-/

namespace Vespid.Api.Secrets

/-! ### Encryption -/

abbrev Bytes := List UInt8

/-- AES-256-GCM, the codecs of a buffer, and how texts are compared. -/
structure Platform where
  /-- Ciphertext and tag of a plaintext, by key and initialization vector. -/
  encipher : (key iv plaintext : Bytes) → Bytes × Bytes
  decipher : (key iv ciphertext tag : Bytes) → Option Bytes
  decodeBase64 : String → Bytes
  encodeUtf8 : String → Bytes
  decodeUtf8 : Bytes → String
  localeCompare : String → String → Ordering
  collate : String → String → Ordering
  decipher_encipher : ∀ key iv plaintext, decipher key iv (encipher key iv plaintext).1
    (encipher key iv plaintext).2 = some plaintext
  decode_encode : ∀ text, decodeUtf8 (encodeUtf8 text) = text

inductive SecretError where
  | kekInvalidLength
  | kekBase64Required
  | kekBase64Invalid
  | kekNotFound
  /-- The tag does not belong to the ciphertext. -/
  | unauthenticated
  | alreadyExists
  | notFound
  deriving DecidableEq

structure Kek where
  kekId : String
  kekKeyBytes : Bytes
  deriving DecidableEq

structure EncryptedSecretRecord where
  kekId : String
  dekCiphertext : Bytes
  dekIv : Bytes
  dekTag : Bytes
  secretCiphertext : Bytes
  secretIv : Bytes
  secretTag : Bytes
  deriving DecidableEq

/-- `SECRETS_KEK_ID` and `SECRETS_KEK_BASE64`. -/
structure ProcessEnv where
  kekId : Option String
  kekBase64 : Option String

/-- The random bytes of an encryption. -/
structure Draw where
  dek : Bytes
  dekIv : Bytes
  secretIv : Bytes
  dek_length : dek.length = 32

section crypto
variable (c : Platform)

def encryptAes256Gcm (iv key plaintext : Bytes) : Except SecretError (Bytes × Bytes) :=
  if key.length ≠ 32 then .error .kekInvalidLength else .ok (c.encipher key iv plaintext)

def decryptAes256Gcm (key ciphertext iv tag : Bytes) : Except SecretError Bytes :=
  if key.length ≠ 32 then .error .kekInvalidLength
  else match c.decipher key iv ciphertext tag with
    | some plaintext => .ok plaintext
    | none => .error .unauthenticated

def parseKekFromEnv (env : ProcessEnv) : Except SecretError Kek :=
  match env.kekBase64.filter (· ≠ "") with
  | none => .error .kekBase64Required
  | some base64 =>
    let bytes := c.decodeBase64 base64
    if bytes.length ≠ 32 then .error .kekBase64Invalid
    else .ok { kekId := env.kekId.getD "dev-kek-v1", kekKeyBytes := bytes }

def encryptSecret (draw : Draw) (plaintext : String) (kek : Kek) :
    Except SecretError EncryptedSecretRecord := do
  let dekEncrypted ← encryptAes256Gcm c draw.dekIv kek.kekKeyBytes draw.dek
  let secretEncrypted ← encryptAes256Gcm c draw.secretIv draw.dek (c.encodeUtf8 plaintext)
  return { kekId := kek.kekId, dekCiphertext := dekEncrypted.1, dekIv := draw.dekIv,
           dekTag := dekEncrypted.2, secretCiphertext := secretEncrypted.1,
           secretIv := draw.secretIv, secretTag := secretEncrypted.2 }

def decryptSecret (encrypted : EncryptedSecretRecord) (resolveKek : String → Option Bytes) :
    Except SecretError String := do
  match resolveKek encrypted.kekId with
  | none => .error .kekNotFound
  | some kekKeyBytes =>
    let dek ← decryptAes256Gcm c kekKeyBytes encrypted.dekCiphertext encrypted.dekIv
      encrypted.dekTag
    let plaintextBytes ← decryptAes256Gcm c dek encrypted.secretCiphertext encrypted.secretIv
      encrypted.secretTag
    return c.decodeUtf8 plaintextBytes

/-- `kekId === kek.kekId ? kek.kekKeyBytes : null` -/
def resolveKek (kek : Kek) (kekId : String) : Option Bytes :=
  if kekId = kek.kekId then some kek.kekKeyBytes else none

end crypto

/-! ### The two stores -/

structure ConnectorSecretRecord where
  id : Nat
  organizationId : Nat
  connectorId : String
  name : String
  createdByUserId : Nat
  updatedByUserId : Nat
  createdAt : Nat
  updatedAt : Nat
  deriving DecidableEq

/-- A row of `connector_secrets`. -/
structure ConnectorSecret where
  record : ConnectorSecretRecord
  encrypted : EncryptedSecretRecord
  deriving DecidableEq

inductive Request where
  | list (organizationId : Nat) (connectorId : Option String)
  | create (organizationId actorUserId : Nat) (connectorId name value : String)
  | load (organizationId secretId : Nat)
  | rotate (organizationId actorUserId secretId : Nat) (value : String)
  | delete (organizationId secretId : Nat)

/-- A request, with what it finds in the environment and draws. -/
structure Call where
  request : Request
  env : ProcessEnv
  draw : Draw
  randomUuid : Nat
  now : Nat

inductive Answer where
  | secrets (records : List ConnectorSecretRecord)
  | secret (record : ConnectorSecretRecord)
  | value (value : String)
  | rotated (record : Option ConnectorSecretRecord)
  | deleted (found : Bool)
  | refused (error : SecretError)
  deriving DecidableEq

/-- `input.connectorId && secret.connectorId !== input.connectorId` does not hold. -/
def ofConnector (connectorId : Option String) (record : ConnectorSecretRecord) : Bool :=
  (connectorId.filter (· ≠ "")).all fun id => record.connectorId = id

def Call.newRecord (call : Call) (organizationId actorUserId : Nat) (connectorId name : String) :
    ConnectorSecretRecord :=
  { id := call.randomUuid, organizationId, connectorId, name, createdByUserId := actorUserId,
    updatedByUserId := actorUserId, createdAt := call.now, updatedAt := call.now }

def Call.touched (call : Call) (actorUserId : Nat) (record : ConnectorSecretRecord) :
    ConnectorSecretRecord :=
  { record with updatedByUserId := actorUserId, updatedAt := call.now }

/-- The unique index on organization, connector and name. -/
def indexed (organizationId : Nat) (connectorId name : String) (record : ConnectorSecretRecord) :
    Bool :=
  record.organizationId = organizationId && record.connectorId = connectorId && record.name = name

section stores
variable (c : Platform)

def Call.encrypted (call : Call) (value : String) : Except SecretError EncryptedSecretRecord := do
  encryptSecret c call.draw value (← parseKekFromEnv c call.env)

/-- `loadConnectorSecretValue`, of a row that was found. -/
def Call.decrypted (call : Call) (secret : ConnectorSecret) : Answer :=
  match parseKekFromEnv c call.env with
  | .error error => .refused error
  | .ok kek =>
    match decryptSecret c secret.encrypted (resolveKek kek) with
    | .ok value => .value value
    | .error error => .refused error

/-- `MemoryAppStore`, as far as it keeps connector secrets. -/
def memoryStep (connectorSecrets : List (Nat × ConnectorSecret)) (call : Call) :
    Answer × List (Nat × ConnectorSecret) :=
  match call.request with
  | .list organizationId connectorId =>
    let rows := (connectorSecrets.map fun entry => entry.2.record).filter fun record =>
      record.organizationId = organizationId && ofConnector connectorId record
    (.secrets (rows.mergeSort fun a b =>
      c.localeCompare (a.connectorId ++ ":" ++ a.name) (b.connectorId ++ ":" ++ b.name) != .gt),
      connectorSecrets)
  | .create organizationId actorUserId connectorId name value =>
    if connectorSecrets.any fun entry => indexed organizationId connectorId name entry.2.record then
      (.refused .alreadyExists, connectorSecrets)
    else match call.encrypted c value with
      | .error error => (.refused error, connectorSecrets)
      | .ok encrypted =>
        let record := call.newRecord organizationId actorUserId connectorId name
        (.secret record, OrderedMap.set connectorSecrets record.id { record, encrypted })
  | .load organizationId secretId =>
    match connectorSecrets.lookup secretId with
    | none => (.refused .notFound, connectorSecrets)
    | some secret =>
      if secret.record.organizationId ≠ organizationId then (.refused .notFound, connectorSecrets)
      else (call.decrypted c secret, connectorSecrets)
  | .rotate organizationId actorUserId secretId value =>
    match connectorSecrets.lookup secretId with
    | none => (.rotated none, connectorSecrets)
    | some existing =>
      if existing.record.organizationId ≠ organizationId then (.rotated none, connectorSecrets)
      else match call.encrypted c value with
        | .error error => (.refused error, connectorSecrets)
        | .ok encrypted =>
          let record := call.touched actorUserId existing.record
          (.rotated (some record), OrderedMap.set connectorSecrets record.id { record, encrypted })
  | .delete organizationId secretId =>
    match connectorSecrets.lookup secretId with
    | none => (.deleted false, connectorSecrets)
    | some existing =>
      if existing.record.organizationId ≠ organizationId then (.deleted false, connectorSecrets)
      else (.deleted true, connectorSecrets.filter fun entry => entry.1 ≠ secretId)

/-- `where organization_id = … and id = …` -/
def isSecret (organizationId secretId : Nat) (record : ConnectorSecretRecord) : Bool :=
  record.organizationId = organizationId && record.id = secretId

/-- `PgAppStore`, as far as it keeps connector secrets. -/
def pgStep (connectorSecrets : List ConnectorSecret) (call : Call) :
    Answer × List ConnectorSecret :=
  match call.request with
  | .list organizationId connectorId =>
    let rows := (connectorSecrets.map (·.record)).filter fun record =>
      record.organizationId = organizationId && ofConnector connectorId record
    (.secrets (rows.mergeSort fun a b =>
      ((c.collate a.connectorId b.connectorId).then (c.collate a.name b.name)) != .gt),
      connectorSecrets)
  | .create organizationId actorUserId connectorId name value =>
    match call.encrypted c value with
    | .error error => (.refused error, connectorSecrets)
    | .ok encrypted =>
      if connectorSecrets.any fun row => indexed organizationId connectorId name row.record then
        (.refused .alreadyExists, connectorSecrets)
      else
        let record := call.newRecord organizationId actorUserId connectorId name
        (.secret record, connectorSecrets ++ [{ record, encrypted }])
  | .load organizationId secretId =>
    match connectorSecrets.find? fun row => isSecret organizationId secretId row.record with
    | none => (.refused .notFound, connectorSecrets)
    | some secret => (call.decrypted c secret, connectorSecrets)
  | .rotate organizationId actorUserId secretId value =>
    match call.encrypted c value with
    | .error error => (.refused error, connectorSecrets)
    | .ok encrypted =>
      let rotated := connectorSecrets.map fun row =>
        if isSecret organizationId secretId row.record then
          { record := call.touched actorUserId row.record, encrypted }
        else row
      (.rotated ((rotated.find? fun row => isSecret organizationId secretId row.record).map
        (·.record)), rotated)
  | .delete organizationId secretId =>
    (.deleted (connectorSecrets.any fun row => isSecret organizationId secretId row.record),
      connectorSecrets.filter fun row => !isSecret organizationId secretId row.record)

end stores

/-! ### The vault -/

/-- A secret in the vault; `value` is what it holds. -/
structure Kept where
  record : ConnectorSecretRecord
  kekId : String
  value : Except SecretError String

def vaultStep (c : Platform) (vault : List Kept) (call : Call) : Answer × List Kept :=
  match call.request with
  | .list organizationId connectorId =>
    (.secrets ((vault.map (·.record)).filter fun record =>
      record.organizationId = organizationId && ofConnector connectorId record), vault)
  | .create organizationId actorUserId connectorId name value =>
    if vault.any fun kept => indexed organizationId connectorId name kept.record then
      (.refused .alreadyExists, vault)
    else match parseKekFromEnv c call.env with
      | .error error => (.refused error, vault)
      | .ok kek =>
        let record := call.newRecord organizationId actorUserId connectorId name
        (.secret record, vault ++ [{ record, kekId := kek.kekId, value := .ok value }])
  | .load organizationId secretId =>
    match vault.find? fun kept => isSecret organizationId secretId kept.record with
    | none => (.refused .notFound, vault)
    | some kept =>
      match parseKekFromEnv c call.env with
      | .error error => (.refused error, vault)
      | .ok kek =>
        if kept.kekId ≠ kek.kekId then (.refused .kekNotFound, vault)
        else match kept.value with
          | .ok value => (.value value, vault)
          | .error error => (.refused error, vault)
  | .rotate organizationId actorUserId secretId value =>
    match vault.find? fun kept => isSecret organizationId secretId kept.record with
    | none => (.rotated none, vault)
    | some kept =>
      match parseKekFromEnv c call.env with
      | .error error => (.refused error, vault)
      | .ok kek =>
        (.rotated (some (call.touched actorUserId kept.record)), vault.map fun kept =>
          if isSecret organizationId secretId kept.record then
            { record := call.touched actorUserId kept.record, kekId := kek.kekId,
              value := .ok value }
          else kept)
  | .delete organizationId secretId =>
    (.deleted (vault.any fun kept => isSecret organizationId secretId kept.record),
      vault.filter fun kept => !isSecret organizationId secretId kept.record)

/-- Listings may differ in their order. -/
def Answer.Alike : Answer → Answer → Prop
  | .secrets first, .secrets second => first.Perm second
  | first, second => first = second

/-! ### Every history -/

/-- The stores and the vault, after the same calls. -/
structure World where
  memory : List (Nat × ConnectorSecret)
  table : List ConnectorSecret
  vault : List Kept

def World.step (c : Platform) (s : World) (call : Call) : World where
  memory := (memoryStep c s.memory call).2
  table := (pgStep c s.table call).2
  vault := (vaultStep c s.vault call).2

def emptyWorld : World := { memory := [], table := [], vault := [] }

/-- The environment's key is the one of its id, and a new id is new. -/
structure Meets (c : Platform) (keyOf : String → Bytes) (s : World) (call : Call) : Prop where
  key : ∀ kek, parseKekFromEnv c call.env = .ok kek → kek.kekKeyBytes = keyOf kek.kekId
  fresh : call.randomUuid ∉ s.table.map (·.record.id)

abbrev Reached (c : Platform) (keyOf : String → Bytes) (s t : World) : Prop :=
  History.Reached (World.step c) (Meets c keyOf) s t

section encryption
variable {c : Platform} {keyOf : String → Bytes}

theorem parseKek_length {env : ProcessEnv} {kek : Kek} (parsed : parseKekFromEnv c env = .ok kek) :
    kek.kekKeyBytes.length = 32 := by
  unfold parseKekFromEnv at parsed
  split at parsed
  · cases parsed
  · dsimp only at parsed
    split at parsed
    · cases parsed
    · next length =>
      cases parsed
      exact not_not.mp length

theorem decryptAes256Gcm_encipher {key : Bytes} (length : key.length = 32) (iv plaintext : Bytes) :
    decryptAes256Gcm c key (c.encipher key iv plaintext).1 iv (c.encipher key iv plaintext).2 =
      .ok plaintext := by
  simp only [decryptAes256Gcm, length, ne_eq, not_true_eq_false, ↓reduceIte, c.decipher_encipher]

theorem encryptAes256Gcm_ok {key : Bytes} (length : key.length = 32) (iv plaintext : Bytes) :
    encryptAes256Gcm c iv key plaintext = .ok (c.encipher key iv plaintext) := by
  simp only [encryptAes256Gcm, length, ne_eq, not_true_eq_false, ↓reduceIte]

/-- What is encrypted under a key is what that key decrypts. -/
theorem encryptSecret_spec (draw : Draw) (plaintext : String) {kek : Kek}
    (length : kek.kekKeyBytes.length = 32) :
    ∃ encrypted, encryptSecret c draw plaintext kek = .ok encrypted ∧ encrypted.kekId = kek.kekId ∧
      ∀ resolve : String → Option Bytes, resolve kek.kekId = some kek.kekKeyBytes →
        decryptSecret c encrypted resolve = .ok plaintext := by
  let dek := c.encipher kek.kekKeyBytes draw.dekIv draw.dek
  let secret := c.encipher draw.dek draw.secretIv (c.encodeUtf8 plaintext)
  refine ⟨{ kekId := kek.kekId, dekCiphertext := dek.1, dekIv := draw.dekIv, dekTag := dek.2,
            secretCiphertext := secret.1, secretIv := draw.secretIv, secretTag := secret.2 },
    ?_, rfl, fun resolve resolved => ?_⟩
  · simp only [encryptSecret, encryptAes256Gcm_ok length, encryptAes256Gcm_ok draw.dek_length]
    rfl
  · simp only [decryptSecret, resolved, dek, secret, decryptAes256Gcm_encipher length]
    show (decryptAes256Gcm c draw.dek _ _ _).bind _ = _
    rw [decryptAes256Gcm_encipher draw.dek_length]
    exact congrArg Except.ok (c.decode_encode plaintext)

theorem encrypted_error {call : Call} {error : SecretError}
    (parsed : parseKekFromEnv c call.env = .error error) (value : String) :
    call.encrypted c value = .error error := by
  unfold Call.encrypted
  rw [parsed]
  rfl

/-- What a row holds, by the keys of the environments. -/
def reveal (c : Platform) (keyOf : String → Bytes) (row : ConnectorSecret) : Kept where
  record := row.record
  kekId := row.encrypted.kekId
  value := decryptSecret c row.encrypted fun kekId => some (keyOf kekId)

@[simp] theorem reveal_record (row : ConnectorSecret) : (reveal c keyOf row).record = row.record :=
  rfl

theorem reveal_kekId (row : ConnectorSecret) :
    (reveal c keyOf row).kekId = row.encrypted.kekId := rfl

theorem reveal_value (row : ConnectorSecret) : (reveal c keyOf row).value =
    decryptSecret c row.encrypted fun kekId => some (keyOf kekId) := rfl

/-- A value put under a key, as the vault keeps it. -/
theorem encrypted_reveal {call : Call} {kek : Kek} (parsed : parseKekFromEnv c call.env = .ok kek)
    (key : kek.kekKeyBytes = keyOf kek.kekId) (value : String) :
    ∃ encrypted, call.encrypted c value = .ok encrypted ∧ ∀ record,
      reveal c keyOf { record, encrypted } =
        { record, kekId := kek.kekId, value := .ok value } := by
  obtain ⟨encrypted, done, kekId, decrypts⟩ :=
    encryptSecret_spec (c := c) call.draw value (parseKek_length parsed)
  refine ⟨encrypted, ?_, fun record => ?_⟩
  · unfold Call.encrypted
    rw [parsed]
    exact done
  · unfold reveal
    simp only [kekId]
    rw [decrypts _ (by rw [← key])]

/-- A row that was found is loaded as the vault has it. -/
theorem decrypted_reveal {call : Call} {kek : Kek} (parsed : parseKekFromEnv c call.env = .ok kek)
    (key : kek.kekKeyBytes = keyOf kek.kekId) (secret : ConnectorSecret) :
    call.decrypted c secret =
      if (reveal c keyOf secret).kekId ≠ kek.kekId then .refused .kekNotFound
      else match (reveal c keyOf secret).value with
        | .ok value => .value value
        | .error error => .refused error := by
  unfold Call.decrypted
  rw [parsed]
  dsimp only
  by_cases same : (reveal c keyOf secret).kekId = kek.kekId
  · have resolved : resolveKek kek secret.encrypted.kekId =
        some (keyOf secret.encrypted.kekId) := by
      rw [reveal_kekId] at same
      rw [resolveKek, if_pos same, key, same]
    have alike : decryptSecret c secret.encrypted (resolveKek kek) =
        decryptSecret c secret.encrypted fun kekId => some (keyOf kekId) := by
      simp only [decryptSecret, resolved]
    rw [if_neg (not_not.mpr same), alike, reveal_value]
  · have unresolved : resolveKek kek secret.encrypted.kekId = none := if_neg same
    rw [if_pos same]
    simp only [decryptSecret, unresolved]

end encryption

/-! ### The map and the table -/

/-- The row under its id, as the map has it. -/
def entryOf (row : ConnectorSecret) : Nat × ConnectorSecret := (row.record.id, row)

section rows
variable {table : List ConnectorSecret} {organizationId secretId : Nat}

theorem isSecret_iff {record : ConnectorSecretRecord} : isSecret organizationId secretId record =
    true ↔ record.organizationId = organizationId ∧ record.id = secretId := by
  simp [isSecret]

theorem lookup_entryOf (table : List ConnectorSecret) (secretId : Nat) :
    (table.map entryOf).lookup secretId = table.find? fun row => row.record.id = secretId := by
  induction table with
  | nil => rfl
  | cons row rest ih =>
    rw [List.map_cons, entryOf, List.lookup_cons, List.find?_cons, ih]
    by_cases same : row.record.id = secretId
    · simp [same]
    · have other : (secretId == row.record.id) = false := by simpa using Ne.symm same
      simp [same, other]

/-- A secret of the organization is found in both, or in neither. -/
theorem lookup_cases (organizationId secretId : Nat) (ids : (table.map (·.record.id)).Nodup) :
    ((∀ row ∈ table, isSecret organizationId secretId row.record = false) ∧
      ∀ row, (table.map entryOf).lookup secretId = some row →
        row.record.organizationId ≠ organizationId) ∨
    ∃ row ∈ table, isSecret organizationId secretId row.record = true ∧
      (table.map entryOf).lookup secretId = some row ∧
      (table.find? fun row => isSecret organizationId secretId row.record) = some row := by
  rw [lookup_entryOf]
  have unique {a b : ConnectorSecret} (inA : a ∈ table) (inB : b ∈ table)
      (same : a.record.id = b.record.id) : a = b := List.inj_on_of_nodup_map ids inA inB same
  cases found : table.find? fun row => isSecret organizationId secretId row.record with
  | none =>
    have missing (row : ConnectorSecret) (mem : row ∈ table) :
        isSecret organizationId secretId row.record = false := by
      simpa using List.find?_eq_none.mp found row mem
    refine .inl ⟨missing, fun row here same => ?_⟩
    have mem := List.mem_of_find?_eq_some here
    have id : row.record.id = secretId := by simpa using List.find?_some here
    have is := missing row mem
    rw [isSecret_iff.mpr ⟨same, id⟩] at is
    cases is
  | some row =>
    have mem := List.mem_of_find?_eq_some found
    have is : isSecret organizationId secretId row.record = true := by
      simpa using List.find?_some found
    refine .inr ⟨row, mem, is, ?_, rfl⟩
    cases here : table.find? fun row => row.record.id = secretId with
    | none =>
      have missing := List.find?_eq_none.mp here row mem
      simp [(isSecret_iff.mp is).2] at missing
    | some other =>
      have id : other.record.id = secretId := by simpa using List.find?_some here
      rw [unique (List.mem_of_find?_eq_some here) mem (id.trans (isSecret_iff.mp is).2.symm)]

/-- Where the secret is the organization's, its id tells it from the others. -/
theorem isSecret_of_id (ids : (table.map (·.record.id)).Nodup) {row other : ConnectorSecret}
    (mem : row ∈ table) (is : isSecret organizationId secretId row.record = true)
    (there : other ∈ table) :
    isSecret organizationId secretId other.record = decide (other.record.id = secretId) := by
  by_cases same : other.record.id = secretId
  · have one : other = row :=
      List.inj_on_of_nodup_map ids there mem (same.trans (isSecret_iff.mp is).2.symm)
    rw [one, is]
    simp [(isSecret_iff.mp is).2]
  · simp [isSecret, same]

theorem set_entryOf {row : ConnectorSecret} (ids : (table.map (·.record.id)).Nodup)
    (mem : row.record.id ∈ table.map (·.record.id)) :
    OrderedMap.set (table.map entryOf) row.record.id row =
      (table.map fun other => if other.record.id = row.record.id then row else other).map
        entryOf := by
  induction table with
  | nil => cases mem
  | cons first rest ih =>
    obtain ⟨apart, ids⟩ := List.nodup_cons.mp ids
    rw [List.map_cons, entryOf, OrderedMap.set]
    by_cases same : first.record.id = row.record.id
    · have others : rest.map (fun other => if other.record.id = row.record.id then row else other) =
          rest := by
        refine (List.map_congr_left fun other there => ?_).trans (List.map_id rest)
        refine if_neg fun again => apart ?_
        exact List.mem_map.mpr ⟨other, there, again.trans same.symm⟩
      rw [if_pos same, List.map_cons, if_pos same, others]
      rfl
    · have later : row.record.id ∈ rest.map (·.record.id) := by
        rcases List.mem_cons.mp mem with here | later
        · exact absurd here.symm same
        · exact later
      rw [if_neg same, List.map_cons, if_neg same, List.map_cons, ih ids later]
      rfl

end rows

/-! ### The vault and the stores -/

/-- The map and the table have the same rows, and the vault what they hold. -/
structure Corresponds (c : Platform) (keyOf : String → Bytes) (s : World) : Prop where
  memory : s.memory = s.table.map entryOf
  ids : (s.table.map (·.record.id)).Nodup
  vault : s.vault = s.table.map (reveal c keyOf)

/-- The answers of the stores are the vault's. Where the environment has no key, a request to put a
value is refused by the table before it looks for the secret. -/
structure Agree (c : Platform) (s : World) (call : Call) : Prop where
  memory : (memoryStep c s.memory call).1.Alike (vaultStep c s.vault call).1
  pg : (pgStep c s.table call).1.Alike (vaultStep c s.vault call).1 ∨
    ∃ error, parseKekFromEnv c call.env = .error error ∧
      (pgStep c s.table call).1 = .refused error ∧
      (vaultStep c s.vault call).1 ∈ [.refused .alreadyExists, .rotated none]

theorem alike_refl (answer : Answer) : answer.Alike answer := by
  cases answer with
  | secrets records => exact .refl _
  | _ => rfl

section steps
variable {c : Platform} {keyOf : String → Bytes} {s : World} {call : Call}

theorem any_entryOf (p : ConnectorSecretRecord → Bool) (table : List ConnectorSecret) :
    (table.map entryOf).any (fun entry => p entry.2.record) =
      table.any fun row => p row.record := by
  rw [List.any_map]
  rfl

section reveal
variable (c keyOf) (p : ConnectorSecretRecord → Bool) (table : List ConnectorSecret)

theorem any_reveal : (table.map (reveal c keyOf)).any (fun kept => p kept.record) =
    table.any fun row => p row.record := by
  rw [List.any_map]
  rfl

theorem find_reveal : (table.map (reveal c keyOf)).find? (fun kept => p kept.record) =
    (table.find? fun row => p row.record).map (reveal c keyOf) := by
  rw [List.find?_map]
  rfl

end reveal

/-- A call by what it comes to in the stores and the vault. -/
theorem agree_of {answer answerPg answerVault : Answer} {memory : List (Nat × ConnectorSecret)}
    {table : List ConnectorSecret} {vault : List Kept}
    (inMap : memoryStep c s.memory call = (answer, memory))
    (inTable : pgStep c s.table call = (answerPg, table))
    (inVault : vaultStep c s.vault call = (answerVault, vault)) (alike : answer.Alike answerVault)
    (alikePg : answerPg.Alike answerVault ∨ ∃ error, parseKekFromEnv c call.env = .error error ∧
      answerPg = .refused error ∧ answerVault ∈ [.refused .alreadyExists, .rotated none])
    (rows : memory = table.map entryOf) (ids : (table.map (·.record.id)).Nodup)
    (holds : vault = table.map (reveal c keyOf)) :
    Agree c s call ∧ Corresponds c keyOf (s.step c call) := by
  refine ⟨⟨?_, ?_⟩, ?_⟩
  · rw [inMap, inVault]
    exact alike
  · rw [inTable, inVault]
    exact alikePg
  · unfold World.step
    rw [inMap, inTable, inVault]
    exact ⟨rows, ids, holds⟩

theorem list_agree (inv : Corresponds c keyOf s) {organizationId : Nat}
    {connectorId : Option String}
    (is : call.request = .list organizationId connectorId) :
    Agree c s call ∧ Corresponds c keyOf (s.step c call) := by
  obtain ⟨memory, ids, vault⟩ := inv
  have ofMap : (s.memory.map fun entry => entry.2.record) = s.table.map (·.record) := by
    rw [memory, List.map_map]
    rfl
  have ofVault : s.vault.map (·.record) = s.table.map (·.record) := by
    rw [vault, List.map_map]
    rfl
  refine agree_of (by simp only [memoryStep, is]; rfl) (by simp only [pgStep, is]; rfl)
    (by simp only [vaultStep, is]; rfl) ?_ (.inl ?_) memory ids vault
  · rw [ofMap, ofVault]
    exact List.mergeSort_perm _ _
  · rw [ofVault]
    exact List.mergeSort_perm _ _

theorem create_agree (inv : Corresponds c keyOf s) (meets : Meets c keyOf s call)
    {organizationId actorUserId : Nat} {connectorId name value : String}
    (is : call.request = .create organizationId actorUserId connectorId name value) :
    Agree c s call ∧ Corresponds c keyOf (s.step c call) := by
  obtain ⟨memory, ids, vault⟩ := inv
  have inMap := any_entryOf (indexed organizationId connectorId name) s.table
  have inVault := any_reveal c keyOf (indexed organizationId connectorId name) s.table
  rw [← memory] at inMap
  rw [← vault] at inVault
  cases taken : s.table.any fun row => indexed organizationId connectorId name row.record with
  | true =>
    rw [taken] at inMap inVault
    have ofMap : memoryStep c s.memory call = (.refused .alreadyExists, s.memory) := by
      simp only [memoryStep, is, inMap, ↓reduceIte]
    have ofVault : vaultStep c s.vault call = (.refused .alreadyExists, s.vault) := by
      simp only [vaultStep, is, inVault, ↓reduceIte]
    cases parsed : parseKekFromEnv c call.env with
    | error error =>
      have ofTable : pgStep c s.table call = (.refused error, s.table) := by
        simp only [pgStep, is, encrypted_error parsed]
      exact agree_of ofMap ofTable ofVault (alike_refl _) (.inr ⟨error, parsed, rfl, by simp⟩)
        memory ids vault
    | ok kek =>
      obtain ⟨encrypted, done, -⟩ := encrypted_reveal parsed (meets.key kek parsed) value
      have ofTable : pgStep c s.table call = (.refused .alreadyExists, s.table) := by
        simp only [pgStep, is, done, taken, ↓reduceIte]
      exact agree_of ofMap ofTable ofVault (alike_refl _) (.inl (alike_refl _)) memory ids vault
  | false =>
    rw [taken] at inMap inVault
    cases parsed : parseKekFromEnv c call.env with
    | error error =>
      have ofMap : memoryStep c s.memory call = (.refused error, s.memory) := by
        simp only [memoryStep, is, inMap, Bool.false_eq_true, ↓reduceIte, encrypted_error parsed]
      have ofTable : pgStep c s.table call = (.refused error, s.table) := by
        simp only [pgStep, is, encrypted_error parsed]
      have ofVault : vaultStep c s.vault call = (.refused error, s.vault) := by
        simp only [vaultStep, is, inVault, Bool.false_eq_true, ↓reduceIte, parsed]
      exact agree_of ofMap ofTable ofVault (alike_refl _) (.inl (alike_refl _)) memory ids vault
    | ok kek =>
      obtain ⟨encrypted, done, reveals⟩ := encrypted_reveal parsed (meets.key kek parsed) value
      generalize new : call.newRecord organizationId actorUserId connectorId name = record
      have fresh : record.id ∉ s.table.map (·.record.id) := by
        rw [← new]
        exact meets.fresh
      have ofMap : memoryStep c s.memory call = (.secret record,
          OrderedMap.set s.memory record.id { record, encrypted }) := by
        simp only [memoryStep, is, inMap, Bool.false_eq_true, ↓reduceIte, done, new]
      have ofTable : pgStep c s.table call = (.secret record,
          s.table ++ [{ record := record, encrypted }]) := by
        simp only [pgStep, is, done, taken, Bool.false_eq_true, ↓reduceIte, new]
      have ofVault : vaultStep c s.vault call = (.secret record,
          s.vault ++ [{ record, kekId := kek.kekId, value := .ok value }]) := by
        simp only [vaultStep, is, inVault, Bool.false_eq_true, ↓reduceIte, parsed, new]
      refine agree_of ofMap ofTable ofVault (alike_refl _) (.inl (alike_refl _)) ?_ ?_ ?_
      · have absent : record.id ∉ s.memory.map Prod.fst := by
          rw [memory, List.map_map]
          exact fresh
        rw [OrderedMap.set_of_not_mem _ absent, memory, List.map_append]
        rfl
      · rw [List.map_append]
        refine List.nodup_append.mpr ⟨ids, by simp, ?_⟩
        rintro id mem other only rfl
        obtain rfl := List.mem_singleton.mp only
        exact fresh mem
      · rw [vault, List.map_append, List.map_singleton, reveals]

theorem load_agree (inv : Corresponds c keyOf s) (meets : Meets c keyOf s call)
    {organizationId secretId : Nat} (is : call.request = .load organizationId secretId) :
    Agree c s call ∧ Corresponds c keyOf (s.step c call) := by
  obtain ⟨memory, ids, vault⟩ := inv
  have inVault := find_reveal c keyOf (isSecret organizationId secretId) s.table
  rw [← vault] at inVault
  rcases lookup_cases organizationId secretId ids with
    ⟨missing, others⟩ | ⟨row, mem, found, inMap, inTable⟩
  · have none_ : (s.table.find? fun row => isSecret organizationId secretId row.record) = none :=
      List.find?_eq_none.mpr fun row mem => by simp [missing row mem]
    rw [none_] at inVault
    have ofMap : memoryStep c s.memory call = (.refused .notFound, s.memory) := by
      simp only [memoryStep, is]
      rw [← memory] at others
      cases here : s.memory.lookup secretId with
      | none => rfl
      | some row => exact if_pos (others row here)
    have ofTable : pgStep c s.table call = (.refused .notFound, s.table) := by
      simp only [pgStep, is, none_]
    have ofVault : vaultStep c s.vault call = (.refused .notFound, s.vault) := by
      simp only [vaultStep, is, inVault, Option.map_none]
    exact agree_of ofMap ofTable ofVault (alike_refl _) (.inl (alike_refl _)) memory ids vault
  · rw [inTable] at inVault
    rw [← memory] at inMap
    have own := not_not.mpr (isSecret_iff.mp found).1
    have ofMap : memoryStep c s.memory call = (call.decrypted c row, s.memory) := by
      simp only [memoryStep, is, inMap, if_neg own]
    have ofTable : pgStep c s.table call = (call.decrypted c row, s.table) := by
      simp only [pgStep, is, inTable]
    have ofVault : vaultStep c s.vault call = (call.decrypted c row, s.vault) := by
      simp only [vaultStep, is, inVault, Option.map_some]
      cases parsed : parseKekFromEnv c call.env with
      | error error => simp only [Call.decrypted, parsed]
      | ok kek =>
        rw [decrypted_reveal parsed (meets.key kek parsed)]
        dsimp only
        split
        · rfl
        · split <;> rfl
    exact agree_of ofMap ofTable ofVault (alike_refl _) (.inl (alike_refl _)) memory ids vault

theorem rotate_agree (inv : Corresponds c keyOf s) (meets : Meets c keyOf s call)
    {organizationId actorUserId secretId : Nat} {value : String}
    (is : call.request = .rotate organizationId actorUserId secretId value) :
    Agree c s call ∧ Corresponds c keyOf (s.step c call) := by
  obtain ⟨memory, ids, vault⟩ := inv
  have inVault := find_reveal c keyOf (isSecret organizationId secretId) s.table
  rw [← vault] at inVault
  rcases lookup_cases organizationId secretId ids with
    ⟨missing, others⟩ | ⟨row, mem, found, inMap, inTable⟩
  · have none_ : (s.table.find? fun row => isSecret organizationId secretId row.record) = none :=
      List.find?_eq_none.mpr fun row mem => by simp [missing row mem]
    rw [none_] at inVault
    have ofMap : memoryStep c s.memory call = (.rotated none, s.memory) := by
      simp only [memoryStep, is]
      rw [← memory] at others
      cases here : s.memory.lookup secretId with
      | none => rfl
      | some row => exact if_pos (others row here)
    have ofVault : vaultStep c s.vault call = (.rotated none, s.vault) := by
      simp only [vaultStep, is, inVault, Option.map_none]
    cases parsed : parseKekFromEnv c call.env with
    | error error =>
      have ofTable : pgStep c s.table call = (.refused error, s.table) := by
        simp only [pgStep, is, encrypted_error parsed]
      exact agree_of ofMap ofTable ofVault (alike_refl _) (.inr ⟨error, parsed, rfl, by simp⟩)
        memory ids vault
    | ok kek =>
      obtain ⟨encrypted, done, -⟩ := encrypted_reveal parsed (meets.key kek parsed) value
      have same : (s.table.map fun row => if isSecret organizationId secretId row.record then
          { record := call.touched actorUserId row.record, encrypted } else row) = s.table := by
        refine (List.map_congr_left fun row mem => ?_).trans (List.map_id s.table)
        exact if_neg (by simp [missing row mem])
      have ofTable : pgStep c s.table call = (.rotated none, s.table) := by
        simp only [pgStep, is, done, same, none_, Option.map_none]
      exact agree_of ofMap ofTable ofVault (alike_refl _) (.inl (alike_refl _)) memory ids vault
  · rw [inTable] at inVault
    rw [← memory] at inMap
    have own := not_not.mpr (isSecret_iff.mp found).1
    cases parsed : parseKekFromEnv c call.env with
    | error error =>
      have ofMap : memoryStep c s.memory call = (.refused error, s.memory) := by
        simp only [memoryStep, is, inMap, if_neg own, encrypted_error parsed]
      have ofTable : pgStep c s.table call = (.refused error, s.table) := by
        simp only [pgStep, is, encrypted_error parsed]
      have ofVault : vaultStep c s.vault call = (.refused error, s.vault) := by
        simp only [vaultStep, is, inVault, Option.map_some, parsed]
      exact agree_of ofMap ofTable ofVault (alike_refl _) (.inl (alike_refl _)) memory ids vault
    | ok kek =>
      obtain ⟨encrypted, done, reveals⟩ := encrypted_reveal parsed (meets.key kek parsed) value
      let rotate (row : ConnectorSecret) : ConnectorSecret :=
        if isSecret organizationId secretId row.record then
          { record := call.touched actorUserId row.record, encrypted }
        else row
      have sameIds (row : ConnectorSecret) : (rotate row).record.id = row.record.id := by
        unfold rotate
        split <;> rfl
      have ofMap : memoryStep c s.memory call = (.rotated (some (rotate row).record),
          OrderedMap.set s.memory (rotate row).record.id (rotate row)) := by
        simp only [memoryStep, is, inMap, if_neg own, done, rotate, found, ↓reduceIte]
      have ofTable : pgStep c s.table call =
          (.rotated (some (rotate row).record), s.table.map rotate) := by
        have still (row : ConnectorSecret) :
            isSecret organizationId secretId (rotate row).record =
              isSecret organizationId secretId row.record := by
          unfold rotate
          split <;> rfl
        have rotated : (s.table.map rotate).find? (fun row =>
            isSecret organizationId secretId row.record) = some (rotate row) := by
          rw [List.find?_map]
          simp only [Function.comp_def, still, inTable, Option.map_some]
        simp only [pgStep, is, done]
        exact Prod.ext (congrArg (fun found => Answer.rotated (found.map (·.record))) rotated) rfl
      have ofVault : vaultStep c s.vault call = (.rotated (some (rotate row).record),
          s.vault.map fun kept => if isSecret organizationId secretId kept.record then
            { record := call.touched actorUserId kept.record, kekId := kek.kekId,
              value := .ok value }
          else kept) := by
        simp only [vaultStep, is, inVault, Option.map_some, parsed, rotate, found, ↓reduceIte,
          reveal_record]
      refine agree_of ofMap ofTable ofVault (alike_refl _) (.inl (alike_refl _)) ?_ ?_ ?_
      · have there : (rotate row).record.id ∈ s.table.map (·.record.id) := by
          rw [sameIds]
          exact List.mem_map.mpr ⟨row, mem, rfl⟩
        rw [memory, set_entryOf ids there]
        refine congrArg (List.map entryOf) (List.map_congr_left fun other inRows => ?_)
        have one := isSecret_of_id ids mem found inRows
        rw [sameIds, (isSecret_iff.mp found).2]
        by_cases same : other.record.id = secretId
        · have is : other = row := List.inj_on_of_nodup_map ids inRows mem
            (same.trans (isSecret_iff.mp found).2.symm)
          rw [if_pos same, is]
        · rw [if_neg same]
          simp [rotate, one, same]
      · have same : s.table.map ((·.record.id) ∘ rotate) = s.table.map (·.record.id) :=
          List.map_congr_left fun row _ => sameIds row
        rw [List.map_map, same]
        exact ids
      · rw [vault, List.map_map, List.map_map]
        refine List.map_congr_left fun other _ => ?_
        rw [Function.comp_apply, Function.comp_apply]
        by_cases hit : isSecret organizationId secretId other.record = true
        · have rotated : rotate other =
              { record := call.touched actorUserId other.record, encrypted } := if_pos hit
          rw [rotated, reveals]
          exact if_pos hit
        · have rotated : rotate other = other := if_neg hit
          rw [rotated]
          exact if_neg hit

theorem delete_agree (inv : Corresponds c keyOf s) {organizationId secretId : Nat}
    (is : call.request = .delete organizationId secretId) :
    Agree c s call ∧ Corresponds c keyOf (s.step c call) := by
  obtain ⟨memory, ids, vault⟩ := inv
  have inVault := any_reveal c keyOf (isSecret organizationId secretId) s.table
  rw [← vault] at inVault
  have keptIds : ((s.table.filter fun row => !isSecret organizationId secretId row.record).map
      (·.record.id)).Nodup := ids.sublist (List.filter_sublist.map _)
  have kept : (s.vault.filter fun kept => !isSecret organizationId secretId kept.record) =
      (s.table.filter fun row => !isSecret organizationId secretId row.record).map
        (reveal c keyOf) := by
    rw [vault, List.filter_map]
    rfl
  have ofTable : pgStep c s.table call =
      (.deleted (s.table.any fun row => isSecret organizationId secretId row.record),
        s.table.filter fun row => !isSecret organizationId secretId row.record) := by
    simp only [pgStep, is]
  have ofVault : vaultStep c s.vault call =
      (.deleted (s.table.any fun row => isSecret organizationId secretId row.record),
        s.vault.filter fun kept => !isSecret organizationId secretId kept.record) := by
    simp only [vaultStep, is, inVault]
  rcases lookup_cases organizationId secretId ids with
    ⟨missing, others⟩ | ⟨row, mem, found, inMap, inTable⟩
  · have none_ : (s.table.any fun row => isSecret organizationId secretId row.record) = false :=
      List.any_eq_false.mpr fun row mem => by simp [missing row mem]
    have all : (s.table.filter fun row => !isSecret organizationId secretId row.record) = s.table :=
      List.filter_eq_self.mpr fun row mem => by simp [missing row mem]
    have ofMap : memoryStep c s.memory call = (.deleted false, s.memory) := by
      simp only [memoryStep, is]
      rw [← memory] at others
      cases here : s.memory.lookup secretId with
      | none => rfl
      | some row => exact if_pos (others row here)
    rw [none_] at ofTable ofVault
    refine agree_of ofMap ofTable ofVault (alike_refl _) (.inl (alike_refl _)) ?_ keptIds kept
    rw [all, memory]
  · rw [← memory] at inMap
    have own := not_not.mpr (isSecret_iff.mp found).1
    have some_ : (s.table.any fun row => isSecret organizationId secretId row.record) = true :=
      List.any_eq_true.mpr ⟨row, mem, found⟩
    have ofMap : memoryStep c s.memory call =
        (.deleted true, s.memory.filter fun entry => entry.1 ≠ secretId) := by
      simp only [memoryStep, is, inMap, if_neg own]
    rw [some_] at ofTable ofVault
    refine agree_of ofMap ofTable ofVault (alike_refl _) (.inl (alike_refl _)) ?_ keptIds kept
    rw [memory, List.filter_map]
    refine congrArg (List.map entryOf) (List.filter_congr fun other there => ?_)
    rw [isSecret_of_id ids mem found there]
    exact decide_not

theorem call_agree (inv : Corresponds c keyOf s) (meets : Meets c keyOf s call) :
    Agree c s call ∧ Corresponds c keyOf (s.step c call) := by
  cases is : call.request with
  | list organizationId connectorId => exact list_agree inv is
  | create organizationId actorUserId connectorId name value => exact create_agree inv meets is
  | load organizationId secretId => exact load_agree inv meets is
  | rotate organizationId actorUserId secretId value => exact rotate_agree inv meets is
  | delete organizationId secretId => exact delete_agree inv is

theorem corresponds_reached (reached : Reached c keyOf emptyWorld s) : Corresponds c keyOf s := by
  have first : Corresponds c keyOf emptyWorld := ⟨rfl, by simp [emptyWorld], rfl⟩
  exact reached.invariant (Corresponds c keyOf)
    (fun _ _ inv meets => (call_agree inv meets).2) first

/-- The memory store answers the call with the record under which it puts the value. -/
def Puts (c : Platform) (s : World) (call : Call) (record : ConnectorSecretRecord)
    (value : String) : Prop :=
  match call.request with
  | .create _ _ _ _ put => put = value ∧ (memoryStep c s.memory call).1 = .secret record
  | .rotate _ _ _ put => put = value ∧ (memoryStep c s.memory call).1 = .rotated (some record)
  | _ => False

/-- The call neither rotates nor deletes the secret. -/
def Spares (record : ConnectorSecretRecord) (call : Call) : Prop :=
  match call.request with
  | .rotate organizationId _ secretId _ | .delete organizationId secretId =>
    isSecret organizationId secretId record = false
  | _ => True

/-- The vault has the value under the key of the id. -/
def Holds (vault : List Kept) (record : ConnectorSecretRecord) (kekId value : String) : Prop :=
  ∃ kept ∈ vault, isSecret record.organizationId record.id kept.record = true ∧
    kept.kekId = kekId ∧ kept.value = .ok value

theorem holds_put (inv : Corresponds c keyOf s) (meets : Meets c keyOf s call)
    {record : ConnectorSecretRecord} {value : String} {kek : Kek}
    (parsed : parseKekFromEnv c call.env = .ok kek) (puts : Puts c s call record value) :
    Holds (s.step c call).vault record kek.kekId value := by
  have agree := (call_agree inv meets).1.memory
  unfold Puts at puts
  unfold World.step Holds
  split at puts
  · next organizationId actorUserId connectorId name put is =>
    obtain ⟨rfl, answered⟩ := puts
    rw [answered] at agree
    simp only [vaultStep, is, parsed] at agree ⊢
    split at agree
    · cases agree
    · next free =>
      cases agree
      rw [if_neg free]
      exact ⟨_, List.mem_append_right _ List.mem_cons_self, by simp [isSecret], rfl, rfl⟩
  · next organizationId actorUserId secretId put is =>
    obtain ⟨rfl, answered⟩ := puts
    rw [answered] at agree
    simp only [vaultStep, is, parsed] at agree ⊢
    cases here : s.vault.find? fun kept => isSecret organizationId secretId kept.record with
    | none =>
      rw [here] at agree
      cases agree
    | some kept =>
      rw [here] at agree
      cases agree
      have found : isSecret organizationId secretId kept.record = true := by
        simpa using List.find?_some here
      refine ⟨_, List.mem_map.mpr ⟨kept, List.mem_of_find?_eq_some here, rfl⟩, ?_⟩
      rw [if_pos found]
      exact ⟨by simp [isSecret], rfl, rfl⟩
  · exact puts.elim

theorem holds_step {record : ConnectorSecretRecord} {kekId value : String}
    (holds : Holds s.vault record kekId value) (spares : Spares record call) :
    Holds (s.step c call).vault record kekId value := by
  obtain ⟨kept, mem, found, under, is⟩ := holds
  obtain ⟨ofOrg, ofId⟩ := isSecret_iff.mp found
  unfold Spares at spares
  unfold World.step Holds
  cases request : call.request with
  | list organizationId connectorId =>
    simp only [vaultStep, request]
    exact ⟨kept, mem, found, under, is⟩
  | create organizationId actorUserId connectorId name value =>
    simp only [vaultStep, request]
    split
    · exact ⟨kept, mem, found, under, is⟩
    · split
      · exact ⟨kept, mem, found, under, is⟩
      · exact ⟨kept, List.mem_append_left _ mem, found, under, is⟩
  | load organizationId secretId =>
    simp only [vaultStep, request]
    repeat' split
    all_goals exact ⟨kept, mem, found, under, is⟩
  | rotate organizationId actorUserId secretId value =>
    rw [request] at spares
    have other : isSecret organizationId secretId kept.record = false := by
      simpa [isSecret, ofOrg, ofId] using spares
    simp only [vaultStep, request]
    split
    · exact ⟨kept, mem, found, under, is⟩
    · split
      · exact ⟨kept, mem, found, under, is⟩
      · refine ⟨kept, List.mem_map.mpr ⟨kept, mem, ?_⟩, found, under, is⟩
        rw [other]
        rfl
  | delete organizationId secretId =>
    rw [request] at spares
    have other : isSecret organizationId secretId kept.record = false := by
      simpa [isSecret, ofOrg, ofId] using spares
    simp only [vaultStep, request]
    exact ⟨kept, List.mem_filter.mpr ⟨mem, by simp [other]⟩, found, under, is⟩

end steps

/-! ### One secret -/

/-- A cipher that shows the plaintext, and the base64 text of 32 zeros. -/
def plainPlatform : Platform where
  encipher key _ plaintext := (plaintext, key)
  decipher key _ ciphertext tag := if tag = key then some ciphertext else none
  decodeBase64 text :=
    if text = "AAAAAAAAAAAAAAAAAAAAAAAAAAAAAAAAAAAAAAAAAAA=" then List.replicate 32 0 else []
  encodeUtf8 text := text.toUTF8.data.toList
  decodeUtf8 bytes := (String.fromUTF8? ⟨bytes.toArray⟩).getD ""
  localeCompare a b := compare a b
  collate a b := compare a b
  decipher_encipher key iv plaintext := if_pos rfl
  decode_encode text := by
    have valid : text.toByteArray.IsValidUTF8 := text.isValidUTF8
    simp [String.fromUTF8?, valid, String.fromUTF8]

def zeroEnv : ProcessEnv where
  kekId := none
  kekBase64 := some "AAAAAAAAAAAAAAAAAAAAAAAAAAAAAAAAAAAAAAAAAAA="

def zeroKek : Kek where
  kekId := "dev-kek-v1"
  kekKeyBytes := List.replicate 32 0

def zeroDraw : Draw where
  dek := List.replicate 32 0
  dekIv := List.replicate 12 0
  secretIv := List.replicate 12 0
  dek_length := rfl

def putToken : Call where
  request := .create 1 2 "github" "token" "s3cret"
  env := zeroEnv
  draw := zeroDraw
  randomUuid := 0
  now := 5

def loadToken : Call where
  request := .load 1 0
  env := zeroEnv
  draw := zeroDraw
  randomUuid := 1
  now := 6

theorem parse_zeroEnv : parseKekFromEnv plainPlatform zeroEnv = .ok zeroKek := by rfl

theorem meets_zeroEnv {s : World} {call : Call} (env : call.env = zeroEnv)
    (fresh : call.randomUuid ∉ s.table.map (·.record.id)) :
    Meets plainPlatform (fun _ => List.replicate 32 0) s call := by
  refine ⟨fun kek parsed => ?_, fresh⟩
  rw [env, parse_zeroEnv] at parsed
  cases parsed
  rfl

theorem put_token : (emptyWorld.step plainPlatform putToken).table.map (·.record.id) = [0] := by rfl

theorem meets_put :
    Meets plainPlatform (fun _ => List.replicate 32 0) emptyWorld putToken :=
  meets_zeroEnv rfl (by simp [emptyWorld])

theorem meets_load : Meets plainPlatform (fun _ => List.replicate 32 0)
    (emptyWorld.step plainPlatform putToken) loadToken :=
  meets_zeroEnv rfl (by rw [put_token]; decide)

end Vespid.Api.Secrets
