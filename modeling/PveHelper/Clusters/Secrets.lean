/-
Secrets sealed under a keyring (`core/services/secret_encryption.py`). A sealed text names the format
and the key, and both are bound into the authentication, so a secret is read under every later
keyring that still maps its key to the same bytes, and under no other; an edited name reads nothing.
The cipher is a parameter, with what it promises.
-/
import PveHelper.Lib.Atomic
import PveHelper.Lib.Base64
import PveHelper.Lib.Fields
import PveHelper.Lib.Percent

namespace PveHelper.Clusters

open Lib

abbrev Bytes := List UInt8

/-- `AESGCM(key)`: its `encrypt` and its `decrypt`, which gives nothing where it raises `InvalidTag`. -/
structure Aead where
  encrypt : (key nonce plaintext associated : Bytes) → Bytes
  decrypt : (key nonce ciphertext associated : Bytes) → Option Bytes

/-- What the cipher promises: the plaintext is given back, under another key or with other associated
data nothing is, and there is a tag at least. -/
structure Aead.Sound (aead : Aead) : Prop where
  correct : ∀ key nonce plaintext associated,
    aead.decrypt key nonce (aead.encrypt key nonce plaintext associated) associated = some plaintext
  integrity : ∀ key key' nonce plaintext associated associated' found,
    aead.decrypt key' nonce (aead.encrypt key nonce plaintext associated) associated' = some found →
      key' = key ∧ associated' = associated
  tagged : ∀ key nonce plaintext associated, aead.encrypt key nonce plaintext associated ≠ []

/-- `EncryptionConfigurationError`, `MissingEncryptionKeyError`, `SecretDecryptionError`, `ValueError`
and `UnicodeDecodeError`. -/
inductive SecretError
  | configuration (message : String)
  | missingKey (message : String)
  | decryption (message : String)
  | value (message : String)
  | unicode
deriving DecidableEq, Repr

def secretFormatVersion : String := "v1"
def aesGcmKeyBytes : Nat := 32
def aesGcmNonceBytes : Nat := 12

/-- `os.urandom(_AES_GCM_NONCE_BYTES)`. -/
abbrev Nonce := {bytes : Bytes // bytes.length = aesGcmNonceBytes}

/-- The two settings. -/
structure EncryptionSettings where
  encryptionKeys : String
  encryptionActiveKeyId : String

abbrev Keyring := List (String × Bytes)

/-! ## The keyring -/

/-- `[a-z0-9]`. -/
def isKeyIdStart (c : Char) : Bool := ('a' ≤ c && c ≤ 'z') || ('0' ≤ c && c ≤ '9')

/-- `_KEY_ID_RE` on a stripped text. -/
def matchesKeyId (keyId : String) : Bool :=
  match keyId.toList with
  | [] => false
  | c :: cs => isKeyIdStart c && decide (cs.length ≤ 63) && cs.all fun d => isKeyIdStart d || d == '_' || d == '-'

section
variable (repr : String → String)

/-- One turn of the loop of `_parse_keyring`. -/
def parseEntry (keyring : Keyring) (item : String) : Except SecretError Keyring :=
  let entry := Text.strip item
  if entry = "" then .ok keyring
  else
    match Text.partition ':' entry with
    | (_, none) => .error (.configuration "PVE_HELPER_ENCRYPTION_KEYS entries must be '<key-id>:<base64-key>'.")
    | (keyId, some encoded) =>
      let keyId := Text.strip keyId
      if !matchesKeyId keyId then
        .error (.configuration ("Invalid encryption key id " ++ repr keyId ++ ": use lowercase letters, digits, '-' or '_'."))
      else
        match Base64.decode (Text.strip encoded).toList with
        | none => .error (.configuration ("Encryption key " ++ repr keyId ++ " is not valid base64."))
        | some key =>
          if key.length ≠ aesGcmKeyBytes then
            .error (.configuration ("Encryption key " ++ repr keyId ++ " must be " ++ toString aesGcmKeyBytes ++
              " bytes, got " ++ toString key.length ++ "."))
          else if (keyring.lookup keyId).isSome then
            .error (.configuration ("Encryption key id " ++ repr keyId ++ " is defined twice."))
          else .ok (keyring ++ [(keyId, key)])

/-- `_parse_keyring`. -/
def parseKeyring (raw : String) : Except SecretError Keyring := (Text.split ',' raw).foldlM (parseEntry repr) []

/-- `active_key_id`. -/
def activeKeyId (settings : EncryptionSettings) : Except SecretError String := do
  let keys ← parseKeyring repr settings.encryptionKeys
  match keys with
  | [] => .error (.configuration
      "No encryption keyring is configured. Set PVE_HELPER_ENCRYPTION_KEYS before storing cluster credentials.")
  | (first, _) :: rest =>
    let configured := Text.strip settings.encryptionActiveKeyId
    if configured = "" then
      if rest ≠ [] then .error (.configuration
        "PVE_HELPER_ENCRYPTION_ACTIVE_KEY_ID must name the key to encrypt with when the keyring holds more than one key.")
      else .ok first
    else if (keys.lookup configured).isNone then
      .error (.configuration ("PVE_HELPER_ENCRYPTION_ACTIVE_KEY_ID names " ++ repr configured ++ ", which is not in the keyring."))
    else .ok configured

/-! ## Sealed texts -/

/-- A sealed text. -/
def envelope (version keyId payload : String) : String := version ++ ":" ++ keyId ++ ":" ++ payload

/-- `_split`. -/
def splitSealed (text : String) : Except SecretError (String × String × String) :=
  match Text.splitMax ':' 2 text with
  | [version, keyId, payload] =>
    if version ≠ secretFormatVersion then .error (.decryption ("Unsupported stored secret format " ++ repr version ++ "."))
    else if keyId = "" ∨ payload = "" then .error (.decryption "Stored secret is malformed.")
    else .ok (version, keyId, payload)
  | _ => .error (.decryption "Stored secret is malformed.")

/-- `key_id_of`. -/
def keyIdOf (text : String) : Except SecretError String := (splitSealed repr text).map (·.2.1)

def textBytes (s : String) : Bytes := Percent.utf8 s.toList

/-- `_aad`. -/
def aad (keyId : String) : Bytes := textBytes (secretFormatVersion ++ ":" ++ keyId)

/-- `bytes.decode("utf-8")`. -/
def decodeUtf8 (bytes : Bytes) : Except SecretError String :=
  match bytes.toByteArray.utf8Decode? with
  | some cs => .ok (String.ofList cs.toList)
  | none => .error .unicode

variable (aead : Aead)

/-- `encrypt_secret`. -/
def encryptSecret (settings : EncryptionSettings) (nonce : Nonce) (plaintext : String) : Except SecretError String := do
  if plaintext = "" then .error (.value "Refusing to encrypt an empty secret.")
  let keyId ← activeKeyId repr settings
  let keys ← parseKeyring repr settings.encryptionKeys
  let key := (keys.lookup keyId).getD []
  let ciphertext := aead.encrypt key nonce.val (textBytes plaintext) (aad keyId)
  .ok (envelope secretFormatVersion keyId (String.ofList (Base64.encode (nonce.val ++ ciphertext))))

/-- `decrypt_secret`. -/
def decryptSecret (settings : EncryptionSettings) (text : String) : Except SecretError String := do
  let (_, keyId, payload) ← splitSealed repr text
  let keys ← parseKeyring repr settings.encryptionKeys
  match keys.lookup keyId with
  | none => .error (.missingKey ("Stored secret needs encryption key " ++ repr keyId ++ ", which is not in the keyring. " ++
      "Restore it from backup/escrow; the secret cannot be read without it."))
  | some key =>
    match Base64.decode payload.toList with
    | none => .error (.decryption "Stored secret payload is not valid base64.")
    | some raw =>
      if raw.length ≤ aesGcmNonceBytes then .error (.decryption "Stored secret payload is too short.")
      else
        match aead.decrypt key (raw.take aesGcmNonceBytes) (raw.drop aesGcmNonceBytes) (aad keyId) with
        | none => .error (.decryption ("Stored secret failed authentication under key " ++ repr keyId ++ "."))
        | some plaintext => decodeUtf8 plaintext

end

section
variable {repr : String → String} {aead : Aead}

/-! ## Keys -/

theorem parseEntry_keeps {keyring keyring' : Keyring} {item : String} (hkeys : ∀ entry ∈ keyring, matchesKeyId entry.1 = true)
    (h : parseEntry repr keyring item = .ok keyring') : ∀ entry ∈ keyring', matchesKeyId entry.1 = true := by
  unfold parseEntry at h
  dsimp only at h
  split at h
  · rw [Except.ok.injEq] at h
    exact h ▸ hkeys
  · split at h
    · cases h
    · split at h
      · cases h
      · next hid =>
        split at h
        · cases h
        · split at h
          · cases h
          · split at h
            · cases h
            · rw [Except.ok.injEq] at h
              subst h
              intro entry hentry
              rcases List.mem_append.mp hentry with hentry | hentry
              · exact hkeys entry hentry
              · rw [List.mem_singleton.mp hentry]
                simpa using hid

theorem foldlM_parseEntry {items : List String} {keyring keyring' : Keyring}
    (hkeys : ∀ entry ∈ keyring, matchesKeyId entry.1 = true) (h : items.foldlM (parseEntry repr) keyring = .ok keyring') :
    ∀ entry ∈ keyring', matchesKeyId entry.1 = true := by
  induction items generalizing keyring with
  | nil =>
    rw [List.foldlM_nil] at h
    cases h
    exact hkeys
  | cons item items ih =>
    rw [List.foldlM_cons] at h
    obtain ⟨next, hnext, h⟩ := except_bind_ok.mp h
    exact ih (parseEntry_keeps hkeys hnext) h

/-- Every key of a keyring has a key's name. -/
theorem parseKeyring_keys {raw : String} {keyring : Keyring} (h : parseKeyring repr raw = .ok keyring) :
    ∀ entry ∈ keyring, matchesKeyId entry.1 = true :=
  foldlM_parseEntry (fun _ hentry => absurd hentry List.not_mem_nil) h

theorem mem_of_lookup {keyring : Keyring} {keyId : String} {key : Bytes} (h : keyring.lookup keyId = some key) :
    (keyId, key) ∈ keyring := by
  obtain ⟨before, after, rfl, -⟩ := List.lookup_eq_some_iff.mp h
  simp

/-- The active key is one of the keyring. -/
theorem activeKeyId_ok {settings : EncryptionSettings} {keyId : String} (h : activeKeyId repr settings = .ok keyId) :
    ∃ keys key, parseKeyring repr settings.encryptionKeys = .ok keys ∧ keys.lookup keyId = some key := by
  obtain ⟨keys, hkeys, h⟩ := except_bind_ok.mp h
  refine ⟨keys, ?_⟩
  cases keys with
  | nil => cases h
  | cons first rest =>
    obtain ⟨name, bytes⟩ := first
    dsimp only at h
    split at h
    · split at h
      · cases h
      · rw [Except.ok.injEq] at h
        subst h
        exact ⟨bytes, hkeys, List.lookup_cons_self⟩
    · split at h
      · cases h
      · next hfound =>
        rw [Except.ok.injEq] at h
        subst h
        rw [Option.isNone_iff_eq_none] at hfound
        obtain ⟨key, hkey⟩ := Option.ne_none_iff_exists'.mp hfound
        exact ⟨key, hkeys, hkey⟩

theorem colon_of_matchesKeyId {keyId : String} (h : matchesKeyId keyId = true) : keyId ≠ "" ∧ ':' ∉ keyId.toList := by
  unfold matchesKeyId at h
  split at h
  · cases h
  · next c cs hcs =>
    rw [Bool.and_eq_true, Bool.and_eq_true, List.all_eq_true] at h
    refine ⟨?_, fun hcolon => ?_⟩
    · rintro rfl
      cases hcs
    · rw [hcs] at hcolon
      rcases List.mem_cons.mp hcolon with hc | hc
      · rw [← hc] at h
        exact absurd h.1.1 (by decide)
      · exact absurd (h.2 ':' hc) (by decide)

/-! ## Texts -/

theorem decodeUtf8_textBytes (s : String) : decodeUtf8 (textBytes s) = .ok s := by
  have hdecode : (textBytes s).toByteArray.utf8Decode? = some s.toList.toArray := List.utf8Decode?_utf8Encode
  rw [decodeUtf8, hdecode]
  exact congrArg Except.ok String.ofList_toList

theorem textBytes_injective : Function.Injective textBytes := by
  intro s t h
  have hs := decodeUtf8_textBytes s
  rw [h, decodeUtf8_textBytes, Except.ok.injEq] at hs
  exact hs.symm

theorem aad_injective : Function.Injective aad := by
  intro k k' h
  have hlist := congrArg String.toList (textBytes_injective h)
  simp only [String.toList_append, List.append_cancel_left_eq] at hlist
  exact String.toList_injective hlist

theorem envelope_join (version keyId payload : String) :
    envelope version keyId payload = Text.join ':' ([version, keyId] ++ [payload]) := by
  refine String.toList_injective ?_
  rw [List.cons_append, List.cons_append, List.nil_append, Text.toList_join_cons, Text.toList_join_pair]
  simp [envelope]

theorem splitSealed_envelope {version keyId payload : String} (hversion : ':' ∉ version.toList) (hkey : ':' ∉ keyId.toList) :
    splitSealed repr (envelope version keyId payload) =
      if version ≠ secretFormatVersion then .error (.decryption ("Unsupported stored secret format " ++ repr version ++ "."))
      else if keyId = "" ∨ payload = "" then .error (.decryption "Stored secret is malformed.")
      else .ok (version, keyId, payload) := by
  have hsplit : Text.splitMax ':' [version, keyId].length (Text.join ':' ([version, keyId] ++ [payload])) = [version, keyId] ++ [payload] :=
    Text.splitMax_join_concat [version, keyId] payload (by simp [hversion, hkey])
  rw [splitSealed, envelope_join]
  rw [show ([version, keyId] : List String).length = 2 from rfl] at hsplit
  rw [hsplit]
  rfl

/-- What is split has its parts around its first two colons. -/
theorem splitSealed_ok {text version keyId payload : String} (h : splitSealed repr text = .ok (version, keyId, payload)) :
    version = secretFormatVersion ∧ text.toList.count ':' = 2 + payload.toList.count ':' := by
  unfold splitSealed at h
  split at h
  · next v k p hparts =>
    split at h
    · cases h
    · next hversion =>
      split at h
      · cases h
      · rw [Except.ok.injEq, Prod.mk.injEq, Prod.mk.injEq] at h
        obtain ⟨rfl, rfl, rfl⟩ := h
        refine ⟨not_not.mp hversion, ?_⟩
        rw [Text.splitMax] at hparts
        split at hparts
        · cases hparts
        · next before after hfirst =>
          obtain ⟨hsplit, hbefore⟩ := Text.partition_eq_some hfirst
          rw [Text.splitMax] at hparts
          split at hparts
          · cases hparts
          · next before' after' hsecond =>
            obtain ⟨hsplit', hbefore'⟩ := Text.partition_eq_some hsecond
            rw [hsplit, hsplit', List.count_append, List.count_cons_self, List.count_append, List.count_cons_self,
              List.count_eq_zero.mpr hbefore, List.count_eq_zero.mpr hbefore']
            simp only [Text.splitMax, List.cons.injEq, and_true] at hparts
            rw [hparts.2.2]
            omega
  · cases h

/-- What is decrypted was sealed under the key it names. -/
theorem decryptSecret_ok {settings : EncryptionSettings} {text found : String} (h : decryptSecret repr aead settings text = .ok found) :
    ∃ keyId payload key raw plaintext, splitSealed repr text = .ok (secretFormatVersion, keyId, payload) ∧
      Base64.decode payload.toList = some raw ∧
      aead.decrypt key (raw.take aesGcmNonceBytes) (raw.drop aesGcmNonceBytes) (aad keyId) = some plaintext := by
  obtain ⟨⟨version, keyId, payload⟩, hsplit, hrest⟩ := except_bind_ok.mp h
  obtain ⟨keys, -, hread⟩ := except_bind_ok.mp hrest
  obtain ⟨rfl, -⟩ := splitSealed_ok hsplit
  clear hrest h
  split at hread
  · cases hread
  · next key _ =>
    split at hread
    · cases hread
    · next raw hraw =>
      split at hread
      · cases hread
      · split at hread
        · cases hread
        · next plaintext hplaintext => exact ⟨keyId, payload, key, raw, plaintext, hsplit, hraw, hplaintext⟩

/-! ## What was sealed -/

/-- The text that `encrypt_secret` makes of what was sealed. -/
def sealedPayload (aead : Aead) (key : Bytes) (nonce : Nonce) (plaintext keyId : String) : String :=
  String.ofList (Base64.encode (nonce.val ++ aead.encrypt key nonce.val (textBytes plaintext) (aad keyId)))

theorem decode_sealedPayload (key : Bytes) (nonce : Nonce) (plaintext keyId : String) :
    Base64.decode (sealedPayload aead key nonce plaintext keyId).toList =
      some (nonce.val ++ aead.encrypt key nonce.val (textBytes plaintext) (aad keyId)) := by
  rw [sealedPayload, String.toList_ofList, Base64.decode_encode]

theorem sealedPayload_ne_empty (haead : aead.Sound) (key : Bytes) (nonce : Nonce) (plaintext keyId : String) :
    sealedPayload aead key nonce plaintext keyId ≠ "" := by
  intro h
  have hdecode : Base64.decode (sealedPayload aead key nonce plaintext keyId).toList = _ :=
    decode_sealedPayload key nonce plaintext keyId
  rw [h, String.toList_empty, Base64.decode, Option.some.injEq] at hdecode
  exact haead.tagged _ _ _ _ (List.append_eq_nil_iff.mp hdecode.symm).2

theorem decryptSecret_envelope (haead : aead.Sound) {settings : EncryptionSettings} {keys : Keyring} (nonce : Nonce)
    {keyId : String} (hid : matchesKeyId keyId = true) (key : Bytes) (plaintext : String)
    (hkeys : parseKeyring repr settings.encryptionKeys = .ok keys) :
    decryptSecret repr aead settings (envelope secretFormatVersion keyId (sealedPayload aead key nonce plaintext keyId)) =
      match keys.lookup keyId with
      | none => .error (.missingKey ("Stored secret needs encryption key " ++ repr keyId ++ ", which is not in the keyring. " ++
          "Restore it from backup/escrow; the secret cannot be read without it."))
      | some later =>
        match aead.decrypt later nonce.val (aead.encrypt key nonce.val (textBytes plaintext) (aad keyId)) (aad keyId) with
        | none => .error (.decryption ("Stored secret failed authentication under key " ++ repr keyId ++ "."))
        | some plaintext => decodeUtf8 plaintext := by
  obtain ⟨hne, hcolon⟩ := colon_of_matchesKeyId hid
  have hsplit : splitSealed repr (envelope secretFormatVersion keyId (sealedPayload aead key nonce plaintext keyId)) = _ :=
    splitSealed_envelope (by decide) hcolon
  rw [if_neg (not_not.mpr rfl), if_neg (not_or.mpr ⟨hne, sealedPayload_ne_empty haead key nonce plaintext keyId⟩)] at hsplit
  have hlength : ¬ (nonce.val ++ aead.encrypt key nonce.val (textBytes plaintext) (aad keyId)).length ≤ aesGcmNonceBytes := by
    have hpos := List.length_pos_of_ne_nil (haead.tagged key nonce.val (textBytes plaintext) (aad keyId))
    rw [List.length_append, nonce.property]
    omega
  unfold decryptSecret
  rw [hsplit, hkeys]
  simp only [bind, Except.bind, decode_sealedPayload, if_neg hlength]
  rw [List.take_left' nonce.property, List.drop_left' nonce.property]

/-- A secret is read under every later keyring that maps its key to the same bytes, is missing its key under one that
does not have it, and is not read at all once the format or the key that it names is edited. -/
theorem secret_survives (repr : String → String) {aead : Aead} (haead : aead.Sound) {settings : EncryptionSettings} {keyId : String}
    (hactive : activeKeyId repr settings = .ok keyId) {keys : Keyring} (hkeys : parseKeyring repr settings.encryptionKeys = .ok keys)
    {plaintext : String} (hplaintext : plaintext ≠ "") (nonce : Nonce) :
    ∃ payload, encryptSecret repr aead settings nonce plaintext = .ok (envelope secretFormatVersion keyId payload) ∧
      keyIdOf repr (envelope secretFormatVersion keyId payload) = .ok keyId ∧
      (∀ later laterKeys, parseKeyring repr later.encryptionKeys = .ok laterKeys →
        (laterKeys.lookup keyId = keys.lookup keyId →
          decryptSecret repr aead later (envelope secretFormatVersion keyId payload) = .ok plaintext) ∧
        (laterKeys.lookup keyId = none →
          ∃ message, decryptSecret repr aead later (envelope secretFormatVersion keyId payload) = .error (.missingKey message))) ∧
      ∀ later version keyId', (version, keyId') ≠ (secretFormatVersion, keyId) →
        ∀ found, decryptSecret repr aead later (envelope version keyId' payload) ≠ .ok found := by
  obtain ⟨keys', key, hkeys', hkey⟩ := activeKeyId_ok hactive
  rw [hkeys, Except.ok.injEq] at hkeys'
  subst hkeys'
  have hid : matchesKeyId keyId = true := parseKeyring_keys hkeys _ (mem_of_lookup hkey)
  obtain ⟨hne, hcolon⟩ := colon_of_matchesKeyId hid
  refine ⟨sealedPayload aead key nonce plaintext keyId, ?_, ?_, ?_, ?_⟩
  · unfold encryptSecret
    rw [if_neg hplaintext, hactive, hkeys]
    simp only [bind, Except.bind, hkey, Option.getD_some]
    rfl
  · have hsplit : splitSealed repr (envelope secretFormatVersion keyId (sealedPayload aead key nonce plaintext keyId)) = _ :=
      splitSealed_envelope (by decide) hcolon
    rw [if_neg (not_not.mpr rfl), if_neg (not_or.mpr ⟨hne, sealedPayload_ne_empty haead key nonce plaintext keyId⟩)] at hsplit
    rw [keyIdOf, hsplit]
    rfl
  · intro later laterKeys hlater
    rw [decryptSecret_envelope haead nonce hid key plaintext hlater]
    constructor
    · intro hsame
      rw [hsame, hkey]
      dsimp only
      rw [haead.correct]
      exact decodeUtf8_textBytes plaintext
    · intro hmissing
      rw [hmissing]
      exact ⟨_, rfl⟩
  · intro later version keyId' hedited found hfound
    obtain ⟨named, payload, key', raw, plaintext', hsplit, hraw, hread⟩ := decryptSecret_ok hfound
    by_cases hparts : ':' ∈ version.toList ∨ ':' ∈ keyId'.toList
    · -- One colon too many: the payload holds it, and is no base64.
      have hcount := (splitSealed_ok hsplit).2
      have hplain : ':' ∉ payload.toList := by
        intro hmem
        rw [Base64.decode_other (by decide) (by decide) _ hmem] at hraw
        cases hraw
      rw [List.count_eq_zero.mpr hplain, envelope_join, List.cons_append, List.cons_append, List.nil_append,
        Text.toList_join_cons, Text.toList_join_pair, List.count_append, List.count_cons_self, List.count_append,
        List.count_cons_self] at hcount
      have hpos : 0 < version.toList.count ':' + keyId'.toList.count ':' := by
        rcases hparts with hmem | hmem
        · have := List.count_pos_iff.mpr hmem
          omega
        · have := List.count_pos_iff.mpr hmem
          omega
      omega
    · obtain ⟨hversion, hkeyId⟩ := not_or.mp hparts
      rw [splitSealed_envelope hversion hkeyId] at hsplit
      split at hsplit
      · cases hsplit
      · next hformat =>
        split at hsplit
        · cases hsplit
        · rw [Except.ok.injEq, Prod.mk.injEq, Prod.mk.injEq] at hsplit
          obtain ⟨rfl, rfl, rfl⟩ := hsplit
          rw [decode_sealedPayload, Option.some.injEq] at hraw
          subst hraw
          rw [List.take_left' nonce.property, List.drop_left' nonce.property] at hread
          obtain ⟨-, hassociated⟩ := haead.integrity _ _ _ _ _ _ _ hread
          exact hedited (congrArg (Prod.mk _) (aad_injective hassociated))

/-! ## A cipher that spells everything out -/

/-- Bytes with a mark before each and one at the end. -/
def spelled (bytes : Bytes) : Bytes := bytes.flatMap (fun b => [1, b]) ++ [0]

/-- The bytes up to the mark at the end, and what is after it. -/
def readSpelled : Bytes → Option (Bytes × Bytes)
  | 1 :: b :: rest => (readSpelled rest).map (Prod.map (b :: ·) id)
  | 0 :: rest => some ([], rest)
  | _ => none

theorem readSpelled_spelled (bytes rest : Bytes) : readSpelled (spelled bytes ++ rest) = some (bytes, rest) := by
  unfold spelled
  induction bytes with
  | nil => rfl
  | cons b bytes ih =>
    rw [List.flatMap_cons, List.append_assoc, List.append_assoc]
    have hrest : readSpelled ([1, b] ++ (bytes.flatMap (fun b => [1, b]) ++ ([0] ++ rest))) =
        (readSpelled (bytes.flatMap (fun b => [1, b]) ++ ([0] ++ rest))).map (Prod.map (b :: ·) id) := rfl
    rw [hrest, ← List.append_assoc _ [0], ih]
    rfl

/-- The key and the associated data stand before the plaintext, and are asked for again. -/
def spelledOut : Aead where
  encrypt key _ plaintext associated := spelled key ++ (spelled associated ++ plaintext)
  decrypt key _ ciphertext associated :=
    match readSpelled ciphertext with
    | some (key', rest) => match readSpelled rest with
      | some (associated', plaintext) => if key = key' ∧ associated = associated' then some plaintext else none
      | none => none
    | none => none

theorem spelledOut_decrypt (key key' nonce plaintext associated associated' : Bytes) :
    spelledOut.decrypt key' nonce (spelledOut.encrypt key nonce plaintext associated) associated' =
      if key' = key ∧ associated' = associated then some plaintext else none := by
  simp only [spelledOut, readSpelled_spelled]

theorem spelledOut_sound : spelledOut.Sound where
  correct key nonce plaintext associated := by rw [spelledOut_decrypt, if_pos ⟨rfl, rfl⟩]
  integrity key key' nonce plaintext associated associated' found h := by
    rw [spelledOut_decrypt] at h
    exact (Option.ite_none_right_eq_some.mp h).1
  tagged key nonce plaintext associated h := by
    have hread := readSpelled_spelled key (spelled associated ++ plaintext)
    rw [show spelled key ++ (spelled associated ++ plaintext) = [] from h] at hread
    cases hread

/-- A key of zeros, as the operator writes it. -/
def zeroKey : List Char := Base64.encode (List.replicate 32 0)

/-- A keyring of one key. -/
def oneKey : EncryptionSettings where
  encryptionKeys := String.ofList ('k' :: '1' :: ':' :: zeroKey)
  encryptionActiveKeyId := ""

theorem parseKeyring_oneKey (repr : String → String) :
    parseKeyring repr oneKey.encryptionKeys = .ok [("k1", List.replicate 32 0)] := by
  have hsplit : Text.split ',' oneKey.encryptionKeys = [oneKey.encryptionKeys] := by
    rw [Text.split, oneKey, String.toList_ofList,
      show ('k' :: '1' :: ':' :: zeroKey).splitOn ',' = ['k' :: '1' :: ':' :: zeroKey] by decide +kernel]
    rfl
  have hstrip : ∀ cs ∈ ['k' :: '1' :: ':' :: zeroKey, ['k', '1'], zeroKey], Text.strip (String.ofList cs) = String.ofList cs := by
    have hends : ∀ cs ∈ ['k' :: '1' :: ':' :: zeroKey, ['k', '1'], zeroKey],
        (cs.dropWhile Text.isSpace).reverse.dropWhile Text.isSpace = cs.reverse := by decide +kernel
    intro cs hcs
    rw [Text.strip, String.toList_ofList, hends cs hcs, List.reverse_reverse]
  have hparted : Text.partition ':' oneKey.encryptionKeys = ("k1", some (String.ofList zeroKey)) := by
    have hspan : ('k' :: '1' :: ':' :: zeroKey).span (· ≠ ':') = (['k', '1'], ':' :: zeroKey) := by decide +kernel
    rw [Text.partition, oneKey, String.toList_ofList, hspan]
  have hdecode : Base64.decode (String.ofList zeroKey).toList = some (List.replicate 32 0) := by
    rw [String.toList_ofList, zeroKey, Base64.decode_encode]
  have hne : oneKey.encryptionKeys ≠ "" := fun h => by
    have := congrArg String.toList h
    rw [oneKey, String.toList_ofList] at this
    cases this
  have hentry : parseEntry repr [] oneKey.encryptionKeys = .ok [("k1", List.replicate 32 0)] := by
    unfold parseEntry
    simp only [show Text.strip oneKey.encryptionKeys = oneKey.encryptionKeys from hstrip _ (by simp), if_neg hne, hparted,
      show Text.strip "k1" = "k1" from hstrip ['k', '1'] (by simp), hstrip zeroKey (by simp), hdecode]
    rfl
  rw [parseKeyring, hsplit, List.foldlM_cons, hentry]
  rfl

theorem activeKeyId_oneKey (repr : String → String) : activeKeyId repr oneKey = .ok "k1" := by
  unfold activeKeyId
  rw [parseKeyring_oneKey]
  rfl

theorem secret_survives_oneKey :
    ∃ payload, encryptSecret (fun s => "'" ++ s ++ "'") spelledOut oneKey ⟨List.replicate 12 7, rfl⟩ "PVEAPIToken" =
        .ok (envelope secretFormatVersion "k1" payload) ∧
      keyIdOf (fun s => "'" ++ s ++ "'") (envelope secretFormatVersion "k1" payload) = .ok "k1" ∧
      (∀ later laterKeys, parseKeyring (fun s => "'" ++ s ++ "'") later.encryptionKeys = .ok laterKeys →
        (laterKeys.lookup "k1" = [("k1", List.replicate 32 0)].lookup "k1" →
          decryptSecret (fun s => "'" ++ s ++ "'") spelledOut later (envelope secretFormatVersion "k1" payload) = .ok "PVEAPIToken") ∧
        (laterKeys.lookup "k1" = none → ∃ message,
          decryptSecret (fun s => "'" ++ s ++ "'") spelledOut later (envelope secretFormatVersion "k1" payload) =
            .error (.missingKey message))) ∧
      ∀ later version keyId', (version, keyId') ≠ (secretFormatVersion, "k1") →
        ∀ found, decryptSecret (fun s => "'" ++ s ++ "'") spelledOut later (envelope version keyId' payload) ≠ .ok found :=
  secret_survives _ spelledOut_sound (activeKeyId_oneKey _) (parseKeyring_oneKey _) (by decide) ⟨List.replicate 12 7, rfl⟩

end

end PveHelper.Clusters
