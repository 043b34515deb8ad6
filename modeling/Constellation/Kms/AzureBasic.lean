import Mathlib.Logic.Function.Basic
import Constellation.Prog
import Constellation.Encoding.Base64

/-!
# The Azure Key Vault KMS client: definitions and basic lemmas

This file models `kms/kms/azure/azure.go`: `KMSClient.CreateKEK`, `KMSClient.GetDEK`,
`KMSClient.putDEK` and `KMSClient.getKEK`.  Each is a `Prog` over the calls the client
makes to the outside (`Op`): the `azsecrets` vault client, the `kms.Storage` backend and
`util.GetRandomKey`.  `util.WrapAES` and `util.UnwrapAES`, the AES key wrap of
`kms/kms/util`, are not in the sources; they are functions of their arguments and enter
as the parameter `kw : KeyWrap`.

A `World` is what the calls read and write: the vault's secrets and the storage's
wrapped DEKs.  `Answers` answers every call as a key vault and a key-value store do: the
last value set wins, a missing secret is a `SecretNotFound` error, a missing DEK is
`storage.ErrDEKUnset`, and the random source returns a key of the size asked for.
`AnswersOrFails` lets every call also fail, with an error of its own and no effect.

`exec_getDEK` sorts the runs of `GetDEK` against a world by the path they took
(`GetDEKRun`); `getDEK_reaches` says, whatever the answers, where a call stands after a
part of its calls: waiting for the next call (`Waiting`), or returned, with a DEK
(`ReturnedDEK`) or with a DEK next to an error (`ReturnedWithError`).

The main results are in `Constellation.Kms.Azure` and `Constellation.Kms.Race`.
-/

namespace Constellation.Kms.Azure

/-! ## The calls to the outside -/

/-- A call `KMSClient` makes to a collaborator. -/
inductive Op where
  /-- `c.client.GetSecret(ctx, name, nil)`, answered with `*res.Value`. -/
  | getSecret (name : String)
  /-- `c.client.SetSecret(ctx, name, value, &azsecrets.SetSecretOptions{ContentType: ...})`. -/
  | setSecret (name value contentType : String)
  /-- `c.storage.Get(ctx, keyID)`. -/
  | storageGet (keyID : String)
  /-- `c.storage.Put(ctx, keyID, encryptedDEK)`. -/
  | storagePut (keyID : String) (encryptedDEK : Bytes)
  /-- `util.GetRandomKey(size)`. -/
  | getRandomKey (size : Nat)

/-- What each call returns. -/
def Op.Ret : Op → Type
  | .getSecret _ => Except GoError String
  | .setSecret _ _ _ => Option GoError
  | .storageGet _ => Except GoError Bytes
  | .storagePut _ _ => Option GoError
  | .getRandomKey _ => Except GoError Bytes

/-- The answer of a call that failed with `err`. -/
def Op.fail : (op : Op) → GoError → op.Ret
  | .getSecret _, err => Except.error err
  | .setSecret _ _ _, err => some err
  | .storageGet _, err => Except.error err
  | .storagePut _ _, err => some err
  | .getRandomKey _, err => Except.error err

/-- A function of the client. -/
abbrev Kms := Prog Op Op.Ret

/-- `c.client.GetSecret`. -/
def getSecret (name : String) : Kms (Except GoError String) := .call (.getSecret name) .pure

/-- `c.client.SetSecret`. -/
def setSecret (name value contentType : String) : Kms (Option GoError) :=
  .call (.setSecret name value contentType) .pure

/-- `c.storage.Get`. -/
def storageGet (keyID : String) : Kms (Except GoError Bytes) := .call (.storageGet keyID) .pure

/-- `c.storage.Put`. -/
def storagePut (keyID : String) (encryptedDEK : Bytes) : Kms (Option GoError) :=
  .call (.storagePut keyID encryptedDEK) .pure

/-- `util.GetRandomKey`. -/
def getRandomKey (size : Nat) : Kms (Except GoError Bytes) := .call (.getRandomKey size) .pure

/-! ## Errors -/

/-- `storage.ErrDEKUnset`. -/
def errDEKUnset : GoError := .sentinel "storage.ErrDEKUnset"

/-- `kms.ErrKEKUnknown`. -/
def errKEKUnknown : GoError := .sentinel "kms.ErrKEKUnknown"

/-- The error the vault client returns for a secret that does not exist; its text
carries the error code `SecretNotFound`. -/
def secretNotFound : GoError := .msg "ERROR CODE: SecretNotFound"

/-! ## The client -/

/-- `util.WrapAES` and `util.UnwrapAES`, the AES key wrap of RFC 3394, which are not in
the sources.  Like every helper of the repository they return a `nil` slice next to a
non-nil error. -/
structure KeyWrap where
  wrapAES : Bytes → Bytes → Except GoError Bytes
  unwrapAES : Bytes → Bytes → Except GoError Bytes

/-- Unwrapping under a KEK undoes wrapping under the same KEK. -/
def KeyWrap.RoundTrip (kw : KeyWrap) : Prop :=
  ∀ dek kek wrapped, kw.wrapAES dek kek = .ok wrapped → kw.unwrapAES wrapped kek = .ok dek

/-- `config.SymmetricKeyLength`, the length of a generated KEK: 32 bytes, as the doc
comment of `CreateKEK` says. -/
def symmetricKeyLength : Nat := 32

/-- `KMSClient.CreateKEK`: with no key material a random 32-byte key is generated; the
key is saved base64-encoded as a software-protected secret. -/
def createKEK (keyID : String) (key : Bytes) : Kms (Option GoError) := do
  match ← (if key.length = 0 then getRandomKey symmetricKeyLength else pure (.ok key)) with
  | .error err => pure (some (.wrap "could not generate key" err))
  | .ok key =>
    match ← setSecret keyID (Base64.encodeToString key) "KeyEncryptionKey" with
    | some err => pure (some (.wrap "importing KEK to Azure Key Vault" err))
    | none => pure none

/-- `KMSClient.getKEK`: read the secret and decode it from base64. -/
def getKEK (kekID : String) : Kms (Except GoError Bytes) := do
  match ← getSecret kekID with
  | .error err =>
    pure (.error (if stringsContains err.error "SecretNotFound" then errKEKUnknown else err))
  | .ok value => pure (Base64.decodeString value)

/-- `KMSClient.putDEK`: wrap the DEK under the KEK and save it. -/
def putDEK (kw : KeyWrap) (keyID : String) (kek plainDEK : Bytes) : Kms (Option GoError) :=
  match kw.wrapAES plainDEK kek with
  | .error err => pure (some (.wrap "encrypting DEK" err))
  | .ok encryptedDEK => storagePut keyID encryptedDEK

/-- `KMSClient.GetDEK`: unwrap the stored DEK, or generate, wrap and store a new one when
the storage has none.  The new DEK is returned next to whatever `putDEK` returns. -/
def getDEK (kw : KeyWrap) (kekID keyID : String) (dekSize : Nat) :
    Kms (Option Bytes × Option GoError) := do
  match ← getKEK kekID with
  | .error err => pure (none, some (.wrap "loading KEK from key vault" err))
  | .ok kek =>
    match ← storageGet keyID with
    | .error err =>
      if !err.is errDEKUnset then
        pure (none, some (.wrap "loading encrypted DEK from storage" err))
      else
        match ← getRandomKey dekSize with
        | .error err => pure (none, some (.wrap "could not generate key" err))
        | .ok newDEK => do
          let err ← putDEK kw keyID kek newDEK
          pure (some newDEK, err)
    | .ok encryptedDEK => pure (ofExcept (kw.unwrapAES encryptedDEK kek))

/-! ## The world -/

/-- The state the client's calls read and write. -/
structure World where
  /-- The vault's secrets: the last value set under each name. -/
  vault : String → Option String
  /-- The storage's wrapped DEKs: the last value put under each key ID. -/
  storage : String → Option Bytes

/-- The world after `SetSecret(name, value)`. -/
def World.setSecret (w : World) (name value : String) : World :=
  { w with vault := Function.update w.vault name (some value) }

/-- The world after `Put(keyID, encryptedDEK)`. -/
def World.put (w : World) (keyID : String) (encryptedDEK : Bytes) : World :=
  { w with storage := Function.update w.storage keyID (some encryptedDEK) }

@[simp] theorem World.setSecret_storage (w : World) (name value : String) :
    (w.setSecret name value).storage = w.storage := rfl

@[simp] theorem World.setSecret_vault_self (w : World) (name value : String) :
    (w.setSecret name value).vault name = some value := Function.update_same _ _ _

@[simp] theorem World.put_vault (w : World) (keyID : String) (d : Bytes) :
    (w.put keyID d).vault = w.vault := rfl

@[simp] theorem World.put_storage_self (w : World) (keyID : String) (d : Bytes) :
    (w.put keyID d).storage keyID = some d := by
  simp [World.put]

/-- The calls answered as a key vault, a key-value store and a random source answer. -/
inductive Answers : World → (op : Op) → op.Ret → World → Prop
  | getSecret {w : World} {name value : String} :
      w.vault name = some value → Answers w (.getSecret name) (Except.ok value) w
  | getSecretNotFound {w : World} {name : String} :
      w.vault name = none → Answers w (.getSecret name) (Except.error secretNotFound) w
  | setSecret {w : World} {name value contentType : String} :
      Answers w (.setSecret name value contentType) none (w.setSecret name value)
  | storageGet {w : World} {keyID : String} {encryptedDEK : Bytes} :
      w.storage keyID = some encryptedDEK →
        Answers w (.storageGet keyID) (Except.ok encryptedDEK) w
  | storageGetUnset {w : World} {keyID : String} :
      w.storage keyID = none → Answers w (.storageGet keyID) (Except.error errDEKUnset) w
  | storagePut {w : World} {keyID : String} {encryptedDEK : Bytes} :
      Answers w (.storagePut keyID encryptedDEK) none (w.put keyID encryptedDEK)
  | getRandomKey {w : World} {size : Nat} {key : Bytes} :
      key.length = size → Answers w (.getRandomKey size) (Except.ok key) w

/-- As `Answers`, or the call fails with an error of its own and changes nothing.  A
failed `storage.Get` is a transport error, never `storage.ErrDEKUnset`. -/
inductive AnswersOrFails : World → (op : Op) → op.Ret → World → Prop
  | answer {w w' : World} {op : Op} {r : op.Ret} : Answers w op r w' → AnswersOrFails w op r w'
  | fail {w : World} (op : Op) (err : GoError) :
      err.is errDEKUnset = false → AnswersOrFails w op (op.fail err) w

/-! ## What each call can do -/

section Inversion

variable {w w' : World}

theorem getSecret_inv {name : String} {r : Except GoError String}
    (h : AnswersOrFails w (.getSecret name) r w') :
    w' = w ∧ ∀ value, r = .ok value → w.vault name = some value := by
  rcases h with ⟨⟨h⟩ | ⟨h⟩⟩ | ⟨_, err, -⟩
  · exact ⟨rfl, by simpa⟩
  · exact ⟨rfl, by simp⟩
  · exact ⟨rfl, by simp [Op.fail]⟩

theorem setSecret_inv {name value contentType : String} {r : Option GoError}
    (h : AnswersOrFails w (.setSecret name value contentType) r w') :
    r = none ∧ w' = w.setSecret name value ∨ ∃ err, r = some err ∧ w' = w := by
  rcases h with ⟨⟨⟩⟩ | ⟨_, err, -⟩
  · exact .inl ⟨rfl, rfl⟩
  · exact .inr ⟨err, rfl, rfl⟩

theorem storageGet_inv {keyID : String} {r : Except GoError Bytes}
    (h : AnswersOrFails w (.storageGet keyID) r w') :
    w' = w ∧ (∀ d, r = .ok d → w.storage keyID = some d) ∧
      ∀ err, r = .error err → err.is errDEKUnset = true → w.storage keyID = none := by
  cases h with
  | answer h =>
    cases h with
    | storageGet h => exact ⟨rfl, by simpa, by simp⟩
    | storageGetUnset h => exact ⟨rfl, by simp, fun _ _ _ => h⟩
  | fail _ err hne =>
    refine ⟨rfl, by simp [Op.fail], ?_⟩
    rintro _ ⟨⟩ h
    simp [hne] at h

theorem storagePut_inv {keyID : String} {d : Bytes} {r : Option GoError}
    (h : AnswersOrFails w (.storagePut keyID d) r w') :
    r = none ∧ w' = w.put keyID d ∨ ∃ err, r = some err ∧ w' = w := by
  rcases h with ⟨⟨⟩⟩ | ⟨_, err, -⟩
  · exact .inl ⟨rfl, rfl⟩
  · exact .inr ⟨err, rfl, rfl⟩

theorem getRandomKey_inv {size : Nat} {r : Except GoError Bytes}
    (h : AnswersOrFails w (.getRandomKey size) r w') :
    w' = w ∧ ∀ key, r = .ok key → key.length = size := by
  rcases h with ⟨⟨h⟩⟩ | ⟨_, err, -⟩
  · exact ⟨rfl, by simpa⟩
  · exact ⟨rfl, by simp [Op.fail]⟩

end Inversion

/-! ## What each function can do -/

/-- The vault holds, under `kekID`, the base64 encoding of `kek`. -/
def World.HasKEK (w : World) (kekID : String) (kek : Bytes) : Prop :=
  ∃ value, w.vault kekID = some value ∧ Base64.decodeString value = .ok kek

/-- The runs of `GetDEK(kekID, keyID, dekSize)` from `w` to `w'` returning `res` under
`AnswersOrFails`, by the way they went through the function. -/
inductive GetDEKRun (kw : KeyWrap) (kekID keyID : String) (dekSize : Nat) (w w' : World)
    (res : Option Bytes × Option GoError) : Prop
  /-- Some call failed, or the KEK did not decode; nothing was written. -/
  | failed : w' = w → res.2 ≠ none → GetDEKRun kw kekID keyID dekSize w w' res
  /-- The storage held a wrapped DEK, which was unwrapped. -/
  | unwrapped {kek encryptedDEK : Bytes} : w' = w → w.HasKEK kekID kek →
      w.storage keyID = some encryptedDEK → res = ofExcept (kw.unwrapAES encryptedDEK kek) →
        GetDEKRun kw kekID keyID dekSize w w' res
  /-- The storage held none; a new DEK was generated, wrapped and stored. -/
  | generated {kek newDEK encryptedDEK : Bytes} : w.HasKEK kekID kek → w.storage keyID = none →
      newDEK.length = dekSize → kw.wrapAES newDEK kek = .ok encryptedDEK →
        w' = w.put keyID encryptedDEK → res = (some newDEK, none) →
          GetDEKRun kw kekID keyID dekSize w w' res

theorem exec_getKEK {w w' : World} {kekID : String} {tr : List (Answered Op Op.Ret)}
    {r : Except GoError Bytes} (h : Prog.Exec AnswersOrFails w (getKEK kekID) tr w' r) :
    w' = w ∧ ∀ kek, r = .ok kek → w.HasKEK kekID kek := by
  simp only [getKEK, getSecret, Prog.call_bind, Prog.pure_bind, Prog.pure_eq,
    Prog.exec_call_iff] at h
  obtain ⟨r', w₁, tr₁, hans, rfl, hk⟩ := h
  obtain ⟨rfl, hv⟩ := getSecret_inv hans
  rcases r' with e | v <;> simp only [Prog.pure_bind, Prog.pure_eq, Prog.exec_pure_iff] at hk <;>
    obtain ⟨-, rfl, rfl⟩ := hk
  · simp
  · exact ⟨rfl, fun kek hkek => ⟨v, hv v rfl, hkek⟩⟩

/-- Every run of `GetDEK` is one of the `GetDEKRun`s. -/
theorem exec_getDEK {kw : KeyWrap} {kekID keyID : String} {dekSize : Nat} {w w' : World}
    {tr : List (Answered Op Op.Ret)} {res : Option Bytes × Option GoError}
    (h : Prog.Exec AnswersOrFails w (getDEK kw kekID keyID dekSize) tr w' res) :
    GetDEKRun kw kekID keyID dekSize w w' res := by
  obtain ⟨tr₁, tr₂, w₁, kek?, rfl, hkek, hk⟩ := Prog.exec_bind_iff.1 h
  obtain ⟨rfl, hkek⟩ := exec_getKEK hkek
  rcases kek? with e | kek
  · simp only [Prog.pure_eq, Prog.exec_pure_iff] at hk
    obtain ⟨-, rfl, rfl⟩ := hk
    exact .failed rfl (by simp)
  simp only [storageGet, Prog.call_bind, Prog.pure_bind, Prog.pure_eq,
    Prog.exec_call_iff] at hk
  obtain ⟨r, w₂, tr₃, hans, rfl, hk⟩ := hk
  obtain ⟨rfl, hok, hunset⟩ := storageGet_inv hans
  rcases r with e | encryptedDEK
  · simp only [Bool.not_eq_true', Bool.not_eq_false'] at hk
    split at hk
    · obtain ⟨-, rfl, rfl⟩ := Prog.exec_pure_iff.1 hk
      exact .failed rfl (by simp)
    rename_i hsentinel
    simp only [getRandomKey, Prog.call_bind, Prog.pure_bind, Prog.exec_call_iff] at hk
    obtain ⟨r, w₃, tr₄, hans, rfl, hk⟩ := hk
    obtain ⟨rfl, hlen⟩ := getRandomKey_inv hans
    rcases r with e | newDEK
    · obtain ⟨-, rfl, rfl⟩ := Prog.exec_pure_iff.1 hk
      exact .failed rfl (by simp)
    simp only [putDEK] at hk
    split at hk
    · obtain ⟨-, rfl, rfl⟩ := Prog.exec_pure_iff.1 hk
      exact .failed rfl (by simp)
    rename_i encryptedDEK hwrap
    simp only [storagePut, Prog.call_bind, Prog.pure_bind, Prog.exec_call_iff,
      Prog.exec_pure_iff] at hk
    obtain ⟨r, w₄, _, hans, rfl, -, rfl, rfl⟩ := hk
    rcases storagePut_inv hans with ⟨rfl, rfl⟩ | ⟨err, rfl, rfl⟩
    · exact .generated (hkek kek rfl) (hunset e rfl (by simpa using hsentinel)) (hlen newDEK rfl)
        hwrap rfl rfl
    · exact .failed rfl (by simp)
  · obtain ⟨-, rfl, rfl⟩ := Prog.exec_pure_iff.1 hk
    exact .unwrapped rfl (hkek kek rfl) (hok encryptedDEK rfl) rfl

/-- `getKEK` against a vault that answers: the KEK is the decoded secret. -/
theorem exec_getKEK_answers {w w' : World} {kekID value : String}
    {tr : List (Answered Op Op.Ret)} {r : Except GoError Bytes}
    (h : Prog.Exec Answers w (getKEK kekID) tr w' r) (hv : w.vault kekID = some value) :
    r = Base64.decodeString value := by
  simp only [getKEK, getSecret, Prog.call_bind, Prog.pure_bind, Prog.pure_eq,
    Prog.exec_call_iff] at h
  obtain ⟨r', w₁, tr₁, hans, rfl, hk⟩ := h
  cases hans with
  | getSecret hv' =>
    obtain ⟨-, -, rfl⟩ := Prog.exec_pure_iff.1 hk
    rw [hv] at hv'
    cases hv'
    rfl
  | getSecretNotFound hv' => simp [hv] at hv'

/-- A successful `CreateKEK(kekID, key)` sets the secret `kekID` to the base64 encoding
of the key: `key` itself, or a key of 32 bytes from `GetRandomKey` when `key` is empty. -/
theorem exec_createKEK {w w' : World} {kekID : String} {key : Bytes}
    {tr : List (Answered Op Op.Ret)} (h : Prog.Exec AnswersOrFails w (createKEK kekID key) tr w' none) :
    ∃ k, w' = w.setSecret kekID (Base64.encodeToString k) ∧ (key ≠ [] → k = key) ∧
      (key = [] → k.length = symmetricKeyLength ∧
        (⟨.getRandomKey symmetricKeyLength, Except.ok k⟩ : Answered Op Op.Ret) ∈ tr) := by
  unfold createKEK at h
  obtain ⟨tr₁, tr₂, w₁, k?, rfl, hgen, hk⟩ := Prog.exec_bind_iff.1 h
  -- the key to import: the one given, or a generated one
  have hkey : ∀ k, k? = .ok k → w₁ = w ∧ (key ≠ [] → k = key) ∧
      (key = [] → k.length = symmetricKeyLength ∧
        (⟨.getRandomKey symmetricKeyLength, Except.ok k⟩ : Answered Op Op.Ret) ∈ tr₁) := by
    rintro k rfl
    by_cases hk0 : key = []
    · simp only [hk0, List.length_nil, if_true, getRandomKey, Prog.exec_call_iff,
        Prog.exec_pure_iff] at hgen
      obtain ⟨r, w₂, _, hans, rfl, rfl, rfl, rfl⟩ := hgen
      obtain ⟨rfl, hlen⟩ := getRandomKey_inv hans
      exact ⟨rfl, fun h => absurd hk0 h, fun _ => ⟨hlen k rfl, List.mem_cons_self _ _⟩⟩
    · simp only [List.length_eq_zero, hk0, if_false, Prog.pure_eq, Prog.exec_pure_iff,
        Except.ok.injEq] at hgen
      obtain ⟨rfl, rfl, rfl⟩ := hgen
      exact ⟨rfl, fun _ => rfl, fun h => absurd h hk0⟩
  rcases k? with e | k
  · simp [Prog.exec_pure_iff] at hk
  obtain ⟨rfl, hne, hnil⟩ := hkey k rfl
  simp only [setSecret, Prog.call_bind, Prog.pure_bind, Prog.exec_call_iff] at hk
  obtain ⟨r, w₂, tr₃, hans, rfl, hk⟩ := hk
  rcases setSecret_inv hans with ⟨rfl, rfl⟩ | ⟨err, rfl, rfl⟩
  · obtain ⟨-, rfl, -⟩ := Prog.exec_pure_iff.1 hk
    exact ⟨k, rfl, hne, fun h => ⟨(hnil h).1, List.mem_append_left _ (hnil h).2⟩⟩
  · simp [Prog.exec_pure_iff] at hk

/-! ## Where a `GetDEK` call stands -/

section Partial

variable {kw : KeyWrap} {kekID keyID : String} {dekSize : Nat}

/-- A call of `GetDEK(kekID, keyID, dekSize)` that got the answers `tr` and now
waits for the answer to `op`. -/
inductive Waiting (kw : KeyWrap) (kekID keyID : String) (dekSize : Nat) :
    List (Answered Op Op.Ret) → Op → Prop
  | kek : Waiting kw kekID keyID dekSize [] (.getSecret kekID)
  | storage {value : String} {kek : Bytes} : Base64.decodeString value = .ok kek →
      Waiting kw kekID keyID dekSize [⟨.getSecret kekID, Except.ok value⟩] (.storageGet keyID)
  | random {value : String} {kek : Bytes} {err : GoError} : Base64.decodeString value = .ok kek →
      err.is errDEKUnset = true →
      Waiting kw kekID keyID dekSize
        [⟨.getSecret kekID, Except.ok value⟩, ⟨.storageGet keyID, Except.error err⟩]
        (.getRandomKey dekSize)
  | put {value : String} {kek newDEK encryptedDEK : Bytes} {err : GoError} :
      Base64.decodeString value = .ok kek → err.is errDEKUnset = true →
      kw.wrapAES newDEK kek = .ok encryptedDEK →
      Waiting kw kekID keyID dekSize
        [⟨.getSecret kekID, Except.ok value⟩, ⟨.storageGet keyID, Except.error err⟩,
          ⟨.getRandomKey dekSize, Except.ok newDEK⟩]
        (.storagePut keyID encryptedDEK)

/-- A call of `GetDEK(kekID, keyID, dekSize)` that got the answers `tr` and
returned `dek` without error. -/
inductive ReturnedDEK (kw : KeyWrap) (kekID keyID : String) (dekSize : Nat) :
    List (Answered Op Op.Ret) → Bytes → Prop
  | unwrapped {value : String} {kek encryptedDEK dek : Bytes} :
      Base64.decodeString value = .ok kek → kw.unwrapAES encryptedDEK kek = .ok dek →
      ReturnedDEK kw kekID keyID dekSize
        [⟨.getSecret kekID, Except.ok value⟩, ⟨.storageGet keyID, Except.ok encryptedDEK⟩] dek
  | generated {value : String} {kek newDEK encryptedDEK : Bytes} {err : GoError} :
      Base64.decodeString value = .ok kek → err.is errDEKUnset = true →
      kw.wrapAES newDEK kek = .ok encryptedDEK →
      ReturnedDEK kw kekID keyID dekSize
        [⟨.getSecret kekID, Except.ok value⟩, ⟨.storageGet keyID, Except.error err⟩,
          ⟨.getRandomKey dekSize, Except.ok newDEK⟩, ⟨.storagePut keyID encryptedDEK, none⟩]
        newDEK

/-- A call of `GetDEK(kekID, keyID, dekSize)` that got the answers `tr` and returned the
DEK `dek` next to the error `err`: `putDEK` failed on the DEK just generated. -/
inductive ReturnedWithError (kw : KeyWrap) (kekID keyID : String) (dekSize : Nat) :
    List (Answered Op Op.Ret) → Bytes → GoError → Prop
  | wrapFailed {value : String} {kek newDEK : Bytes} {err e : GoError} :
      Base64.decodeString value = .ok kek → err.is errDEKUnset = true →
      kw.wrapAES newDEK kek = .error e →
      ReturnedWithError kw kekID keyID dekSize
        [⟨.getSecret kekID, Except.ok value⟩, ⟨.storageGet keyID, Except.error err⟩,
          ⟨.getRandomKey dekSize, Except.ok newDEK⟩]
        newDEK (.wrap "encrypting DEK" e)
  | putFailed {value : String} {kek newDEK encryptedDEK : Bytes} {err e : GoError} :
      Base64.decodeString value = .ok kek → err.is errDEKUnset = true →
      kw.wrapAES newDEK kek = .ok encryptedDEK →
      ReturnedWithError kw kekID keyID dekSize
        [⟨.getSecret kekID, Except.ok value⟩, ⟨.storageGet keyID, Except.error err⟩,
          ⟨.getRandomKey dekSize, Except.ok newDEK⟩, ⟨.storagePut keyID encryptedDEK, some e⟩]
        newDEK e

/-- What `GetDEK` can have become after the answers `tr`: waiting for a call, or
returned; when it returned a DEK, with or without an error, the log says how. -/
theorem getDEK_reaches {tr : List (Answered Op Op.Ret)} {p : Kms (Option Bytes × Option GoError)}
    (h : Prog.Reaches (getDEK kw kekID keyID dekSize) tr p) :
    (∀ op k, p = .call op k → Waiting kw kekID keyID dekSize tr op) ∧
      (∀ dek, p = .pure (some dek, none) → ReturnedDEK kw kekID keyID dekSize tr dek) ∧
      ∀ dek err, p = .pure (some dek, some err) →
        ReturnedWithError kw kekID keyID dekSize tr dek err := by
  simp only [getDEK, getKEK, getSecret, Prog.call_bind, Prog.pure_bind, Prog.pure_eq,
    Prog.reaches_call_iff] at h
  rcases h with ⟨rfl, rfl⟩ | ⟨r, tr, rfl, h⟩
  · exact ⟨by rintro op k ⟨⟩; exact .kek, by simp, by simp⟩
  rcases r with e | value
  · simp only [Prog.pure_bind, Prog.reaches_pure_iff] at h
    obtain ⟨rfl, rfl⟩ := h
    simp
  simp only [Prog.pure_bind] at h
  split at h
  · obtain ⟨rfl, rfl⟩ := Prog.reaches_pure_iff.1 h
    simp
  rename_i kek hdec
  simp only [storageGet, Prog.call_bind, Prog.pure_bind, Prog.reaches_call_iff] at h
  rcases h with ⟨rfl, rfl⟩ | ⟨r, tr, rfl, h⟩
  · exact ⟨by rintro op k ⟨⟩; exact .storage hdec, by simp, by simp⟩
  rcases r with e | encryptedDEK
  · simp only [Bool.not_eq_true', Bool.not_eq_false'] at h
    split at h
    · obtain ⟨rfl, rfl⟩ := Prog.reaches_pure_iff.1 h
      simp
    rename_i hunset
    simp only [getRandomKey, Prog.call_bind, Prog.pure_bind, Prog.reaches_call_iff] at h
    rcases h with ⟨rfl, rfl⟩ | ⟨r, tr, rfl, h⟩
    · exact ⟨by rintro op k ⟨⟩; exact .random hdec (by simpa using hunset), by simp, by simp⟩
    rcases r with e | newDEK
    · obtain ⟨rfl, rfl⟩ := Prog.reaches_pure_iff.1 h
      simp
    simp only [putDEK] at h
    split at h
    · rename_i e hwrap
      obtain ⟨rfl, rfl⟩ := Prog.reaches_pure_iff.1 h
      refine ⟨by simp, by simp, ?_⟩
      rintro dek err ⟨⟩
      exact .wrapFailed hdec (by simpa using hunset) hwrap
    rename_i encryptedDEK hwrap
    simp only [storagePut, Prog.call_bind, Prog.pure_bind, Prog.reaches_call_iff] at h
    rcases h with ⟨rfl, rfl⟩ | ⟨r, tr, rfl, h⟩
    · exact ⟨by rintro op k ⟨⟩; exact .put hdec (by simpa using hunset) hwrap, by simp, by simp⟩
    obtain ⟨rfl, rfl⟩ := Prog.reaches_pure_iff.1 h
    refine ⟨by simp, fun dek h => ?_, fun dek err h => ?_⟩ <;> cases h
    · exact .generated hdec (by simpa using hunset) hwrap
    · exact .putFailed hdec (by simpa using hunset) hwrap
  · obtain ⟨rfl, rfl⟩ := Prog.reaches_pure_iff.1 h
    refine ⟨by simp, fun dek hdek => ?_, fun dek err hdek => ?_⟩
    · simp only [Prog.pure.injEq, ofExcept_eq_ok_iff] at hdek
      exact .unwrapped hdec hdek
    · cases hu : kw.unwrapAES encryptedDEK kek <;> simp [hu, ofExcept] at hdek

/-- A call that returned a DEK without error and got a generated DEK `x` generated it
itself: it returns `x`, and its storage `Get` found the key ID unset. -/
theorem ReturnedDEK.of_mem_random {tr : List (Answered Op Op.Ret)} {d x : Bytes}
    (h : ReturnedDEK kw kekID keyID dekSize tr d)
    (hx : (⟨.getRandomKey dekSize, Except.ok x⟩ : Answered Op Op.Ret) ∈ tr) :
    x = d ∧ ∃ err, err.is errDEKUnset = true ∧
      (⟨.storageGet keyID, Except.error err⟩ : Answered Op Op.Ret) ∈ tr := by
  cases h with
  | unwrapped => simp at hx
  | generated _ hunset =>
    simp only [List.mem_cons, Answered.mk.injEq, heq_eq_eq, Except.ok.injEq, true_and,
      List.not_mem_nil, or_false, reduceCtorEq, false_and, false_or] at hx
    exact ⟨by injection hx, _, hunset, by simp⟩

end Partial

end Constellation.Kms.Azure
