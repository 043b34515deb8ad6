import Constellation.Kms.Azure

/-!
# What `GetDEK` implements: a store of DEKs

Read without its error paths, `KMSClient.GetDEK(kekID, keyID, dekSize)` is a get-or-create
on a map from key IDs to plaintext DEKs: it returns the DEK stored under `keyID`, or stores
a fresh DEK of `dekSize` bytes and returns it (`DEKStore.getOrCreate`).  The storage holds
the DEKs wrapped under the KEK of the vault; `Abstracts` relates it to the map it stands
for.

`getDEKCalls_refine` shows that the client refines the map as long as the calls do not
overlap: every sequence of `GetDEK` calls against one KEK, each call free to fail at any of
its steps, is a run of the map (`StoreRun`) in which a call that returned without error
got what `getOrCreate` gives, and a call that returned an error left the map alone.  A
call that returned an error may still hand back a DEK (`getDEK_dek_with_error`); the map
does not hold it.

Overlapping calls do not refine the map: two first-time calls can return different DEKs
for one key ID (`Constellation.Kms.Race`).
-/

namespace Constellation.Kms.Azure

/-- The map `GetDEK` is meant to implement: the plaintext DEK of each key ID, if any. -/
abbrev DEKStore := String → Option Bytes

/-- `GetDEK` on the map: the DEK stored under `keyID`, or `fresh`, now stored. -/
def DEKStore.getOrCreate (σ : DEKStore) (keyID : String) (fresh : Bytes) : DEKStore × Bytes :=
  match σ keyID with
  | some d => (σ, d)
  | none => (Function.update σ keyID (some fresh), fresh)

/-- The runs of the map for the calls `cs`: a call that returned without error got the DEK
`getOrCreate` gives for some fresh DEK of the size it asked for; a call that returned an
error changed nothing. -/
inductive StoreRun : DEKStore → List GetDEKCall → DEKStore → Prop
  | nil (σ : DEKStore) : StoreRun σ [] σ
  | ok {σ σ' : DEKStore} {c : GetDEKCall} {cs : List GetDEKCall} (fresh : Bytes) :
      c.res = (some (σ.getOrCreate c.keyID fresh).2, none) → fresh.length = c.dekSize →
        StoreRun (σ.getOrCreate c.keyID fresh).1 cs σ' → StoreRun σ (c :: cs) σ'
  | failed {σ σ' : DEKStore} {c : GetDEKCall} {cs : List GetDEKCall} :
      c.res.2 ≠ none → StoreRun σ cs σ' → StoreRun σ (c :: cs) σ'

variable {kw : KeyWrap} {kekID : String} {kek : Bytes}

/-- The world stands for the map `σ`: the vault holds `kek` for `kekID`, a key ID has a
wrapped DEK exactly when the map has a DEK for it, and the wrapped DEK unwraps to it. -/
structure Abstracts (kw : KeyWrap) (kekID : String) (kek : Bytes) (w : World) (σ : DEKStore) :
    Prop where
  hasKEK : w.HasKEK kekID kek
  unset : ∀ keyID, w.storage keyID = none ↔ σ keyID = none
  unwrap : ∀ keyID e d, w.storage keyID = some e → σ keyID = some d → kw.unwrapAES e kek = .ok d

/-- A fresh deployment stands for the empty map. -/
theorem abstracts_empty {w : World} (hkek : w.HasKEK kekID kek)
    (hempty : ∀ keyID, w.storage keyID = none) : Abstracts kw kekID kek w fun _ => none where
  hasKEK := hkek
  unset keyID := by simp [hempty keyID]
  unwrap _ _ _ h := by simp [hempty] at h

section Refinement

variable {w w' : World} {σ : DEKStore}

/-- Putting a wrapped DEK under a key ID without one stands for storing the DEK. -/
theorem Abstracts.put (hrt : kw.RoundTrip) (hR : Abstracts kw kekID kek w σ) {keyID : String}
    {d e : Bytes} (hwrap : kw.wrapAES d kek = .ok e) :
    Abstracts kw kekID kek (w.put keyID e) (Function.update σ keyID (some d)) where
  hasKEK := by obtain ⟨v, hv, hdec⟩ := hR.hasKEK; exact ⟨v, hv, hdec⟩
  unset k := by
    by_cases hk : k = keyID
    · subst hk; simp
    · simpa [World.put, hk] using hR.unset k
  unwrap k e' d' he hd := by
    by_cases hk : k = keyID
    · subst hk
      simp only [World.put_storage_self, Option.some.injEq] at he
      simp only [Function.update_same, Option.some.injEq] at hd
      subst he hd
      exact hrt _ _ _ hwrap
    · exact hR.unwrap k e' d' (by simpa [World.put, hk] using he) (by simpa [hk] using hd)

/-- One `GetDEK` call against the KEK of the map: without error it returns what
`getOrCreate` gives for a fresh DEK of the size asked for, with an error it leaves the map
alone. -/
theorem Abstracts.getDEK (hrt : kw.RoundTrip) (hR : Abstracts kw kekID kek w σ)
    {keyID : String} {dekSize : Nat} {tr : List (Answered Op Op.Ret)}
    {res : Option Bytes × Option GoError}
    (h : Prog.Exec AnswersOrFails w (getDEK kw kekID keyID dekSize) tr w' res) :
    (res.2 ≠ none ∧ Abstracts kw kekID kek w' σ) ∨
      ∃ fresh, res = (some (σ.getOrCreate keyID fresh).2, none) ∧ fresh.length = dekSize ∧
        Abstracts kw kekID kek w' (σ.getOrCreate keyID fresh).1 := by
  cases exec_getDEK h with
  | failed hw hne => exact .inl ⟨hne, hw ▸ hR⟩
  | @unwrapped kek' e hw hkek hs hres =>
    subst hw
    obtain rfl := hkek.unique hR.hasKEK
    obtain ⟨d, hd⟩ := Option.ne_none_iff_exists'.1 fun h => by simp [(hR.unset keyID).2 h] at hs
    have hu := hR.unwrap keyID e d hs hd
    -- the stored DEK is returned and the map is unchanged; the fresh DEK is not used
    refine .inr ⟨List.replicate dekSize 0, ?_, by simp, ?_⟩ <;>
      simp only [DEKStore.getOrCreate, hd]
    · rw [hres, hu, ofExcept_ok]
    · exact hR
  | @generated kek' newDEK e hkek hs hlen hwrap hw hres =>
    subst hw hres
    obtain rfl := hkek.unique hR.hasKEK
    have hnone := (hR.unset keyID).1 hs
    refine .inr ⟨newDEK, by simp [DEKStore.getOrCreate, hnone], hlen, ?_⟩
    simpa only [DEKStore.getOrCreate, hnone] using hR.put hrt hwrap

end Refinement

/-- Calls of `GetDEK` against one KEK that do not overlap are a run of the map of DEKs:
from a world that stands for `σ`, the calls `cs` take the world to one that stands for
`σ'`, where `StoreRun σ cs σ'` and `StoreRun` says what each call returned. -/
theorem getDEKCalls_refine (hrt : kw.RoundTrip) {w w' : World} {σ : DEKStore}
    {cs : List GetDEKCall} (hR : Abstracts kw kekID kek w σ) (hcalls : GetDEKCalls kw w cs w')
    (hkek : ∀ c ∈ cs, c.kekID = kekID) :
    ∃ σ', StoreRun σ cs σ' ∧ Abstracts kw kekID kek w' σ' := by
  induction hcalls generalizing σ with
  | nil => exact ⟨σ, .nil σ, hR⟩
  | @cons _ _ _ c _ _ hc _ ih =>
    have hc' := hkek c (List.mem_cons_self _ _) ▸ hc
    rcases hR.getDEK hrt hc' with ⟨hne, hR₁⟩ | ⟨fresh, hres, hlen, hR₁⟩
    · obtain ⟨σ', hrun, hR'⟩ := ih hR₁ fun c' hc' => hkek c' (List.mem_cons_of_mem _ hc')
      exact ⟨σ', .failed hne hrun, hR'⟩
    · obtain ⟨σ', hrun, hR'⟩ := ih hR₁ fun c' hc' => hkek c' (List.mem_cons_of_mem _ hc')
      exact ⟨σ', .ok fresh hres hlen hrun, hR'⟩

/-- A first call for `disk-uuid` that generates and stores a DEK, and a second that reads it
back. -/
def twoGetDEKs : List GetDEKCall :=
  [⟨"kek-1", "disk-uuid", 32, (some (List.replicate 32 7), none)⟩,
    ⟨"kek-1", "disk-uuid", 16, (some (List.replicate 32 7), none)⟩]

theorem getDEKCalls_refine_twoGetDEKs :
    plainWrap.RoundTrip ∧
      Abstracts plainWrap "kek-1" (List.replicate 32 1) kekWorld (fun _ => none) ∧
      GetDEKCalls plainWrap kekWorld twoGetDEKs (kekWorld.put "disk-uuid" (List.replicate 32 7)) ∧
      (∀ c ∈ twoGetDEKs, c.kekID = "kek-1") ∧
      ∃ σ', StoreRun (fun _ => none) twoGetDEKs σ' ∧
        Abstracts plainWrap "kek-1" (List.replicate 32 1)
          (kekWorld.put "disk-uuid" (List.replicate 32 7)) σ' := by
  have hR : Abstracts plainWrap "kek-1" (List.replicate 32 1) kekWorld (fun _ => none) :=
    abstracts_empty ⟨_, rfl, Base64.decodeString_encodeToString _⟩ fun _ => rfl
  have hcalls : GetDEKCalls plainWrap kekWorld twoGetDEKs
      (kekWorld.put "disk-uuid" (List.replicate 32 7)) :=
    .cons (.call (.answer (.getSecret rfl)) <| .call (.answer (.storageGetUnset rfl)) <|
        .call (.answer (.getRandomKey (show (List.replicate 32 7).length = 32 from rfl))) <|
          .call (.answer .storagePut) (.pure _ _)) <|
      .cons (.call (.answer (.getSecret rfl)) <|
        .call (.answer (.storageGet (by simp [World.put]))) (.pure _ _)) (.nil _)
  exact ⟨plainWrap_roundTrip, hR, hcalls, by decide,
    getDEKCalls_refine plainWrap_roundTrip hR hcalls (by decide)⟩

end Constellation.Kms.Azure
