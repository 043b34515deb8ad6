import Mathlib.Logic.Relation
import Constellation.Kms.Azure

/-!
# Overlapping `GetDEK` calls

`KMSClient.GetDEK` reads the storage and, when it finds no DEK, generates one and puts it;
nothing makes the `Get` and the `Put` one step.  This file runs calls of `GetDEK` side by
side against one vault and one storage, each call making its calls to the outside one at
a time in any order of the threads (`Sys.Step`), and shows what the client guarantees:

* two first-time calls for the same key ID can both return without error, with
  different DEKs: both `Get`s come before either `Put`; a later call then returns the DEK
  of the call that put last, so once a call returned `d`, a later call can return another
  DEK (`getDEK_later_calls_differ`, which also shows that `GetDEK` checks no size when it
  unwraps);
* that is the only way. If both calls return without error, a later `GetDEK` that
  returns without error returns one of their two DEKs, and the two differ only if both
  calls found the key ID unset;
* for any number of calls (`getDEK_concurrent`), every DEK a call returned without error,
  and every DEK a later `GetDEK` returns once some call has put its DEK, is one that a
  call generated and put.

A thread's program is always what `GetDEK` becomes after the answers in its log
(`Prog.Reaches`), and `getDEK_reaches` says once what that can be: waiting for one of
four calls (`Waiting`), or returned.  The invariant `Sys.Inv` records where a wrapped
DEK in the storage came from: a thread that generated the DEK and put it.
-/

namespace Constellation.Kms.Azure

variable {kw : KeyWrap} {kekID keyID : String} {dekSize : Nat}

/-! ## Calls side by side -/

/-- Calls of `GetDEK` running side by side, indexed by `ι`: the shared vault and storage,
and for each call the rest of its program and the answers it got so far. -/
structure Sys (ι : Type) where
  world : World
  thread : ι → Kms (Option Bytes × Option GoError)
  log : ι → List (Answered Op Op.Ret)

variable {ι : Type}

/-- Every thread about to start `GetDEK(kekID, keyID, dekSize)` in the world `w`. -/
def Sys.start (kw : KeyWrap) (kekID keyID : String) (dekSize : Nat) (w : World) : Sys ι :=
  ⟨w, fun _ => getDEK kw kekID keyID dekSize, fun _ => []⟩

/-- Some thread generated a DEK, wrapped it as `encryptedDEK` under the KEK that `w₀`
holds for `kekID`, and put it successfully. -/
def Sys.Stored (kw : KeyWrap) (kekID keyID : String) (dekSize : Nat) (w₀ : World) (s : Sys ι)
    (encryptedDEK : Bytes) : Prop :=
  ∃ j newDEK kek, (⟨.getRandomKey dekSize, Except.ok newDEK⟩ : Answered Op Op.Ret) ∈ s.log j ∧
    (⟨.storagePut keyID encryptedDEK, none⟩ : Answered Op Op.Ret) ∈ s.log j ∧
    w₀.HasKEK kekID kek ∧ kw.wrapAES newDEK kek = .ok encryptedDEK

/-- What an answer a thread got says, still true in `s`: a KEK read from the vault is the
one `w₀` holds, a wrapped DEK read from the storage was stored by a thread, a key ID read
or written is still set, and a generated DEK has the size asked for. -/
def Sys.AnswerHolds (kw : KeyWrap) (kekID keyID : String) (dekSize : Nat) (w₀ : World)
    (s : Sys ι) (a : Answered Op Op.Ret) : Prop :=
  (∀ value, a = ⟨.getSecret kekID, Except.ok value⟩ → w₀.vault kekID = some value) ∧
  (∀ e, a = ⟨.storageGet keyID, Except.ok e⟩ →
    s.Stored kw kekID keyID dekSize w₀ e ∧ s.world.storage keyID ≠ none) ∧
  (∀ e, a = ⟨.storagePut keyID e, none⟩ → s.world.storage keyID ≠ none) ∧
  (∀ d, a = ⟨.getRandomKey dekSize, Except.ok d⟩ → d.length = dekSize)

/-- The invariant of calls `GetDEK(kekID, keyID, dekSize)` started in `w₀`: the vault
does not change, every thread is where its answers took `GetDEK`, a wrapped DEK in the
storage was generated and put by some thread, and every answer in a log still holds. -/
structure Sys.Inv (kw : KeyWrap) (kekID keyID : String) (dekSize : Nat) (w₀ : World)
    (s : Sys ι) : Prop where
  vault : s.world.vault = w₀.vault
  reaches : ∀ i, Prog.Reaches (getDEK kw kekID keyID dekSize) (s.log i) (s.thread i)
  stored : ∀ e, s.world.storage keyID = some e → s.Stored kw kekID keyID dekSize w₀ e
  answers : ∀ i, ∀ a ∈ s.log i, s.AnswerHolds kw kekID keyID dekSize w₀ a

theorem Sys.inv_start {w₀ : World} (h : w₀.storage keyID = none) :
    (Sys.start kw kekID keyID dekSize w₀ : Sys ι).Inv kw kekID keyID dekSize w₀ where
  vault := rfl
  reaches _ := .refl _
  stored _ hs := by simp [Sys.start, h] at hs
  answers _ _ h := absurd h (List.not_mem_nil _)

/-! ## What the invariant gives -/

section Consequences

variable {w₀ : World} {s : Sys ι}

/-- A wrapped DEK that a thread stored unwraps, under the KEK of the vault, to the DEK
that thread generated. -/
theorem Sys.Stored.unwrap (hrt : kw.RoundTrip) {e kek : Bytes}
    (h : s.Stored kw kekID keyID dekSize w₀ e) (hkek : w₀.HasKEK kekID kek) :
    ∃ j d, kw.unwrapAES e kek = .ok d ∧
      (⟨.getRandomKey dekSize, Except.ok d⟩ : Answered Op Op.Ret) ∈ s.log j ∧
      (⟨.storagePut keyID e, none⟩ : Answered Op Op.Ret) ∈ s.log j := by
  obtain ⟨j, d, kek', h₁, h₂, hkek', hwrap⟩ := h
  obtain rfl := hkek.unique hkek'
  exact ⟨j, d, hrt d kek e hwrap, h₁, h₂⟩

/-- A thread that returned a DEK without error returns a DEK that some thread generated
and put successfully. -/
theorem Sys.Inv.returned (hrt : kw.RoundTrip) (hs : s.Inv kw kekID keyID dekSize w₀) {i : ι}
    {d : Bytes} (hi : s.thread i = .pure (some d, none)) :
    ∃ j e, (⟨.getRandomKey dekSize, Except.ok d⟩ : Answered Op Op.Ret) ∈ s.log j ∧
      (⟨.storagePut keyID e, none⟩ : Answered Op Op.Ret) ∈ s.log j := by
  obtain ⟨L, hL, h⟩ : ∃ L, s.log i = L ∧ ReturnedDEK kw kekID keyID dekSize L d :=
    ⟨_, rfl, (getDEK_reaches (hi ▸ hs.reaches i)).2.1 d rfl⟩
  cases h with
  | @unwrapped value _ e _ hdec hunwrap =>
    have hv := (hs.answers i _ (by simp [hL])).1 value rfl
    obtain ⟨j, d', hd', h₁, h₂⟩ :=
      ((hs.answers i _ (by simp [hL])).2.1 e rfl).1.unwrap hrt ⟨value, hv, hdec⟩
    obtain rfl : d = d' := by simpa [hunwrap] using hd'
    exact ⟨j, e, h₁, h₂⟩
  | @generated _ _ _ e => exact ⟨i, e, by simp [hL], by simp [hL]⟩

/-- A thread that returned a DEK without error and got a generated DEK `x` returns `x`,
and found the key ID unset. -/
theorem Sys.Inv.mem_random_of_returned (hs : s.Inv kw kekID keyID dekSize w₀) {i : ι}
    {d x : Bytes} (hi : s.thread i = .pure (some d, none))
    (hx : (⟨.getRandomKey dekSize, Except.ok x⟩ : Answered Op Op.Ret) ∈ s.log i) :
    x = d ∧ ∃ err, err.is errDEKUnset = true ∧
      (⟨.storageGet keyID, Except.error err⟩ : Answered Op Op.Ret) ∈ s.log i :=
  ((getDEK_reaches (hi ▸ hs.reaches i)).2.1 d rfl).of_mem_random hx

/-- Once some thread has put a wrapped DEK, a `GetDEK` run against the storage that
returns without error returns a DEK that some thread generated and put. -/
theorem Sys.Inv.getDEK_later (hrt : kw.RoundTrip) (hs : s.Inv kw kekID keyID dekSize w₀)
    (hset : s.world.storage keyID ≠ none) {m : Nat} {tr : List (Answered Op Op.Ret)} {w' : World}
    {res : Option Bytes × Option GoError}
    (h : Prog.Exec AnswersOrFails s.world (getDEK kw kekID keyID m) tr w' res)
    (hres : res.2 = none) :
    ∃ j d e, res = (some d, none) ∧
      (⟨.getRandomKey dekSize, Except.ok d⟩ : Answered Op Op.Ret) ∈ s.log j ∧
      (⟨.storagePut keyID e, none⟩ : Answered Op Op.Ret) ∈ s.log j := by
  cases exec_getDEK h with
  | failed _ hne => exact absurd hres hne
  | unwrapped _ hkek hstore hres' =>
    obtain ⟨value, hv, hdec⟩ := hkek
    obtain ⟨j, d, hd, h₁, h₂⟩ := (hs.stored _ hstore).unwrap hrt ⟨value, hs.vault ▸ hv, hdec⟩
    exact ⟨j, d, _, by rw [hres', hd]; rfl, h₁, h₂⟩
  | generated _ hnone => exact absurd hnone hset

end Consequences

variable [DecidableEq ι]

/-- Thread `i` gets the answer `r` to its call `op`, and the world becomes `w'`. -/
def Sys.next (s : Sys ι) (i : ι) {op : Op} (k : op.Ret → Kms (Option Bytes × Option GoError))
    (r : op.Ret) (w' : World) : Sys ι :=
  ⟨w', Function.update s.thread i (k r), Function.update s.log i (s.log i ++ [⟨op, r⟩])⟩

/-- One step: the next call of thread `i` is answered. -/
inductive Sys.Step : Sys ι → Sys ι → Prop
  | call {s : Sys ι} (i : ι) {op : Op} {k : op.Ret → Kms (Option Bytes × Option GoError)}
      {r : op.Ret} {w' : World} :
      s.thread i = .call op k → AnswersOrFails s.world op r w' → Sys.Step s (s.next i k r w')

section Next

variable {s : Sys ι} {i : ι} {op : Op} {k : op.Ret → Kms (Option Bytes × Option GoError)}
  {r : op.Ret} {w' : World}

@[simp] theorem Sys.next_world : (s.next i k r w').world = w' := rfl

theorem Sys.mem_next_log {j : ι} {a : Answered Op Op.Ret} :
    a ∈ (s.next i k r w').log j ↔ a ∈ s.log j ∨ j = i ∧ a = ⟨op, r⟩ := by
  by_cases hj : j = i
  · subst hj; simp [Sys.next]
  · simp [Sys.next, hj]

theorem Sys.Stored.next {w₀ : World} {e : Bytes} (h : s.Stored kw kekID keyID dekSize w₀ e) :
    (s.next i k r w').Stored kw kekID keyID dekSize w₀ e := by
  obtain ⟨j, d, kek, h₁, h₂, h₃⟩ := h
  exact ⟨j, d, kek, Sys.mem_next_log.2 (.inl h₁), Sys.mem_next_log.2 (.inl h₂), h₃⟩

theorem Sys.AnswerHolds.next {w₀ : World} {a : Answered Op Op.Ret}
    (h : s.AnswerHolds kw kekID keyID dekSize w₀ a)
    (hset : s.world.storage keyID ≠ none → w'.storage keyID ≠ none) :
    (s.next i k r w').AnswerHolds kw kekID keyID dekSize w₀ a :=
  ⟨h.1, fun e he => ⟨(h.2.1 e he).1.next, hset (h.2.1 e he).2⟩, fun e he => hset (h.2.2.1 e he),
    h.2.2.2⟩

/-- The thread that was answered moves on to its continuation; the others stay. -/
theorem Sys.reaches_next {p : Kms (Option Bytes × Option GoError)}
    (hs : ∀ j, Prog.Reaches p (s.log j) (s.thread j)) (hthread : s.thread i = .call op k) (j : ι) :
    Prog.Reaches p ((s.next i k r w').log j) ((s.next i k r w').thread j) := by
  by_cases hj : j = i
  · subst hj; simpa [Sys.next] using (hthread ▸ hs j).snoc r
  · simpa [Sys.next, hj] using hs j

/-- A step keeps the invariant when it leaves the vault alone, keeps the key ID set,
stores only what a thread stored, and its answer holds. -/
theorem Sys.Inv.next {w₀ : World} (hs : s.Inv kw kekID keyID dekSize w₀)
    (hthread : s.thread i = .call op k) (hvault : w'.vault = s.world.vault)
    (hset : s.world.storage keyID ≠ none → w'.storage keyID ≠ none)
    (hstored : ∀ e, w'.storage keyID = some e → (s.next i k r w').Stored kw kekID keyID dekSize w₀ e)
    (hnew : (s.next i k r w').AnswerHolds kw kekID keyID dekSize w₀ ⟨op, r⟩) :
    (s.next i k r w').Inv kw kekID keyID dekSize w₀ where
  vault := hvault.trans hs.vault
  reaches := Sys.reaches_next hs.reaches hthread
  stored := hstored
  answers j a ha := by
    rcases Sys.mem_next_log.1 ha with ha | ⟨-, rfl⟩
    · exact (hs.answers j a ha).next hset
    · exact hnew

/-- A step that leaves the world as it was keeps the invariant when its answer holds. -/
theorem Sys.Inv.next_same {w₀ : World} (hs : s.Inv kw kekID keyID dekSize w₀)
    (hthread : s.thread i = .call op k)
    (hnew : (s.next i k r s.world).AnswerHolds kw kekID keyID dekSize w₀ ⟨op, r⟩) :
    (s.next i k r s.world).Inv kw kekID keyID dekSize w₀ :=
  hs.next hthread rfl id (fun e he => (hs.stored e he).next) hnew

end Next

/-- One step keeps the invariant. -/
theorem Sys.Inv.step {w₀ : World} {s s' : Sys ι} (hs : s.Inv kw kekID keyID dekSize w₀)
    (h : Sys.Step s s') : s'.Inv kw kekID keyID dekSize w₀ := by
  obtain ⟨i, hthread, hans⟩ := h
  obtain ⟨L, hL, hwait⟩ : ∃ L, s.log i = L ∧ Waiting kw kekID keyID dekSize L _ :=
    ⟨_, rfl, (getDEK_reaches (hthread ▸ hs.reaches i)).1 _ _ rfl⟩
  cases hwait with
  | kek =>
    obtain ⟨rfl, hv⟩ := getSecret_inv hans
    refine hs.next_same hthread ⟨?_, by rintro _ ⟨⟩, by rintro _ ⟨⟩, by rintro _ ⟨⟩⟩
    rintro value ⟨⟩
    exact hs.vault ▸ hv value rfl
  | storage =>
    obtain ⟨rfl, hd, -⟩ := storageGet_inv hans
    refine hs.next_same hthread ⟨by rintro _ ⟨⟩, ?_, by rintro _ ⟨⟩, by rintro _ ⟨⟩⟩
    rintro e ⟨⟩
    have he := hd e rfl
    exact ⟨(hs.stored e he).next, by simp [he]⟩
  | random =>
    obtain ⟨rfl, hlen⟩ := getRandomKey_inv hans
    refine hs.next_same hthread ⟨by rintro _ ⟨⟩, by rintro _ ⟨⟩, by rintro _ ⟨⟩, ?_⟩
    rintro d ⟨⟩
    exact hlen d rfl
  | @put value _ _ _ _ hdec _ hwrap =>
    rcases storagePut_inv hans with ⟨rfl, rfl⟩ | ⟨err, rfl, rfl⟩
    · have hv := (hs.answers i _ (by simp [hL])).1 value rfl
      refine hs.next hthread rfl (fun _ => by simp) ?_
        ⟨by rintro _ ⟨⟩, by rintro _ ⟨⟩, by rintro _ ⟨⟩; simp, by rintro _ ⟨⟩⟩
      intro e he
      obtain rfl : _ = e := by simpa using he
      exact ⟨i, _, _, Sys.mem_next_log.2 (.inl (by simp [hL])),
        Sys.mem_next_log.2 (.inr ⟨rfl, rfl⟩), ⟨_, hv, hdec⟩, hwrap⟩
    · exact hs.next_same hthread
        ⟨by rintro _ ⟨⟩, by rintro _ ⟨⟩, by rintro _ ⟨⟩, by rintro _ ⟨⟩⟩

/-- Every state that calls started on an unset key ID reach keeps the invariant. -/
theorem Sys.inv_of_run {w₀ : World} {s : Sys ι} (h0 : w₀.storage keyID = none)
    (h : Relation.ReflTransGen Sys.Step (Sys.start kw kekID keyID dekSize w₀) s) :
    s.Inv kw kekID keyID dekSize w₀ := by
  induction h with
  | refl => exact Sys.inv_start h0
  | tail _ hstep ih => exact ih.step hstep

/-! ## Two calls -/

/-- Two first-time calls, `true` and `false`, that return different DEKs: both read the
KEK, both find the key ID unset, both generate a DEK and both put it, `false` last. -/
theorem two_deks_run : ∃ s : Sys Bool,
    Relation.ReflTransGen Sys.Step (Sys.start plainWrap "kek-1" "disk-uuid" 32 kekWorld) s ∧
      s.thread true = .pure (some (List.replicate 32 1), none) ∧
      s.thread false = .pure (some (List.replicate 32 2), none) ∧
      s.world.vault = kekWorld.vault ∧ s.world.storage "disk-uuid" = some (List.replicate 32 2) :=
  ⟨_, .tail (.tail (.tail (.tail (.tail (.tail (.tail (.tail .refl
    (.call true rfl (.answer (.getSecret rfl))))
    (.call false rfl (.answer (.getSecret rfl))))
    (.call true rfl (.answer (.storageGetUnset rfl))))
    (.call false rfl (.answer (.storageGetUnset rfl))))
    (.call true rfl (.answer (.getRandomKey (show (List.replicate 32 1).length = 32 from rfl)))))
    (.call false rfl (.answer (.getRandomKey (show (List.replicate 32 2).length = 32 from rfl)))))
    (.call true rfl (.answer .storagePut)))
    (.call false rfl (.answer .storagePut)), rfl, rfl, rfl, rfl⟩

/-- Two first-time calls for the same key ID can both return without error, with
different DEKs. -/
theorem getDEK_race_two_deks :
    plainWrap.RoundTrip ∧ kekWorld.storage "disk-uuid" = none ∧ ∃ s : Sys Bool,
      Relation.ReflTransGen Sys.Step (Sys.start plainWrap "kek-1" "disk-uuid" 32 kekWorld) s ∧
        s.thread true = .pure (some (List.replicate 32 1), none) ∧
        s.thread false = .pure (some (List.replicate 32 2), none) ∧
        List.replicate 32 (1 : UInt8) ≠ List.replicate 32 2 :=
  ⟨plainWrap_roundTrip, rfl, two_deks_run.imp fun _ h => ⟨h.1, h.2.1, h.2.2.1, by decide⟩⟩

/-- Two calls started on an unset key ID that both return without error: each returns a
generated DEK of the size asked for, the two differ only if both calls found the key ID
unset, and a later `GetDEK` that returns without error returns one of them. -/
theorem getDEK_race {w₀ : World} {s : Sys Bool} {d₁ d₂ : Bytes} (hrt : kw.RoundTrip)
    (h0 : w₀.storage keyID = none)
    (hrun : Relation.ReflTransGen Sys.Step (Sys.start kw kekID keyID dekSize w₀) s)
    (h₁ : s.thread true = .pure (some d₁, none)) (h₂ : s.thread false = .pure (some d₂, none)) :
    d₁.length = dekSize ∧ d₂.length = dekSize ∧
      (d₁ ≠ d₂ → ∀ b, ∃ err, err.is errDEKUnset = true ∧
        (⟨.storageGet keyID, Except.error err⟩ : Answered Op Op.Ret) ∈ s.log b) ∧
      ∀ m tr w' res, Prog.Exec AnswersOrFails s.world (getDEK kw kekID keyID m) tr w' res →
        res.2 = none → res = (some d₁, none) ∨ res = (some d₂, none) := by
  have hs := Sys.inv_of_run h0 hrun
  obtain ⟨j₁, e₁, hg₁, hp₁⟩ := hs.returned hrt h₁
  obtain ⟨j₂, -, hg₂, -⟩ := hs.returned hrt h₂
  refine ⟨(hs.answers j₁ _ hg₁).2.2.2 _ rfl, (hs.answers j₂ _ hg₂).2.2.2 _ rfl,
    fun hne b => ?_, fun m tr w' res h hres => ?_⟩
  -- a DEK that one of the two threads generated is the DEK that thread returned
  · cases b
    · cases j₂
      · exact (hs.mem_random_of_returned h₂ hg₂).2
      · exact absurd (hs.mem_random_of_returned h₁ hg₂).1.symm hne
    · cases j₁
      · exact absurd (hs.mem_random_of_returned h₂ hg₁).1 hne
      · exact (hs.mem_random_of_returned h₁ hg₁).2
  · obtain ⟨j, d, -, rfl, hg, -⟩ :=
      hs.getDEK_later hrt ((hs.answers j₁ _ hp₁).2.2.1 e₁ rfl) h hres
    cases j
    · exact .inr (by rw [(hs.mem_random_of_returned h₂ hg).1])
    · exact .inl (by rw [(hs.mem_random_of_returned h₁ hg).1])

theorem getDEK_race_later_call : ∃ s : Sys Bool,
    Relation.ReflTransGen Sys.Step (Sys.start plainWrap "kek-1" "disk-uuid" 32 kekWorld) s ∧
      s.thread true = .pure (some (List.replicate 32 1), none) ∧
      s.thread false = .pure (some (List.replicate 32 2), none) ∧
      (List.replicate 32 (1 : UInt8)).length = 32 ∧ (List.replicate 32 (2 : UInt8)).length = 32 ∧
      (List.replicate 32 (1 : UInt8) ≠ List.replicate 32 2 → ∀ b, ∃ err,
        err.is errDEKUnset = true ∧
          (⟨.storageGet "disk-uuid", Except.error err⟩ : Answered Op Op.Ret) ∈ s.log b) ∧
      ∀ m tr w' res,
        Prog.Exec AnswersOrFails s.world (getDEK plainWrap "kek-1" "disk-uuid" m) tr w' res →
          res.2 = none → res = (some (List.replicate 32 1), none) ∨
            res = (some (List.replicate 32 2), none) := by
  obtain ⟨s, hrun, h₁, h₂, -⟩ := two_deks_run
  exact ⟨s, hrun, h₁, h₂, getDEK_race plainWrap_roundTrip rfl hrun h₁ h₂⟩

/-! ## Any number of calls -/

/-- Any number of calls started on an unset key ID: a call that returned a DEK without
error returns a DEK of the size asked for that some call generated and put; and once some
call has put its DEK, a later `GetDEK` that returns without error returns a DEK of that
size that some call generated and put. -/
theorem getDEK_concurrent {w₀ : World} {s : Sys ι} (hrt : kw.RoundTrip)
    (h0 : w₀.storage keyID = none)
    (hrun : Relation.ReflTransGen Sys.Step (Sys.start kw kekID keyID dekSize w₀) s) :
    (∀ i d, s.thread i = .pure (some d, none) → d.length = dekSize ∧ ∃ j e,
      (⟨.getRandomKey dekSize, Except.ok d⟩ : Answered Op Op.Ret) ∈ s.log j ∧
        (⟨.storagePut keyID e, none⟩ : Answered Op Op.Ret) ∈ s.log j) ∧
      ((∃ j e, (⟨.storagePut keyID e, none⟩ : Answered Op Op.Ret) ∈ s.log j) →
        ∀ m tr w' res, Prog.Exec AnswersOrFails s.world (getDEK kw kekID keyID m) tr w' res →
          res.2 = none → ∃ j d e, res = (some d, none) ∧ d.length = dekSize ∧
            (⟨.getRandomKey dekSize, Except.ok d⟩ : Answered Op Op.Ret) ∈ s.log j ∧
            (⟨.storagePut keyID e, none⟩ : Answered Op Op.Ret) ∈ s.log j) := by
  have hs := Sys.inv_of_run h0 hrun
  refine ⟨fun i d hi => ?_, fun ⟨j, e, hp⟩ m tr w' res h hres => ?_⟩
  · obtain ⟨j, e, hg, hp⟩ := hs.returned hrt hi
    exact ⟨(hs.answers j _ hg).2.2.2 _ rfl, j, e, hg, hp⟩
  · obtain ⟨j', d, e', rfl, hg, hp'⟩ :=
      hs.getDEK_later hrt ((hs.answers j _ hp).2.2.1 e rfl) h hres
    exact ⟨j', d, e', rfl, (hs.answers j' _ hg).2.2.2 _ rfl, hg, hp'⟩

theorem getDEK_concurrent_two_calls : ∃ s : Sys Bool,
    Relation.ReflTransGen Sys.Step (Sys.start plainWrap "kek-1" "disk-uuid" 32 kekWorld) s ∧
      (∀ i d, s.thread i = .pure (some d, none) → d.length = 32 ∧ ∃ j e,
        (⟨.getRandomKey 32, Except.ok d⟩ : Answered Op Op.Ret) ∈ s.log j ∧
          (⟨.storagePut "disk-uuid" e, none⟩ : Answered Op Op.Ret) ∈ s.log j) ∧
      ((∃ j e, (⟨.storagePut "disk-uuid" e, none⟩ : Answered Op Op.Ret) ∈ s.log j) →
        ∀ m tr w' res,
          Prog.Exec AnswersOrFails s.world (getDEK plainWrap "kek-1" "disk-uuid" m) tr w' res →
            res.2 = none → ∃ j d e, res = (some d, none) ∧ d.length = 32 ∧
              (⟨.getRandomKey 32, Except.ok d⟩ : Answered Op Op.Ret) ∈ s.log j ∧
              (⟨.storagePut "disk-uuid" e, none⟩ : Answered Op Op.Ret) ∈ s.log j) := by
  obtain ⟨s, hrun, -⟩ := two_deks_run
  exact ⟨s, hrun, getDEK_concurrent plainWrap_roundTrip rfl hrun⟩

end Constellation.Kms.Azure
