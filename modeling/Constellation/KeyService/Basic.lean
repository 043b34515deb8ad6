import Mathlib.Data.Fintype.Basic
import Constellation.Go

/-!
# `state/keyservice`: the key API of a restarting node

A restarting node runs `KeyAPI.WaitForDecryptionKey`: it starts a gRPC server that serves
`PushStateDiskKey`, and `requestKeyLoop` asks the Coordinators for the state disk key until
a signal arrives on the one-slot channel `keyReceived`.  `PushStateDiskKey` takes the mutex,
checks the key slot and the length of the pushed key, stores the key and sends the signal
while it still holds the mutex.  `ResetKey` empties the slot for the next wait.

This file is the model of that shared state (`KeyAPI`) and of every step that changes it
(`step`), one event at a time, so that runs interleave the handlers, the waiting loop and
`ResetKey` in any order:

* `waitForDecryptionKey`: the checks and the set-up before `server.Serve`;
* `clientTLS`, `receive`, `returnKey`, `stop`: `requestKeyLoop`'s TLS set-up, its receive
  on `keyReceived`, `return a.key, nil`, and the deferred `GracefulStop`, which waits for
  the handlers still running;
* `pushStateDiskKey`, `lock`, `send`: a handler that the server starts, its checks under
  the mutex, and its send on `keyReceived`, which may wait while it holds the mutex;
* `resetKey`.

Waits do not overlap and `ResetKey` is called only while no wait is in progress, as the
callers use them; the model's steps keep to that.  The requests that `requestKeyLoop` sends
on each tick change none of these fields; they are modelled in `KeyService.RequestKey`.
-/

namespace Constellation.KeyService

/-- `config.RNGLengthDefault`.  The `config` package is not in this tree; the value is the
length that `TestPushStateDiskKey` pushes successfully (a 32-byte key is accepted, a 16-byte
key rejected). -/
def rngLengthDefault : Nat := 32

/-- The gRPC codes `PushStateDiskKey` answers with. -/
inductive Code where
  | failedPrecondition
  | invalidArgument
  deriving DecidableEq, Repr

/-- `status.Error(code, msg)`. -/
structure Status where
  code : Code
  message : String
  deriving DecidableEq, Repr

/-- The answer to a push when the slot already holds a key. -/
def errAlreadyReceived : Status :=
  ⟨.failedPrecondition, "node already received a passphrase"⟩

/-- The answer to a push of a key of length `got`. -/
def errInvalidPassphrase (got : Nat) : Status :=
  ⟨.invalidArgument, "received invalid passphrase: expected length: " ++
    toString rngLengthDefault ++ ", but got: " ++ toString got⟩

/-- `errors.New("received no disk UUID")`. -/
def errNoDiskUUID : GoError := .msg "received no disk UUID"

/-- Where one caller of `PushStateDiskKey` stands. -/
inductive PushPhase where
  /-- Not in a call. -/
  | idle
  /-- The server runs the handler for `key`; it waits for the mutex. -/
  | waiting (key : Bytes)
  /-- The handler holds the mutex, has stored `key` and sends on `keyReceived`. -/
  | sending (key : Bytes)
  /-- The call returned, with this error or none. -/
  | returned (err : Option Status)
  deriving DecidableEq, Repr

/-- The server is still running the handler. -/
def PushPhase.InFlight : PushPhase → Bool
  | .waiting _ | .sending _ => true
  | .idle | .returned _ => false

/-- Where the one `WaitForDecryptionKey` in progress stands. -/
inductive WaitPhase where
  /-- No wait in progress; the last one returned `last`. -/
  | idle (last : Option (Except GoError Bytes))
  /-- The server serves; `requestKeyLoop` sets up its client TLS config. -/
  | serving
  /-- `requestKeyLoop` selects on `keyReceived` and its ticker. -/
  | looping
  /-- `requestKeyLoop` returned nil; `a.key` is not read yet. -/
  | received
  /-- The wait returns `res` once the deferred `GracefulStop` returns. -/
  | stopping (res : Except GoError Bytes)

/-- The server accepts calls: it was started and `GracefulStop` has not begun. -/
def WaitPhase.Serves : WaitPhase → Bool
  | .serving | .looping | .received => true
  | .idle _ | .stopping _ => false

/-- A `KeyAPI` shared by the callers indexed by `ι`: the key slot `key`, whether the
channel `keyReceived` holds a signal, the caller holding the mutex `mux`, the wait in
progress and every caller of `PushStateDiskKey`. -/
structure KeyAPI (ι : Type) where
  key : Bytes
  keyReceived : Bool
  mux : Option ι
  wait : WaitPhase
  push : ι → PushPhase

namespace KeyAPI

variable {ι : Type}

/-- `New`: no key, no signal, no wait, no call. -/
def new : KeyAPI ι := ⟨[], false, none, .idle none, fun _ => .idle⟩

section Steps

variable [DecidableEq ι]

/-- Caller `i` moves to the phase `p`. -/
def setPush (s : KeyAPI ι) (i : ι) (p : PushPhase) : KeyAPI ι :=
  { s with push := Function.update s.push i p }

/-- `PushStateDiskKey(key)` once caller `i` holds the mutex: a key already in the slot or
a key of the wrong length is refused (and the mutex released); otherwise the key is stored
and the send begins, with the mutex held. -/
def lockStep (s : KeyAPI ι) (i : ι) (key : Bytes) : KeyAPI ι :=
  if s.key.length ≠ 0 then s.setPush i (.returned (some errAlreadyReceived))
  else if key.length ≠ rngLengthDefault then
    s.setPush i (.returned (some (errInvalidPassphrase key.length)))
  else { s.setPush i (.sending key) with key := key, mux := some i }

/-- What `WaitForDecryptionKey(uuid)` does before `server.Serve`: it refuses an empty UUID,
and returns the error `setup` of the server TLS config or of `net.Listen` if there is one. -/
def startWait (uuid : String) (setup : Option GoError) : WaitPhase :=
  if uuid = "" then .idle (some (.error errNoDiskUUID))
  else match setup with
    | some err => .idle (some (.error err))
    | none => .serving

/-- A wait either serves or has already returned an error. -/
theorem startWait_cases (uuid : String) (setup : Option GoError) :
    startWait uuid setup = .serving ∨ ∃ err, startWait uuid setup = .idle (some (.error err)) := by
  unfold startWait
  split_ifs
  · exact .inr ⟨_, rfl⟩
  · cases setup with
    | some err => exact .inr ⟨err, rfl⟩
    | none => exact .inl rfl

/-- Where the wait goes once `CreateUnverifiedClientTLSConfig` returned `err`: it returns
`err`, or the loop starts. -/
def afterClientTLS : Option GoError → WaitPhase
  | some err => .stopping (.error err)
  | none => .looping

/-- The events of a run. -/
inductive Event (ι : Type) where
  /-- `WaitForDecryptionKey` is called; its set-up fails with `setup`, or not. -/
  | waitForDecryptionKey (uuid : String) (setup : Option GoError)
  /-- `requestKeyLoop`: `CreateUnverifiedClientTLSConfig` fails with `err`, or not. -/
  | clientTLS (err : Option GoError)
  /-- `requestKeyLoop`: `case <-a.keyReceived: return nil`. -/
  | receive
  /-- `WaitForDecryptionKey`: `return a.key, nil`. -/
  | returnKey
  /-- The deferred `server.GracefulStop()` returns. -/
  | stop
  /-- `ResetKey`. -/
  | resetKey
  /-- The server starts `PushStateDiskKey(key)` for caller `i`. -/
  | pushStateDiskKey (i : ι) (key : Bytes)
  /-- Caller `i` takes the mutex and runs the checks. -/
  | lock (i : ι)
  /-- Caller `i`'s send on `keyReceived` completes; it returns and releases the mutex. -/
  | send (i : ι)

variable [Fintype ι]

/-- One event, or `none` when it cannot happen now (a blocked send, a held mutex, a wait
that is not at that point). -/
def step (s : KeyAPI ι) : Event ι → Option (KeyAPI ι)
  | .waitForDecryptionKey uuid setup =>
    match s.wait with
    | .idle _ => some { s with wait := startWait uuid setup }
    | _ => none
  | .clientTLS err =>
    match s.wait with
    | .serving => some { s with wait := afterClientTLS err }
    | _ => none
  | .receive =>
    match s.wait with
    | .looping => if s.keyReceived then some { s with keyReceived := false, wait := .received }
      else none
    | _ => none
  | .returnKey =>
    match s.wait with
    | .received => some { s with wait := .stopping (.ok s.key) }
    | _ => none
  | .stop =>
    match s.wait with
    | .stopping res =>
      if ∀ i, (s.push i).InFlight = false then some { s with wait := .idle (some res) } else none
    | _ => none
  | .resetKey =>
    match s.wait with
    | .idle _ => some { s with key := [] }
    | _ => none
  | .pushStateDiskKey i key =>
    if s.wait.Serves = true ∧ (s.push i).InFlight = false then some (s.setPush i (.waiting key))
    else none
  | .lock i =>
    match s.push i, s.mux with
    | .waiting key, none => some (s.lockStep i key)
    | _, _ => none
  | .send i =>
    match s.push i with
    | .sending _ =>
      if s.keyReceived then none
      else some { s.setPush i (.returned none) with keyReceived := true, mux := none }
    | _ => none

/-- The events `es` one after the other, or `none` if one of them cannot happen. -/
def run (s : KeyAPI ι) : List (Event ι) → Option (KeyAPI ι)
  | [] => some s
  | e :: es => (s.step e).bind fun s' => s'.run es

end Steps

/-! ## Small lemmas -/

section Lemmas

variable [DecidableEq ι] {s s' : KeyAPI ι} {i j : ι} {p : PushPhase} {key : Bytes}

@[simp] theorem setPush_key : (s.setPush i p).key = s.key := rfl
@[simp] theorem setPush_keyReceived : (s.setPush i p).keyReceived = s.keyReceived := rfl
@[simp] theorem setPush_mux : (s.setPush i p).mux = s.mux := rfl
@[simp] theorem setPush_wait : (s.setPush i p).wait = s.wait := rfl
@[simp] theorem setPush_push_self : (s.setPush i p).push i = p := by simp [setPush]

theorem setPush_push_of_ne (h : j ≠ i) : (s.setPush i p).push j = s.push j := by
  simp [setPush, h]

/-- The three outcomes of the checks under the mutex. -/
theorem lockStep_cases (s : KeyAPI ι) (i : ι) (key : Bytes) :
    s.key ≠ [] ∧ s.lockStep i key = s.setPush i (.returned (some errAlreadyReceived)) ∨
    s.key = [] ∧ key.length ≠ rngLengthDefault ∧
      s.lockStep i key = s.setPush i (.returned (some (errInvalidPassphrase key.length))) ∨
    s.key = [] ∧ key.length = rngLengthDefault ∧
      s.lockStep i key = { s.setPush i (.sending key) with key := key, mux := some i } := by
  by_cases hk : s.key = [] <;> by_cases hl : key.length = rngLengthDefault <;>
    simp [lockStep, hk, hl]

variable [Fintype ι]

theorem run_cons (e : Event ι) (es : List (Event ι)) :
    s.run (e :: es) = (s.step e).bind fun s' => s'.run es := rfl

theorem run_append (es es' : List (Event ι)) :
    s.run (es ++ es') = (s.run es).bind fun t => t.run es' := by
  induction es generalizing s with
  | nil => rfl
  | cons e es ih =>
    simp only [List.cons_append, run_cons, ih]
    cases s.step e <;> rfl

/-! ### What each event does -/

theorem step_lock (h : s.step (.lock i) = some s') :
    ∃ key, s.push i = .waiting key ∧ s.mux = none ∧ s' = s.lockStep i key := by
  simp only [step] at h
  split at h
  · cases h; exact ⟨_, ‹_›, ‹_›, rfl⟩
  · cases h

theorem step_send (h : s.step (.send i) = some s') :
    ∃ key, s.push i = .sending key ∧ s.keyReceived = false ∧
      s' = { s.setPush i (.returned none) with keyReceived := true, mux := none } := by
  simp only [step] at h
  split at h
  · split at h
    · cases h
    · rename_i hr
      cases h; exact ⟨_, ‹_›, by simpa using hr, rfl⟩
  · cases h

theorem step_pushStateDiskKey (h : s.step (.pushStateDiskKey i key) = some s') :
    s.wait.Serves = true ∧ (s.push i).InFlight = false ∧ s' = s.setPush i (.waiting key) := by
  simp only [step] at h
  split at h
  · rename_i hc
    cases h; exact ⟨hc.1, hc.2, rfl⟩
  · cases h

theorem step_receive (h : s.step .receive = some s') :
    s.wait = .looping ∧ s.keyReceived = true ∧
      s' = { s with keyReceived := false, wait := .received } := by
  simp only [step] at h
  split at h
  · split at h
    · cases h; exact ⟨‹_›, ‹_›, rfl⟩
    · cases h
  · cases h

theorem step_returnKey (h : s.step .returnKey = some s') :
    s.wait = .received ∧ s' = { s with wait := .stopping (.ok s.key) } := by
  simp only [step] at h
  split at h
  · cases h; exact ⟨‹_›, rfl⟩
  · cases h

theorem step_stop (h : s.step .stop = some s') :
    ∃ res, s.wait = .stopping res ∧ (∀ i, (s.push i).InFlight = false) ∧
      s' = { s with wait := .idle (some res) } := by
  simp only [step] at h
  split at h
  · split at h
    · cases h; exact ⟨_, ‹_›, ‹_›, rfl⟩
    · cases h
  · cases h

theorem step_resetKey (h : s.step .resetKey = some s') :
    (∃ last, s.wait = .idle last) ∧ s' = { s with key := [] } := by
  simp only [step] at h
  split at h
  · cases h; exact ⟨⟨_, ‹_›⟩, rfl⟩
  · cases h

theorem step_waitForDecryptionKey {uuid : String} {setup : Option GoError}
    (h : s.step (.waitForDecryptionKey uuid setup) = some s') :
    (∃ last, s.wait = .idle last) ∧ s' = { s with wait := startWait uuid setup } := by
  simp only [step] at h
  split at h
  · cases h; exact ⟨⟨_, ‹_›⟩, rfl⟩
  · cases h

theorem step_clientTLS {err : Option GoError} (h : s.step (.clientTLS err) = some s') :
    s.wait = .serving ∧ s' = { s with wait := afterClientTLS err } := by
  simp only [step] at h
  split at h
  · cases h; exact ⟨‹_›, rfl⟩
  · cases h

end Lemmas

/-! ## The mutex

`MutexHeld` says what holding the mutex means in every state the handlers can reach: the
caller recorded in `mux` is the one that is sending, its key is the one in the slot, it
has the right length, and the channel is empty, so that its send can complete.  It is kept
by every step, given two facts that hold where the callers run: a key is stored only when
no signal is pending, and the slot is emptied only when no handler is sending. -/

/-- No caller is sending. -/
def NoneSending (s : KeyAPI ι) : Prop := ∀ j k, s.push j ≠ .sending k

/-- The caller in `mux` is the one sending the key in the slot, and the channel is empty. -/
structure MutexHeld (s : KeyAPI ι) : Prop where
  mux : ∀ j, s.mux = some j ↔ ∃ k, s.push j = .sending k
  sending : ∀ j k, s.push j = .sending k →
    s.key = k ∧ s.keyReceived = false ∧ k.length = rngLengthDefault

section Mutex

variable {s s' : KeyAPI ι} {i : ι} {p : PushPhase}

theorem MutexHeld.noneSending (h : s.MutexHeld) (hm : s.mux = none) : s.NoneSending :=
  fun j k hj => by simpa [hm] using (h.mux j).2 ⟨k, hj⟩

theorem MutexHeld.of_noneSending (hn : s.NoneSending) (hm : s.mux = none) : s.MutexHeld where
  mux j := by simpa [hm] using hn j
  sending j k hj := absurd hj (hn j k)

/-- The wait does not take part in `MutexHeld`. -/
theorem MutexHeld.withWait (h : s.MutexHeld) (w : WaitPhase) : { s with wait := w }.MutexHeld :=
  ⟨h.mux, h.sending⟩

variable [DecidableEq ι]

/-- Moving a caller that is not sending to a phase that is not sending. -/
theorem MutexHeld.setPush (h : s.MutexHeld) (hi : ∀ k, s.push i ≠ .sending k)
    (hp : ∀ k, p ≠ .sending k) : (s.setPush i p).MutexHeld where
  mux j := by
    by_cases hj : j = i
    · subst hj; simpa [hp] using fun hm => hi _ ((h.mux j).1 hm).choose_spec
    · simpa [setPush_push_of_ne hj] using h.mux j
  sending j k hj := by
    by_cases hji : j = i
    · subst hji; exact absurd (by simpa using hj) (hp k)
    · exact h.sending j k (by simpa [setPush_push_of_ne hji] using hj)

variable [Fintype ι]

/-- Taking the mutex keeps `MutexHeld` when an empty slot comes with an empty channel. -/
theorem MutexHeld.lock (h : s.MutexHeld) (hfree : s.key = [] → s.keyReceived = false)
    (hs : s.step (.lock i) = some s') : s'.MutexHeld := by
  obtain ⟨key, hw, hm, rfl⟩ := step_lock hs
  have hn := h.noneSending hm
  rcases lockStep_cases s i key with ⟨-, he⟩ | ⟨-, -, he⟩ | ⟨hk, hl, he⟩ <;> rw [he]
  · exact h.setPush (hn i) (by simp)
  · exact h.setPush (hn i) (by simp)
  · refine ⟨fun j => ?_, fun j k hj => ?_⟩
    · by_cases hji : j = i
      · subst hji; simp
      · simpa [setPush_push_of_ne hji, Ne.symm hji] using hn j
    · by_cases hji : j = i
      · subst hji
        obtain rfl : key = k := by simpa using hj
        exact ⟨rfl, hfree hk, hl⟩
      · exact absurd (by simpa [setPush_push_of_ne hji] using hj) (hn j k)

/-- A completed send releases the mutex. -/
theorem MutexHeld.send (h : s.MutexHeld) (hs : s.step (.send i) = some s') : s'.MutexHeld := by
  obtain ⟨key, hsend, -, rfl⟩ := step_send hs
  have hm := (h.mux i).2 ⟨key, hsend⟩
  refine .of_noneSending (fun j k hj => ?_) rfl
  by_cases hji : j = i
  · subst hji; simp at hj
  · simp only [setPush_push_of_ne hji] at hj
    exact hji (Option.some_injective _ (((h.mux j).2 ⟨k, hj⟩).symm.trans hm))

/-- A handler the server starts is not sending yet. -/
theorem MutexHeld.pushStateDiskKey {key : Bytes} (h : s.MutexHeld)
    (hs : s.step (.pushStateDiskKey i key) = some s') : s'.MutexHeld := by
  obtain ⟨-, hi, rfl⟩ := step_pushStateDiskKey hs
  exact h.setPush (fun k hk => by simp [hk, PushPhase.InFlight] at hi) (by simp)

/-- Receiving the signal: no one was sending, since the channel was full. -/
theorem MutexHeld.receive (h : s.MutexHeld) (hs : s.step .receive = some s') :
    s'.MutexHeld := by
  obtain ⟨-, hr, rfl⟩ := step_receive hs
  exact ⟨h.mux, fun j k hj => by simpa [hr] using (h.sending j k hj).2.1⟩

end Mutex

end KeyAPI

end Constellation.KeyService
