import Constellation.KeyService.Basic

/-!
# The signal on `keyReceived`

A signal in `keyReceived` means "a key was pushed".  Nothing removes a signal except the
receive in `requestKeyLoop`, and `ResetKey` empties the slot without looking at the channel.
So a wait that stops after its server accepted a push but before its loop received (here:
`CreateUnverifiedClientTLSConfig` fails) leaves the signal behind; after `ResetKey`, the
next `WaitForDecryptionKey` receives it at once and returns the empty slot without error
(`staleSignal`, `nextWait`).  A valid push in that state blocks in its send while it holds
the mutex, and while no loop drains the channel no other call returns
(`pushStateDiskKey_blocks_forever`).

When no wait stops that way, the signal and the slot agree in every reachable state
(`Coherent`): a signal is pending only while the slot holds a key of length
`RNGLengthDefault`, a wait that returns without error returns such a key, and a handler
that holds the mutex always finds the channel empty.  Since the slot is filled only by an
accepted push and emptied only by `ResetKey` (`step_key`), the key such a wait returns is
one that a push accepted after the last `ResetKey` (`waitForDecryptionKey_returns_pushed_key`).
-/

namespace Constellation.KeyService

/-- The loop of the wait in progress has received the signal. -/
def WaitPhase.HasReceived : WaitPhase → Bool
  | .received | .stopping _ => true
  | .idle _ | .serving | .looping => false

namespace KeyAPI

variable {ι : Type}

/-- A wait that stops after a push of `key` by caller `i` was accepted, because the client
TLS config cannot be created (`err`), followed by `ResetKey`. -/
def staleSignal (i : ι) (key : Bytes) (err : GoError) : List (Event ι) :=
  [.waitForDecryptionKey "disk-uuid" none, .pushStateDiskKey i key, .lock i, .send i,
    .clientTLS (some err), .stop, .resetKey]

/-- The next wait: its loop starts and receives, and it returns. -/
def nextWait : List (Event ι) :=
  [.waitForDecryptionKey "disk-uuid" none, .clientTLS none, .receive, .returnKey, .stop]

/-- After `staleSignal` a signal is pending while the slot is empty, and the next wait
returns the empty key without error. -/
theorem waitForDecryptionKey_returns_empty_key :
    ∃ s s' : KeyAPI Unit,
      new.run (staleSignal () (List.replicate 32 65) (.msg "client TLS config")) = some s ∧
        s.keyReceived = true ∧ s.key = [] ∧
        s.run nextWait = some s' ∧ s'.wait = .idle (some (.ok [])) :=
  ⟨_, _, rfl, rfl, rfl, rfl, rfl⟩

/-- `staleSignal` by caller `true`, then a wait whose server starts the pushes of both
callers and whose loop fails to set up its TLS config. -/
def blockedRun : List (Event Bool) :=
  staleSignal true (List.replicate 32 65) (.msg "client TLS config") ++
    [.waitForDecryptionKey "disk-uuid" none, .pushStateDiskKey true (List.replicate 32 65),
      .pushStateDiskKey false (List.replicate 32 65), .clientTLS (some (.msg "client TLS config"))]

/-- From the state `staleSignal` leaves, a valid push blocks in its send while it holds the
mutex: with the second wait stopped too, no event can happen any more, and the other call
never returns. -/
theorem pushStateDiskKey_blocks_forever :
    ∃ s₀ s₁ : KeyAPI Bool, new.run blockedRun = some s₀ ∧
      s₀.key = [] ∧ s₀.keyReceived = true ∧ s₀.mux = none ∧
      s₀.push true = .waiting (List.replicate 32 65) ∧
      s₀.push false = .waiting (List.replicate 32 65) ∧
      s₀.step (.lock true) = some s₁ ∧ (∀ e, s₁.step e = none) ∧
      s₁.push false = .waiting (List.replicate 32 65) := by
  obtain ⟨s₀, h₀⟩ : ∃ s₀, new.run blockedRun = some s₀ := ⟨_, rfl⟩
  obtain ⟨s₁, h₁⟩ : ∃ s₁, s₀.step (.lock true) = some s₁ := by
    simp only [blockedRun, staleSignal] at h₀
    cases h₀
    exact ⟨_, rfl⟩
  refine ⟨s₀, s₁, h₀, ?_⟩
  simp only [blockedRun, staleSignal] at h₀
  cases h₀
  cases h₁
  refine ⟨rfl, rfl, rfl, rfl, rfl, rfl, ?_, rfl⟩
  rintro (_ | _ | _ | _ | _ | _ | ⟨_ | _, _⟩ | (_ | _) | (_ | _)) <;> rfl

/-! ## When every loop that starts also receives -/

/-- The event that makes a wait stop after its server started, before its loop can
receive. -/
def Event.FailsClientTLS : Event ι → Bool
  | .clientTLS (some _) => true
  | _ => false

/-- The invariant of a `KeyAPI` whose loops are never stopped by their TLS set-up: the
mutex is held as `MutexHeld` says, a pending signal comes with a key of the right length,
no signal and no handler outlive a wait, and a wait whose loop received stops with the key
in the slot, of the right length, while no handler sends. -/
structure Coherent (s : KeyAPI ι) : Prop where
  held : s.MutexHeld
  signal : s.keyReceived = true → s.key.length = rngLengthDefault
  idle : ∀ last, s.wait = .idle last → s.keyReceived = false ∧
    (∀ j, (s.push j).InFlight = false) ∧ ∀ r, last = some (.ok r) → r.length = rngLengthDefault
  received : s.wait.HasReceived = true →
    s.keyReceived = false ∧ s.key.length = rngLengthDefault ∧ s.NoneSending
  stopping : ∀ res, s.wait = .stopping res → res = .ok s.key

theorem coherent_new : (new : KeyAPI ι).Coherent where
  held := .of_noneSending (fun _ _ h => by cases h) rfl
  signal h := by cases h
  idle _ hw := by cases hw; exact ⟨rfl, fun _ => rfl, fun _ h => by cases h⟩
  received h := by cases h
  stopping _ h := by cases h

section Steps

variable {s s' : KeyAPI ι}

/-- While a caller is in a handler, a wait is in progress. -/
theorem Coherent.not_idle (h : s.Coherent) (j : ι) (hj : (s.push j).InFlight = true)
    (last : Option (Except GoError Bytes)) : s.wait ≠ .idle last :=
  fun hw => by simp [(h.idle last hw).2.1 j] at hj

/-- An empty slot comes with an empty channel. -/
theorem Coherent.keyReceived_of_empty (h : s.Coherent) (hk : s.key = []) :
    s.keyReceived = false :=
  Bool.eq_false_iff.2 fun hr => by simpa [hk, rngLengthDefault] using h.signal hr

variable [DecidableEq ι] {i : ι}

/-- Moving a caller that is not sending to a phase that is not sending, in a handler only
while the server serves. -/
theorem Coherent.setPush {p : PushPhase} (h : s.Coherent) (hi : ∀ k, s.push i ≠ .sending k)
    (hp : ∀ k, p ≠ .sending k) (hserves : p.InFlight = true → s.wait.Serves = true) :
    (s.setPush i p).Coherent where
  held := h.held.setPush hi hp
  signal := h.signal
  idle last hw := by
    refine ⟨(h.idle last hw).1, fun j => ?_, (h.idle last hw).2.2⟩
    by_cases hji : j = i
    · subst hji
      simpa using mt hserves (by simp [setPush_wait] at hw; simp [hw, WaitPhase.Serves])
    · simpa [setPush_push_of_ne hji] using (h.idle last hw).2.1 j
  received hr := by
    obtain ⟨h₁, h₂, hn⟩ := h.received hr
    refine ⟨h₁, h₂, fun j k => ?_⟩
    by_cases hji : j = i
    · subst hji; simpa using hp k
    · simpa [setPush_push_of_ne hji] using hn j k
  stopping := h.stopping

variable [Fintype ι]

theorem Coherent.waitForDecryptionKey (h : s.Coherent) {uuid : String} {setup : Option GoError}
    (hs : s.step (.waitForDecryptionKey uuid setup) = some s') : s'.Coherent := by
  obtain ⟨⟨last, hw⟩, rfl⟩ := step_waitForDecryptionKey hs
  obtain ⟨h₁, h₂, -⟩ := h.idle last hw
  rcases startWait_cases uuid setup with hsw | ⟨err, hsw⟩ <;> rw [hsw]
  · exact ⟨h.held.withWait _, h.signal, fun _ hw => (by cases hw), fun hr => (by cases hr),
      fun _ hr => by cases hr⟩
  · refine ⟨h.held.withWait _, h.signal, fun last' hw' => ?_, fun hr => (by cases hr),
      fun _ hr => by cases hr⟩
    cases hw'
    exact ⟨h₁, h₂, fun _ hr => by cases hr⟩

theorem Coherent.clientTLS (h : s.Coherent) (hs : s.step (.clientTLS none) = some s') :
    s'.Coherent := by
  obtain ⟨-, rfl⟩ := step_clientTLS hs
  exact ⟨h.held.withWait _, h.signal, fun _ hw => (by cases hw), fun hr => (by cases hr),
    fun _ hr => by cases hr⟩

theorem Coherent.receive (h : s.Coherent) (hs : s.step .receive = some s') : s'.Coherent := by
  have held := h.held.receive hs
  obtain ⟨-, hr, rfl⟩ := step_receive hs
  refine ⟨held, fun h' => (by cases h'), fun _ hw => (by cases hw), fun _ => ⟨rfl, h.signal hr, ?_⟩,
    fun _ hw => by cases hw⟩
  -- the channel was full, so no handler was sending
  exact fun j k hj => by simpa [hr] using (h.held.sending j k hj).2.1

theorem Coherent.returnKey (h : s.Coherent) (hs : s.step .returnKey = some s') :
    s'.Coherent := by
  obtain ⟨hw, rfl⟩ := step_returnKey hs
  have hrec := h.received (by simp [hw, WaitPhase.HasReceived])
  exact ⟨h.held.withWait _, h.signal, fun _ hw' => (by cases hw'), fun _ => hrec,
    fun _ hw' => by cases hw'; rfl⟩

theorem Coherent.stop (h : s.Coherent) (hs : s.step .stop = some s') : s'.Coherent := by
  obtain ⟨res, hw, hdone, rfl⟩ := step_stop hs
  obtain ⟨h₁, h₂, -⟩ := h.received (by simp [hw, WaitPhase.HasReceived])
  refine ⟨h.held.withWait _, h.signal, fun last hw' => ?_, fun hr => (by cases hr),
    fun _ hw' => by cases hw'⟩
  cases hw'
  refine ⟨h₁, hdone, fun r hr => ?_⟩
  cases h.stopping res hw
  cases hr
  exact h₂

theorem Coherent.resetKey (h : s.Coherent) (hs : s.step .resetKey = some s') : s'.Coherent := by
  obtain ⟨⟨last, hw⟩, rfl⟩ := step_resetKey hs
  obtain ⟨h₁, h₂, h₃⟩ := h.idle last hw
  -- no handler runs between two waits, so none holds the mutex
  have hn : s.NoneSending := fun j k hj => by simpa [hj, PushPhase.InFlight] using h₂ j
  have hm : s.mux = none := by
    cases hmux : s.mux with
    | none => rfl
    | some j => exact absurd ((h.held.mux j).1 hmux).choose_spec (hn j _)
  exact ⟨.of_noneSending hn hm, fun hr => by simp [h₁] at hr, fun last' hw' => by
    cases hw.symm.trans hw'; exact ⟨h₁, h₂, h₃⟩, fun hr => by simp [hw, WaitPhase.HasReceived] at hr,
    fun _ hw' => by simp [hw] at hw'⟩

theorem Coherent.pushStateDiskKey (h : s.Coherent) {key : Bytes}
    (hs : s.step (.pushStateDiskKey i key) = some s') : s'.Coherent := by
  obtain ⟨hserves, hi, rfl⟩ := step_pushStateDiskKey hs
  exact h.setPush (fun k hk => by simp [hk, PushPhase.InFlight] at hi) (by simp)
    fun _ => hserves

theorem Coherent.lock (h : s.Coherent) (hs : s.step (.lock i) = some s') : s'.Coherent := by
  have held := h.held.lock h.keyReceived_of_empty hs
  obtain ⟨key, hw, -, rfl⟩ := step_lock hs
  have hi : ∀ k, s.push i ≠ .sending k := by simp [hw]
  rcases lockStep_cases s i key with ⟨-, he⟩ | ⟨-, -, he⟩ | ⟨hk, -, he⟩ <;> rw [he] at held ⊢
  · exact h.setPush hi (by simp) (by simp [PushPhase.InFlight])
  · exact h.setPush hi (by simp) (by simp [PushPhase.InFlight])
  -- an accepted push found the slot empty, so the loop had not received
  · have hrec : s.wait.HasReceived = false :=
      Bool.eq_false_iff.2 fun hr => by simpa [hk, rngLengthDefault] using (h.received hr).2.1
    refine ⟨held, fun hr => by simp [h.keyReceived_of_empty hk] at hr,
      fun last hw' => absurd hw' (h.not_idle i (by simp [hw, PushPhase.InFlight]) last),
      fun hr => by simp [hrec] at hr, fun res hw' => ?_⟩
    simp [show s.wait = .stopping res from hw', WaitPhase.HasReceived] at hrec

theorem Coherent.send (h : s.Coherent) (hs : s.step (.send i) = some s') : s'.Coherent := by
  have held := h.held.send hs
  obtain ⟨key, hsend, -, rfl⟩ := step_send hs
  obtain ⟨rfl, -, hl⟩ := h.held.sending i key hsend
  -- a handler is sending, so the loop has not received yet
  have hrec : s.wait.HasReceived = false :=
    Bool.eq_false_iff.2 fun hr => (h.received hr).2.2 i _ hsend
  refine ⟨held, fun _ => hl,
    fun last hw' => absurd hw' (h.not_idle i (by simp [hsend, PushPhase.InFlight]) last),
    fun hr => by simp [hrec] at hr, fun res hw' => ?_⟩
  simp [show s.wait = .stopping res from hw', WaitPhase.HasReceived] at hrec

/-- Every step but a failing client TLS set-up keeps `Coherent`. -/
theorem Coherent.step (h : s.Coherent) {e : Event ι} (he : e.FailsClientTLS = false)
    (hs : s.step e = some s') : s'.Coherent := by
  cases e with
  | waitForDecryptionKey => exact h.waitForDecryptionKey hs
  | clientTLS err =>
    cases err with
    | none => exact h.clientTLS hs
    | some => cases he
  | receive => exact h.receive hs
  | returnKey => exact h.returnKey hs
  | stop => exact h.stop hs
  | resetKey => exact h.resetKey hs
  | pushStateDiskKey => exact h.pushStateDiskKey hs
  | lock => exact h.lock hs
  | send => exact h.send hs

theorem Coherent.run (h : s.Coherent) {es : List (Event ι)}
    (hes : ∀ e ∈ es, e.FailsClientTLS = false) (hrun : s.run es = some s') : s'.Coherent := by
  induction es generalizing s with
  | nil => cases hrun; exact h
  | cons e es ih =>
    rw [run_cons, Option.bind_eq_some] at hrun
    obtain ⟨s₁, h₁, h₂⟩ := hrun
    exact ih (h.step (hes e (.head _)) h₁) (fun e' he' => hes e' (.tail _ he')) h₂

/-- In a run from `New` in which no loop fails to set up its client TLS config, a signal is
pending only while the slot holds a key of length `RNGLengthDefault`, a wait that returned
without error returned such a key, and a handler holding the mutex finds the channel
empty. -/
theorem waitForDecryptionKey_coherent (es : List (Event ι))
    (hes : ∀ e ∈ es, e.FailsClientTLS = false) (hrun : (new : KeyAPI ι).run es = some s) :
    (s.keyReceived = true → s.key.length = rngLengthDefault) ∧
      (∀ last r, s.wait = .idle last → last = some (.ok r) → r.length = rngLengthDefault) ∧
      ∀ j k, s.push j = .sending k → s.keyReceived = false := by
  have h := coherent_new.run hes hrun
  exact ⟨h.signal, fun last r hw hr => (h.idle last hw).2.2 r hr,
    fun j k hj => (h.held.sending j k hj).2.1⟩

end Steps

/-- One wait in which caller `()` pushes a 32-byte key that the loop receives. -/
def oneWait : List (Event Unit) :=
  [.waitForDecryptionKey "disk-uuid" none, .pushStateDiskKey () (List.replicate 32 65), .lock (),
    .send (), .clientTLS none, .receive, .returnKey, .stop]

theorem waitForDecryptionKey_coherent_oneWait : ∃ s : KeyAPI Unit,
    (∀ e ∈ oneWait, e.FailsClientTLS = false) ∧ new.run oneWait = some s ∧
      (s.keyReceived = true → s.key.length = rngLengthDefault) ∧
      (∀ last r, s.wait = .idle last → last = some (.ok r) → r.length = rngLengthDefault) ∧
      ∀ j k, s.push j = .sending k → s.keyReceived = false := by
  obtain ⟨s, hs⟩ : ∃ s, new.run oneWait = some s := ⟨_, rfl⟩
  exact ⟨s, by decide, hs, waitForDecryptionKey_coherent oneWait (by decide) hs⟩


/-! ## Where the returned key comes from -/

section Provenance

variable [DecidableEq ι] [Fintype ι] {s s' : KeyAPI ι}

/-- The slot changes only by `ResetKey`, which empties it, or by an accepted push, which
fills the empty slot with the caller's key. -/
theorem step_key {e : Event ι} (h : s.step e = some s') :
    s'.key = s.key ∧ e ≠ .resetKey ∨ e = .resetKey ∧ s'.key = [] ∨
      ∃ i, e = .lock i ∧ s.key = [] ∧ s.push i = .waiting s'.key ∧
        s'.key.length = rngLengthDefault := by
  cases e with
  | resetKey => obtain ⟨-, rfl⟩ := step_resetKey h; exact .inr (.inl ⟨rfl, rfl⟩)
  | lock i =>
    obtain ⟨key, hw, -, rfl⟩ := step_lock h
    rcases lockStep_cases s i key with ⟨-, he⟩ | ⟨-, -, he⟩ | ⟨hk, hl, he⟩ <;> rw [he]
    · exact .inl ⟨rfl, nofun⟩
    · exact .inl ⟨rfl, nofun⟩
    · exact .inr (.inr ⟨i, rfl, hk, hw, hl⟩)
  | waitForDecryptionKey => obtain ⟨-, rfl⟩ := step_waitForDecryptionKey h; exact .inl ⟨rfl, nofun⟩
  | clientTLS => obtain ⟨-, rfl⟩ := step_clientTLS h; exact .inl ⟨rfl, nofun⟩
  | receive => obtain ⟨-, -, rfl⟩ := step_receive h; exact .inl ⟨rfl, nofun⟩
  | returnKey => obtain ⟨-, rfl⟩ := step_returnKey h; exact .inl ⟨rfl, nofun⟩
  | stop => obtain ⟨-, -, -, rfl⟩ := step_stop h; exact .inl ⟨rfl, nofun⟩
  | pushStateDiskKey => obtain ⟨-, -, rfl⟩ := step_pushStateDiskKey h; exact .inl ⟨rfl, nofun⟩
  | send => obtain ⟨-, -, -, rfl⟩ := step_send h; exact .inl ⟨rfl, nofun⟩

/-- In the events `es` run from `s₀`, caller `i` took the mutex with `key` while the slot
was empty, `key` had the right length, and no `ResetKey` followed. -/
def AcceptedSinceReset (s₀ : KeyAPI ι) (es : List (Event ι)) (key : Bytes) : Prop :=
  ∃ pre i post t, es = pre ++ .lock i :: post ∧ Event.resetKey ∉ post ∧ s₀.run pre = some t ∧
    t.push i = .waiting key ∧ t.key = [] ∧ key.length = rngLengthDefault

/-- A full slot after a run holds the key it held at the start, and the run has no
`ResetKey`; or it holds a key accepted after the run's last `ResetKey`. -/
theorem run_key {s₀ : KeyAPI ι} {es : List (Event ι)} (h : s₀.run es = some s)
    (hk : s.key ≠ []) :
    s.key = s₀.key ∧ Event.resetKey ∉ es ∨ s₀.AcceptedSinceReset es s.key := by
  induction es generalizing s₀ with
  | nil => cases h; exact .inl ⟨rfl, nofun⟩
  | cons e es ih =>
    rw [run_cons, Option.bind_eq_some] at h
    obtain ⟨s₁, h₁, h₂⟩ := h
    rcases ih h₂ with ⟨hkey, hno⟩ | ⟨pre, i, post, t, rfl, hpost, ht, hrest⟩
    -- the slot was full since the first event: that event filled it, or found it full
    · rcases step_key h₁ with ⟨hk₁, he⟩ | ⟨-, hk₁⟩ | ⟨i, rfl, hk₀, hw, hl⟩
      · exact .inl ⟨hkey.trans hk₁, by simp [he.symm, hno]⟩
      · exact absurd (hkey.trans hk₁) hk
      · exact .inr ⟨[], i, es, s₀, rfl, hno, rfl, hkey ▸ hw, hk₀, hkey ▸ hl⟩
    · exact .inr ⟨e :: pre, i, post, t, rfl, hpost, by rw [run_cons, h₁]; exact ht, hrest⟩

/-- In a run from `New` in which no loop fails to set up its client TLS config, the key
that a wait returns without error has length `RNGLengthDefault` and was accepted by a push
after the last `ResetKey`. -/
theorem waitForDecryptionKey_returns_pushed_key (es : List (Event ι))
    (hes : ∀ e ∈ es, e.FailsClientTLS = false)
    (hrun : (new : KeyAPI ι).run (es ++ [.returnKey]) = some s) :
    ∃ key, s.wait = .stopping (.ok key) ∧ key.length = rngLengthDefault ∧
      new.AcceptedSinceReset es key := by
  rw [run_append, Option.bind_eq_some] at hrun
  obtain ⟨t, ht, hs⟩ := hrun
  obtain ⟨hw, rfl⟩ := step_returnKey (by simpa [run] using hs)
  have hl := ((coherent_new.run hes ht).received (by simp [hw, WaitPhase.HasReceived])).2.1
  have hne : t.key ≠ [] := by rintro h; simp [h, rngLengthDefault] at hl
  refine ⟨t.key, rfl, hl, ?_⟩
  -- `New` starts with an empty slot, so the key was pushed during the run
  rcases run_key ht hne with ⟨h, -⟩ | h
  · exact absurd h hne
  · exact h

end Provenance

/-- A wait in which caller `()` pushes a 32-byte key and the loop receives it. -/
def receivedWait : List (Event Unit) :=
  [.waitForDecryptionKey "disk-uuid" none, .pushStateDiskKey () (List.replicate 32 65), .lock (),
    .send (), .clientTLS none, .receive]

theorem waitForDecryptionKey_returns_pushed_key_receivedWait : ∃ s : KeyAPI Unit,
    (∀ e ∈ receivedWait, e.FailsClientTLS = false) ∧
      new.run (receivedWait ++ [Event.returnKey]) = some s ∧
      ∃ key, s.wait = .stopping (.ok key) ∧ key.length = rngLengthDefault ∧
        new.AcceptedSinceReset receivedWait key :=
  (show ∃ s : KeyAPI Unit, new.run (receivedWait ++ [Event.returnKey]) = some s from ⟨_, rfl⟩).imp
    fun _ hs => ⟨by decide, hs, waitForDecryptionKey_returns_pushed_key receivedWait (by decide) hs⟩

end KeyAPI

end Constellation.KeyService
