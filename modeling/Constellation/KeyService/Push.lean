import Mathlib.Logic.Relation
import Constellation.KeyService.Signal

/-!
# Concurrent `PushStateDiskKey` calls

The handlers of `PushStateDiskKey` take turns on the mutex.  The one that finds the slot
empty with a key of the right length stores it and, still holding the mutex, sends on
`keyReceived`.  The send completes only if the channel is empty.

From a state in which a signal is pending while the slot is empty, which `ResetKey` after
an interrupted wait leaves (`staleSignal`), the first valid push blocks in its send while
it holds the mutex (`pushStateDiskKey_blocks_forever`, in `KeyService.Signal`).

From a state in which a pending signal comes with a full slot and the mutex is held as
`MutexHeld` says (`Ready`), every call that takes the mutex is refused with
`FailedPrecondition` when the slot is full, or with `InvalidArgument` when its key has the
wrong length, and changes nothing else; at most one call succeeds, its send can complete,
the slot keeps its key from then on, and while a call is in a handler some handler can move
(`pushStateDiskKey_one_success`).
-/

namespace Constellation.KeyService.KeyAPI

variable {ι : Type}

/-- The events of the handlers: a call that the server starts, its checks under the mutex,
its send. -/
def Event.IsPush : Event ι → Bool
  | .pushStateDiskKey _ _ | .lock _ | .send _ => true
  | _ => false

/-- A pending signal comes with a full slot, and the mutex is held as `MutexHeld` says. -/
structure Ready (s : KeyAPI ι) : Prop where
  held : s.MutexHeld
  signal : s.keyReceived = true → s.key ≠ []

section Steps

variable [DecidableEq ι] [Fintype ι]

/-- One step of a handler. -/
def PushStep (s s' : KeyAPI ι) : Prop := ∃ e : Event ι, e.IsPush = true ∧ s.step e = some s'

/-! ## From a ready state -/

variable {s s' : KeyAPI ι} {i : ι}

theorem Ready.step (h : s.Ready) {e : Event ι} (he : e.IsPush = true) (hs : s.step e = some s') :
    s'.Ready := by
  cases e with
  | pushStateDiskKey j key =>
    have held := h.held.pushStateDiskKey hs
    obtain ⟨-, -, rfl⟩ := step_pushStateDiskKey hs
    exact ⟨held, h.signal⟩
  | lock j =>
    have hfree : s.key = [] → s.keyReceived = false := fun hk =>
      Bool.eq_false_iff.2 fun hr => h.signal hr hk
    have held := h.held.lock hfree hs
    obtain ⟨key, -, -, rfl⟩ := step_lock hs
    rcases lockStep_cases s j key with ⟨-, he⟩ | ⟨-, -, he⟩ | ⟨hk, -, he⟩ <;> rw [he] at held ⊢
    · exact ⟨held, h.signal⟩
    · exact ⟨held, h.signal⟩
    · exact ⟨held, fun hr => by simp [hfree hk] at hr⟩
  | send j =>
    have held := h.held.send hs
    obtain ⟨key, hsend, -, rfl⟩ := step_send hs
    obtain ⟨rfl, -, hl⟩ := h.held.sending j key hsend
    exact ⟨held, fun _ hk => by simp [show s.key = [] from hk, rngLengthDefault] at hl⟩
  | _ => cases he

theorem Ready.reach (h : s.Ready) (hs : Relation.ReflTransGen PushStep s s') : s'.Ready := by
  induction hs with
  | refl => exact h
  | tail _ hstep ih =>
    obtain ⟨e, he, hstep⟩ := hstep
    exact ih.step he hstep

/-- While a call is in a handler, some handler can move: the one holding the mutex can
send, or a waiting one can take the mutex. -/
theorem Ready.progress (h : s.Ready) (hi : (s.push i).InFlight = true) :
    ∃ (e : Event ι) (s' : KeyAPI ι), e.IsPush = true ∧ s.step e = some s' := by
  cases hm : s.mux with
  | some j =>
    obtain ⟨key, hsend⟩ := (h.held.mux j).1 hm
    have hr := (h.held.sending j key hsend).2.1
    exact ⟨.send j, { s.setPush j (.returned none) with keyReceived := true, mux := none }, rfl,
      by unfold KeyAPI.step; simp [hsend, hr]⟩
  | none =>
    cases hp : s.push i with
    | waiting key => exact ⟨.lock i, s.lockStep i key, rfl, by unfold KeyAPI.step; simp [hp, hm]⟩
    | sending key => simp [(h.held.mux i).2 ⟨key, hp⟩] at hm
    | idle => simp [hp, PushPhase.InFlight] at hi
    | returned => simp [hp, PushPhase.InFlight] at hi

/-- The handlers never change a full slot. -/
theorem key_reach (hs : Relation.ReflTransGen PushStep s s') (hk : s.key ≠ []) :
    s'.key = s.key := by
  induction hs with
  | refl => rfl
  | @tail b _ _ hstep ih =>
    obtain ⟨e, he, hstep⟩ := hstep
    have hb : b.key ≠ [] := ih ▸ hk
    rw [← ih]
    cases e with
    | pushStateDiskKey => obtain ⟨-, -, rfl⟩ := step_pushStateDiskKey hstep; rfl
    | lock j =>
      obtain ⟨key, -, -, rfl⟩ := step_lock hstep
      rcases lockStep_cases b j key with ⟨-, he⟩ | ⟨hk', -⟩ | ⟨hk', -⟩
      · rw [he]; rfl
      all_goals exact absurd hk' hb
    | send j => obtain ⟨-, -, -, rfl⟩ := step_send hstep; rfl
    | _ => cases he

/-- Concurrent `PushStateDiskKey` calls from a ready state: while a call is in a handler,
some handler can move; a call that takes the mutex is refused with `FailedPrecondition` if
the slot is full, otherwise with `InvalidArgument` if its key has the wrong length, and
then changes nothing but its own state; or it succeeds, and from then on its send can
complete, the slot holds its key and every call that takes the mutex is refused with
`FailedPrecondition`. -/
theorem pushStateDiskKey_one_success {s₀ s : KeyAPI ι} (h₀ : s₀.Ready)
    (hs : Relation.ReflTransGen PushStep s₀ s) :
    ((∃ i, (s.push i).InFlight = true) → ∃ (e : Event ι) (s' : KeyAPI ι),
        e.IsPush = true ∧ s.step e = some s') ∧
      ∀ i s', s.step (.lock i) = some s' → ∃ key, s.push i = .waiting key ∧
        (s.key ≠ [] ∧ s' = s.setPush i (.returned (some errAlreadyReceived)) ∨
          s.key = [] ∧ key.length ≠ rngLengthDefault ∧
            s' = s.setPush i (.returned (some (errInvalidPassphrase key.length))) ∨
          s.key = [] ∧ key.length = rngLengthDefault ∧
            ∀ s'', Relation.ReflTransGen PushStep s' s'' → s''.key = key ∧
              (s''.push i = .sending key → ∃ s''', s''.step (.send i) = some s''') ∧
              ∀ j s''', s''.step (.lock j) = some s''' →
                s''' = s''.setPush j (.returned (some errAlreadyReceived))) := by
  have h := h₀.reach hs
  refine ⟨fun ⟨i, hi⟩ => h.progress hi, fun i s' hlock => ?_⟩
  obtain ⟨key, hw, -, rfl⟩ := step_lock hlock
  refine ⟨key, hw, ?_⟩
  rcases lockStep_cases s i key with ⟨hk, he⟩ | ⟨hk, hl, he⟩ | ⟨hk, hl, he⟩
  · exact .inl ⟨hk, he⟩
  · exact .inr (.inl ⟨hk, hl, he⟩)
  refine .inr (.inr ⟨hk, hl, fun s'' hs'' => ?_⟩)
  -- from the accepted push on, the slot holds its key, which is not empty
  have hne : key ≠ [] := by rintro rfl; simp [rngLengthDefault] at hl
  have hkey : s''.key = key := by rw [key_reach hs'' (by rw [he]; exact hne), he]
  have h'' := (h.reach (.single ⟨.lock i, rfl, hlock⟩)).reach hs''
  refine ⟨hkey, fun hsend => ⟨{ s''.setPush i (.returned none) with keyReceived := true, mux := none },
    by unfold KeyAPI.step; simp [hsend, (h''.held.sending i key hsend).2.1]⟩, fun j s''' hlock' => ?_⟩
  · obtain ⟨key', -, -, rfl⟩ := step_lock hlock'
    rcases lockStep_cases s'' j key' with ⟨-, he'⟩ | ⟨hk', -⟩ | ⟨hk', -⟩
    · exact he'
    · exact absurd hk' (hkey ▸ hne)
    · exact absurd hk' (hkey ▸ hne)

/-- Two callers that push a 32-byte key while the server serves, before either took the
mutex. -/
def twoCalls : KeyAPI Bool := ⟨[], false, none, .serving, fun _ => .waiting (List.replicate 32 65)⟩

theorem twoCalls_ready : twoCalls.Ready :=
  ⟨.of_noneSending (fun _ _ h => by cases h) rfl, fun h => by cases h⟩

theorem pushStateDiskKey_one_success_twoCalls :
    twoCalls.Ready ∧
      ((∃ i, (twoCalls.push i).InFlight = true) → ∃ (e : Event Bool) (s' : KeyAPI Bool),
        e.IsPush = true ∧ twoCalls.step e = some s') ∧
      ∀ i s', twoCalls.step (.lock i) = some s' → ∃ key, twoCalls.push i = .waiting key ∧
        (twoCalls.key ≠ [] ∧ s' = twoCalls.setPush i (.returned (some errAlreadyReceived)) ∨
          twoCalls.key = [] ∧ key.length ≠ rngLengthDefault ∧
            s' = twoCalls.setPush i (.returned (some (errInvalidPassphrase key.length))) ∨
          twoCalls.key = [] ∧ key.length = rngLengthDefault ∧
            ∀ s'', Relation.ReflTransGen PushStep s' s'' → s''.key = key ∧
              (s''.push i = .sending key → ∃ s''', s''.step (.send i) = some s''') ∧
              ∀ j s''', s''.step (.lock j) = some s''' →
                s''' = s''.setPush j (.returned (some errAlreadyReceived))) :=
  ⟨twoCalls_ready, pushStateDiskKey_one_success twoCalls_ready .refl⟩

end Steps

end Constellation.KeyService.KeyAPI
