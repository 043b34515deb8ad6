import Constellation.KeyService.Push
import Constellation.KeyService.RequestKeyLoop

/-!
# `requestKeyLoop` inside `WaitForDecryptionKey`

While `requestKeyLoop` runs, the gRPC server that `WaitForDecryptionKey` started runs the
handlers of `PushStateDiskKey`, and the two share the `KeyAPI` of `KeyService.Basic`: a
handler stores the key and sends on `keyReceived`, and the loop's `select` receives from
it.  `Shared` answers the calls of the loop against that state.  Before each call the
handlers take any steps of `KeyAPI.step` (`KeyAPI.Handled`); the call is then answered as
the `KeyAPI` lets it be (`Answer`): the TLS set-up is the step `clientTLS`, the select
fires `keyReceived` only as the step `receive`, which takes the signal, and fires the
ticker and `firstReq` as `Chans` does.

* `requestKeyLoop_refines`: whatever the handlers do between the calls of the loop, every
  run of the loop that returns is a run of the `KeyAPI` model whose events other than the
  handlers' are `clientTLS` with the error the loop returns and, when that is `nil`, one
  `receive`.  What is proved of that model (`MutexHeld`, the key a wait returns) holds of
  the loop as the code runs it.
-/

namespace Constellation.KeyService

namespace KeyAPI

variable {ι : Type} [DecidableEq ι] [Fintype ι]

/-- `s.RunsAs own s'`: a run of the `KeyAPI` leads from `s` to `s'`, and its events other
than the handlers' are `own`. -/
def RunsAs (s : KeyAPI ι) (own : List (Event ι)) (s' : KeyAPI ι) : Prop :=
  ∃ es : List (Event ι), s.run es = some s' ∧ es.filter (fun e => !e.IsPush) = own

/-- Only the handlers take steps from `s` to `s'`. -/
def Handled (s s' : KeyAPI ι) : Prop := s.RunsAs [] s'

variable {s s₁ s' : KeyAPI ι} {own₁ own₂ : List (Event ι)}

theorem RunsAs.refl (s : KeyAPI ι) : s.RunsAs [] s := ⟨[], rfl, rfl⟩

theorem RunsAs.trans (h₁ : s.RunsAs own₁ s₁) (h₂ : s₁.RunsAs own₂ s') :
    s.RunsAs (own₁ ++ own₂) s' := by
  obtain ⟨es₁, hr₁, rfl⟩ := h₁
  obtain ⟨es₂, hr₂, rfl⟩ := h₂
  exact ⟨es₁ ++ es₂, by rw [run_append, hr₁]; exact hr₂, List.filter_append _ _⟩

/-- One event of the loop. -/
theorem RunsAs.single {e : Event ι} (he : e.IsPush = false) (h : s.step e = some s') :
    s.RunsAs [e] s' :=
  ⟨[e], by rw [run_cons, h]; rfl, by simp [he]⟩

end KeyAPI

/-- The world of the loop inside `WaitForDecryptionKey`: the `KeyAPI` it shares with the
handlers, and whether `firstReq` holds its token. -/
structure LoopWorld (ι : Type) where
  api : KeyAPI ι
  firstReq : Bool

section Shared

variable {ι : Type} [DecidableEq ι] [Fintype ι]

/-- A call of the loop answered against the `KeyAPI` as it stands: the TLS set-up is the
step `clientTLS`; the select fires `keyReceived` only as the step `receive`, the ticker at
any time, and `firstReq` only while it holds its token, which it takes; the send puts the
token in; the calls of `requestKey` get any answer and leave the `KeyAPI` alone. -/
inductive Answer : LoopWorld ι → (op : LoopOp) → op.Ret → LoopWorld ι → Prop
  | tls {api api' : KeyAPI ι} {full : Bool} (err : Option GoError) :
      api.step (.clientTLS err) = some api' →
        Answer ⟨api, full⟩ .createUnverifiedClientTLSConfig err ⟨api', full⟩
  | sendFirstReq {api : KeyAPI ι} {full : Bool} :
      Answer ⟨api, full⟩ .sendFirstReq () ⟨api, true⟩
  | keyReceived {api api' : KeyAPI ι} {full : Bool} :
      api.step .receive = some api' → Answer ⟨api, full⟩ .select Case.keyReceived ⟨api', full⟩
  | tick {api : KeyAPI ι} {full : Bool} : Answer ⟨api, full⟩ .select Case.tick ⟨api, full⟩
  | firstReq {api : KeyAPI ι} : Answer ⟨api, true⟩ .select Case.firstReq ⟨api, false⟩
  | rpc {api : KeyAPI ι} {full : Bool} {op : Op} (r : op.Ret) :
      Answer ⟨api, full⟩ (.rpc op) r ⟨api, full⟩

/-- The handlers take any steps, then the call is answered as `Answer` says. -/
def Shared (w : LoopWorld ι) (op : LoopOp) (r : op.Ret) (w' : LoopWorld ι) : Prop :=
  ∃ api, w.api.Handled api ∧ Answer ⟨api, w.firstReq⟩ op r w'

variable {w w' : LoopWorld ι} {op : LoopOp} {r : op.Ret}

/-- A call answered with no handler step before it. -/
theorem Answer.shared (h : Answer w op r w') : Shared w op r w' :=
  ⟨w.api, .refl _, h⟩

/-- Seen through its token, a call answered against the `KeyAPI` is answered as `Chans`
lets it be. -/
theorem Answer.chans (h : Answer w op r w') : Chans w.firstReq op r w'.firstReq := by
  cases h <;> constructor

/-- Each call is the step of the `KeyAPI` model that `loopEvent` names, if any. -/
theorem Answer.runsAs (h : Answer w op r w') :
    w.api.RunsAs (loopEvent ⟨op, r⟩).toList w'.api := by
  cases h with
  | tls err h => exact .single rfl h
  | keyReceived h => exact .single rfl h
  | _ => exact .refl _

/-- Seen through its token, a call of `Shared` is answered as `Chans` lets it be. -/
theorem Shared.chans (h : Shared w op r w') : Chans w.firstReq op r w'.firstReq := by
  obtain ⟨_, -, h⟩ := h
  exact h.chans

/-- Each call is the step that `loopEvent` names, after the handlers' steps. -/
theorem Shared.runsAs (h : Shared w op r w') :
    w.api.RunsAs (loopEvent ⟨op, r⟩).toList w'.api := by
  obtain ⟨_, hh, h⟩ := h
  exact hh.trans h.runsAs

open Prog

/-- A run of any function of the loop against the shared `KeyAPI` is a run of the `KeyAPI`
model whose events other than the handlers' are those that `loopEvent` names. -/
theorem Exec.runsAs {α : Type} {p : KeyLoop α} {tr : List (Answered LoopOp LoopOp.Ret)}
    {a : α} (h : Exec Shared w p tr w' a) : w.api.RunsAs (tr.filterMap loopEvent) w'.api := by
  induction h with
  | pure => exact .refl _
  | @call _ _ _ op _ r _ _ h _ ih =>
    have h₁ := h.runsAs.trans ih
    cases hc : (loopEvent ⟨op, r⟩ : Option (KeyAPI.Event ι)) <;>
      simpa only [List.filterMap_cons, hc, Option.toList_none, Option.toList_some] using h₁

/-- The same for the turns of the loop, one after the other. -/
theorem ExecFrom.runsAs {body p : KeyLoop (Option (Option GoError))}
    {tr : List (Answered LoopOp LoopOp.Ret)} {b : Option GoError}
    (h : ForLoop.ExecFrom Shared body w p tr w' b) :
    w.api.RunsAs (tr.filterMap loopEvent) w'.api := by
  induction h with
  | done h => exact Exec.runsAs h
  | next h _ ih => simpa only [List.filterMap_append] using (Exec.runsAs h).trans ih

/-- Whatever the handlers of `PushStateDiskKey` do between the calls of the loop, every run
of `requestKeyLoop` that returns is a run of the `KeyAPI` model in which, besides the
handlers' events, the loop takes the step `clientTLS` with the error it returns and, when it
returns `nil`, one `receive`, which takes a signal a handler sent. -/
theorem requestKeyLoop_refines {uuid : String} {tr : List (Answered LoopOp LoopOp.Ret)}
    {r : Option GoError} (h : (requestKeyLoop uuid).Exec Shared w tr w' r) :
    w.api.RunsAs (.clientTLS r :: if r = none then [.receive] else []) w'.api := by
  have hrun := ExecFrom.runsAs h
  rcases exec_requestKeyLoop_cases (ForLoop.ExecFrom.map LoopWorld.firstReq Shared.chans h) with
    ⟨err, rfl, rfl⟩ | ⟨rfl, rds, hall, -, rfl⟩
  · exact hrun
  · simpa only [List.filterMap_cons, List.filterMap_append, filterMap_loopEvent_rounds hall]
      using hrun

/-- A wait whose server serves, before its loop starts. -/
def servingAPI : KeyAPI Unit := { KeyAPI.new with wait := .serving }

/-- The loop of `keyAtOnce`, with a handler that takes the key and sends the signal between
the loop's set-up and its first select. -/
theorem requestKeyLoop_refines_pushBeforeSelect :
    ∃ w', (requestKeyLoop "disk-uuid").Exec Shared ⟨servingAPI, false⟩ keyAtOnce w' none ∧
      servingAPI.RunsAs
        (.clientTLS none :: if (none : Option GoError) = none then [.receive] else []) w'.api := by
  have htls : servingAPI.step (.clientTLS none) = some { servingAPI with wait := .looping } :=
    rfl
  have hstart : Exec Shared ⟨servingAPI, false⟩ (requestKeyLoop "disk-uuid").start
      [⟨.createUnverifiedClientTLSConfig, none⟩, ⟨.sendFirstReq, ()⟩]
      ⟨{ servingAPI with wait := .looping }, true⟩ none :=
    .call (Answer.tls none htls).shared (.call Answer.sendFirstReq.shared (.pure _ _))
  obtain ⟨api, api', hpush, hreceive⟩ : ∃ api api',
      ({ servingAPI with wait := .looping } : KeyAPI Unit).Handled api ∧
        api.step .receive = some api' :=
    ⟨_, _, ⟨[.pushStateDiskKey () (List.replicate 32 1), .lock (), .send ()], rfl, rfl⟩, rfl⟩
  have h : (requestKeyLoop "disk-uuid").Exec Shared ⟨servingAPI, false⟩ keyAtOnce ⟨api', true⟩
      none :=
    .next hstart (.done (.call ⟨api, hpush, .keyReceived hreceive⟩ (.pure _ _)))
  exact ⟨_, h, requestKeyLoop_refines h⟩

end Shared

end Constellation.KeyService
