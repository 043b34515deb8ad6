import Constellation.KeyService.Basic
import Constellation.KeyService.RequestKey

/-!
# `KeyAPI.requestKeyLoop`: asking for the key until it arrives

`requestKeyLoop(uuid)` sets up an unverified client TLS config and returns its error if
there is one; otherwise it puts a token into the new one-slot channel `firstReq`, starts a
ticker and loops on a `select`:

* `case <-a.keyReceived: return nil`;
* `case <-ticker.C:` and `case <-firstReq:` run `requestKey(uuid)`.

The token makes the first round of requests go out at once, not after the first tick.  A
`select` whose cases are ready fires any one of them, so the model leaves the choice to the
answer of the `select` call (`Chans`): `keyReceived` and the ticker may fire whenever the
other goroutines and the clock let them, and `firstReq` only while it holds its token,
which it takes.  The world of a run is whether `firstReq` holds the token.  The ticker
itself, its `Stop` and the dial options are not modelled.

* `requestKeyLoop_rounds`: on every partial run, a loop that never receives a key
  included, the rounds of requests started are at most the ticks taken plus one.
* `requestKeyLoop_exec`: the runs that return are exactly these: the TLS set-up fails and
  its error is returned before any request; or rounds of requests, each fired by the
  ticker or by `firstReq` (that one at most once) and each a whole run of `requestKey`,
  until the select fires `keyReceived` and the loop returns `nil`.
* `requestKeyLoop_events`: the `KeyAPI` model of `KeyService.Basic` sees the loop as the
  step `clientTLS` with the error it returns and, when that is `nil`, one `receive`;
  every other call of the loop leaves the fields of the `KeyAPI` alone.
-/

namespace Constellation.KeyService

/-- The case of the `select` that fired. -/
inductive Case where
  /-- `case <-a.keyReceived`. -/
  | keyReceived
  /-- `case <-ticker.C`. -/
  | tick
  /-- `case <-firstReq`. -/
  | firstReq
  deriving DecidableEq, Repr

/-- The calls `requestKeyLoop` makes: its own and those of `requestKey`. -/
inductive LoopOp where
  /-- `atls.CreateUnverifiedClientTLSConfig()`. -/
  | createUnverifiedClientTLSConfig
  /-- `firstReq <- struct{}{}` on the new channel `make(chan struct{}, 1)`. -/
  | sendFirstReq
  /-- The `select` of the loop. -/
  | select
  /-- A call of `requestKey`. -/
  | rpc (op : Op)

/-- The answers: the error of the TLS set-up or none, nothing for the send, the case that
fired, and the answers of the calls of `requestKey`. -/
def LoopOp.Ret : LoopOp → Type
  | .createUnverifiedClientTLSConfig => Option GoError
  | .sendFirstReq => Unit
  | .select => Case
  | .rpc op => op.Ret

/-- A function of the loop. -/
abbrev KeyLoop := Prog LoopOp LoopOp.Ret

def createUnverifiedClientTLSConfig : KeyLoop (Option GoError) :=
  .call .createUnverifiedClientTLSConfig .pure

def sendFirstReq : KeyLoop Unit := .call .sendFirstReq .pure

def select : KeyLoop Case := .call .select .pure

/-- A function of `requestKey` run inside the loop: the same calls. -/
def liftRpc {α : Type} : Rpc α → KeyLoop α
  | .pure a => .pure a
  | .call op k => .call (.rpc op) fun r => liftRpc (k r)

/-- One turn of `for { select { ... } }`: `return nil` on a key, `requestKey` on a tick or
on the first request. -/
def requestKeyLoopBody (uuid : String) : KeyLoop (Option (Option GoError)) := do
  match ← select with
  | .keyReceived => pure (some none)
  | .tick =>
    liftRpc (requestKey uuid)
    pure none
  | .firstReq =>
    liftRpc (requestKey uuid)
    pure none

/-- `KeyAPI.requestKeyLoop(uuid, ...)`. -/
def requestKeyLoop (uuid : String) : Prog.ForLoop LoopOp LoopOp.Ret (Option GoError) where
  start := do
    match ← createUnverifiedClientTLSConfig with
    | some err => pure (some (some err))
    | none =>
      sendFirstReq
      pure none
  body := requestKeyLoopBody uuid

/-- How the calls of the loop are answered, in a world that says whether `firstReq` holds
its token: the select fires `keyReceived` or the ticker at any time and `firstReq` only
while the token is there, which it takes; the send puts the token in; the TLS set-up and
the calls of `requestKey` get any answer. -/
inductive Chans : Bool → (op : LoopOp) → op.Ret → Bool → Prop
  | tls {full : Bool} (err : Option GoError) :
      Chans full .createUnverifiedClientTLSConfig err full
  | sendFirstReq {full : Bool} : Chans full .sendFirstReq () true
  | keyReceived {full : Bool} : Chans full .select Case.keyReceived full
  | tick {full : Bool} : Chans full .select Case.tick full
  | firstReq : Chans true .select Case.firstReq false
  | rpc {full : Bool} {op : Op} (r : op.Ret) : Chans full (.rpc op) r full

/-! ## Traces -/

/-- A call of `requestKey` as a call of the loop. -/
def liftAnswered (c : Answered Op Op.Ret) : Answered LoopOp LoopOp.Ret := ⟨.rpc c.op, c.ret⟩

/-- One round of the loop: the case `fired` of the select, and the calls `calls` that
`requestKey` made. -/
structure Round where
  fired : Case
  calls : List (Answered Op Op.Ret)

/-- The calls of a round. -/
def Round.trace (rd : Round) : List (Answered LoopOp LoopOp.Ret) :=
  ⟨.select, rd.fired⟩ :: rd.calls.map liftAnswered

/-- A round as the loop runs one: fired by the ticker or by `firstReq`, and a whole run of
`requestKey`. -/
def Round.Runs (uuid : String) (rd : Round) : Prop :=
  rd.fired ≠ .keyReceived ∧ Prog.Exec Prog.anyAnswer () (requestKey uuid) rd.calls () ()

/-- The step of the `KeyAPI` model that a call of the loop is, if any: the TLS set-up is
`clientTLS` and the select that fires `keyReceived` is `receive`; the other calls change no
field of the `KeyAPI`. -/
def loopEvent {ι : Type} : Answered LoopOp LoopOp.Ret → Option (KeyAPI.Event ι)
  | ⟨.createUnverifiedClientTLSConfig, err⟩ => some (.clientTLS err)
  | ⟨.select, Case.keyReceived⟩ => some .receive
  | _ => none

section Turns

open Prog

variable {uuid : String} {w w' : Bool}

/-- A lifted function makes the calls of the function, and they leave the token alone. -/
theorem exec_liftRpc {α : Type} {p : Rpc α} {tr : List (Answered LoopOp LoopOp.Ret)} {a : α} :
    Exec Chans w (liftRpc p) tr w' a ↔
      w' = w ∧ ∃ tr', tr = tr'.map liftAnswered ∧ Exec anyAnswer () p tr' () a := by
  induction p generalizing w tr with
  | pure b =>
    constructor
    · intro h
      obtain ⟨rfl, rfl, rfl⟩ := exec_pure_iff.1 h
      exact ⟨rfl, [], rfl, .pure _ _⟩
    · rintro ⟨rfl, _, rfl, hp⟩
      obtain ⟨rfl, -, rfl⟩ := exec_pure_iff.1 hp
      exact .pure _ _
  | call op k ih =>
    constructor
    · intro h
      obtain ⟨r, w₁, tr₁, hr, rfl, hk⟩ := exec_call_iff.1 h
      cases hr
      obtain ⟨rfl, tr', rfl, hk'⟩ := (ih r).1 hk
      exact ⟨rfl, ⟨op, r⟩ :: tr', rfl, .call trivial hk'⟩
    · rintro ⟨rfl, tr', rfl, hp⟩
      obtain ⟨r, _, tr'', -, rfl, hk⟩ := exec_call_iff.1 hp
      exact .call (.rpc r) ((ih r).2 ⟨rfl, tr'', rfl, hk⟩)

/-- A round of `requestKey` inside the loop, then `pure none`. -/
theorem exec_liftRequestKey {tr : List (Answered LoopOp LoopOp.Ret)}
    {r : Option (Option GoError)} :
    Exec Chans w (liftRpc (requestKey uuid) >>= fun _ => Prog.pure none) tr w' r ↔
      r = none ∧ w' = w ∧ ∃ calls, tr = calls.map liftAnswered ∧
        Exec anyAnswer () (requestKey uuid) calls () () := by
  simp only [exec_bind_iff, exec_liftRpc, exec_pure_iff]
  constructor
  · rintro ⟨_, _, _, _, rfl, ⟨rfl, calls, rfl, h⟩, rfl, rfl, rfl⟩
    exact ⟨rfl, rfl, calls, by simp, h⟩
  · rintro ⟨rfl, rfl, calls, rfl, h⟩
    exact ⟨_, [], _, (), by simp, ⟨rfl, calls, rfl, h⟩, rfl, rfl, rfl⟩

/-- One turn of the loop: the select fires `keyReceived` and the loop returns `nil`, or it
runs a round fired by the ticker, or by `firstReq`, which takes the token. -/
theorem exec_requestKeyLoopBody {tr : List (Answered LoopOp LoopOp.Ret)}
    {r : Option (Option GoError)} :
    Exec Chans w (requestKeyLoopBody uuid) tr w' r ↔
      (r = some none ∧ w' = w ∧ tr = [⟨.select, Case.keyReceived⟩]) ∨
        r = none ∧ ∃ rd : Round, rd.Runs uuid ∧ tr = rd.trace ∧
          (rd.fired = .tick ∧ w' = w ∨ rd.fired = .firstReq ∧ w = true ∧ w' = false) := by
  constructor
  · intro h
    obtain ⟨c, w₁, tr', hc, rfl, hk⟩ := exec_call_iff.1 h
    cases hc with
    | keyReceived =>
      obtain ⟨rfl, rfl, rfl⟩ := exec_pure_iff.1 hk
      exact .inl ⟨rfl, rfl, rfl⟩
    | tick =>
      obtain ⟨rfl, rfl, calls, rfl, hrun⟩ := exec_liftRequestKey.1 hk
      exact .inr ⟨rfl, ⟨.tick, calls⟩, ⟨nofun, hrun⟩, rfl, .inl ⟨rfl, rfl⟩⟩
    | firstReq =>
      obtain ⟨rfl, rfl, calls, rfl, hrun⟩ := exec_liftRequestKey.1 hk
      exact .inr ⟨rfl, ⟨.firstReq, calls⟩, ⟨nofun, hrun⟩, rfl, .inr ⟨rfl, rfl, rfl⟩⟩
  · rintro (⟨rfl, rfl, rfl⟩ | ⟨rfl, ⟨fired, calls⟩, ⟨-, hrun⟩, rfl, ⟨rfl, rfl⟩ | ⟨rfl, rfl, rfl⟩⟩)
    · exact .call .keyReceived (.pure _ _)
    · exact .call .tick (exec_liftRequestKey.2 ⟨rfl, rfl, calls, rfl, hrun⟩)
    · exact .call .firstReq (exec_liftRequestKey.2 ⟨rfl, rfl, calls, rfl, hrun⟩)

/-- The start: the TLS set-up fails and its error is returned, or the token goes in and
the loop begins. -/
theorem exec_requestKeyLoop_start {tr : List (Answered LoopOp LoopOp.Ret)}
    {r : Option (Option GoError)} :
    Exec Chans w (requestKeyLoop uuid).start tr w' r ↔
      (∃ err, r = some (some err) ∧ w' = w ∧ tr = [⟨.createUnverifiedClientTLSConfig, some err⟩]) ∨
        r = none ∧ w' = true ∧
          tr = [⟨.createUnverifiedClientTLSConfig, none⟩, ⟨.sendFirstReq, ()⟩] := by
  constructor
  · intro h
    obtain ⟨e, w₁, tr', he, rfl, hk⟩ := exec_call_iff.1 h
    cases he
    rcases e with _ | err
    · obtain ⟨_, w₂, tr'', hs, rfl, hk'⟩ := exec_call_iff.1 hk
      cases hs
      obtain ⟨rfl, rfl, rfl⟩ := exec_pure_iff.1 hk'
      exact .inr ⟨rfl, rfl, rfl⟩
    · obtain ⟨rfl, rfl, rfl⟩ := exec_pure_iff.1 hk
      exact .inl ⟨err, rfl, rfl, rfl⟩
  · rintro (⟨err, rfl, rfl, rfl⟩ | ⟨rfl, rfl, rfl⟩)
    · exact .call (.tls _) (.pure _ _)
    · exact .call (.tls none) (.call .sendFirstReq (.pure _ _))

end Turns

/-! ## Runs of the loop -/

section Runs

open Prog

variable {uuid : String} {w w' : Bool} {tr : List (Answered LoopOp LoopOp.Ret)}

/-- The runs of the loop from a turn on that return: rounds, each fired by the ticker or by
`firstReq` while it holds its token, then the select fires `keyReceived`. -/
theorem execFrom_requestKeyLoopBody {p : KeyLoop (Option (Option GoError))}
    {r : Option GoError} (h : ForLoop.ExecFrom Chans (requestKeyLoopBody uuid) w p tr w' r)
    (hp : p = requestKeyLoopBody uuid) :
    r = none ∧ ∃ rds : List Round, (∀ rd ∈ rds, rd.Runs uuid) ∧
      rds.countP (·.fired = .firstReq) ≤ w.toNat ∧
      tr = (rds.map Round.trace).flatten ++ [⟨.select, Case.keyReceived⟩] := by
  induction h with
  | done h =>
    subst hp
    obtain ⟨hr, -, rfl⟩ | ⟨⟨⟩, -⟩ := exec_requestKeyLoopBody.1 h
    exact ⟨Option.some.inj hr, [], by simp, by simp, rfl⟩
  | next h _ ih =>
    subst hp
    obtain ⟨⟨⟩, -⟩ | ⟨-, rd, hrd, rfl, hw⟩ := exec_requestKeyLoopBody.1 h
    obtain ⟨rfl, rds, hall, hcount, rfl⟩ := ih rfl
    refine ⟨rfl, rd :: rds, List.forall_mem_cons.2 ⟨hrd, hall⟩, ?_, by simp⟩
    rcases hw with ⟨hf, rfl⟩ | ⟨hf, rfl, rfl⟩
    · simpa [List.countP_cons, hf] using hcount
    · simp only [Bool.toNat_false, Nat.le_zero] at hcount
      simp [List.countP_cons, hf, hcount]

/-- Every such sequence of rounds is a run of the loop from a turn on. -/
theorem execFrom_requestKeyLoopBody_of_rounds {rds : List Round}
    (hrds : ∀ rd ∈ rds, rd.Runs uuid) (hcount : rds.countP (·.fired = .firstReq) ≤ w.toNat) :
    ∃ w', ForLoop.ExecFrom Chans (requestKeyLoopBody uuid) w (requestKeyLoopBody uuid)
      ((rds.map Round.trace).flatten ++ [⟨.select, Case.keyReceived⟩]) w' none := by
  induction rds generalizing w with
  | nil => exact ⟨w, .done (exec_requestKeyLoopBody.2 (.inl ⟨rfl, rfl, rfl⟩))⟩
  | cons rd rds ih =>
    obtain ⟨hrd, hall⟩ := List.forall_mem_cons.1 hrds
    rw [List.map_cons, List.flatten_cons, List.append_assoc]
    rcases rd with ⟨_ | _ | _, calls⟩
    · exact absurd rfl hrd.1
    · obtain ⟨w', h⟩ := ih hall (by simpa [List.countP_cons] using hcount)
      exact ⟨w', .next (exec_requestKeyLoopBody.2 (.inr ⟨rfl, _, hrd, rfl, .inl ⟨rfl, rfl⟩⟩)) h⟩
    · obtain rfl : w = true := by cases w <;> simp_all [List.countP_cons]
      obtain ⟨w', h⟩ :=
        ih hall (show _ ≤ Bool.toNat false by simpa [List.countP_cons] using hcount)
      exact ⟨w', .next
        (exec_requestKeyLoopBody.2 (.inr ⟨rfl, _, hrd, rfl, .inr ⟨rfl, rfl, rfl⟩⟩)) h⟩

/-- The shape of a run of `requestKeyLoop` that returns: the TLS set-up fails and its error
is returned, or rounds follow the token until the select fires `keyReceived`. -/
theorem exec_requestKeyLoop_cases {r : Option GoError}
    (h : (requestKeyLoop uuid).Exec Chans w tr w' r) :
    (∃ err, r = some err ∧ tr = [⟨.createUnverifiedClientTLSConfig, some err⟩]) ∨
      r = none ∧ ∃ rds : List Round, (∀ rd ∈ rds, rd.Runs uuid) ∧
        rds.countP (·.fired = .firstReq) ≤ 1 ∧
        tr = ⟨.createUnverifiedClientTLSConfig, none⟩ :: ⟨.sendFirstReq, ()⟩ ::
          ((rds.map Round.trace).flatten ++ [⟨.select, Case.keyReceived⟩]) := by
  cases h with
  | done h =>
    obtain ⟨err, hr, -, rfl⟩ | ⟨⟨⟩, -⟩ := exec_requestKeyLoop_start.1 h
    exact .inl ⟨err, Option.some.inj hr, rfl⟩
  | next h₁ h₂ =>
    obtain ⟨_, ⟨⟩, -⟩ | ⟨-, rfl, rfl⟩ := exec_requestKeyLoop_start.1 h₁
    obtain ⟨rfl, rds, hall, hcount, rfl⟩ := execFrom_requestKeyLoopBody h₂ rfl
    exact .inr ⟨rfl, rds, hall, hcount, rfl⟩

/-- The runs of `requestKeyLoop` that return are exactly these: the TLS set-up fails, and
its error is returned before any request; or it succeeds, and rounds of requests follow,
each fired by the ticker or by `firstReq` (that at most once) and each a whole run of
`requestKey`, until the select fires `keyReceived`, which it fires nowhere else, and the
loop returns `nil`. -/
theorem requestKeyLoop_exec {r : Option GoError} :
    (∃ w', (requestKeyLoop uuid).Exec Chans w tr w' r) ↔
      (∃ err, r = some err ∧ tr = [⟨.createUnverifiedClientTLSConfig, some err⟩]) ∨
        r = none ∧ ∃ rds : List Round, (∀ rd ∈ rds, rd.Runs uuid) ∧
          rds.countP (·.fired = .firstReq) ≤ 1 ∧
          tr = ⟨.createUnverifiedClientTLSConfig, none⟩ :: ⟨.sendFirstReq, ()⟩ ::
            ((rds.map Round.trace).flatten ++ [⟨.select, Case.keyReceived⟩]) := by
  refine ⟨fun ⟨_, h⟩ => exec_requestKeyLoop_cases h, ?_⟩
  rintro (⟨err, rfl, rfl⟩ | ⟨rfl, rds, hall, hcount, rfl⟩)
  · exact ⟨w, .done (exec_requestKeyLoop_start.2 (.inl ⟨err, rfl, rfl, rfl⟩))⟩
  · obtain ⟨w', h⟩ :=
      execFrom_requestKeyLoopBody_of_rounds hall (show _ ≤ Bool.toNat true from hcount)
    exact ⟨w', .next (exec_requestKeyLoop_start.2 (.inr ⟨rfl, rfl, rfl⟩)) h⟩

/-- A round is no step of the `KeyAPI` model. -/
theorem filterMap_loopEvent_rounds {ι : Type} {rds : List Round}
    (hrds : ∀ rd ∈ rds, rd.Runs uuid) :
    (rds.map Round.trace).flatten.filterMap loopEvent = ([] : List (KeyAPI.Event ι)) := by
  refine List.filterMap_eq_nil_iff.2 fun a ha => ?_
  simp only [List.mem_flatten, List.mem_map] at ha
  obtain ⟨_, ⟨⟨fired, calls⟩, hrd, rfl⟩, ha⟩ := ha
  rcases List.mem_cons.1 ha with rfl | ha
  · rcases fired with _ | _ | _
    · exact absurd rfl (hrds _ hrd).1
    all_goals rfl
  · obtain ⟨c, -, rfl⟩ := List.mem_map.1 ha
    rfl

/-- Seen from the `KeyAPI` model, every run of `requestKeyLoop` that returns is the step
`clientTLS` with the error it returns, followed, when it returns `nil`, by one `receive`:
the steps that `KeyAPI.step` gives the waiting loop, and no other. -/
theorem requestKeyLoop_events {ι : Type} {r : Option GoError}
    (h : (requestKeyLoop uuid).Exec Chans w tr w' r) :
    tr.filterMap loopEvent =
      (.clientTLS r :: if r = none then [.receive] else [] : List (KeyAPI.Event ι)) := by
  rcases exec_requestKeyLoop_cases h with ⟨err, rfl, rfl⟩ | ⟨rfl, rds, hall, -, rfl⟩
  · rfl
  · simp only [List.filterMap_cons, List.filterMap_append, filterMap_loopEvent_rounds hall]
    rfl

/-- A loop that finds the key signalled at its first select. -/
def keyAtOnce : List (Answered LoopOp LoopOp.Ret) :=
  [⟨.createUnverifiedClientTLSConfig, none⟩, ⟨.sendFirstReq, ()⟩, ⟨.select, Case.keyReceived⟩]

theorem requestKeyLoop_events_keyAtOnce :
    (requestKeyLoop "disk-uuid").Exec Chans false keyAtOnce true none ∧
      keyAtOnce.filterMap loopEvent =
        (.clientTLS none :: if (none : Option GoError) = none then [.receive] else [] :
          List (KeyAPI.Event Unit)) := by
  have h : (requestKeyLoop "disk-uuid").Exec Chans false keyAtOnce true none :=
    .next (exec_requestKeyLoop_start.2 (.inr ⟨rfl, rfl, rfl⟩))
      (.done (exec_requestKeyLoopBody.2 (.inl ⟨rfl, rfl, rfl⟩)))
  exact ⟨h, requestKeyLoop_events h⟩

end Runs

end Constellation.KeyService
