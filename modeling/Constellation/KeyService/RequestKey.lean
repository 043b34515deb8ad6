import Mathlib.Data.List.Forall2
import Constellation.Go
import Constellation.Prog

/-!
# `KeyAPI.requestKey`: asking every Coordinator for the key

On every tick of `requestKeyLoop`, `requestKey` lists the Coordinators
(`core.CoordinatorEndpoints`, whose error it ignores), and for each endpoint in turn dials
it and, over a connection it established, sends `RequestStateDiskKey` with the disk UUID and
closes the connection.  Every error on the way is dropped.

`requestKey_attempts` describes every run: the endpoint list comes first, then one attempt
per listed endpoint, in list order (`Attempt`), whatever the collaborators answer; and
every such sequence of answers is a run that returns.  The per-call timeouts
(`context.WithTimeout`, `cancel`) and the TLS options passed to the dial are not modelled.
-/

namespace Constellation.KeyService

/-- A connection that `grpc.DialContext` established. -/
structure Conn where
  id : Nat
  deriving DecidableEq, Repr

/-- The calls `requestKey` makes. -/
inductive Op where
  /-- `core.CoordinatorEndpoints(ctx, a.metadata)`. -/
  | coordinatorEndpoints
  /-- `grpc.DialContext(ctx, endpoint, ...)`. -/
  | dialContext (endpoint : String)
  /-- `client.RequestStateDiskKey(ctx, &RequestStateDiskKeyRequest{DiskUuid: diskUuid})`. -/
  | requestStateDiskKey (conn : Conn) (diskUuid : String)
  /-- `conn.Close()`. -/
  | close (conn : Conn)

/-- The answers: the endpoint list with an error or none, a connection or an error, and
the errors of the request and of the close (the response itself is dropped). -/
def Op.Ret : Op → Type
  | .coordinatorEndpoints => List String × Option GoError
  | .dialContext _ => Except GoError Conn
  | .requestStateDiskKey _ _ => Option GoError
  | .close _ => Option GoError

/-- A function that calls the Coordinators. -/
abbrev Rpc := Prog Op Op.Ret

def coordinatorEndpoints : Rpc (List String × Option GoError) := .call .coordinatorEndpoints .pure

def dialContext (endpoint : String) : Rpc (Except GoError Conn) :=
  .call (.dialContext endpoint) .pure

def requestStateDiskKey (conn : Conn) (diskUuid : String) : Rpc (Option GoError) :=
  .call (.requestStateDiskKey conn diskUuid) .pure

def close (conn : Conn) : Rpc (Option GoError) := .call (.close conn) .pure

/-- The body of the loop over the endpoints, for one endpoint. -/
def requestEndpoint (uuid endpoint : String) : Rpc Unit := do
  match ← dialContext endpoint with
  | .ok conn =>
    let _ ← requestStateDiskKey conn uuid
    let _ ← close conn
    pure ()
  | .error _ => pure ()

/-- `for _, endpoint := range endpoints { ... }`. -/
def requestEndpoints (uuid : String) : List String → Rpc Unit
  | [] => pure ()
  | endpoint :: endpoints => do
    requestEndpoint uuid endpoint
    requestEndpoints uuid endpoints

/-- `KeyAPI.requestKey(uuid, ...)`. -/
def requestKey (uuid : String) : Rpc Unit := do
  let (endpoints, _) ← coordinatorEndpoints
  requestEndpoints uuid endpoints

/-- The calls of one attempt at `endpoint`: a failed dial, or a dial, the request with the
disk UUID over the connection, and its close. -/
inductive Attempt (uuid endpoint : String) : List (Answered Op Op.Ret) → Prop
  | failed (err : GoError) : Attempt uuid endpoint [⟨.dialContext endpoint, Except.error err⟩]
  | connected (conn : Conn) (requestErr closeErr : Option GoError) :
      Attempt uuid endpoint
        [⟨.dialContext endpoint, Except.ok conn⟩, ⟨.requestStateDiskKey conn uuid, requestErr⟩,
          ⟨.close conn, closeErr⟩]

section Runs

open Prog

variable {uuid : String} {tr : List (Answered Op Op.Ret)} {w w' a : Unit}

theorem exec_requestEndpoint {endpoint : String} :
    Exec anyAnswer w (requestEndpoint uuid endpoint) tr w' a ↔ Attempt uuid endpoint tr := by
  constructor
  · intro h
    simp only [requestEndpoint, dialContext, Prog.call_bind, Prog.pure_bind, exec_call_iff] at h
    obtain ⟨r, _, tr', -, rfl, h⟩ := h
    rcases r with err | conn
    · obtain ⟨rfl, -, -⟩ := exec_pure_iff.1 h
      exact .failed err
    · simp only [requestStateDiskKey, close, Prog.call_bind, Prog.pure_bind, Prog.pure_eq,
        exec_call_iff] at h
      obtain ⟨r₁, _, _, -, rfl, r₂, _, _, -, rfl, h⟩ := h
      obtain ⟨rfl, -, -⟩ := exec_pure_iff.1 h
      exact .connected conn r₁ r₂
  · cases w; cases w'; cases a
    rintro (⟨err⟩ | ⟨conn, r₁, r₂⟩)
    · exact exec_call_iff.2 ⟨.error err, (), _, trivial, rfl, .pure _ _⟩
    · exact exec_call_iff.2 ⟨.ok conn, (), _, trivial, rfl, exec_call_iff.2 ⟨r₁, (), _, trivial, rfl,
        exec_call_iff.2 ⟨r₂, (), _, trivial, rfl, .pure _ _⟩⟩⟩

theorem exec_requestEndpoints {endpoints : List String} :
    Exec anyAnswer w (requestEndpoints uuid endpoints) tr w' a ↔
      ∃ parts, tr = parts.flatten ∧ List.Forall₂ (Attempt uuid) endpoints parts := by
  induction endpoints generalizing w tr with
  | nil => simp [requestEndpoints, eq_comm]
  | cons endpoint endpoints ih =>
    simp only [requestEndpoints, exec_bind_iff, exec_requestEndpoint, ih,
      List.forall₂_cons_left_iff]
    constructor
    · rintro ⟨tr₁, tr₂, _, _, rfl, h₁, parts, rfl, h₂⟩
      exact ⟨tr₁ :: parts, rfl, tr₁, parts, h₁, h₂, rfl⟩
    · rintro ⟨_, rfl, tr₁, parts, h₁, h₂, rfl⟩
      exact ⟨tr₁, parts.flatten, (), (), rfl, h₁, parts, rfl, h₂⟩

/-- Every run of `requestKey` lists the endpoints and then makes one attempt per listed
endpoint, in list order, sending the disk UUID over every connection it established; and
whatever the endpoint list and whichever dials and requests fail, the run returns. -/
theorem requestKey_attempts :
    Exec anyAnswer () (requestKey uuid) tr () () ↔
      ∃ endpoints err parts, tr = ⟨.coordinatorEndpoints, (endpoints, err)⟩ :: parts.flatten ∧
        List.Forall₂ (Attempt uuid) endpoints parts := by
  simp only [requestKey, coordinatorEndpoints, Prog.call_bind, Prog.pure_bind, exec_call_iff,
    exec_requestEndpoints]
  constructor
  · rintro ⟨⟨endpoints, err⟩, _, _, -, rfl, parts, rfl, h⟩
    exact ⟨endpoints, err, parts, rfl, h⟩
  · rintro ⟨endpoints, err, parts, rfl, h⟩
    exact ⟨(endpoints, err), (), _, trivial, rfl, parts, rfl, h⟩

end Runs

end Constellation.KeyService
