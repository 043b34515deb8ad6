import Constellation.Kms.AzureBasic

/-!
# `azure.New`: building a client

`New(ctx, vaultName, vaultType, store, opts)` loads the default Azure credentials, makes a
secrets client for the vault URL `"https://" + vaultName + vaultType`, and lists the
vault's secrets once, since `azsecrets.NewClient` does not fail for a vault that does not
exist.  Each of the three steps that fails makes `New` return its error wrapped with the
step's text.  A `nil` store is replaced by a new in-memory map.

`exec_new`: every run returns a client for that URL, with the store passed in or a new
in-memory map, or the error of the step that failed under the step's text, which
`errors.Is` still finds (`GoError.is_wrap_self`).

`opts` is passed to the SDK as it is, and the SDK's clients are not modelled: a client is
the URL it was made for and its storage.
-/

namespace Constellation.Kms.Azure

/-- `VaultSuffix`, the suffix that makes a vault name a vault URL. -/
abbrev VaultSuffix := String

def vaultPrefix : String := "https://"

/-- The calls `New` makes. -/
inductive NewOp where
  /-- `azidentity.NewDefaultAzureCredential(opts.credentials)`. -/
  | newDefaultAzureCredential
  /-- `azsecrets.NewClient(vaultURL, cred, opts.client)`. -/
  | newClient (vaultURL : String)
  /-- `client.ListSecrets(nil)`, `pager.NextPage(ctx)`, answered with `pager.Err()`. -/
  | listSecrets
  /-- `storage.NewMemMapStorage()`. -/
  | newMemMapStorage

/-- The error of each step or none; the new map needs no answer. -/
def NewOp.Ret : NewOp → Type
  | .newDefaultAzureCredential => Option GoError
  | .newClient _ => Option GoError
  | .listSecrets => Option GoError
  | .newMemMapStorage => Unit

def newDefaultAzureCredential : Prog NewOp NewOp.Ret (Option GoError) :=
  .call .newDefaultAzureCredential .pure

def newClient (vaultURL : String) : Prog NewOp NewOp.Ret (Option GoError) :=
  .call (.newClient vaultURL) .pure

def listSecrets : Prog NewOp NewOp.Ret (Option GoError) := .call .listSecrets .pure

def newMemMapStorage : Prog NewOp NewOp.Ret Unit := .call .newMemMapStorage .pure

/-- The storage of a client: the one passed to `New`, here by its contents, or the new
in-memory map. -/
inductive Storage where
  | given (contents : String → Option Bytes)
  | memMap

/-- `KMSClient`: the vault URL its secrets client was made for, and its storage. -/
structure KMSClient where
  vaultURL : String
  storage : Storage

/-- `New(ctx, vaultName, vaultType, store, opts)`, with `none` for a `nil` store. -/
def new (vaultName : String) (vaultType : VaultSuffix)
    (store : Option (String → Option Bytes)) : Prog NewOp NewOp.Ret (Except GoError KMSClient) := do
  match ← newDefaultAzureCredential with
  | some err => pure (.error (.wrap "loading credentials" err))
  | none =>
    let vaultURL := vaultPrefix ++ vaultName ++ vaultType
    match ← newClient vaultURL with
    | some err => pure (.error (.wrap "creating vault client" err))
    | none =>
      match ← listSecrets with
      | some err => pure (.error (.wrap "AKV not reachable" err))
      | none =>
        match store with
        | some contents => pure (.ok ⟨vaultURL, .given contents⟩)
        | none =>
          newMemMapStorage
          pure (.ok ⟨vaultURL, .memMap⟩)

section Runs

open Prog

variable {vaultName : String} {vaultType : VaultSuffix} {store : Option (String → Option Bytes)}
  {tr : List (Answered NewOp NewOp.Ret)} {res : Except GoError KMSClient}

/-- Every run of `New` returns a client for the vault URL, with the store passed in or a
new in-memory map, or the error of the step that failed, wrapped with that step's text. -/
theorem exec_new (h : Exec anyAnswer () (new vaultName vaultType store) tr () res) :
    (∃ context err, res = .error (.wrap context err) ∧
      context ∈ ["loading credentials", "creating vault client", "AKV not reachable"]) ∨
    res = .ok ⟨vaultPrefix ++ vaultName ++ vaultType, store.elim .memMap .given⟩ := by
  obtain ⟨e₁, _, tr₁, -, rfl, h₁⟩ := exec_call_iff.1 h
  rcases e₁ with _ | err
  swap
  · obtain ⟨-, -, rfl⟩ := exec_pure_iff.1 h₁
    exact .inl ⟨_, err, rfl, by simp⟩
  obtain ⟨e₂, _, tr₂, -, rfl, h₂⟩ := exec_call_iff.1 h₁
  rcases e₂ with _ | err
  swap
  · obtain ⟨-, -, rfl⟩ := exec_pure_iff.1 h₂
    exact .inl ⟨_, err, rfl, by simp⟩
  obtain ⟨e₃, _, tr₃, -, rfl, h₃⟩ := exec_call_iff.1 h₂
  rcases e₃ with _ | err
  swap
  · obtain ⟨-, -, rfl⟩ := exec_pure_iff.1 h₃
    exact .inl ⟨_, err, rfl, by simp⟩
  rcases store with _ | contents
  · obtain ⟨_, _, tr₄, -, rfl, h₄⟩ := exec_call_iff.1 h₃
    obtain ⟨-, -, rfl⟩ := exec_pure_iff.1 h₄
    exact .inr rfl
  · obtain ⟨-, -, rfl⟩ := exec_pure_iff.1 h₃
    exact .inr rfl

end Runs

end Constellation.Kms.Azure
