import Constellation.Prog
import Constellation.Encoding.Base64

/-!
# `hack/qemu-metadata-api/server`: who is asking

The QEMU metadata server answers a VM's requests by looking the requester up among the
DHCP leases of the libvirt network `constellation` (`listAll`, which makes one instance per
lease, named by the lease's host name, with the lease's address as its only public IP).

* `listSelf` returns the first instance carrying the requester's IP among its public IPs,
  and answers 404 `No matching peer found` when there is none;
* `exportPCRs` names the PCR files after the last instance whose first public IP is the
  requester's, and after the empty name when there is none: it then writes
  `/pcrs/_pcrs.json` and `/pcrs/_pcrs.yaml` (`exportPCRs_writes_without_peer`).

The two lookups agree when at most one lease carries the address, or all those that do
carry the same host name (`exportPCRs_node_name`).

`route` is the mux of `ListenAndServe`, which also serves `listPeers` and `postLog`.
Whatever the collaborators answer, the server writes a file only for a `POST` with a body
to `/pcrs`, and then only `/pcrs/<name>_pcrs.json` and `/pcrs/<name>_pcrs.yaml`, where
`<name>` is `nodeNameOf` the requester's IP over the leases the run read: the host name of
the last lease with that address, or `""` when no lease carries it (`route_writes`).

Logging and the `net.Free` of the network handle are not modelled; a JSON body that
decodes is an answer of the `decodeBody` call.
-/

namespace Constellation.Qemu

/-- The fields of a libvirt DHCP lease that `listAll` reads. -/
structure Lease where
  hostname : String
  ipAddr : String
  deriving DecidableEq, Repr

/-- `role.Role`. -/
inductive Role where
  | coordinator
  | node
  deriving DecidableEq, Repr

/-- `cloudtypes.Instance`. -/
structure Instance where
  name : String
  role : Role
  privateIPs : List String
  publicIPs : List String
  providerID : String
  deriving DecidableEq, Repr

/-- `map[uint32][]byte`, the PCRs a VM exports. -/
abbrev PCRs := List (UInt32 × Bytes)

/-- The calls the handlers make. -/
inductive Op where
  /-- `s.virt.LookupNetworkByName(name)`. -/
  | lookupNetworkByName (name : String)
  /-- `net.GetDHCPLeases()`. -/
  | getDHCPLeases
  /-- `json.NewEncoder(w).Encode(peer)`. -/
  | encode (peer : Instance)
  /-- `json.NewEncoder(w).Encode(peers)`. -/
  | encodePeers (peers : List Instance)
  /-- `io.ReadAll(r.Body)`. -/
  | readAll
  /-- `json.NewDecoder(r.Body).Decode(&pcrs)`. -/
  | decodeBody
  /-- `s.file.WriteJSON(path, pcrs, file.OptOverwrite)`. -/
  | writeJSON (path : String) (pcrs : PCRs)
  /-- `s.file.WriteYAML(path, pcrsYAML, file.OptOverwrite)`. -/
  | writeYAML (path : String) (pcrs : List (UInt32 × String))

/-- What each call answers. -/
def Op.Ret : Op → Type
  | .lookupNetworkByName _ => Option GoError
  | .getDHCPLeases => Except GoError (List Lease)
  | .encode _ => Option GoError
  | .encodePeers _ => Option GoError
  | .readAll => Except GoError String
  | .decodeBody => Except GoError PCRs
  | .writeJSON _ _ => Option GoError
  | .writeYAML _ _ => Option GoError

/-- A handler of the metadata server. -/
abbrev Srv := Prog Op Op.Ret

def lookupNetworkByName (name : String) : Srv (Option GoError) :=
  .call (.lookupNetworkByName name) .pure

def getDHCPLeases : Srv (Except GoError (List Lease)) := .call .getDHCPLeases .pure

def encode (peer : Instance) : Srv (Option GoError) := .call (.encode peer) .pure

def encodePeers (peers : List Instance) : Srv (Option GoError) := .call (.encodePeers peers) .pure

def readAll : Srv (Except GoError String) := .call .readAll .pure

def decodeBody : Srv (Except GoError PCRs) := .call .decodeBody .pure

def writeJSON (path : String) (pcrs : PCRs) : Srv (Option GoError) :=
  .call (.writeJSON path pcrs) .pure

def writeYAML (path : String) (pcrs : List (UInt32 × String)) : Srv (Option GoError) :=
  .call (.writeYAML path pcrs) .pure

/-- The parts of an `*http.Request` the handlers read. -/
structure Request where
  method : String
  remoteAddr : String
  hasBody : Bool

/-- What a handler wrote: nothing (status 200), an instance or a list of instances as JSON,
or `http.Error`. -/
inductive Response where
  | ok
  | json (peer : Instance)
  | peers (peers : List Instance)
  | error (msg : String) (code : Nat)
  deriving DecidableEq, Repr

/-- `exportedPCRsDir`. -/
def exportedPCRsDir : String := "/pcrs/"

/-- The instance `listAll` makes of one lease. -/
def instanceOf (lease : Lease) : Instance where
  name := lease.hostname
  role := if stringsStartsWith lease.hostname "control-plane" then .coordinator else .node
  privateIPs := [lease.ipAddr]
  publicIPs := [lease.ipAddr]
  providerID := "qemu:///hostname/" ++ lease.hostname

/-- `Server.listAll`. -/
def listAll : Srv (Except GoError (List Instance)) := do
  match ← lookupNetworkByName "constellation" with
  | some err => pure (.error err)
  | none =>
    match ← getDHCPLeases with
    | .error err => pure (.error err)
    | .ok leases => pure (.ok (leases.map instanceOf))

/-- The answer to a request whose remote address does not parse. -/
def parseError (err : GoError) : Response :=
  .error ("Failed to parse remote address: " ++ err.error ++ "\n") 500

/-- The nested loop of `listSelf`: the first peer with `remoteIP` among its public IPs. -/
def findPeer (remoteIP : String) (peers : List Instance) : Option Instance :=
  peers.find? fun peer => peer.publicIPs.any (· == remoteIP)

/-- `Server.listSelf`. -/
def listSelf (r : Request) : Srv Response := do
  match splitHostPort r.remoteAddr with
  | .error err => pure (parseError err)
  | .ok (remoteIP, _) =>
    match ← listAll with
    | .error err => pure (.error err.error 500)
    | .ok peers =>
      match findPeer remoteIP peers with
      | some peer =>
        match ← encode peer with
        | some err => pure (.error err.error 500)
        | none => pure (.json peer)
      | none => pure (.error "No matching peer found" 404)

/-- The loop of `exportPCRs`: the name of the last peer whose first public IP is
`remoteIP`, or `""`.  Go panics on a peer without public IPs; `listAll` makes none. -/
def nodeNameOf (remoteIP : String) (peers : List Instance) : String :=
  peers.foldl (fun nodeName peer =>
    if peer.publicIPs.head? = some remoteIP then peer.name else nodeName) ""

/-- The PCRs as base64 strings, for the YAML file. -/
def pcrsYAML (pcrs : PCRs) : List (UInt32 × String) :=
  pcrs.map fun (k, v) => (k, Base64.encodeToString v)

/-- The two writes of `exportPCRs`, under `nodeName`. -/
def writePCRs (nodeName : String) (pcrs : PCRs) : Srv Response := do
  match ← writeJSON (exportedPCRsDir ++ nodeName ++ "_pcrs.json") pcrs with
  | some err => pure (.error err.error 500)
  | none =>
    match ← writeYAML (exportedPCRsDir ++ nodeName ++ "_pcrs.yaml") (pcrsYAML pcrs) with
    | some err => pure (.error err.error 500)
    | none => pure .ok

/-- `Server.exportPCRs`. -/
def exportPCRs (r : Request) : Srv Response :=
  if r.method ≠ "POST" then pure (.error "Method not allowed" 405)
  else if !r.hasBody then pure (.error "Request body is empty" 400)
  else do
    match ← decodeBody with
    | .error err => pure (.error err.error 500)
    | .ok pcrs =>
      match ← listAll with
      | .error err => pure (.error err.error 500)
      | .ok peers =>
        match splitHostPort r.remoteAddr with
        | .error err => pure (parseError err)
        | .ok (remoteIP, _) => writePCRs (nodeNameOf remoteIP peers) pcrs

/-- `Server.listPeers`. -/
def listPeers : Srv Response := do
  match ← listAll with
  | .error err => pure (.error err.error 500)
  | .ok peers =>
    match ← encodePeers peers with
    | some err => pure (.error err.error 500)
    | none => pure (.peers peers)

/-- `Server.postLog`: the message read from the body is only logged. -/
def postLog (r : Request) : Srv Response :=
  if r.method ≠ "POST" then pure (.error "Method not allowed" 405)
  else if !r.hasBody then pure (.error "Request body is empty" 400)
  else do
    match ← readAll with
    | .error err => pure (.error err.error 500)
    | .ok _ => pure .ok

/-- The `http.ServeMux` of `ListenAndServe`: the handler registered for the request's
path, or `http.NotFound`.  The mux's cleaning and redirecting of unclean paths is not
modelled. -/
def route (path : String) (r : Request) : Srv Response :=
  match path with
  | "/self" => listSelf r
  | "/peers" => listPeers
  | "/log" => postLog r
  | "/pcrs" => exportPCRs r
  | _ => pure (.error "404 page not found" 404)

/-! ## Runs with the network found and the body decoded -/

/-- The collaborators when the network is found, its leases are `leases` and the body
decodes to `pcrs`; encoding the answer and writing the files may succeed or fail. -/
def Answers (leases : List Lease) (pcrs : PCRs) : Unit → (op : Op) → op.Ret → Unit → Prop
  | _, .lookupNetworkByName _, r, _ => r = none
  | _, .getDHCPLeases, r, _ => r = .ok leases
  | _, .decodeBody, r, _ => r = .ok pcrs
  | _, _, _, _ => True

section Runs

open Prog

variable {leases : List Lease} {pcrs : PCRs} {tr : List (Answered Op Op.Ret)} {w w' : Unit}
  {α : Type} {a : α}

/-- A call that the collaborators answer in one way only. -/
theorem exec_call_determined {op : Op} {r₀ : op.Ret} {k : op.Ret → Srv α}
    (hans : ∀ r, Answers leases pcrs () op r () ↔ r = r₀) :
    Exec (Answers leases pcrs) w (.call op k) tr w' a ↔
      ∃ tr', tr = ⟨op, r₀⟩ :: tr' ∧ Exec (Answers leases pcrs) w (k r₀) tr' w' a := by
  cases w; cases w'
  simp only [exec_call_iff, hans]
  constructor
  · rintro ⟨_, ⟨⟩, tr', rfl, rfl, h⟩; exact ⟨tr', rfl, h⟩
  · rintro ⟨tr', rfl, h⟩; exact ⟨_, (), tr', rfl, rfl, h⟩

theorem exec_lookupNetworkByName {name : String} {k : Option GoError → Srv α} :
    Exec (Answers leases pcrs) w (.call (.lookupNetworkByName name) k) tr w' a ↔
      ∃ tr', tr = ⟨.lookupNetworkByName name, none⟩ :: tr' ∧
        Exec (Answers leases pcrs) w (k none) tr' w' a :=
  exec_call_determined fun _ => Iff.rfl

theorem exec_getDHCPLeases {k : Except GoError (List Lease) → Srv α} :
    Exec (Answers leases pcrs) w (.call .getDHCPLeases k) tr w' a ↔
      ∃ tr', tr = ⟨.getDHCPLeases, Except.ok leases⟩ :: tr' ∧
        Exec (Answers leases pcrs) w (k (.ok leases)) tr' w' a :=
  exec_call_determined fun _ => Iff.rfl

theorem exec_decodeBody {k : Except GoError PCRs → Srv α} :
    Exec (Answers leases pcrs) w (.call .decodeBody k) tr w' a ↔
      ∃ tr', tr = ⟨.decodeBody, Except.ok pcrs⟩ :: tr' ∧
        Exec (Answers leases pcrs) w (k (.ok pcrs)) tr' w' a :=
  exec_call_determined fun _ => Iff.rfl

theorem exec_listAll {res : Except GoError (List Instance)} :
    Exec (Answers leases pcrs) w listAll tr w' res ↔
      tr = [⟨.lookupNetworkByName "constellation", none⟩, ⟨.getDHCPLeases, Except.ok leases⟩] ∧
        res = .ok (leases.map instanceOf) := by
  simp only [listAll, lookupNetworkByName, getDHCPLeases, Prog.call_bind, Prog.pure_bind,
    Prog.pure_eq, exec_lookupNetworkByName, exec_getDHCPLeases, exec_pure_iff]
  constructor
  · rintro ⟨_, rfl, _, rfl, rfl, -, rfl⟩; exact ⟨rfl, rfl⟩
  · rintro ⟨rfl, rfl⟩; exact ⟨_, rfl, _, rfl, rfl, trivial, rfl⟩

theorem exec_listSelf {r : Request} {ip port : String} {res : Response}
    (hsplit : splitHostPort r.remoteAddr = .ok (ip, port))
    (h : Exec (Answers leases pcrs) w (listSelf r) tr w' res) :
    (findPeer ip (leases.map instanceOf) = none → res = .error "No matching peer found" 404) ∧
      ∀ peer, findPeer ip (leases.map instanceOf) = some peer →
        res = .json peer ∨ ∃ err : GoError, res = .error err.error 500 := by
  simp only [listSelf, hsplit, exec_bind_iff, exec_listAll] at h
  obtain ⟨_, tr₂, _, _, rfl, ⟨rfl, rfl⟩, h⟩ := h
  constructor
  · intro hnone
    simp only [hnone, Prog.pure_eq, exec_pure_iff] at h
    exact h.2.2
  · intro peer hpeer
    simp only [hpeer, encode, Prog.call_bind, Prog.pure_bind, exec_call_iff] at h
    obtain ⟨r, _, _, -, rfl, h⟩ := h
    cases r with
    | none => exact .inl (exec_pure_iff.1 h).2.2
    | some err => exact .inr ⟨err, (exec_pure_iff.1 h).2.2⟩

theorem exec_exportPCRs {r : Request} {ip port : String} {res : Response}
    (hsplit : splitHostPort r.remoteAddr = .ok (ip, port)) (hpost : r.method = "POST")
    (hbody : r.hasBody = true) (h : Exec (Answers leases pcrs) w (exportPCRs r) tr w' res) :
    ∃ a, (⟨.writeJSON (exportedPCRsDir ++ nodeNameOf ip (leases.map instanceOf) ++ "_pcrs.json")
      pcrs, a⟩ : Answered Op Op.Ret) ∈ tr := by
  simp only [exportPCRs, hpost, hbody, ne_eq, not_true_eq_false, Bool.not_true,
    Bool.false_eq_true, if_false, decodeBody, Prog.call_bind, Prog.pure_bind,
    exec_decodeBody] at h
  obtain ⟨_, rfl, h⟩ := h
  simp only [exec_bind_iff, exec_listAll] at h
  obtain ⟨_, _, _, _, rfl, ⟨rfl, rfl⟩, h⟩ := h
  simp only [hsplit, writePCRs, writeJSON, Prog.call_bind, exec_call_iff] at h
  obtain ⟨a, _, _, -, rfl, -⟩ := h
  exact ⟨a, by simp⟩

/-! ## The two lookups -/

/-- `listSelf`'s lookup among the instances of the leases is the first lease with the
address. -/
theorem findPeer_instances (ip : String) :
    findPeer ip (leases.map instanceOf) = (leases.find? (·.ipAddr == ip)).map instanceOf := by
  unfold findPeer
  rw [List.find?_map]
  congr 2
  funext l
  simp [instanceOf]

/-- `exportPCRs`' loop over the instances of the leases ends on the last lease with the
address, or on its start value when there is none. -/
theorem foldl_nodeName (leases : List Lease) (ip acc : String) :
    let res := (leases.map instanceOf).foldl (fun nodeName peer =>
      if peer.publicIPs.head? = some ip then peer.name else nodeName) acc
    (res = acc ∧ ∀ l ∈ leases, l.ipAddr ≠ ip) ∨ ∃ l ∈ leases, l.ipAddr = ip ∧ res = l.hostname := by
  induction leases generalizing acc with
  | nil => exact .inl ⟨rfl, by simp⟩
  | cons l ls ih =>
    simp only [List.map_cons, List.foldl_cons]
    rcases ih (if (instanceOf l).publicIPs.head? = some ip then (instanceOf l).name else acc) with
      ⟨h, hno⟩ | ⟨l', hl', hip, h⟩
    · by_cases hl : l.ipAddr = ip
      · exact .inr ⟨l, List.mem_cons_self _ _, hl, by rw [h]; simp [instanceOf, hl]⟩
      · exact .inl ⟨by rw [h]; simp [instanceOf, hl], List.forall_mem_cons.2 ⟨hl, hno⟩⟩
    · exact .inr ⟨l', List.mem_cons_of_mem _ hl', hip, h⟩

/-- A request from an address that no lease carries: `listSelf` answers 404, and
`exportPCRs` writes the PCRs to `/pcrs/_pcrs.json` and `/pcrs/_pcrs.yaml`. -/
theorem exportPCRs_writes_without_peer :
    Exec (Answers [⟨"control-plane-0", "192.0.2.1"⟩] []) () (listSelf ⟨"POST", "192.0.2.9:40000", true⟩)
        [⟨.lookupNetworkByName "constellation", none⟩,
          ⟨.getDHCPLeases, Except.ok [⟨"control-plane-0", "192.0.2.1"⟩]⟩] ()
        (.error "No matching peer found" 404) ∧
      Exec (Answers [⟨"control-plane-0", "192.0.2.1"⟩] []) () (exportPCRs ⟨"POST", "192.0.2.9:40000", true⟩)
        [⟨.decodeBody, Except.ok []⟩, ⟨.lookupNetworkByName "constellation", none⟩,
          ⟨.getDHCPLeases, Except.ok [⟨"control-plane-0", "192.0.2.1"⟩]⟩,
          ⟨.writeJSON "/pcrs/_pcrs.json" [], none⟩, ⟨.writeYAML "/pcrs/_pcrs.yaml" [], none⟩] ()
        .ok :=
  ⟨.call_unit rfl (.call_unit rfl (.pure _ _)),
    .call_unit rfl (.call_unit rfl (.call_unit rfl (.call_unit trivial (.call_unit trivial
      (.pure _ _)))))⟩

/-- When every lease that carries the requester's address carries the host name `name`,
the two handlers agree: `listSelf` answers 404 and `exportPCRs` writes under the empty
name, or `listSelf` answers with an instance named `name` (or fails to encode it) and
`exportPCRs` writes under `name`. -/
theorem exportPCRs_node_name {r : Request} {ip port name : String}
    {tr₁ tr₂ : List (Answered Op Op.Ret)} {res₁ res₂ : Response}
    (hsplit : splitHostPort r.remoteAddr = .ok (ip, port)) (hpost : r.method = "POST")
    (hbody : r.hasBody = true) (hname : ∀ l ∈ leases, l.ipAddr = ip → l.hostname = name)
    (h₁ : Exec (Answers leases pcrs) () (listSelf r) tr₁ () res₁)
    (h₂ : Exec (Answers leases pcrs) () (exportPCRs r) tr₂ () res₂) :
    (res₁ = .error "No matching peer found" 404 ∧
        ∃ a, (⟨.writeJSON (exportedPCRsDir ++ "" ++ "_pcrs.json") pcrs, a⟩ : Answered Op Op.Ret) ∈ tr₂) ∨
      ((∀ peer, res₁ = .json peer → peer.name = name) ∧
        res₁ ≠ .error "No matching peer found" 404 ∧
        ∃ a, (⟨.writeJSON (exportedPCRsDir ++ name ++ "_pcrs.json") pcrs, a⟩ : Answered Op Op.Ret) ∈ tr₂) := by
  obtain ⟨hnone, hsome⟩ := exec_listSelf hsplit h₁
  obtain ⟨a, ha⟩ := exec_exportPCRs hsplit hpost hbody h₂
  rw [findPeer_instances] at hnone hsome
  unfold nodeNameOf at ha
  rcases foldl_nodeName leases ip "" with ⟨hn, hno⟩ | ⟨l, hl, hip, hn⟩ <;> rw [hn] at ha
  -- no lease carries the address
  · have hfind : leases.find? (·.ipAddr == ip) = none :=
      List.find?_eq_none.2 fun l hl => by simpa using hno l hl
    exact .inl ⟨hnone (by simp [hfind]), a, ha⟩
  -- the first lease with the address, which `listSelf` finds
  · obtain ⟨l₀, hl₀⟩ : ∃ l₀, leases.find? (·.ipAddr == ip) = some l₀ :=
      Option.ne_none_iff_exists'.1 fun hfind => by
        simpa [hip] using List.find?_eq_none.1 hfind l hl
    have hname₀ : l₀.hostname = name :=
      hname l₀ (List.mem_of_find?_eq_some hl₀) (by simpa using List.find?_some hl₀)
    have hres := hsome (instanceOf l₀) (by simp [hl₀])
    refine .inr ⟨fun peer hpeer => ?_, fun h404 => ?_, a, hname l hl hip ▸ ha⟩
    · rcases hres with h | ⟨err, h⟩ <;> rw [hpeer] at h <;> cases h
      exact hname₀
    · rcases hres with h | ⟨err, h⟩ <;> rw [h404] at h
      · cases h
      · exact absurd (Response.error.inj h).2 (by decide)

/-- One lease, for the control plane at `192.0.2.1`. -/
def oneLease : List Lease := [⟨"control-plane-0", "192.0.2.1"⟩]

/-- A request from the control plane of `oneLease`. -/
def selfRequest : Request := ⟨"POST", "192.0.2.1:40000", true⟩

theorem exportPCRs_node_name_oneLease :
    splitHostPort selfRequest.remoteAddr = .ok ("192.0.2.1", "40000") ∧
      selfRequest.method = "POST" ∧ selfRequest.hasBody = true ∧
      (∀ l ∈ oneLease, l.ipAddr = "192.0.2.1" → l.hostname = "control-plane-0") ∧
      Exec (Answers oneLease []) () (listSelf selfRequest)
        [⟨.lookupNetworkByName "constellation", none⟩, ⟨.getDHCPLeases, Except.ok oneLease⟩,
          ⟨.encode (instanceOf ⟨"control-plane-0", "192.0.2.1"⟩), none⟩] ()
        (.json (instanceOf ⟨"control-plane-0", "192.0.2.1"⟩)) ∧
      Exec (Answers oneLease []) () (exportPCRs selfRequest)
        [⟨.decodeBody, Except.ok []⟩, ⟨.lookupNetworkByName "constellation", none⟩,
          ⟨.getDHCPLeases, Except.ok oneLease⟩,
          ⟨.writeJSON "/pcrs/control-plane-0_pcrs.json" [], none⟩,
          ⟨.writeYAML "/pcrs/control-plane-0_pcrs.yaml" [], none⟩] () .ok ∧
      ((Response.json (instanceOf ⟨"control-plane-0", "192.0.2.1"⟩) =
            .error "No matching peer found" 404 ∧
          ∃ a, (⟨.writeJSON (exportedPCRsDir ++ "" ++ "_pcrs.json") [], a⟩ : Answered Op Op.Ret) ∈
            [⟨.decodeBody, Except.ok []⟩, ⟨.lookupNetworkByName "constellation", none⟩,
              ⟨.getDHCPLeases, Except.ok oneLease⟩,
              ⟨.writeJSON "/pcrs/control-plane-0_pcrs.json" [], none⟩,
              ⟨.writeYAML "/pcrs/control-plane-0_pcrs.yaml" [], none⟩]) ∨
        ((∀ peer, Response.json (instanceOf ⟨"control-plane-0", "192.0.2.1"⟩) = .json peer →
            peer.name = "control-plane-0") ∧
          Response.json (instanceOf ⟨"control-plane-0", "192.0.2.1"⟩) ≠
            .error "No matching peer found" 404 ∧
          ∃ a, (⟨.writeJSON (exportedPCRsDir ++ "control-plane-0" ++ "_pcrs.json") [], a⟩ :
              Answered Op Op.Ret) ∈
            [⟨.decodeBody, Except.ok []⟩, ⟨.lookupNetworkByName "constellation", none⟩,
              ⟨.getDHCPLeases, Except.ok oneLease⟩,
              ⟨.writeJSON "/pcrs/control-plane-0_pcrs.json" [], none⟩,
              ⟨.writeYAML "/pcrs/control-plane-0_pcrs.yaml" [], none⟩])) := by
  have hsplit : splitHostPort selfRequest.remoteAddr = .ok ("192.0.2.1", "40000") := rfl
  have hname : ∀ l ∈ oneLease, l.ipAddr = "192.0.2.1" → l.hostname = "control-plane-0" := by
    simp [oneLease]
  have h₁ : Exec (Answers oneLease []) () (listSelf selfRequest)
      [⟨.lookupNetworkByName "constellation", none⟩, ⟨.getDHCPLeases, Except.ok oneLease⟩,
        ⟨.encode (instanceOf ⟨"control-plane-0", "192.0.2.1"⟩), none⟩] ()
      (.json (instanceOf ⟨"control-plane-0", "192.0.2.1"⟩)) :=
    .call_unit rfl (.call_unit rfl (.call_unit trivial (.pure _ _)))
  have h₂ : Exec (Answers oneLease []) () (exportPCRs selfRequest)
      [⟨.decodeBody, Except.ok []⟩, ⟨.lookupNetworkByName "constellation", none⟩,
        ⟨.getDHCPLeases, Except.ok oneLease⟩,
        ⟨.writeJSON "/pcrs/control-plane-0_pcrs.json" [], none⟩,
        ⟨.writeYAML "/pcrs/control-plane-0_pcrs.yaml" [], none⟩] () .ok :=
    .call_unit rfl (.call_unit rfl (.call_unit rfl (.call_unit trivial (.call_unit trivial
      (.pure _ _)))))
  exact ⟨hsplit, rfl, rfl, hname, h₁, h₂, exportPCRs_node_name hsplit rfl rfl hname h₁ h₂⟩

end Runs

/-! ## What the server writes -/

/-- The file a call writes, if it writes one. -/
def Op.writePath : Op → Option String
  | .writeJSON path _ | .writeYAML path _ => some path
  | _ => none

section Writes

open Prog

/-- A call that writes no file. -/
def NoWrite (op : Op) : Prop := op.writePath = none

theorem allCalls_listAll : AllCalls NoWrite listAll :=
  .call rfl fun err => by
    cases err
    · exact .call rfl fun leases => by cases leases <;> exact .pure _
    · exact .pure _

theorem allCalls_listSelf (r : Request) : AllCalls NoWrite (listSelf r) := by
  unfold listSelf
  split
  · exact .pure _
  refine allCalls_listAll.bind fun peers => ?_
  split
  · exact .pure _
  split
  · exact .call rfl fun err => by cases err <;> exact .pure _
  · exact .pure _

theorem allCalls_listPeers : AllCalls NoWrite listPeers :=
  allCalls_listAll.bind fun peers => by
    cases peers
    · exact .pure _
    · exact .call rfl fun err => by cases err <;> exact .pure _

theorem allCalls_postLog (r : Request) : AllCalls NoWrite (postLog r) := by
  unfold postLog
  split_ifs
  · exact .pure _
  · exact .pure _
  · exact .call rfl fun body => by cases body <;> exact .pure _

/-- `writePCRs` writes the two PCR files of `nodeName` and no other file. -/
theorem allCalls_writePCRs (nodeName : String) (pcrs : PCRs) :
    AllCalls (fun op => ∀ file, op.writePath = some file →
      file = exportedPCRsDir ++ nodeName ++ "_pcrs.json" ∨
        file = exportedPCRsDir ++ nodeName ++ "_pcrs.yaml") (writePCRs nodeName pcrs) := by
  refine .call (fun file h => .inl (Option.some.inj h).symm) fun err => ?_
  cases err
  · refine .call (fun file h => .inr (Option.some.inj h).symm) fun err => ?_
    cases err <;> exact .pure _
  · exact .pure _

variable {W : Type} {ans : W → (op : Op) → op.Ret → W → Prop} {w w' : W}
  {tr : List (Answered Op Op.Ret)}

/-- No call of a run of a function that writes no file writes one. -/
theorem writePath_of_noWrite {α : Type} {p : Srv α} {a : α} (hp : AllCalls NoWrite p)
    (h : Exec ans w p tr w' a) {c : Answered Op Op.Ret} (hc : c ∈ tr) {file : String}
    (hw : c.op.writePath = some file) : False := by
  have hno : NoWrite c.op := hp.exec h c hc
  rw [NoWrite, hw] at hno
  cases hno

/-- A run of `listAll` that returns instances returns those of the leases it read. -/
theorem exec_listAll_ok {peers : List Instance} (h : Exec ans w listAll tr w' (.ok peers)) :
    ∃ leases, peers = leases.map instanceOf ∧
      (⟨.getDHCPLeases, Except.ok leases⟩ : Answered Op Op.Ret) ∈ tr := by
  obtain ⟨err, _, _, -, rfl, h₁⟩ := exec_call_iff.1 h
  cases err with
  | some => cases (exec_pure_iff.1 h₁).2.2
  | none =>
    obtain ⟨leases, _, _, -, rfl, h₂⟩ := exec_call_iff.1 h₁
    cases leases with
    | error => cases (exec_pure_iff.1 h₂).2.2
    | ok leases =>
      obtain ⟨rfl, -, h₃⟩ := exec_pure_iff.1 h₂
      exact ⟨leases, Except.ok.inj h₃, by simp⟩

/-- `exportPCRs` writes only for a `POST` with a body, and then only the two PCR files of
`nodeNameOf` the requester's IP over the instances of the leases the run read. -/
theorem exportPCRs_writes {r : Request} {res : Response}
    (h : Exec ans w (exportPCRs r) tr w' res) :
    ∀ c ∈ tr, ∀ file, c.op.writePath = some file →
      r.method = "POST" ∧ r.hasBody = true ∧ ∃ ip port leases,
        splitHostPort r.remoteAddr = .ok (ip, port) ∧
        (⟨.getDHCPLeases, Except.ok leases⟩ : Answered Op Op.Ret) ∈ tr ∧
        (file = exportedPCRsDir ++ nodeNameOf ip (leases.map instanceOf) ++ "_pcrs.json" ∨
          file = exportedPCRsDir ++ nodeNameOf ip (leases.map instanceOf) ++ "_pcrs.yaml") := by
  unfold exportPCRs at h
  split_ifs at h with hpost hbody
  · simp [(exec_pure_iff.1 h).1]
  · simp [(exec_pure_iff.1 h).1]
  have hpost : r.method = "POST" := not_not.1 hpost
  have hbody : r.hasBody = true := by simpa using hbody
  simp only [decodeBody, Prog.call_bind, Prog.pure_bind, exec_call_iff] at h
  obtain ⟨body, _, _, -, rfl, h₁⟩ := h
  cases body with
  | error => simp [(exec_pure_iff.1 h₁).1, Op.writePath]
  | ok pcrs =>
    obtain ⟨trA, trB, _, peers, rfl, hA, hB⟩ := exec_bind_iff.1 h₁
    rintro c (_ | ⟨_, hc⟩) file hw
    · cases hw
    rcases List.mem_append.1 hc with hc | hc
    · exact (writePath_of_noWrite allCalls_listAll hA hc hw).elim
    cases peers with
    | error => simp [(exec_pure_iff.1 hB).1] at hc
    | ok peers =>
      obtain ⟨leases, rfl, hmem⟩ := exec_listAll_ok hA
      rcases hsplit : splitHostPort r.remoteAddr with err | ⟨ip, port⟩ <;>
        simp only [hsplit] at hB
      · simp [(exec_pure_iff.1 hB).1] at hc
      · exact ⟨hpost, hbody, ip, port, leases, rfl, by simp [hmem],
          (allCalls_writePCRs _ pcrs).exec hB c hc file hw⟩

/-- Whatever the collaborators answer, the server writes a file only for a `POST` with a
body to `/pcrs`, and then only the two PCR files `/pcrs/<name>_pcrs.json` and
`/pcrs/<name>_pcrs.yaml`, where `<name>` is `nodeNameOf` the requester's IP over the
instances of the leases the run read: the host name of the last lease whose address is the
requester's, or `""` when no lease carries it. -/
theorem route_writes {path : String} {r : Request} {res : Response}
    (h : Exec ans w (route path r) tr w' res) :
    ∀ c ∈ tr, ∀ file, c.op.writePath = some file →
      path = "/pcrs" ∧ r.method = "POST" ∧ r.hasBody = true ∧ ∃ ip port leases,
        splitHostPort r.remoteAddr = .ok (ip, port) ∧
        (⟨.getDHCPLeases, Except.ok leases⟩ : Answered Op Op.Ret) ∈ tr ∧
        (file = exportedPCRsDir ++ nodeNameOf ip (leases.map instanceOf) ++ "_pcrs.json" ∨
          file = exportedPCRsDir ++ nodeNameOf ip (leases.map instanceOf) ++ "_pcrs.yaml") ∧
        ((nodeNameOf ip (leases.map instanceOf) = "" ∧ ∀ l ∈ leases, l.ipAddr ≠ ip) ∨
          ∃ l ∈ leases, l.ipAddr = ip ∧ nodeNameOf ip (leases.map instanceOf) = l.hostname) := by
  intro c hc file hw
  unfold route at h
  split at h
  · exact (writePath_of_noWrite (allCalls_listSelf r) h hc hw).elim
  · exact (writePath_of_noWrite allCalls_listPeers h hc hw).elim
  · exact (writePath_of_noWrite (allCalls_postLog r) h hc hw).elim
  · obtain ⟨hpost, hbody, ip, port, leases, hsplit, hmem, hfile⟩ := exportPCRs_writes h c hc file hw
    exact ⟨rfl, hpost, hbody, ip, port, leases, hsplit, hmem, hfile, foldl_nodeName leases ip ""⟩
  · simp [(exec_pure_iff.1 h).1] at hc

/-- `selfRequest` to `/pcrs`: the node's PCRs go to `/pcrs/control-plane-0_pcrs.json`. -/
theorem route_writes_selfRequest : ∃ tr, Exec anyAnswer () (route "/pcrs" selfRequest) tr () .ok ∧
    (⟨.writeJSON "/pcrs/control-plane-0_pcrs.json" [], none⟩ : Answered Op Op.Ret) ∈ tr ∧
    ∀ c ∈ tr, ∀ file, c.op.writePath = some file →
      "/pcrs" = "/pcrs" ∧ selfRequest.method = "POST" ∧ selfRequest.hasBody = true ∧
        ∃ ip port leases, splitHostPort selfRequest.remoteAddr = .ok (ip, port) ∧
          (⟨.getDHCPLeases, Except.ok leases⟩ : Answered Op Op.Ret) ∈ tr ∧
          (file = exportedPCRsDir ++ nodeNameOf ip (leases.map instanceOf) ++ "_pcrs.json" ∨
            file = exportedPCRsDir ++ nodeNameOf ip (leases.map instanceOf) ++ "_pcrs.yaml") ∧
          ((nodeNameOf ip (leases.map instanceOf) = "" ∧ ∀ l ∈ leases, l.ipAddr ≠ ip) ∨
            ∃ l ∈ leases, l.ipAddr = ip ∧ nodeNameOf ip (leases.map instanceOf) = l.hostname) := by
  have h : Exec anyAnswer () (route "/pcrs" selfRequest)
      [⟨.decodeBody, Except.ok []⟩, ⟨.lookupNetworkByName "constellation", none⟩,
        ⟨.getDHCPLeases, Except.ok oneLease⟩,
        ⟨.writeJSON "/pcrs/control-plane-0_pcrs.json" [], none⟩,
        ⟨.writeYAML "/pcrs/control-plane-0_pcrs.yaml" [], none⟩] () .ok :=
    .call_unit trivial <| .call_unit trivial <| .call_unit trivial <| .call_unit trivial <|
      .call_unit trivial (.pure _ _)
  exact ⟨_, h, .tail _ (.tail _ (.tail _ (.head _))), route_writes h⟩

end Writes

end Constellation.Qemu
