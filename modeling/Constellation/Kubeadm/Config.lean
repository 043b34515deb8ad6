import Mathlib.Logic.Function.Basic

/-!
# `k8sapi`: the kubeadm configurations of a node

`CoreOSConfiguration.InitConfiguration(externalCloudProvider)` builds the kubeadm
configuration of the first control-plane node, `JoinConfiguration(externalCloudProvider)`
that of a joining node; the bootstrapper then fills in the node's own values through the
setters of `KubeadmInitYAML` and `KubeadmJoinYAML`.  The model keeps the fields that the
two builders and the setters write, as values: Go maps are `StringMap`s, whose `nil` is
`none`, and the pointers `Discovery.BootstrapToken` and `JoinConfiguration.ControlPlane`
are `Option`s, whose `nil` is `none`.  A setter that writes through a `nil` pointer panics,
and returns `none` here.

A sequence of setter calls is a run of a state machine over the configuration
(`KubeadmJoinYAML.run`, `KubeadmInitYAML.run`):

* `joinConfiguration_run`: on the configuration `JoinConfiguration` builds, no sequence of
  setter calls panics, and every one keeps the bootstrap token and the kubelet's
  `cloud-provider` argument.
* `initConfiguration_run`: on the configuration `InitConfiguration` builds, every sequence
  of setter calls leaves as `InitConfiguration` set them the CIS benchmark settings of the
  API server, the controller manager, the scheduler and the kubelet, and the kubelet's
  `cloud-provider` argument; and the certificate SANs of the API server are `127.0.0.1` and
  `10.118.0.1` followed by the non-empty SANs passed to `SetCertSANs`, in order.

The `TypeMeta` of each document and the Kubernetes version, constants of packages not in
the sources, are left out, as are `Marshal` and `Unmarshal`.
-/

namespace Constellation.Kubeadm

/-- A Go `map[string]string`; `none` is a `nil` map. -/
abbrev StringMap := Option (String → Option String)

/-- A map literal `map[string]string{k₁: v₁, ...}`. -/
def mapOf (entries : List (String × String)) : StringMap := some fun k => entries.lookup k

/-- `if m == nil { m = map[string]string{key: value} } else { m[key] = value }`, the way
the setters write a map that may be `nil`. -/
def setOrCreate (m : StringMap) (key value : String) : StringMap :=
  match m with
  | none => mapOf [(key, value)]
  | some f => some (Function.update f key (some value))

/-- After `setOrCreate`, the map holds `value` under `key` and is otherwise unchanged. -/
theorem setOrCreate_lookup (m : StringMap) (key value k : String) :
    (setOrCreate m key value).bind (· k) =
      if k = key then some value else m.bind (· k) := by
  cases m with
  | none =>
    by_cases h : k = key
    · simp [setOrCreate, mapOf, h, List.lookup_cons]
    · simp [setOrCreate, mapOf, h, List.lookup_cons, beq_eq_false_iff_ne.2 h]
  | some f => by_cases h : k = key <;> simp [setOrCreate, h]

/-! ## The documents -/

structure APIEndpoint where
  advertiseAddress : String
  bindPort : Nat

structure NodeRegistrationOptions where
  name : String
  criSocket : String
  kubeletExtraArgs : StringMap

structure BootstrapTokenDiscovery where
  token : String
  apiServerEndpoint : String
  caCertHashes : List String

structure Discovery where
  /-- A pointer; `none` is `nil`. -/
  bootstrapToken : Option BootstrapTokenDiscovery

structure JoinControlPlane where
  localAPIEndpoint : APIEndpoint
  certificateKey : String

structure JoinConfiguration where
  nodeRegistration : NodeRegistrationOptions
  discovery : Discovery
  /-- A pointer; `none` is `nil`. -/
  controlPlane : Option JoinControlPlane

structure Taint where
  key : String
  value : String
  effect : String

structure KubeletConfiguration where
  providerID : String
  protectKernelDefaults : Bool
  tlsCipherSuites : List String
  registerWithTaints : List Taint

structure KubeadmJoinYAML where
  joinConfiguration : JoinConfiguration
  kubeletConfiguration : KubeletConfiguration

structure HostPathMount where
  name : String
  hostPath : String
  mountPath : String
  readOnly : Bool
  pathType : String

structure ControlPlaneComponent where
  extraArgs : StringMap
  extraVolumes : List HostPathMount

structure APIServer where
  controlPlaneComponent : ControlPlaneComponent
  certSANs : List String

structure Networking where
  serviceSubnet : String
  podSubnet : String
  dnsDomain : String

structure InitConfiguration where
  nodeRegistration : NodeRegistrationOptions
  localAPIEndpoint : APIEndpoint

structure ClusterConfiguration where
  controlPlaneEndpoint : String
  apiServer : APIServer
  controllerManager : ControlPlaneComponent
  scheduler : ControlPlaneComponent
  networking : Networking

structure KubeadmInitYAML where
  initConfiguration : InitConfiguration
  clusterConfiguration : ClusterConfiguration
  kubeletConfiguration : KubeletConfiguration

/-! ## The builders -/

def bindPort : Nat := 6443

def auditLogDir : String := "/var/log/kubernetes/audit/"

def auditLogFile : String := "audit.log"

def auditPolicyPath : String := "/etc/kubernetes/audit-policy.yaml"

/-- `"external"` for an external cloud provider, else `""`. -/
def cloudProvider (externalCloudProvider : Bool) : String :=
  if externalCloudProvider then "external" else ""

/-- The TLS cipher suites the API server accepts (CIS benchmark). -/
def apiServerTLSCipherSuites : String :=
  "TLS_AES_128_GCM_SHA256,TLS_AES_256_GCM_SHA384,TLS_CHACHA20_POLY1305_SHA256," ++
    "TLS_ECDHE_ECDSA_WITH_AES_128_CBC_SHA,TLS_ECDHE_ECDSA_WITH_AES_128_GCM_SHA256," ++
    "TLS_ECDHE_ECDSA_WITH_AES_256_CBC_SHA,TLS_ECDHE_ECDSA_WITH_AES_256_GCM_SHA384," ++
    "TLS_ECDHE_ECDSA_WITH_CHACHA20_POLY1305,TLS_ECDHE_ECDSA_WITH_CHACHA20_POLY1305_SHA256," ++
    "TLS_ECDHE_RSA_WITH_3DES_EDE_CBC_SHA,TLS_ECDHE_RSA_WITH_AES_128_CBC_SHA," ++
    "TLS_ECDHE_RSA_WITH_AES_128_GCM_SHA256," ++
    "TLS_ECDHE_RSA_WITH_AES_256_CBC_SHA,TLS_ECDHE_RSA_WITH_AES_256_GCM_SHA384," ++
    "TLS_ECDHE_RSA_WITH_CHACHA20_POLY1305," ++
    "TLS_ECDHE_RSA_WITH_CHACHA20_POLY1305_SHA256,TLS_RSA_WITH_3DES_EDE_CBC_SHA," ++
    "TLS_RSA_WITH_AES_128_CBC_SHA," ++
    "TLS_RSA_WITH_AES_128_GCM_SHA256,TLS_RSA_WITH_AES_256_CBC_SHA,TLS_RSA_WITH_AES_256_GCM_SHA384"

/-- `CoreOSConfiguration.InitConfiguration(externalCloudProvider)`. -/
def initConfiguration (externalCloudProvider : Bool) : KubeadmInitYAML where
  initConfiguration :=
    { nodeRegistration :=
        { name := ""
          criSocket := "/run/containerd/containerd.sock"
          kubeletExtraArgs := mapOf [("cloud-provider", cloudProvider externalCloudProvider),
            ("network-plugin", "cni")] }
      localAPIEndpoint := { advertiseAddress := "", bindPort := bindPort } }
  clusterConfiguration :=
    { controlPlaneEndpoint := ""
      apiServer :=
        { controlPlaneComponent :=
            { extraArgs := mapOf [("audit-policy-file", auditPolicyPath),
                ("audit-log-path", auditLogDir ++ auditLogFile), -- `filepath.Join`
                ("audit-log-maxage", "30"), ("audit-log-maxbackup", "10"),
                ("audit-log-maxsize", "100"), ("profiling", "false"),
                ("tls-cipher-suites", apiServerTLSCipherSuites)]
              extraVolumes :=
                [⟨"audit-log", auditLogDir, auditLogDir, false, "DirectoryOrCreate"⟩,
                  ⟨"audit", auditPolicyPath, auditPolicyPath, true, "File"⟩] }
          certSANs := ["127.0.0.1", "10.118.0.1"] }
      controllerManager :=
        { extraArgs := mapOf [("flex-volume-plugin-dir",
              "/opt/libexec/kubernetes/kubelet-plugins/volume/exec/"),
            ("cloud-provider", cloudProvider externalCloudProvider),
            ("configure-cloud-routes", "false"), ("profiling", "false"),
            ("terminated-pod-gc-threshold", "1000")]
          extraVolumes := [] }
      scheduler := { extraArgs := mapOf [("profiling", "false")], extraVolumes := [] }
      networking := { serviceSubnet := "", podSubnet := "", dnsDomain := "" } }
  kubeletConfiguration :=
    { providerID := ""
      protectKernelDefaults := true
      tlsCipherSuites := ["TLS_ECDHE_ECDSA_WITH_AES_128_GCM_SHA256",
        "TLS_ECDHE_RSA_WITH_AES_128_GCM_SHA256", "TLS_ECDHE_ECDSA_WITH_CHACHA20_POLY1305",
        "TLS_ECDHE_RSA_WITH_AES_256_GCM_SHA384", "TLS_ECDHE_RSA_WITH_CHACHA20_POLY1305",
        "TLS_ECDHE_ECDSA_WITH_AES_256_GCM_SHA384", "TLS_RSA_WITH_AES_256_GCM_SHA384",
        "TLS_RSA_WITH_AES_128_GCM_SHA256"]
      registerWithTaints :=
        [⟨"node.cloudprovider.kubernetes.io/uninitialized", "true", "PreferNoSchedule"⟩,
          ⟨"node.cilium.io/agent-not-ready", "true", "PreferNoSchedule"⟩] }

/-- `CoreOSConfiguration.JoinConfiguration(externalCloudProvider)`. -/
def joinConfiguration (externalCloudProvider : Bool) : KubeadmJoinYAML where
  joinConfiguration :=
    { nodeRegistration :=
        { name := ""
          criSocket := "/run/containerd/containerd.sock"
          kubeletExtraArgs := mapOf [("cloud-provider", cloudProvider externalCloudProvider)] }
      discovery := { bootstrapToken := some ⟨"", "", []⟩ }
      controlPlane := none }
  kubeletConfiguration :=
    { providerID := "", protectKernelDefaults := false, tlsCipherSuites := [],
      registerWithTaints := [] }

/-! ## The setters -/

namespace KubeadmJoinYAML

def setNodeName (k : KubeadmJoinYAML) (nodeName : String) : KubeadmJoinYAML :=
  { k with joinConfiguration.nodeRegistration.name := nodeName }

/-- A write through the pointer `Discovery.BootstrapToken`, which panics when it is `nil`. -/
def updateBootstrapToken (k : KubeadmJoinYAML)
    (f : BootstrapTokenDiscovery → BootstrapTokenDiscovery) : Option KubeadmJoinYAML :=
  k.joinConfiguration.discovery.bootstrapToken.map fun t =>
    { k with joinConfiguration.discovery.bootstrapToken := some (f t) }

def setApiServerEndpoint (k : KubeadmJoinYAML) (apiServerEndpoint : String) :
    Option KubeadmJoinYAML :=
  k.updateBootstrapToken fun t => { t with apiServerEndpoint := apiServerEndpoint }

def setToken (k : KubeadmJoinYAML) (token : String) : Option KubeadmJoinYAML :=
  k.updateBootstrapToken fun t => { t with token := token }

def appendDiscoveryTokenCaCertHash (k : KubeadmJoinYAML) (discoveryTokenCaCertHash : String) :
    Option KubeadmJoinYAML :=
  k.updateBootstrapToken fun t =>
    { t with caCertHashes := t.caCertHashes ++ [discoveryTokenCaCertHash] }

def setNodeIP (k : KubeadmJoinYAML) (nodeIP : String) : KubeadmJoinYAML :=
  { k with joinConfiguration.nodeRegistration.kubeletExtraArgs :=
      setOrCreate k.joinConfiguration.nodeRegistration.kubeletExtraArgs "node-ip" nodeIP }

/-- Unlike `KubeadmInitYAML.setProviderID`, this sets the field of the kubelet
configuration and no kubelet argument. -/
def setProviderID (k : KubeadmJoinYAML) (providerID : String) : KubeadmJoinYAML :=
  { k with kubeletConfiguration.providerID := providerID }

def setControlPlane (k : KubeadmJoinYAML) (advertiseAddress certificateKey : String) :
    KubeadmJoinYAML :=
  { k with joinConfiguration.controlPlane := some ⟨⟨advertiseAddress, 6443⟩, certificateKey⟩ }

end KubeadmJoinYAML

namespace KubeadmInitYAML

def setNodeName (k : KubeadmInitYAML) (nodeName : String) : KubeadmInitYAML :=
  { k with initConfiguration.nodeRegistration.name := nodeName }

/-- `for _, certSAN := range certSANs { if certSAN == "" { continue }; ... = append(...) }`. -/
def setCertSANs (k : KubeadmInitYAML) (certSANs : List String) : KubeadmInitYAML :=
  { k with clusterConfiguration.apiServer.certSANs :=
      (certSANs.foldl (fun sans certSAN => if certSAN = "" then sans else sans ++ [certSAN])
        k.clusterConfiguration.apiServer.certSANs) }

def setApiServerAdvertiseAddress (k : KubeadmInitYAML) (apiServerAdvertiseAddress : String) :
    KubeadmInitYAML :=
  { k with initConfiguration.localAPIEndpoint.advertiseAddress := apiServerAdvertiseAddress }

def setControlPlaneEndpoint (k : KubeadmInitYAML) (controlPlaneEndpoint : String) :
    KubeadmInitYAML :=
  if controlPlaneEndpoint ≠ "" then
    { k with clusterConfiguration.controlPlaneEndpoint := controlPlaneEndpoint }
  else k

def setServiceCIDR (k : KubeadmInitYAML) (serviceCIDR : String) : KubeadmInitYAML :=
  { k with clusterConfiguration.networking.serviceSubnet := serviceCIDR }

def setPodNetworkCIDR (k : KubeadmInitYAML) (podNetworkCIDR : String) : KubeadmInitYAML :=
  { k with clusterConfiguration.networking.podSubnet := podNetworkCIDR }

def setServiceDNSDomain (k : KubeadmInitYAML) (serviceDNSDomain : String) : KubeadmInitYAML :=
  { k with clusterConfiguration.networking.dnsDomain := serviceDNSDomain }

def setNodeIP (k : KubeadmInitYAML) (nodeIP : String) : KubeadmInitYAML :=
  { k with initConfiguration.nodeRegistration.kubeletExtraArgs :=
      setOrCreate k.initConfiguration.nodeRegistration.kubeletExtraArgs "node-ip" nodeIP }

/-- Unlike `KubeadmJoinYAML.setProviderID`, this passes the provider ID as the kubelet
argument `provider-id` and leaves the field of the kubelet configuration alone. -/
def setProviderID (k : KubeadmInitYAML) (providerID : String) : KubeadmInitYAML :=
  { k with initConfiguration.nodeRegistration.kubeletExtraArgs :=
      setOrCreate k.initConfiguration.nodeRegistration.kubeletExtraArgs "provider-id" providerID }

end KubeadmInitYAML

/-- The two `SetProviderID`s put the provider ID in different places: on a joining node in
the kubelet configuration, with no kubelet argument; on the first control-plane node in the
kubelet argument `provider-id`, with the kubelet configuration left as it was. -/
theorem setProviderID_join_init (kj : KubeadmJoinYAML) (ki : KubeadmInitYAML)
    (providerID : String) :
    (kj.setProviderID providerID).kubeletConfiguration.providerID = providerID ∧
      (kj.setProviderID providerID).joinConfiguration = kj.joinConfiguration ∧
      (ki.setProviderID providerID).kubeletConfiguration = ki.kubeletConfiguration ∧
      (ki.setProviderID providerID).initConfiguration.nodeRegistration.kubeletExtraArgs.bind
        (· "provider-id") = some providerID :=
  ⟨rfl, rfl, rfl, by simp [KubeadmInitYAML.setProviderID, setOrCreate_lookup]⟩

/-! ## Sequences of setter calls -/

/-- A call of a setter of `KubeadmJoinYAML`. -/
inductive JoinSetter where
  | setNodeName (nodeName : String)
  | setApiServerEndpoint (apiServerEndpoint : String)
  | setToken (token : String)
  | appendDiscoveryTokenCaCertHash (discoveryTokenCaCertHash : String)
  | setNodeIP (nodeIP : String)
  | setProviderID (providerID : String)
  | setControlPlane (advertiseAddress certificateKey : String)

/-- A call of a setter of `KubeadmInitYAML`. -/
inductive InitSetter where
  | setNodeName (nodeName : String)
  | setCertSANs (certSANs : List String)
  | setApiServerAdvertiseAddress (apiServerAdvertiseAddress : String)
  | setControlPlaneEndpoint (controlPlaneEndpoint : String)
  | setServiceCIDR (serviceCIDR : String)
  | setPodNetworkCIDR (podNetworkCIDR : String)
  | setServiceDNSDomain (serviceDNSDomain : String)
  | setNodeIP (nodeIP : String)
  | setProviderID (providerID : String)

/-- The SANs a call passes to `SetCertSANs`. -/
def InitSetter.certSANs : InitSetter → List String
  | .setCertSANs certSANs => certSANs
  | _ => []

namespace KubeadmJoinYAML

/-- One setter call, or `none` if it panics. -/
def apply (k : KubeadmJoinYAML) : JoinSetter → Option KubeadmJoinYAML
  | .setNodeName nodeName => some (k.setNodeName nodeName)
  | .setApiServerEndpoint apiServerEndpoint => k.setApiServerEndpoint apiServerEndpoint
  | .setToken token => k.setToken token
  | .appendDiscoveryTokenCaCertHash hash => k.appendDiscoveryTokenCaCertHash hash
  | .setNodeIP nodeIP => some (k.setNodeIP nodeIP)
  | .setProviderID providerID => some (k.setProviderID providerID)
  | .setControlPlane advertiseAddress certificateKey =>
    some (k.setControlPlane advertiseAddress certificateKey)

/-- The calls one after the other, or `none` if one of them panics. -/
def run (k : KubeadmJoinYAML) : List JoinSetter → Option KubeadmJoinYAML
  | [] => some k
  | c :: cs => (k.apply c).bind fun k' => k'.run cs

/-- What every setter keeps: the bootstrap token is there, and the kubelet argument
`cloud-provider` is `provider`. -/
structure Configured (provider : String) (k : KubeadmJoinYAML) : Prop where
  bootstrapToken : k.joinConfiguration.discovery.bootstrapToken.isSome
  cloudProvider :
    k.joinConfiguration.nodeRegistration.kubeletExtraArgs.bind (· "cloud-provider") = some provider

variable {provider : String} {k : KubeadmJoinYAML}

/-- A write through the bootstrap token does not panic while the token is there. -/
theorem Configured.updateBootstrapToken (h : k.Configured provider)
    (f : BootstrapTokenDiscovery → BootstrapTokenDiscovery) :
    ∃ k', k.updateBootstrapToken f = some k' ∧ k'.Configured provider := by
  obtain ⟨t, ht⟩ := Option.isSome_iff_exists.1 h.bootstrapToken
  exact ⟨{ k with joinConfiguration.discovery.bootstrapToken := some (f t) },
    by simp [KubeadmJoinYAML.updateBootstrapToken, ht], rfl, h.cloudProvider⟩

/-- No setter panics on a configuration that keeps `Configured`, and every one keeps it. -/
theorem Configured.apply (h : k.Configured provider) (c : JoinSetter) :
    ∃ k', k.apply c = some k' ∧ k'.Configured provider := by
  cases c with
  | setApiServerEndpoint _ | setToken _ | appendDiscoveryTokenCaCertHash _ =>
    exact h.updateBootstrapToken _
  | setNodeIP nodeIP =>
    refine ⟨_, rfl, h.bootstrapToken, ?_⟩
    simpa [setNodeIP, setOrCreate_lookup] using h.cloudProvider
  | setNodeName _ | setProviderID _ | setControlPlane _ _ => exact ⟨_, rfl, h.1, h.2⟩

theorem Configured.run (h : k.Configured provider) (cs : List JoinSetter) :
    ∃ k', k.run cs = some k' ∧ k'.Configured provider := by
  induction cs generalizing k with
  | nil => exact ⟨k, rfl, h⟩
  | cons c cs ih =>
    obtain ⟨k₁, h₁, hc⟩ := h.apply c
    simpa [run, h₁] using ih hc

end KubeadmJoinYAML

theorem joinConfiguration_configured (externalCloudProvider : Bool) :
    (joinConfiguration externalCloudProvider).Configured (cloudProvider externalCloudProvider) :=
  ⟨rfl, by simp [joinConfiguration, mapOf, List.lookup_cons]⟩

/-- On the configuration that `JoinConfiguration` builds, no sequence of setter calls
dereferences a `nil` pointer, and every one keeps the bootstrap token and the kubelet's
`cloud-provider` argument. -/
theorem joinConfiguration_run (externalCloudProvider : Bool) (calls : List JoinSetter) :
    ∃ k, (joinConfiguration externalCloudProvider).run calls = some k ∧
      k.Configured (cloudProvider externalCloudProvider) :=
  (joinConfiguration_configured externalCloudProvider).run calls

namespace KubeadmInitYAML

/-- One setter call. -/
def apply (k : KubeadmInitYAML) : InitSetter → KubeadmInitYAML
  | .setNodeName nodeName => k.setNodeName nodeName
  | .setCertSANs certSANs => k.setCertSANs certSANs
  | .setApiServerAdvertiseAddress address => k.setApiServerAdvertiseAddress address
  | .setControlPlaneEndpoint endpoint => k.setControlPlaneEndpoint endpoint
  | .setServiceCIDR serviceCIDR => k.setServiceCIDR serviceCIDR
  | .setPodNetworkCIDR podNetworkCIDR => k.setPodNetworkCIDR podNetworkCIDR
  | .setServiceDNSDomain serviceDNSDomain => k.setServiceDNSDomain serviceDNSDomain
  | .setNodeIP nodeIP => k.setNodeIP nodeIP
  | .setProviderID providerID => k.setProviderID providerID

/-- The calls one after the other. -/
def run (k : KubeadmInitYAML) (cs : List InitSetter) : KubeadmInitYAML := cs.foldl apply k

/-- The loop of `SetCertSANs` appends the non-empty SANs. -/
theorem foldl_certSANs (sans certSANs : List String) :
    certSANs.foldl (fun sans certSAN => if certSAN = "" then sans else sans ++ [certSAN]) sans =
      sans ++ certSANs.filter (· ≠ "") := by
  induction certSANs generalizing sans with
  | nil => simp
  | cons certSAN certSANs ih => by_cases h : certSAN = "" <;> simp [h, ih, List.filter_cons]

/-- `k'` keeps what `k` holds that no setter writes: the components of the API server, the
controller manager and the scheduler, the kubelet configuration, and every kubelet argument
but `node-ip` and `provider-id`. -/
structure Keeps (k k' : KubeadmInitYAML) : Prop where
  apiServer : k'.clusterConfiguration.apiServer.controlPlaneComponent =
    k.clusterConfiguration.apiServer.controlPlaneComponent
  controllerManager :
    k'.clusterConfiguration.controllerManager = k.clusterConfiguration.controllerManager
  scheduler : k'.clusterConfiguration.scheduler = k.clusterConfiguration.scheduler
  kubelet : k'.kubeletConfiguration = k.kubeletConfiguration
  kubeletArgs : ∀ key, key ≠ "node-ip" → key ≠ "provider-id" →
    k'.initConfiguration.nodeRegistration.kubeletExtraArgs.bind (· key) =
      k.initConfiguration.nodeRegistration.kubeletExtraArgs.bind (· key)

theorem Keeps.refl (k : KubeadmInitYAML) : Keeps k k := ⟨rfl, rfl, rfl, rfl, fun _ _ _ => rfl⟩

theorem Keeps.trans {k₁ k₂ k₃ : KubeadmInitYAML} (h₁ : Keeps k₁ k₂) (h₂ : Keeps k₂ k₃) :
    Keeps k₁ k₃ where
  apiServer := h₂.apiServer.trans h₁.apiServer
  controllerManager := h₂.controllerManager.trans h₁.controllerManager
  scheduler := h₂.scheduler.trans h₁.scheduler
  kubelet := h₂.kubelet.trans h₁.kubelet
  kubeletArgs key h h' := (h₂.kubeletArgs key h h').trans (h₁.kubeletArgs key h h')

/-- No setter writes what `Keeps` keeps. -/
theorem apply_keeps (k : KubeadmInitYAML) (c : InitSetter) : Keeps k (k.apply c) := by
  cases c with
  | setControlPlaneEndpoint endpoint =>
    simp only [apply, setControlPlaneEndpoint]
    split
    · exact ⟨rfl, rfl, rfl, rfl, fun _ _ _ => rfl⟩
    · exact Keeps.refl k
  | setNodeIP nodeIP | setProviderID providerID =>
    refine ⟨rfl, rfl, rfl, rfl, fun key h h' => ?_⟩
    simp [apply, setNodeIP, setProviderID, setOrCreate_lookup, h, h']
  | _ => exact ⟨rfl, rfl, rfl, rfl, fun _ _ _ => rfl⟩

/-- A setter call adds to the SANs only the non-empty ones it is given. -/
theorem apply_certSANs (k : KubeadmInitYAML) (c : InitSetter) :
    (k.apply c).clusterConfiguration.apiServer.certSANs =
      k.clusterConfiguration.apiServer.certSANs ++ c.certSANs.filter (· ≠ "") := by
  cases c with
  | setCertSANs certSANs => exact foldl_certSANs _ certSANs
  | setControlPlaneEndpoint endpoint =>
    simp only [apply, setControlPlaneEndpoint]
    split <;> simp [InitSetter.certSANs]
  | _ => simp [apply, InitSetter.certSANs, setNodeName, setApiServerAdvertiseAddress,
      setServiceCIDR, setPodNetworkCIDR, setServiceDNSDomain, setNodeIP, setProviderID]

theorem run_spec (k : KubeadmInitYAML) (cs : List InitSetter) :
    Keeps k (k.run cs) ∧ (k.run cs).clusterConfiguration.apiServer.certSANs =
      k.clusterConfiguration.apiServer.certSANs ++
        (cs.flatMap InitSetter.certSANs).filter (· ≠ "") := by
  induction cs generalizing k with
  | nil => exact ⟨Keeps.refl k, by simp [run]⟩
  | cons c cs ih =>
    obtain ⟨hk, hsans⟩ := ih (k.apply c)
    refine ⟨(apply_keeps k c).trans hk, ?_⟩
    simp only [run, List.foldl_cons] at hsans ⊢
    simp [hsans, apply_certSANs]

end KubeadmInitYAML

/-- On the configuration that `InitConfiguration` builds, every sequence of setter calls
leaves the CIS benchmark settings of the API server, the controller manager, the scheduler
and the kubelet as `InitConfiguration` set them, and every kubelet argument but `node-ip`
and `provider-id` (so `cloud-provider` and `network-plugin`); and the API server's
certificate SANs are `127.0.0.1` and `10.118.0.1` followed by the non-empty SANs passed to
`SetCertSANs`, in the order they were passed. -/
theorem initConfiguration_run (externalCloudProvider : Bool) (calls : List InitSetter) :
    KubeadmInitYAML.Keeps (initConfiguration externalCloudProvider)
        ((initConfiguration externalCloudProvider).run calls) ∧
      ((initConfiguration externalCloudProvider).run calls).clusterConfiguration.apiServer.certSANs =
        ["127.0.0.1", "10.118.0.1"] ++ (calls.flatMap InitSetter.certSANs).filter (· ≠ "") :=
  KubeadmInitYAML.run_spec _ calls

end Constellation.Kubeadm
