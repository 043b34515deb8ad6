import Constellation.Go
import Constellation.Prog
import Constellation.Encoding.Base64
import Constellation.Kms.AzureBasic
import Constellation.Kms.Azure
import Constellation.Kms.Race
import Constellation.Kms.Store
import Constellation.Kms.AzureNew
import Constellation.KeyService.Basic
import Constellation.KeyService.Signal
import Constellation.KeyService.Push
import Constellation.KeyService.RequestKey
import Constellation.KeyService.RequestKeyLoop
import Constellation.KeyService.Interleaving
import Constellation.Kubeadm.Config
import Constellation.Qemu.Server
