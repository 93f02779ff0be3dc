import Offload.Cpu.Family
import Offload.Gpu.Family
import Offload.Places
import Offload.Session.Step
import Offload.Proofs.Containment
import Offload.Proofs.Accounting
import Offload.Proofs.Linking
import Offload.Proofs.Manifest
import Offload.Proofs.FastPath
import Offload.Proofs.Isolation
import Offload.Proofs.Lifetime
import Offload.Proofs.Ownership
import Offload.Proofs.WordCopy
import Offload.Proofs.Acceptance
import Offload.Proofs.OptionsText
import Offload.Proofs.DeviceCall
import Offload.Proofs.Frame
import Offload.Proofs.Coverage
import Offload.Proofs.Recall
import Offload.Proofs.Builtins
import Offload.Proofs.PointCount
import Offload.Proofs.Binding
import Offload.Proofs.NearestLabel
import Offload.Proofs.Comments
import Offload.Proofs.LineNumbers
import Offload.Proofs.BracketFault
import Offload.Proofs.ManifestText
import Offload.Proofs.OptionsSequence
import Offload.Proofs.LaunchCheck
import Offload.Proofs.Deed
import Offload.Proofs.DeviceMemory
import Offload.Proofs.Numbering
import Offload.Proofs.Regrouping
import Offload.Proofs.Overdraft
import Offload.Proofs.Provision
import Offload.Proofs.BufferLength
import Offload.Proofs.LabelRange
import Offload.Proofs.Residency
import Offload.Proofs.Requests
import Offload.Proofs.Refusal
import Offload.Proofs.Definitions
