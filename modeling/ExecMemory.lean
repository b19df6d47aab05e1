import ExecMemory.Access
import ExecMemory.CInterface
import ExecMemory.Code.Execute
import ExecMemory.Code.Instr
import ExecMemory.Demo
import ExecMemory.Effect
import ExecMemory.Errno
import ExecMemory.Errno.Description
import ExecMemory.Error
import ExecMemory.Host.Basic
import ExecMemory.Host.Plan
import ExecMemory.Host.Request
import ExecMemory.Log
import ExecMemory.Main
import ExecMemory.Mapping
import ExecMemory.Memory.Basic
import ExecMemory.Memory.Layout
import ExecMemory.Memory.Span
import ExecMemory.Operation
import ExecMemory.Panic
import ExecMemory.Region
import ExecMemory.Rounding
import ExecMemory.Script.Machine
import ExecMemory.Script.Run
import ExecMemory.Script.Slots
import ExecMemory.Script.Step
import ExecMemory.Text.Hex
import ExecMemory.Text.RunLength
import ExecMemory.Proofs.HostInvariant
import ExecMemory.Proofs.Rounding
import ExecMemory.Proofs.WriteXorExecute
import ExecMemory.Proofs.Endings
import ExecMemory.Proofs.Turns
import ExecMemory.Proofs.HostReplies
import ExecMemory.Proofs.Noninterference
import ExecMemory.Proofs.Ownership
import ExecMemory.Proofs.CallPairing
import ExecMemory.Proofs.RegionStore
import ExecMemory.Proofs.Contents
import ExecMemory.Proofs.StoreRefinement
import ExecMemory.Proofs.ErrorAtomicity
import ExecMemory.Proofs.LastError
import ExecMemory.Proofs.CodeIntegrity
import ExecMemory.Proofs.PageFrames
import ExecMemory.Proofs.Programs
import ExecMemory.Proofs.Execution
import ExecMemory.Proofs.Commutation
import ExecMemory.Proofs.InterfaceAgreement
import ExecMemory.Proofs.Jobs
import ExecMemory.Proofs.PageMultiples
import ExecMemory.Proofs.Panics
import ExecMemory.Proofs.CallLog
import ExecMemory.Proofs.LogFormat
import ExecMemory.Proofs.LogFidelity
import ExecMemory.Proofs.DemoStages
import ExecMemory.Proofs.DemoFailures
import ExecMemory.Proofs.AccessChange
import ExecMemory.Proofs.Placement
import ExecMemory.Proofs.PageSizeDrift
import ExecMemory.Proofs.Classification
import ExecMemory.Proofs.Allocation
import ExecMemory.Proofs.RoundTrip
import ExecMemory.Proofs.SizeClasses
import ExecMemory.Proofs.RegionWrites
import ExecMemory.Proofs.PageSizes
