import Inferior.AddressRange
import Inferior.Amd64.Arguments
import Inferior.Amd64.Classification
import Inferior.Amd64.CoreThread
import Inferior.Amd64.Dwarf
import Inferior.Amd64.FrameCache
import Inferior.Amd64.Fxsave
import Inferior.Amd64.Linux
import Inferior.Amd64.Platform
import Inferior.Amd64.PreparedCall
import Inferior.Amd64.Prologue
import Inferior.Amd64.Registers
import Inferior.Amd64.Returned
import Inferior.Amd64.SavedRegisters
import Inferior.Amd64.Trampoline
import Inferior.Architecture
import Inferior.Architecture.Sample
import Inferior.Attempt
import Inferior.Binary64
import Inferior.Bytes
import Inferior.Bytes.LittleEndian
import Inferior.CallStack
import Inferior.CallStack.Backtrace
import Inferior.CallStack.Caller
import Inferior.DataType
import Inferior.Elf
import Inferior.Error
import Inferior.Frame
import Inferior.Frame.Query
import Inferior.Frame.Rule
import Inferior.Machine
import Inferior.RegisterCache
import Inferior.RegisterFile
import Inferior.RegisterSet
import Inferior.Target
import Inferior.Target.Memory
import Inferior.Text.Hexadecimal
import Inferior.Text.Quoted
import Inferior.Text.Unreadable
import Inferior.Value
import Inferior.Proofs.History
import Inferior.Proofs.FunctionFrame
import Inferior.Proofs.StandardStack
import Inferior.Proofs.AlikeFrames
import Inferior.Proofs.SignalFrame
import Inferior.Proofs.ArgumentCoverage
import Inferior.Proofs.Overlay
import Inferior.Proofs.ArgumentPlaces
import Inferior.Proofs.ArgumentDelivery
import Inferior.Proofs.CallSetup
import Inferior.Proofs.CallFrame
import Inferior.Proofs.Flattening
import Inferior.Proofs.CountedLeaves
import Inferior.Proofs.LeafClasses
import Inferior.Proofs.ClassPairs
import Inferior.Proofs.ArgumentPlanning
import Inferior.Proofs.ArgumentAllocation
import Inferior.Proofs.EndlessWalks
import Inferior.Proofs.FailureRelay
import Inferior.Proofs.UnwindingSteps
import Inferior.Proofs.Growth
import Inferior.Proofs.Integrity
import Inferior.Proofs.Reliability
import Inferior.Proofs.FrameOrder
import Inferior.Proofs.RuleUnwinders
import Inferior.Proofs.BacktraceLimits
import Inferior.Proofs.RegisterCells
import Inferior.Proofs.RegisterIndependence
import Inferior.Proofs.RegisterTransfers
import Inferior.Proofs.FxsaveArea
import Inferior.Proofs.AreaRoundTrip
import Inferior.Proofs.SectionDecoding
import Inferior.Proofs.CoreRoundTrip
import Inferior.Proofs.ReturnPlan
import Inferior.Proofs.ReturnedValues
import Inferior.Proofs.ReturnConventions
import Inferior.Proofs.PrologueStages
import Inferior.Proofs.StackTags
import Inferior.Proofs.TableTransfers
import Inferior.Proofs.NoteGrouping
import Inferior.Proofs.ReturnBuffers
import Inferior.Proofs.Refusals
import Inferior.Proofs.MemberOrder
import Inferior.Proofs.TrampolineSearch
import Inferior.Proofs.FixedWidthNumbers
import Inferior.Proofs.PrologueReach
import Inferior.Proofs.RegisterRecovery
