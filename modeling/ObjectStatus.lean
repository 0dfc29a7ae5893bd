import ObjectStatus.Cell.Interleaving
import ObjectStatus.Lookup
import ObjectStatus.Main
import ObjectStatus.Session
import ObjectStatus.Settings.Alone
import ObjectStatus.Settings.Interleaving
import ObjectStatus.Word.Program
import ObjectStatus.Proofs.Runs
import ObjectStatus.Proofs.Cell.Specification
import ObjectStatus.Proofs.Cell.Turn
import ObjectStatus.Proofs.Cell.Linearization
import ObjectStatus.Proofs.Cell.Handover
import ObjectStatus.Proofs.TransitionLog.Accounting
import ObjectStatus.Proofs.Registry.LogHistory
import ObjectStatus.Proofs.Registry.Trail
import ObjectStatus.Proofs.Text.Spelling
import ObjectStatus.Proofs.Text.Numeral
import ObjectStatus.Proofs.Reading.Grammar
import ObjectStatus.Proofs.Cell.Sequence
import ObjectStatus.Proofs.Session.EffectiveSettings
import ObjectStatus.Proofs.Word.Inclusion
import ObjectStatus.Proofs.Cell.Overwriting
import ObjectStatus.Proofs.Cell.Completion
import ObjectStatus.Proofs.Cell.Accumulation
import ObjectStatus.Proofs.TransitionLog.Capacity
import ObjectStatus.Proofs.Cell.Answered
import ObjectStatus.Proofs.Cell.Arrival
import ObjectStatus.Proofs.Cell.Alone
import ObjectStatus.Proofs.Session.ConfiguredStart
import ObjectStatus.Proofs.Table.Arguments
import ObjectStatus.Proofs.Text.Lines
import ObjectStatus.Proofs.Text.WrittenNumeral
import ObjectStatus.Proofs.Reading.Shown
import ObjectStatus.Proofs.Table.Keys
import ObjectStatus.Proofs.Registry.Frame
import ObjectStatus.Proofs.Registry.Independence
import ObjectStatus.Proofs.Session.Stream
import ObjectStatus.Proofs.Session.Separation
import ObjectStatus.Proofs.Registry.History
import ObjectStatus.Proofs.Session.DebugHistory
import ObjectStatus.Proofs.Reading.Alike
import ObjectStatus.Proofs.Reading.Literal
import ObjectStatus.Proofs.Table.Spelling
import ObjectStatus.Proofs.Lookup.Names
import ObjectStatus.Proofs.Routine.Invariant
import ObjectStatus.Proofs.Settings.Choices
import ObjectStatus.Proofs.Reading.Agreement
import ObjectStatus.Proofs.Config.FromEnvironment
import ObjectStatus.Proofs.Cell.Refusal
import ObjectStatus.Proofs.Session.Atomicity
import ObjectStatus.Proofs.Session.Handover
import ObjectStatus.Proofs.Cell.Execution
import ObjectStatus.Proofs.Cell.Interference
import ObjectStatus.Proofs.Config.Building
import ObjectStatus.Proofs.Word.NormalForm
import ObjectStatus.Proofs.Reading.LaidOut
import ObjectStatus.Proofs.Lookup.Numbers
import ObjectStatus.Proofs.Cell.Alone
