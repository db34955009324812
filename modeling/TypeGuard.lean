import TypeGuard.Execution
import TypeGuard.Registry.Settings
import TypeGuard.Script.Library
import TypeGuard.Spec.Document
import TypeGuard.Value.Document
import TypeGuard.Proofs.Actions
import TypeGuard.Proofs.Following
import TypeGuard.Proofs.Changes
import TypeGuard.Proofs.RegistryHistory
import TypeGuard.Proofs.ClassificationRun
import TypeGuard.Proofs.ArgumentChecks
import TypeGuard.Proofs.PositionalGuard
import TypeGuard.Proofs.GuardStack
import TypeGuard.Proofs.PromiseCells
import TypeGuard.Proofs.DeferredStack
import TypeGuard.Proofs.ValueParts
import TypeGuard.Proofs.ValueEquality
import TypeGuard.Proofs.GuardLaunch
import TypeGuard.Proofs.UniformGuard
import TypeGuard.Proofs.RegistryOperations
import TypeGuard.Proofs.RegistryState
import TypeGuard.Proofs.JsonText
import TypeGuard.Proofs.SpecDocument
import TypeGuard.Proofs.RegistryCopy
import TypeGuard.Proofs.RegistryRecords
import TypeGuard.Proofs.PromiseSteps
import TypeGuard.Proofs.PromiseHistory
import TypeGuard.Proofs.PromiseRuns
import TypeGuard.Proofs.DistinctItems
import TypeGuard.Proofs.DocumentValues
import TypeGuard.Proofs.RegistrationEffect
import TypeGuard.Proofs.Switching
import TypeGuard.Proofs.SwitchingRuns
import TypeGuard.Proofs.AllowedNames
import TypeGuard.Proofs.Broadening
import TypeGuard.Proofs.JournalUnread
import TypeGuard.Proofs.GuardConstruction
import TypeGuard.Proofs.RegistryReplay
import TypeGuard.Proofs.ShownSignature
import TypeGuard.Proofs.IterableValues
import TypeGuard.Proofs.ShownGuard
