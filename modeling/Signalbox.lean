import Signalbox.CancelTokens
import Signalbox.CommandLine.Directory
import Signalbox.Main
import Signalbox.Session.Command
import Signalbox.Proofs.Lists
import Signalbox.Proofs.SectionalCheck
import Signalbox.Proofs.RouteRequest
import Signalbox.Proofs.Withdrawal
import Signalbox.Proofs.RecordedEvents
import Signalbox.Proofs.Operation
import Signalbox.Proofs.HeldConflicts
import Signalbox.Proofs.ProceedAspects
import Signalbox.Proofs.TableGrammar
import Signalbox.Proofs.TokenReading
import Signalbox.Proofs.ElementLists
import Signalbox.Proofs.TableReading
import Signalbox.Proofs.TableDerivation
import Signalbox.Proofs.TableLoading
import Signalbox.Proofs.GrabSlots
import Signalbox.Proofs.SessionGrabs
import Signalbox.Proofs.HistoryReplay
import Signalbox.Proofs.DrivePass
import Signalbox.Proofs.Traffic
import Signalbox.Proofs.DriveOutcomes
import Signalbox.Proofs.DriveCourses
import Signalbox.Proofs.SessionTurns
import Signalbox.Proofs.SessionTraffic
import Signalbox.Proofs.PassOrder
import Signalbox.Proofs.BlockingPolicy
import Signalbox.Proofs.PointPositions
import Signalbox.Proofs.MutualExclusion
import Signalbox.Proofs.FaultySignals
import Signalbox.Proofs.OpenSignals
import Signalbox.Proofs.CancelledDrives
import Signalbox.Proofs.DriveList
import Signalbox.Proofs.RejectedCommands
import Signalbox.Proofs.Shutdown
import Signalbox.Proofs.InterruptedSearch
import Signalbox.Proofs.Arrival
import Signalbox.Proofs.RefusedCommands
import Signalbox.Proofs.ScenarioRun
import Signalbox.Proofs.JammedFaults
import Signalbox.Proofs.HistoryOrder
import Signalbox.Proofs.FailSafe
import Signalbox.Proofs.GrantEffects
import Signalbox.Proofs.GrantOrder
import Signalbox.Proofs.GrantUndone
import Signalbox.Proofs.BalancedHistory
import Signalbox.Proofs.SlotTurns
import Signalbox.Proofs.DriveAccounts
import Signalbox.Proofs.GrabbedDrives
import Signalbox.Proofs.JsonHistory
import Signalbox.Proofs.PolledProgress
import Signalbox.Proofs.RiddenRoute
import Signalbox.Proofs.GrantAccount
import Signalbox.Proofs.ReleaseForms
import Signalbox.Proofs.HistoryText
import Signalbox.Proofs.GrantedPoints
import Signalbox.Proofs.PassedSignals
import Signalbox.Proofs.RegistryAnswers
import Signalbox.Proofs.LineEnds
import Signalbox.Proofs.TokenLayout
import Signalbox.Proofs.DeclarationOrder
import Signalbox.Proofs.ReadingBounds
import Signalbox.Proofs.SlotReuse
import Signalbox.Proofs.CancelForest
import Signalbox.Proofs.FaultsOnce
import Signalbox.Proofs.LineWords
import Signalbox.Proofs.ScenarioLines
import Signalbox.Proofs.EntrySections
import Signalbox.Proofs.NumberedRoutes
import Signalbox.Proofs.QueriedPlaces
import Signalbox.Proofs.HistoryFile
