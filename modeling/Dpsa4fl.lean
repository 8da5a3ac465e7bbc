import Dpsa4fl.Library.Run
import Dpsa4fl.Library.Script
import Dpsa4fl.JanusManager.Creators
import Dpsa4fl.JanusManager.Deployment
import Dpsa4fl.JanusManager.Serial
import Dpsa4fl.JanusManager.Consumer
import Dpsa4fl.JanusManager.SessionIds
import Dpsa4fl.Controller.Embedded
import Dpsa4fl.System.Managers
import Dpsa4fl.System.Calls
import Dpsa4fl.System.FailedSetup
import Dpsa4fl.System.Lockstep
import Dpsa4fl.System.Ending
import Dpsa4fl.Client.Implementation
import Dpsa4fl.Client.Embedded
import Dpsa4fl.System.World
import Dpsa4fl.System.Traces
import Dpsa4fl.System.Initialized
import Dpsa4fl.System.Uploads
import Dpsa4fl.JanusManager.Terms
import Dpsa4fl.JanusManager.Rounds
import Dpsa4fl.System.Controllers
import Dpsa4fl.System.Rounds
import Dpsa4fl.System.Uses
import Dpsa4fl.System.Agreement
import Dpsa4fl.JanusManager.Alike
import Dpsa4fl.Library.Erasure
import Dpsa4fl.JanusManager.Erasing
import Dpsa4fl.JanusManager.Rejected
import Dpsa4fl.JanusManager.Retries
import Dpsa4fl.JanusManager.Owners
import Dpsa4fl.JanusManager.History
import Dpsa4fl.JanusManager.Panics
import Dpsa4fl.JanusManager.Output
import Dpsa4fl.Client.StateMachine
import Dpsa4fl.Controller.Collect
import Dpsa4fl.Controller.BatchIntervals
import Dpsa4fl.Controller.ActiveRound
import Dpsa4fl.Library.BinaryFloat
import Dpsa4fl.Core.Conversion
import Dpsa4fl.Core.Floats
import Dpsa4fl.Core.Rounding
import Dpsa4fl.JanusManager.WireFormat
import Dpsa4fl.System.TaskIds
import Dpsa4fl.Client.Timestamps
import Dpsa4fl.Controller.LeaderUrls
import Dpsa4fl.JanusManager.StoredTasks
import Dpsa4fl.Library.Json
import Dpsa4fl.Library.Refinement
import Dpsa4fl.Library.Fairness
import Dpsa4fl.JanusManager.Messages
import Dpsa4fl.JanusManager.Provider
import Dpsa4fl.JanusManager.HttpConsumer
import Dpsa4fl.JanusManager.HttpReplies
import Dpsa4fl.JanusManager.Progress
import Dpsa4fl.JanusManager.Keyring
import Dpsa4fl.System.Http
import Dpsa4fl.Library.Wp
import Dpsa4fl.Client.Submissions
import Dpsa4fl.JanusManager.Availability
import Dpsa4fl.JanusManager.OpenRounds
import Dpsa4fl.System.Late
import Dpsa4fl.System.Delivery
import Dpsa4fl.System.Starting
import Dpsa4fl.JanusManager.Admission
import Dpsa4fl.System.Claims
import Dpsa4fl.System.Creating
import Dpsa4fl.System.Collecting
import Dpsa4fl.Library.Unwinding
import Dpsa4fl.JanusManager.Tenants
import Dpsa4fl.JanusManager.Isolation
import Dpsa4fl.System.Isolation
import Dpsa4fl.System.Protocol
import Dpsa4fl.JanusManager.HttpServer
import Dpsa4fl.JanusManager.HttpProgress
