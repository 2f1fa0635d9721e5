import Vshl.Foundation.Unordered
import Vshl.Foundation.Machine
import Vshl.Interfaces.Json
import Vshl.Interfaces.Afb
import Vshl.Utilities.EventRouter
import Vshl.Utilities.UUIDGeneration
import Vshl.VoiceAgents.EventsHandler
import Vshl.VoiceAgents.DataManager
import Vshl.VoiceAgents.Runs
import Vshl.VoiceAgents.Registry
import Vshl.Core.VRRequest
import Vshl.Core.VRRequestProcessor
import Vshl.Core.DefaultAgent
import Vshl.Core.Session
import Vshl.Capabilities.Capability
import Vshl.Capabilities.MessageChannel
import Vshl.Capabilities.CapabilityMessagingService
import Vshl.Api.AgentJson
import Vshl.Api.Handlers
import Vshl.Api.Invariant
import Vshl.Api.Listening
import Vshl.Api.Config
import Vshl.VoiceAgents.Delivery
import Vshl.VoiceAgents.Routing
import Vshl.VoiceAgents.Mirror
import Vshl.VoiceAgents.Refusals
import Vshl.VoiceAgents.SubscriptionProcess
import Vshl.Core.Requests
import Vshl.Foundation.TryEach
import Vshl.Api.Subscriptions
import Vshl.Api.SubscriptionResults
import Vshl.Api.Answers
import Vshl.Api.ConfigOutcome
import Vshl.Capabilities.Interference
import Vshl.Api.Payloads
import Vshl.VoiceAgents.NullEvents
import Vshl.VoiceAgents.Activation
import Vshl.Afb.AFBEvent
import Vshl.Core.Results
import Vshl.VoiceAgents.Visibility
import Vshl.Foundation.Blocks
import Vshl.Api.Moves
import Vshl.Api.CallLanguage
import Vshl.Api.Confinement
import Vshl.Api.EventNames
import Vshl.Api.ListeningSession
import Vshl.Api.Launches
import Vshl.Afb.AFBApi
import Vshl.Afb.NativeEvents
import Vshl.Api.WellTyped
import Vshl.Api.NativeDelivery
import Vshl.Utilities.UUIDText
import Vshl.Api.Service
import Vshl.Api.ServiceRefinement
import Vshl.Api.ServiceHandlers
import Vshl.Api.History
import Vshl.Api.Snapshot
import Vshl.Api.Pushes
import Vshl.Api.AgentSubscriptions
import Vshl.Api.LostEvents
import Vshl.Api.Acceptance
