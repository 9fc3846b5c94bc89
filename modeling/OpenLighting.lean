import OpenLighting.DiscoveryAgentSoundness
import OpenLighting.DiscoveryAgentOverflow
import OpenLighting.DiscoveryAgentAbort
import OpenLighting.RdmCommandWriters
import OpenLighting.QueueingControllerCallbacks
import OpenLighting.UniverseBroadcast
import OpenLighting.MessageRoundTrip
import OpenLighting.DeviceManagerRestoring
import OpenLighting.RpcFraming
import OpenLighting.RpcClient
import OpenLighting.RpcServer
import OpenLighting.SelectServerTimeouts
import OpenLighting.SelectServerDescriptors
import OpenLighting.SlpFindService
import OpenLighting.SlpPacketRoundTrip
import OpenLighting.SlpServiceRegistration
import OpenLighting.SlpRegistrationRetries
import OpenLighting.E131Output
import OpenLighting.E131EndToEnd
import OpenLighting.AcnStreamBlocks
import OpenLighting.ArtNetMergeRuns
import OpenLighting.ArtNetDiscovery
import OpenLighting.ShowNet
import OpenLighting.QueueingControllerTransactions
import OpenLighting.MessageTraversal
import OpenLighting.SubDeviceFanOut
import OpenLighting.PathportDelivery
import OpenLighting.SPIBackendLayout
import OpenLighting.AdvancedTCPConnectorRuns
import OpenLighting.DmxterWidgetRuns
import OpenLighting.DmxTriWidgetRuns
import OpenLighting.MessageSerializerMemory
import OpenLighting.StringMessageBuilderTokens
import OpenLighting.RunLengthBounds
import OpenLighting.UniversePriority
import OpenLighting.IoReadString
import OpenLighting.IoStackRuns
import OpenLighting.SlpStoreLimit
import OpenLighting.SlpAuthBlocks
import OpenLighting.SlpScopeWire
import OpenLighting.DACoveringList
import OpenLighting.SlpMulticastConvergence
import OpenLighting.E131SequenceWindow
import OpenLighting.E131PacketReads
import OpenLighting.ArtNetPacketReads
import OpenLighting.WidgetMessageReads
import OpenLighting.HexStringToInt
import OpenLighting.EspNetRunLength
import OpenLighting.ResponderSettings
import OpenLighting.AdvancedDimmerPresets
import OpenLighting.TriggerSlot
import OpenLighting.AckTimerQueue
import OpenLighting.TokenBucket
import OpenLighting.SPIOutput
import OpenLighting.VariableInterpolator
import OpenLighting.StringEscape
import OpenLighting.DmxBufferText
import OpenLighting.SlpScopeWalks
import OpenLighting.TimeArithmetic
import OpenLighting.ShowFile
