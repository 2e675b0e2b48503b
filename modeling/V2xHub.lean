import V2xHub.MsgFramer.Stream
import V2xHub.Router.LockProtocol
import V2xHub.Connection.Queues
import V2xHub.Plugin.Registry
import V2xHub.Monitor.Liveness
import V2xHub.IvpMessage.Envelope
import V2xHub.CJson.Links
import V2xHub.ApiMessages.RoundTrip
import V2xHub.Connection.Survival
import V2xHub.Monitor.ExeContainment
import V2xHub.MapPlugin.Reload
import V2xHub.MapPlugin.XmlMapParser
import V2xHub.MapPlugin.Convert
import V2xHub.PreemptionPlugin.Plans
import V2xHub.SpatPlugin.Movements
import V2xHub.Lib.BitPack
import V2xHub.Rtcm.EncodedMessage
import V2xHub.BsmConverter.Codec
import V2xHub.PhantomTrafficPlugin.Tracking
import V2xHub.MessageProfiler.Counts
import V2xHub.PortDrayagePlugin.Holding
import V2xHub.CARMACloudPlugin.Timeout
import V2xHub.DmsPlugin.Shown
import V2xHub.MessageManager.Ordering
import V2xHub.CARMAStreetsPlugin.SdsmRoundTrip
import V2xHub.CARMAStreetsPlugin.Survival
import V2xHub.CswPlugin.Tracking
import V2xHub.TelematicBridgePlugin.SelectedTopics
import V2xHub.TelematicBridgePlugin.MsgWorker
import V2xHub.SNMPClient.Requests
import V2xHub.CommandPlugin.Stream
import V2xHub.Database.Safe
import V2xHub.CommandPlugin.Login
import V2xHub.PedestrianPlugin.Loops
import V2xHub.CommandPlugin.Authorised
import V2xHub.CommandPlugin.EventDelivery
import V2xHub.CommandPlugin.Replication
import V2xHub.PropertyTree.Json
import V2xHub.Lib.Strtol
import V2xHub.ImmediateForwardPlugin.Ownership
import V2xHub.MessageLoggerPlugin.Basic
import V2xHub.MessageLoggerPlugin.Rotation
import V2xHub.Lib.Xml
import V2xHub.ERVCloudForwardingPlugin.Forwarding
import V2xHub.RouteableMessage.Payload
import V2xHub.CARMAStreetsPlugin.Srm
import V2xHub.CARMAStreetsPlugin.Ssm
import V2xHub.CARMAStreetsPlugin.MapJson
import V2xHub.CDASimAdapter.Survival
import V2xHub.Lib.Calendar
import V2xHub.TimPlugin.Basic
import V2xHub.TimPlugin.OnAir
import V2xHub.PedestrianPlugin.FlirConversions
import V2xHub.PedestrianPlugin.FlirRead
import V2xHub.PedestrianPlugin.FlirStream
import V2xHub.PedestrianPlugin.FlirTracks
import V2xHub.LocationPlugin.Monitor
import V2xHub.TmxUtils.ThreadTimer
import V2xHub.IvpPlugin.Coherence
import V2xHub.RtcmPlugin.Ntrip
import V2xHub.TmxMessage.Caches
import V2xHub.RouteableMessage.Ownership
import V2xHub.TmxJ2735.Decoded
import V2xHub.PluginClient.Status
import V2xHub.PluginClient.Collections
import V2xHub.TmxCtl.LoadManifest
import V2xHub.TmxCtl.OnePlugin
import V2xHub.MapPlugin.Offsets
import V2xHub.MapPlugin.RoundTrip
import V2xHub.MsgFramer.Bounds
import V2xHub.Rtcm.AntennaDescriptor
import V2xHub.Lib.Cyclic
import V2xHub.Rtcm.Remainder
import V2xHub.SpatPlugin.Stamps
import V2xHub.SpatPlugin.PedestrianDetection
import V2xHub.Rtcm.Search
import V2xHub.Rtcm.Attributes
import V2xHub.Rtcm.SpecialMessage
import V2xHub.PortDrayageWebService.Actions
import V2xHub.PortDrayageWebService.Requests
import V2xHub.MapPlugin.LaneWidths
import V2xHub.MapPlugin.BlobIntegrity
import V2xHub.MessageManager.Growth
import V2xHub.TmxUtils.FrequencyThrottle
import V2xHub.TmxUtils.WGS84Polygon
import V2xHub.RouteableMessage.HexText
import V2xHub.MessageReceiverPlugin.AbbreviatedScan
import V2xHub.MessageReceiverPlugin.Extraction
import V2xHub.CARMACloudPlugin.Uncompress
import V2xHub.Security.Base64
import V2xHub.ImmediateForwardPlugin.FanOut
import V2xHub.IvpJ2735.Envelope
import V2xHub.PluginClient.Handlers
import V2xHub.RSUHealthMonitorPlugin.RSUStatus
import V2xHub.CARMAStreetsPlugin.Unquoted
import V2xHub.Database.ConnectionPool
import V2xHub.TmxJ2735.Factory
import V2xHub.MessageLoggerPlugin.BinaryRecord
import V2xHub.Lib.Pieces
import V2xHub.TmxCore.Tokenize
import V2xHub.MessageManager.Decoding
import V2xHub.ODEForwardPlugin.Basic
import V2xHub.ODEForwardPlugin.Sampling
import V2xHub.TmxUtils.KafkaConsumerWorker
import V2xHub.CswPlugin.VehicleLocate
import V2xHub.CswPlugin.RegionLookup
import V2xHub.MapPlugin.Isd
import V2xHub.MapPlugin.IsdReadBack
import V2xHub.Connection.Hub
import V2xHub.PortDrayagePlugin.Journey
