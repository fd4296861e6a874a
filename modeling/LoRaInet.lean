import LoRaInet.LoRa.NetworkServerApp.ADRAccounting
import LoRaInet.LoRaApp.AdrAcknowledgement
import LoRaInet.LoRa.LoRaGWRadio.Bookkeeping
import LoRaInet.PhysicalLayer.CommunicationCache.Equivalence
import LoRaInet.LoRaPhy.LoRaMedium.AddedRadio
import LoRaInet.LoRaPhy.OpalLoRaRadioMedium.Transparency
import LoRaInet.TransportLayer.Tcp.ByteStreamTransfer
import LoRaInet.TransportLayer.Tcp.MessageTransfer.Delivery
import LoRaInet.TransportLayer.Tcp.TCPSACKRexmitQueue.PerByte
import LoRaInet.LoRaPhy.LoRaNeighborCache.Coverage
import LoRaInet.NetworkLayer.IPv4.PendingPackets.Settled
import LoRaInet.NetworkLayer.Configurator.OptimizeRoutes.Kept
import LoRaInet.NetworkLayer.Configurator.OptimizeRoutes.Forwarding
import LoRaInet.LoRa.LoRaMac.Progress
import LoRaInet.NetworkLayer.Configurator.AssignAddresses.Disjunct
import LoRaInet.NetworkLayer.IPv4.IPv4RoutingTable.LocalAddresses
import LoRaInet.Common.Serializer.IPv4.IGMPSerializer.RoundTrip
import LoRaInet.Common.Serializer.Tcp.TCPSerializer.RoundTrip
import LoRaInet.Routing.Ospfv2.OSPFArea.ShortestPathTree
import LoRaInet.LinkLayer.Ieee8021d.Stp.STP.SpanningTree
import LoRaInet.LinkLayer.Ieee80211.Mac.CoordinationFunction.Hcf.RetryAccounting
import LoRaInet.Applications.Dhcp.DHCPServer
import LoRaInet.TransportLayer.Udp.UDP.Demultiplexing
import LoRaInet.NetworkLayer.Arp.ARP.Settled
import LoRaInet.NetworkLayer.IPv6.IPv6FragBuf.Reassembly
import LoRaInet.Common.Geometry.Container.QuadTree.Positions
import LoRaInet.LinkLayer.Ieee80211.Mac.Contention.Contention.Slots
import LoRaInet.Common.Queue.PassiveQueue.Runs
import LoRaInet.LoRa.NetworkServerApp.NewOptions
import LoRaInet.LoRaPhy.LoRaAnalogModel.Noise
import LoRaInet.LinkLayer.Ieee8021d.Relay.Ieee8021dRelay
import LoRaInet.Routing.Aodv.AODVRouting.Runs
import LoRaInet.NetworkLayer.IPv4.IPv4FragBuf.RawPayload
import LoRaInet.LoRaPhy.LoRaMedium.RadioTable
import LoRaInet.NetworkLayer.IPv6.IPv6RoutingTable.LongestPrefix
import LoRaInet.LoRaPhy.LoRaReceiver.Collision
import LoRaInet.LinkLayer.Ieee80211.Mac.Aggregation.MsduAggregation
import LoRaInet.TransportLayer.Tcp.TCPConnection.NextSeg
import LoRaInet.TransportLayer.Tcp.TCPConnection.Receiver
import LoRaInet.LinkLayer.Ieee8021d.Rstp.RSTP.RootChange
import LoRaInet.Common.Serializer.TCPIPchecksum.Accumulator
import LoRaInet.Routing.Rip.RIPRouting
import LoRaInet.Routing.Ospfv2.OSPFInterfaceState
import LoRaInet.LinkLayer.Ieee8021d.Stp.STP.Timers
import LoRaInet.PhysicalLayer.Ieee80211.Ieee80211LayeredOFDM
import LoRaInet.TransportLayer.Sctp.SCTPSSFunctions.Scheduling
import LoRaInet.NetworkLayer.Icmpv6.IPv6NeighbourCache
import LoRaInet.Common.Topology
import LoRaInet.TransportLayer.Tcp.TCPSegmentTransmitInfoList
import LoRaInet.Common.WeightedTopology
