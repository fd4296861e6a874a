import LoRaInet.LoRa.NetworkServerApp.ADRHistory

open omnetpp transition

namespace inet.NetworkServerApp

variable {par : Parameters} {s : NetworkServerApp}

section Split

variable {before after : List KnownNode} {node : KnownNode} {pkt : LoRaMacFrame}

end Split

end inet.NetworkServerApp
