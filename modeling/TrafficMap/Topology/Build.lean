import TrafficMap.Appliance.Report
import TrafficMap.Identity.Fallback
import TrafficMap.Topology.Layout
import TrafficMap.Topology.Load

/-!
# Building the topology

`Topology.build` turns one report of the appliance into devices with places and connections with
loads: the uplink, the load balancers, the gateway and the clients, in this order. It never fails;
an empty report still shows the uplink and the gateway.
-/

namespace TrafficMap

/-- The items of a list in order, without those whose key occurred before. -/
def distinctBy {β : Type} (key : β → String) (seen : List String) : List β → List β
  | [] => []
  | item :: rest =>
    if seen.contains (key item) then distinctBy key seen rest
    else item :: distinctBy key (key item :: seen) rest

namespace Topology

variable {α : Type} [Scalar α]

/-- The key of the uplink. -/
def ispId : String := "isp"

/-- The key of the gateway. -/
def gatewayId : String := "gateway"

/-- The key of the load balancer with an address. -/
def balancerId (address : String) : String := "lb:" ++ address

/-- The key of the client with an address. -/
def clientId (ip : String) : String := "client:" ++ ip

/-- The side of the square that devices of a kind cover. -/
def deviceSize : DeviceKind → α
  | .isp => 60.0
  | .gateway => 60.0
  | .loadBalancer => 50.0
  | .client _ => 40.0

/-- The sum of two counters; a sum that does not fit stays at the largest counter. -/
def saturatingAdd (a b : UInt64) : UInt64 :=
  UInt64.ofNat (min (a.toNat + b.toNat) (Nat.pow 2 64 - 1))

/-- The counters that the uplink and the gateway show. -/
def totalFacts (traffic : TrafficTotals) : DeviceFacts :=
  { activeConnections := traffic.activeConnections
    transferred := some (traffic.totalBytesIn, traffic.totalBytesOut) }

/-- The device for the internet uplink. -/
def ispDevice (traffic : TrafficTotals) (layout : Layout α) : Device α :=
  { id := ispId, kind := .isp, name := "Internet", subtitle := "ISP uplink"
    download := Label.rate α traffic.bytesInPerSecond
    upload := Label.rate α traffic.bytesOutPerSecond
    position := layout.anchor .isp, layer := .isp, size := deviceSize .isp, enabled := true
    facts := totalFacts traffic }

/-- The device for the gateway, where the appliance accepts clients. -/
def gatewayDevice (traffic : TrafficTotals) (settings : ListenSettings) (layout : Layout α) :
    Device α :=
  { id := gatewayId, kind := .gateway, name := "Gateway", subtitle := settings.address
    download := Label.rate α traffic.bytesInPerSecond
    upload := Label.rate α traffic.bytesOutPerSecond
    position := layout.anchor .gateway, layer := .gateway, size := deviceSize .gateway
    enabled := true
    facts := totalFacts traffic }

/-- A text unless it is empty. -/
def nonEmpty (s : String) : Option String :=
  if s.isEmpty then none else some s

/-- The device for a load balancer, with the counters of the first entry for its address. Without
a number of its own it is counted from one. -/
def balancerDevice (stats : Statistics) (lb : BalancerConfig) (place : Nat) (position : Point α) :
    Device α :=
  let live := stats.balancers.find? fun s => s.address = lb.address
  let number := match lb.id with
    | some id => toString id.toNat
    | none => toString (place + 1)
  { id := balancerId lb.address, kind := .loadBalancer, name := "LB" ++ number
    subtitle :=
      if lb.interface.isEmpty then lb.address else lb.address ++ " (" ++ lb.interface ++ ")"
    download := Label.rate α ((live.map (·.bytesInPerSecond)).getD 0)
    upload := Label.rate α ((live.map (·.bytesOutPerSecond)).getD 0)
    position, layer := .loadBalancer, size := deviceSize .loadBalancer, enabled := lb.enabled
    facts :=
      { connections := (live.map (·.totalConnections)).getD 0
        successRate := live.map (·.successRate)
        interface := nonEmpty lb.interface
        contentionRatio := some lb.contentionRatio } }

/-- The device for a client. -/
def clientDevice (source : SourceStats) (identity : Identity) (position : Point α) : Device α :=
  { id := clientId source.sourceIp, kind := .client identity.kind, name := identity.name
    subtitle := source.sourceIp
    download := Label.rate α source.bytesInPerSecond
    upload := Label.rate α source.bytesOutPerSecond
    position, layer := .client, size := deviceSize (.client identity.kind), enabled := true
    facts :=
      { connections := source.totalConnections
        activeConnections := source.activeConnections
        assignedBalancer := nonEmpty source.assignedBalancer } }

/-- The identity that an address is shown under. -/
def identityOf (identities : IdentityMap) (ip : String) : Identity :=
  (identities.find ip).getD (Identity.fallback ip)

/-- The connections of `n` load balancers and `m` clients, by the positions of the devices: through
every load balancer from the uplink to the gateway, then from the gateway to every client. -/
def links (balancers : List BalancerConfig) (m : Nat) : List Link :=
  let gateway := balancers.length + 1
  (balancers.zipIdx.flatMap fun (lb, i) =>
      [⟨0, i + 1, lb.enabled⟩, ⟨i + 1, gateway, lb.enabled⟩]) ++
    (List.range m).map fun j => ⟨gateway, gateway + 1 + j, true⟩

/-- The topology that a report shows on a surface. Of several load balancers or clients with one
address the first counts. -/
def build (config : Configuration) (stats : Statistics) (identities : IdentityMap)
    (layout : Layout α) : Topology α :=
  let traffic := stats.traffic
  let balancers := distinctBy (·.address) [] config.balancers
  let sources := distinctBy (·.sourceIp) [] stats.sources
  let balancerPlaces := layout.column .loadBalancer balancers.length Layout.balancerSpacing
  let clientPlaces := layout.column .client sources.length Layout.clientSpacing
  let devices :=
    ispDevice traffic layout ::
      (balancers.zip balancerPlaces).mapIdx (fun i (lb, p) => balancerDevice stats lb i p) ++
      gatewayDevice traffic config.settings layout ::
      (sources.zip clientPlaces).map fun (s, p) =>
        clientDevice s (identityOf identities s.sourceIp) p
  { devices
    connections := weighLinks devices (links balancers sources.length)
    summary :=
      { totalBytesPerSecond := saturatingAdd traffic.bytesInPerSecond traffic.bytesOutPerSecond
        activeConnections := traffic.activeConnections
        balancers := balancers.length
        clients := sources.length } }

end Topology

end TrafficMap
