import Mathlib
import TrafficMap.Proofs.Topology.Distinct

/-!
# The layers of a built topology

A built topology has four groups of devices, from left to right: the uplink, one load balancer for
every address, the gateway, and one client for every source (`devices_build`). Their keys are
pairwise distinct, so a key names one device (`nodup_id_build`). Connections are stored by the
positions of their ends; `endpoints_build` reads them back as devices.
-/

namespace TrafficMap

/-! ## Lists with positions -/

section

variable {β γ δ : Type}

theorem map_mapIdx (f : Nat → β → γ) (g : γ → δ) (items : List β) :
    (items.mapIdx f).map g = items.mapIdx fun i x => g (f i x) := by
  apply List.ext_getElem?
  intro i
  simp [Function.comp_def]

theorem mapIdx_eq_map (f : β → γ) (items : List β) : (items.mapIdx fun _ x => f x) = items.map f := by
  apply List.ext_getElem?
  intro i
  simp

/-- Every item of a list has its own place in a column of that length. -/
theorem Layout.zip_column {α : Type} [Scalar α] (items : List β) (layout : Layout α) (layer : Layer)
    (cap : α) :
    items.zip (layout.column layer items.length cap)
      = items.mapIdx fun i x => (x, layout.place layer items.length cap i) := by
  rw [column_eq_map_place]
  apply List.ext_getElem
  · simp
  · intro i hzip hmap
    simp

end

namespace Topology

variable {α : Type}

/-! ## Devices -/

section

variable [Scalar α] (config : Configuration) (stats : Statistics) (identities : IdentityMap)
  (layout : Layout α)

/-- The load balancers that a report shows, one for every address. -/
def balancerDevices : List (Device α) :=
  let balancers := firstOfEach (·.address) config.balancers
  balancers.mapIdx fun i lb =>
    balancerDevice stats lb i (layout.place .loadBalancer balancers.length Layout.balancerSpacing i)

/-- The clients that a report shows, one for every source. -/
def clientDevices : List (Device α) :=
  let sources := firstOfEach (·.sourceIp) stats.sources
  sources.mapIdx fun i s =>
    clientDevice s (identityOf identities s.sourceIp)
      (layout.place .client sources.length Layout.clientSpacing i)

/-- The devices of a topology, layer by layer. -/
theorem devices_build :
    (build config stats identities layout).devices
      = ispDevice stats.traffic layout :: balancerDevices config stats layout ++
        gatewayDevice stats.traffic config.settings layout ::
          clientDevices stats identities layout := by
  simp only [build, distinctBy_nil, Layout.zip_column, List.mapIdx_mapIdx, map_mapIdx]
  rfl

/-- A load balancer is enabled when the first entry for its address is. -/
theorem enabled_balancerDevices :
    (balancerDevices config stats layout).map (·.enabled)
      = (firstOfEach (·.address) config.balancers).map (·.enabled) := by
  rw [balancerDevices, map_mapIdx]
  exact mapIdx_eq_map _ _

/-- There is one device for every address of a balancer. -/
theorem length_balancerDevices :
    (balancerDevices config stats layout).length
      = (config.balancers.map (·.address)).toFinset.card := by
  rw [balancerDevices, List.length_mapIdx, length_firstOfEach]

/-- There is one device for every address of a source. -/
theorem length_clientDevices :
    (clientDevices stats identities layout).length
      = (stats.sources.map (·.sourceIp)).toFinset.card := by
  rw [clientDevices, List.length_mapIdx, length_firstOfEach]

theorem layer_of_mem_balancerDevices {d : Device α} (h : d ∈ balancerDevices config stats layout) :
    d.layer = .loadBalancer := by
  obtain ⟨i, hi, rfl⟩ := List.mem_mapIdx.mp h
  rfl

theorem layer_of_mem_clientDevices {d : Device α} (h : d ∈ clientDevices stats identities layout) :
    d.layer = .client := by
  obtain ⟨i, hi, rfl⟩ := List.mem_mapIdx.mp h
  rfl

/-! ## Keys -/

/-- A balancer is known by its id. -/
theorem balancerId_injective : Function.Injective balancerId :=
  fun _ _ h => (String.append_right_inj _).mp h

/-- A client is known by its id. -/
theorem clientId_injective : Function.Injective clientId :=
  fun _ _ h => (String.append_right_inj _).mp h

theorem head?_balancerId (address : String) : (balancerId address).toList.head? = some 'l' := by
  rw [balancerId, String.toList_append]
  rfl

theorem head?_clientId (ip : String) : (clientId ip).toList.head? = some 'c' := by
  rw [clientId, String.toList_append]
  rfl

/-- Keys that begin differently differ; each group of devices has its own beginning. -/
theorem ne_of_head?_ne {s t : String} {c d : Char} (hs : s.toList.head? = some c)
    (ht : t.toList.head? = some d) (h : c ≠ d) : s ≠ t := by
  rintro rfl
  rw [hs] at ht
  exact h (Option.some.inj ht)

/-- The ids of a topology, layer by layer. -/
theorem map_id_build :
    (build config stats identities layout).devices.map (·.id)
      = ispId :: (config.balancers.map (·.address)).eraseDups.map balancerId ++
        gatewayId :: (stats.sources.map (·.sourceIp)).eraseDups.map clientId := by
  rw [devices_build, List.map_append, List.map_cons, List.map_cons, balancerDevices, clientDevices,
    map_mapIdx, map_mapIdx, ← map_firstOfEach, ← map_firstOfEach, List.map_map, List.map_map,
    ← mapIdx_eq_map, ← mapIdx_eq_map]
  rfl

/-- No two devices of a built topology have the same key. -/
theorem nodup_id_build : ((build config stats identities layout).devices.map (·.id)).Nodup := by
  have hisp : ispId.toList.head? = some 'i' := by decide
  have hgateway : gatewayId.toList.head? = some 'g' := by decide
  rw [map_id_build, List.nodup_append]
  refine ⟨?_, ?_, ?_⟩
  · refine List.nodup_cons.mpr ⟨?_, (nodup_eraseDups _).map balancerId_injective⟩
    rw [List.mem_map]
    rintro ⟨address, -, haddress⟩
    exact ne_of_head?_ne (head?_balancerId address) hisp (by decide) haddress
  · refine List.nodup_cons.mpr ⟨?_, (nodup_eraseDups _).map clientId_injective⟩
    rw [List.mem_map]
    rintro ⟨ip, -, hip⟩
    exact ne_of_head?_ne (head?_clientId ip) hgateway (by decide) hip
  · intro left hleft right hright
    simp only [List.mem_cons, List.mem_map] at hleft hright
    rcases hleft with rfl | ⟨address, -, rfl⟩ <;> rcases hright with rfl | ⟨ip, -, rfl⟩
    · exact ne_of_head?_ne hisp hgateway (by decide)
    · exact ne_of_head?_ne hisp (head?_clientId ip) (by decide)
    · exact ne_of_head?_ne (head?_balancerId address) hgateway (by decide)
    · exact ne_of_head?_ne (head?_balancerId address) (head?_clientId ip) (by decide)

/-- The device with the key of a client is shown under the identity of its address. -/
theorem identity_of_clientId {d : Device α} {ip : String}
    (hd : d ∈ (build config stats identities layout).devices) (hid : d.id = clientId ip) :
    ip ∈ stats.sources.map (·.sourceIp) ∧
      d.name = (identityOf identities ip).name ∧
      d.kind = .client (identityOf identities ip).kind := by
  have hclient : d.id.toList.head? = some 'c' := hid ▸ head?_clientId ip
  have hisp : ispId.toList.head? = some 'i' := by decide
  have hgateway : gatewayId.toList.head? = some 'g' := by decide
  rw [devices_build, List.mem_append, List.mem_cons, List.mem_cons] at hd
  rcases hd with (rfl | hd) | (rfl | hd)
  · cases hisp.symm.trans hclient
  · obtain ⟨i, hi, rfl⟩ := List.mem_mapIdx.1 hd
    cases (head?_balancerId _).symm.trans hclient
  · cases hgateway.symm.trans hclient
  · obtain ⟨i, hi, rfl⟩ := List.mem_mapIdx.1 hd
    obtain rfl := clientId_injective hid
    have hmem := List.mem_map_of_mem (f := (·.sourceIp)) (List.getElem_mem hi)
    rw [map_firstOfEach, List.mem_eraseDups] at hmem
    exact ⟨hmem, rfl, rfl⟩

end

/-- Where keys are distinct, the key of a device finds it. -/
theorem device?_id {t : Topology α} (h : (t.devices.map (·.id)).Nodup) {d : Device α}
    (hd : d ∈ t.devices) : t.device? d.id = some d := by
  rw [device?, ← List.head?_filter, filter_key (·.id) h hd, List.head?_cons]

/-! ## Connections -/

section

variable {a g : Device α} {f : Nat → BalancerConfig → Device α} {balancers : List BalancerConfig}
  {clients : List (Device α)}

/-- The positions that connections name: the uplink, the load balancers, the gateway, the clients. -/
theorem getElem?_balancer {i : Nat} {lb : BalancerConfig} (h : balancers[i]? = some lb) :
    (a :: balancers.mapIdx f ++ g :: clients)[i + 1]? = some (f i lb) := by
  obtain ⟨hi, -⟩ := List.getElem?_eq_some_iff.mp h
  rw [List.cons_append, List.getElem?_cons_succ, List.getElem?_append_left (by simpa using hi),
    List.getElem?_mapIdx, h, Option.map_some]

/-- The gateway stands behind the balancers. -/
theorem getElem?_gateway :
    (a :: balancers.mapIdx f ++ g :: clients)[balancers.length + 1]? = some g := by
  rw [List.cons_append, List.getElem?_cons_succ, List.getElem?_append_right (by simp)]
  simp

/-- The clients stand behind the gateway. -/
theorem getElem?_client (j : Nat) :
    (a :: balancers.mapIdx f ++ g :: clients)[balancers.length + 1 + 1 + j]? = clients[j]? := by
  have hindex : balancers.length + 1 + 1 + j = balancers.length + (j + 1) + 1 := by omega
  rw [List.cons_append, hindex, List.getElem?_cons_succ, List.getElem?_append_right (by simp)]
  simp

variable [Scalar α]

/-- Where the devices stand in their order, the connections read back as devices: through every load
balancer from the uplink to the gateway, then from the gateway to every client. -/
theorem endpoints_weighLinks {t : Topology α} (henabled : ∀ i lb, (f i lb).enabled = lb.enabled)
    (hdevices : t.devices = a :: balancers.mapIdx f ++ g :: clients)
    (hconnections : t.connections = weighLinks t.devices (links balancers clients.length)) :
    t.connections.map (fun c => (t.endpoints c, c.enabled))
      = ((balancers.mapIdx f).flatMap fun b =>
          [(some (a, b), b.enabled), (some (b, g), b.enabled)]) ++
        clients.map fun d => (some (g, d), true) := by
  have hisp : t.devices[0]? = some a := by
    rw [hdevices]
    rfl
  have hgateway : t.devices[balancers.length + 1]? = some g := by
    rw [hdevices, getElem?_gateway]
  rw [hconnections, weighLinks, List.map_map, links, List.map_append, List.map_flatMap, List.map_map]
  congr 1
  · rw [List.mapIdx_eq_zipIdx_map, List.flatMap_map]
    apply List.flatMap_congr
    rintro ⟨lb, i⟩ hmem
    have hbalancer : t.devices[i + 1]? = some (f i lb) := by
      rw [hdevices, getElem?_balancer (List.mem_zipIdx_iff_getElem?.mp hmem)]
    simp only [List.map_cons, List.map_nil, Function.comp_apply, henabled]
    rw [endpoints_eq_some_iff.mpr ⟨hisp, hbalancer⟩,
      endpoints_eq_some_iff.mpr ⟨hbalancer, hgateway⟩]
  · apply List.ext_getElem
    · simp
    · intro j hrange hj
      rw [List.length_map] at hj
      have hclient : t.devices[balancers.length + 1 + 1 + j]? = some clients[j] := by
        rw [hdevices, getElem?_client, List.getElem?_eq_getElem hj]
      simp only [List.getElem_map, List.getElem_range, Function.comp_apply]
      rw [endpoints_eq_some_iff.mpr ⟨hgateway, hclient⟩]

end

section

variable [Scalar α] (config : Configuration) (stats : Statistics) (identities : IdentityMap)
  (layout : Layout α)

/-- Every connection lies between two devices: those of a balancer on both of its sides, those of a
client behind the gateway. -/
theorem endpoints_build :
    (build config stats identities layout).connections.map
        (fun c => ((build config stats identities layout).endpoints c, c.enabled))
      = ((balancerDevices config stats layout).flatMap fun b =>
          [(some (ispDevice stats.traffic layout, b), b.enabled),
            (some (b, gatewayDevice stats.traffic config.settings layout), b.enabled)]) ++
        (clientDevices stats identities layout).map fun d =>
          (some (gatewayDevice stats.traffic config.settings layout, d), true) := by
  apply endpoints_weighLinks
  · intro i lb
    rfl
  · exact devices_build config stats identities layout
  · rw [clientDevices, List.length_mapIdx, ← distinctBy_nil, ← distinctBy_nil]
    rfl

/-- Both ends of a connection exist, and the target stands in the layer after that of the source. -/
theorem next_layer_of_mem {c : Connection α}
    (hc : c ∈ (build config stats identities layout).connections) :
    ∃ a b, (build config stats identities layout).endpoints c = some (a, b) ∧
      b.layer.index = a.layer.index + 1 := by
  have hends := List.mem_map_of_mem
    (f := fun c => ((build config stats identities layout).endpoints c, c.enabled)) hc
  rw [endpoints_build, List.mem_append, List.mem_flatMap, List.mem_map] at hends
  rcases hends with ⟨b, hb, hends⟩ | ⟨d, hd, hends⟩
  · have hlayer := layer_of_mem_balancerDevices config stats layout hb
    simp only [List.mem_cons, List.not_mem_nil, or_false, Prod.mk.injEq] at hends
    rcases hends with ⟨hc, -⟩ | ⟨hc, -⟩
    · refine ⟨_, _, hc, ?_⟩
      rw [hlayer]
      rfl
    · refine ⟨_, _, hc, ?_⟩
      rw [hlayer]
      rfl
  · have hlayer := layer_of_mem_clientDevices stats identities layout hd
    refine ⟨_, _, (Prod.mk.inj hends).1.symm, ?_⟩
    rw [hlayer]
    rfl

end

/-- What a report is built into: the uplink, a load balancer for the first entry of every address, the
gateway and a client for the first entry of every source. Every key finds its device. Through every
load balancer a connection runs from the uplink to the gateway, enabled when the entry is, and one
runs from the gateway to every client; so both ends of a connection exist and stand in neighbouring
layers. The summary counts the distinct addresses and sources. -/
theorem layers_of_build [Scalar α] (config : Configuration) (stats : Statistics)
    (identities : IdentityMap) (layout : Layout α) :
    let t := build config stats identities layout
    let isp := ispDevice stats.traffic layout
    let gateway := gatewayDevice stats.traffic config.settings layout
    let balancers := balancerDevices config stats layout
    let clients := clientDevices stats identities layout
    t.devices = isp :: balancers ++ gateway :: clients ∧
      (t.devices.map (·.id)).Nodup ∧
      (∀ d ∈ t.devices, t.device? d.id = some d) ∧
      t.connections.map (fun c => (t.endpoints c, c.enabled))
        = (balancers.flatMap fun b =>
            [(some (isp, b), b.enabled), (some (b, gateway), b.enabled)]) ++
          clients.map (fun d => (some (gateway, d), true)) ∧
      balancers.map (·.enabled) = (firstOfEach (·.address) config.balancers).map (·.enabled) ∧
      (∀ c ∈ t.connections, ∃ a b, t.devices[c.source]? = some a ∧ t.devices[c.target]? = some b ∧
        b.layer.index = a.layer.index + 1) ∧
      t.summary.balancers = (config.balancers.map (·.address)).toFinset.card ∧
      t.summary.balancers = balancers.length ∧
      t.summary.clients = (stats.sources.map (·.sourceIp)).toFinset.card ∧
      t.summary.clients = clients.length := by
  intro t isp gateway balancers clients
  have hnodup : (t.devices.map (·.id)).Nodup := nodup_id_build config stats identities layout
  have hbalancers : t.summary.balancers = (config.balancers.map (·.address)).toFinset.card := by
    rw [← length_firstOfEach, ← distinctBy_nil]
    rfl
  have hclients : t.summary.clients = (stats.sources.map (·.sourceIp)).toFinset.card := by
    rw [← length_firstOfEach, ← distinctBy_nil]
    rfl
  refine ⟨devices_build config stats identities layout, hnodup, fun d hd => device?_id hnodup hd,
    endpoints_build config stats identities layout, enabled_balancerDevices config stats layout, ?_,
    hbalancers, ?_, hclients, ?_⟩
  · intro c hc
    obtain ⟨a, b, hends, hlayer⟩ := next_layer_of_mem config stats identities layout hc
    obtain ⟨hsource, htarget⟩ := endpoints_eq_some_iff.mp hends
    exact ⟨a, b, hsource, htarget, hlayer⟩
  · rw [hbalancers, length_balancerDevices]
  · rw [hclients, length_clientDevices]

end Topology

end TrafficMap
