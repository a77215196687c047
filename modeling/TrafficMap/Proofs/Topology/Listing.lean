import Mathlib
import TrafficMap.Proofs.Number.Largest
import TrafficMap.Proofs.Topology.Placement

/-!
# The order of a report

The appliance lists load balancers and sources in some order, and no device looks different for it.
Clients come last in a built topology (`Forked`), so another order of the sources changes nothing that
stands before them; it moves the clients, and each keeps its one connection from the gateway. What could
carry the order over is the largest throughput, to which all loads are compared; it is the largest of a
list in whatever order (`Forked.busiest_eq`). The live counters of load balancers are found by address,
so their order has no influence at all (`build_of_balancers_perm`).
-/

namespace TrafficMap.Topology

/-! ## Connections, group by group -/

section

variable {α : Type}

/-- The connections that lead to devices of some sort. -/
def leadingTo (t : Topology α) (p : Device α → Bool) : List (Connection α) :=
  t.connections.filter fun c => (t.devices[c.target]?).any p

variable [Scalar α]

/-- The connections through load balancers. -/
def trunkLinks (balancers : List BalancerConfig) : List Link :=
  balancers.zipIdx.flatMap fun (lb, i) =>
    [⟨0, i + 1, lb.enabled⟩, ⟨i + 1, balancers.length + 1, lb.enabled⟩]

/-- The connection from the gateway to a client, behind `n` load balancers. -/
def branchLink (n j : Nat) : Link :=
  ⟨n + 1, n + 1 + 1 + j, true⟩

/-- The links of a topology: the trunk, then a branch for every client. -/
theorem links_eq (balancers : List BalancerConfig) (m : Nat) :
    links balancers m = trunkLinks balancers ++ (List.range m).map (branchLink balancers.length) :=
  rfl

theorem target_of_mem_trunkLinks {balancers : List BalancerConfig} {link : Link}
    (h : link ∈ trunkLinks balancers) : link.target < balancers.length + 2 := by
  obtain ⟨⟨lb, i⟩, hmem, hlink⟩ := List.mem_flatMap.mp h
  have hi : i < balancers.length := (List.getElem?_eq_some_iff.mp (List.mem_zipIdx_iff_getElem?.mp hmem)).1
  simp only [List.mem_cons, List.not_mem_nil, or_false] at hlink
  rcases hlink with rfl | rfl
  · dsimp only
    omega
  · dsimp only
    omega

/-- A connection with the load of its throughput. -/
def weighed (devices : List (Device α)) (busiest : α) (link : Link) : Connection α :=
  { source := link.source, target := link.target, enabled := link.enabled
    load :=
      { current := link.throughput devices, busiest
        ratio := usageRatio (link.throughput devices) busiest } }

/-- The largest throughput of connections. -/
def busiest (devices : List (Device α)) (links : List Link) : α :=
  (links.map (Link.throughput devices)).foldl Scalar.max 0.0

/-- Links are weighed against the busiest one. -/
theorem weighLinks_eq (devices : List (Device α)) (links : List Link) :
    weighLinks devices links = links.map (weighed devices (busiest devices links)) :=
  rfl

/-- The trunk and the branches are weighed by themselves. -/
theorem weighLinks_links (devices : List (Device α)) (balancers : List BalancerConfig) (m : Nat) :
    weighLinks devices (links balancers m)
      = (trunkLinks balancers).map (weighed devices (busiest devices (links balancers m))) ++
        (List.range m).map fun j =>
          weighed devices (busiest devices (links balancers m)) (branchLink balancers.length j) := by
  rw [weighLinks_eq]
  conv_lhs => rw [links_eq, List.map_append, List.map_map]
  rfl

end

/-! ## Devices, with the clients last -/

/-- A topology in which the clients come last, and its connections are those of a report. -/
structure Forked {α : Type} [Scalar α] (balancers : List BalancerConfig) (core clients : List (Device α))
    (t : Topology α) : Prop where
  devices : t.devices = core ++ clients
  length_core : core.length = balancers.length + 2
  layer_core : ∀ d ∈ core, d.layer ≠ .client
  layer_clients : ∀ d ∈ clients, d.layer = .client
  nodup : (t.devices.map (·.id)).Nodup
  connections : t.connections = weighLinks t.devices (links balancers clients.length)

namespace Forked

section

variable {α : Type} [Scalar α] {balancers : List BalancerConfig} {core clients : List (Device α)}
  {t : Topology α}

/-- A connection through a load balancer leads to a device that is no client. -/
theorem exists_of_mem_trunkLinks (h : Forked balancers core clients t) {link : Link}
    (hlink : link ∈ trunkLinks balancers) :
    ∃ d ∈ core, core[link.target]? = some d ∧ t.devices[link.target]? = some d := by
  have htarget : link.target < core.length := by
    rw [h.length_core]
    exact target_of_mem_trunkLinks hlink
  refine ⟨core[link.target], List.getElem_mem htarget, List.getElem?_eq_getElem htarget, ?_⟩
  rw [h.devices, List.getElem?_append_left htarget, List.getElem?_eq_getElem htarget]

/-- A branch leads to its client. -/
theorem getElem?_branch (h : Forked balancers core clients t) (j : Nat) :
    t.devices[(branchLink balancers.length j).target]? = clients[j]? := by
  have hindex : (branchLink balancers.length j).target = core.length + j := by
    rw [h.length_core]
    rfl
  rw [h.devices, hindex, List.getElem?_append_right (Nat.le_add_right ..), Nat.add_sub_cancel_left]

/-- The throughputs of the connections: first through the load balancers, then of the clients. -/
theorem map_throughput (h : Forked balancers core clients t) :
    (links balancers clients.length).map (Link.throughput t.devices)
      = (trunkLinks balancers).map (Link.throughput core) ++ clients.map Device.throughput := by
  rw [links_eq, List.map_append, List.map_map]
  congr 1
  · apply List.map_congr_left
    intro link hlink
    obtain ⟨d, -, hcore, hdevices⟩ := h.exists_of_mem_trunkLinks hlink
    rw [Link.throughput, Link.throughput, hcore, hdevices]
  · apply List.ext_getElem
    · simp
    · intro j hrange hj
      rw [List.length_map] at hj
      simp only [List.getElem_map, List.getElem_range, Function.comp_apply]
      rw [Link.throughput, h.getElem?_branch, List.getElem?_eq_getElem hj]

/-- Without the clients, the devices are the core. -/
theorem filter_devices (h : Forked balancers core clients t) :
    t.devices.filter (fun d => d.layer ≠ .client) = core := by
  rw [h.devices, List.filter_append, List.filter_eq_self.mpr, List.filter_eq_nil_iff.mpr,
    List.append_nil]
  · intro d hd
    simpa using h.layer_clients d hd
  · intro d hd
    simpa using h.layer_core d hd

/-- The connections that lead to no client are those through load balancers. -/
theorem leadingTo_core (h : Forked balancers core clients t) :
    t.leadingTo (fun d => d.layer ≠ .client)
      = (trunkLinks balancers).map
          (weighed core (busiest t.devices (links balancers clients.length))) := by
  rw [leadingTo, h.connections, weighLinks_links, List.filter_append, List.filter_eq_self.mpr,
    List.filter_eq_nil_iff.mpr, List.append_nil]
  · apply List.map_congr_left
    intro link hlink
    obtain ⟨d, -, hcore, hdevices⟩ := h.exists_of_mem_trunkLinks hlink
    simp only [weighed, Link.throughput, hcore, hdevices]
  · intro c hc
    obtain ⟨j, hj, rfl⟩ := List.mem_map.mp hc
    have hj' : j < clients.length := List.mem_range.mp hj
    have htarget := h.getElem?_branch j
    rw [List.getElem?_eq_getElem hj'] at htarget
    simp only [weighed, htarget, Option.any_some]
    simpa using h.layer_clients _ (List.getElem_mem hj')
  · intro c hc
    obtain ⟨link, hlink, rfl⟩ := List.mem_map.mp hc
    obtain ⟨d, hd, -, hdevices⟩ := h.exists_of_mem_trunkLinks hlink
    simp only [weighed, hdevices, Option.any_some]
    simpa using h.layer_core d hd

/-- One connection leads to a client. -/
theorem leadingTo_client (h : Forked balancers core clients t) {j : Nat} {d : Device α}
    (hd : clients[j]? = some d) :
    t.leadingTo (fun e => e.id = d.id)
      = [weighed t.devices (busiest t.devices (links balancers clients.length))
          (branchLink balancers.length j)] := by
  obtain ⟨hj, rfl⟩ := List.getElem?_eq_some_iff.mp hd
  have hnodup := h.nodup
  rw [h.devices, List.map_append, List.nodup_append] at hnodup
  obtain ⟨-, hclients, hdisjoint⟩ := hnodup
  -- a connection is told by the key of the device that it leads to
  let key : Connection α → Option String := fun c => (t.devices[c.target]?).map (·.id)
  let branch : ℕ → Connection α := fun j =>
    weighed t.devices (busiest t.devices (links balancers clients.length))
      (branchLink balancers.length j)
  have hkey {i : ℕ} : key (branch i) = (clients[i]?).map (·.id) :=
    congrArg (Option.map (·.id)) (h.getElem?_branch i)
  have hkeys : ((List.range clients.length).map branch).map key = clients.map fun e => some e.id := by
    apply List.ext_getElem
    · simp
    · intro i hi hi'
      rw [List.length_map] at hi'
      simp only [List.getElem_map, List.getElem_range, hkey, List.getElem?_eq_getElem hi',
        Option.map_some]
  have hdistinct : (((List.range clients.length).map branch).map key).Nodup := by
    have hsome := hclients.map (Option.some_injective String)
    rw [List.map_map] at hsome
    rw [hkeys]
    exact hsome
  have hsame : (fun c : Connection α => (t.devices[c.target]?).any fun e => e.id = clients[j].id)
      = fun c => decide (key c = key (branch j)) := by
    funext c
    rw [hkey, List.getElem?_eq_getElem hj]
    cases hc : t.devices[c.target]? <;> simp [key, hc]
  rw [leadingTo, h.connections, weighLinks_links, List.filter_append, List.filter_eq_nil_iff.mpr,
    List.nil_append, hsame]
  · exact filter_key key hdistinct (List.mem_map_of_mem (List.mem_range.mpr hj))
  · intro c hc
    obtain ⟨link, hlink, rfl⟩ := List.mem_map.mp hc
    obtain ⟨e, he, -, hdevices⟩ := h.exists_of_mem_trunkLinks hlink
    have hne : e.id ≠ clients[j].id :=
      hdisjoint _ (List.mem_map_of_mem he) _ (List.mem_map_of_mem (List.getElem_mem hj))
    simp only [weighed, hdevices, Option.any_some]
    simpa using hne

/-- The source of the connection to a client is the device before the clients. -/
theorem endpoints_client (h : Forked balancers core clients t) {j : Nat} {g d : Device α}
    (hg : core.getLast? = some g) (hd : clients[j]? = some d) :
    t.endpoints (weighed t.devices (busiest t.devices (links balancers clients.length))
      (branchLink balancers.length j)) = some (g, d) := by
  have hlast : core[balancers.length + 1]? = some g := by
    rw [List.getLast?_eq_getElem?, h.length_core] at hg
    exact hg
  have hlt : balancers.length + 1 < core.length := by
    rw [h.length_core]
    omega
  refine endpoints_eq_some_iff.mpr ⟨?_, ?_⟩
  · rw [h.devices]
    exact (List.getElem?_append_left hlt).trans hlast
  · exact (h.getElem?_branch j).trans hd

end

/-- The largest throughput does not depend on the order of the clients. -/
theorem busiest_eq {balancers : List BalancerConfig} {core clients clients' : List (Device Float)}
    {t t' : Topology Float} (h : Forked balancers core clients t)
    (h' : Forked balancers core clients' t')
    (hperm : (clients'.map Device.throughput).Perm (clients.map Device.throughput)) :
    busiest t'.devices (links balancers clients'.length)
      = busiest t.devices (links balancers clients.length) := by
  have hlist := hperm.append_left ((trunkLinks balancers).map (Link.throughput core))
  rw [← h.map_throughput, ← h'.map_throughput] at hlist
  exact Binary64.foldl_max_perm hlist

end Forked

section

variable {α : Type} [Scalar α] (config : Configuration) (stats : Statistics)
  (identities : IdentityMap) (layout : Layout α)

/-- The devices of a report that are no clients. -/
def coreDevices : List (Device α) :=
  ispDevice stats.traffic layout :: balancerDevices config stats layout ++
    [gatewayDevice stats.traffic config.settings layout]

/-- A topology has a trunk and a branch for every client. -/
theorem forked_build :
    Forked (firstOfEach (·.address) config.balancers) (coreDevices config stats layout)
      (clientDevices stats identities layout) (build config stats identities layout) where
  devices := by
    rw [devices_build, coreDevices, List.append_assoc]
    rfl
  length_core := by
    rw [coreDevices, balancerDevices]
    simp
  layer_core := by
    intro d hd
    rw [coreDevices, List.mem_append, List.mem_cons, List.mem_singleton] at hd
    rcases hd with (rfl | hd) | rfl
    · show Layer.isp ≠ Layer.client
      decide
    · rw [layer_of_mem_balancerDevices config stats layout hd]
      decide
    · show Layer.gateway ≠ Layer.client
      decide
  layer_clients := fun d hd => layer_of_mem_clientDevices stats identities layout hd
  nodup := nodup_id_build config stats identities layout
  connections := by
    rw [clientDevices, List.length_mapIdx, ← distinctBy_nil, ← distinctBy_nil]
    rfl

/-- The throughput that a source shows. -/
def sourceThroughput (α : Type) [Scalar α] (s : SourceStats) : α :=
  Label.kbps (Label.rate α s.bytesInPerSecond) + Label.kbps (Label.rate α s.bytesOutPerSecond)

theorem map_throughput_clientDevices :
    (clientDevices stats identities layout).map Device.throughput
      = (firstOfEach (·.sourceIp) stats.sources).map (sourceThroughput α) := by
  rw [clientDevices, map_mapIdx]
  exact mapIdx_eq_map (sourceThroughput α) _

/-- Where the sources are distinct, every one of them is shown as a client somewhere. -/
theorem exists_client (hdistinct : (stats.sources.map (·.sourceIp)).Nodup) {s : SourceStats}
    (hs : s ∈ stats.sources) :
    ∃ (j : Nat) (position : Point α), (clientDevices stats identities layout)[j]?
      = some (clientDevice s (identityOf identities s.sourceIp) position) := by
  obtain ⟨j, hj, rfl⟩ := List.getElem_of_mem hs
  refine ⟨j, layout.place .client stats.sources.length Layout.clientSpacing j, ?_⟩
  rw [clientDevices, firstOfEach_of_nodup _ hdistinct, List.getElem?_mapIdx,
    List.getElem?_eq_getElem hj, Option.map_some]

end

/-- A client with an address that is shown alike in two topologies: as a device in at most another
place, to which one connection leads, from the gateway and with one load. -/
def AlikeClient {α : Type} (t t' : Topology α) (g : Device α) (ip : String) : Prop :=
  ∃ d d' c c',
    t.device? (clientId ip) = some d ∧ t'.device? (clientId ip) = some d' ∧
    d.Moved (fun _ _ => True) d' ∧
    t.leadingTo (fun e => e.id = clientId ip) = [c] ∧
    t'.leadingTo (fun e => e.id = clientId ip) = [c'] ∧
    t.endpoints c = some (g, d) ∧ t'.endpoints c' = some (g, d') ∧
    c.enabled = true ∧ c'.enabled = true ∧ c'.load = c.load

/-- Another order of the sources leaves the largest throughput. -/
theorem busiest_of_sources_perm (config : Configuration) (stats : Statistics)
    (identities : IdentityMap) (layout : Layout Float)
    (hdistinct : (stats.sources.map (·.sourceIp)).Nodup) {sources : List SourceStats}
    (hperm : sources.Perm stats.sources) :
    busiest (build config { stats with sources } identities layout).devices
        (links (firstOfEach (·.address) config.balancers)
          (clientDevices { stats with sources } identities layout).length)
      = busiest (build config stats identities layout).devices
        (links (firstOfEach (·.address) config.balancers)
          (clientDevices stats identities layout).length) := by
  have hdistinct' : (sources.map (·.sourceIp)).Nodup := (hperm.map _).nodup_iff.mpr hdistinct
  apply (forked_build config stats identities layout).busiest_eq
    (forked_build config { stats with sources } identities layout)
  rw [map_throughput_clientDevices, map_throughput_clientDevices, firstOfEach_of_nodup _ hdistinct,
    firstOfEach_of_nodup _ hdistinct']
  exact hperm.map _

/-- Another order of the sources shows every client alike. -/
theorem alike_of_sources_perm (config : Configuration) (stats : Statistics) (identities : IdentityMap)
    (layout : Layout Float) (hdistinct : (stats.sources.map (·.sourceIp)).Nodup)
    {sources : List SourceStats} (hperm : sources.Perm stats.sources) {s : SourceStats}
    (hs : s ∈ stats.sources) :
    AlikeClient (build config stats identities layout)
      (build config { stats with sources } identities layout)
      (gatewayDevice stats.traffic config.settings layout) s.sourceIp := by
  have h := forked_build config stats identities layout
  have h' := forked_build config { stats with sources } identities layout
  have hdistinct' : (sources.map (·.sourceIp)).Nodup := (hperm.map _).nodup_iff.mpr hdistinct
  obtain ⟨j, p, hj⟩ := exists_client stats identities layout hdistinct hs
  obtain ⟨j', p', hj'⟩ :=
    exists_client { stats with sources } identities layout hdistinct' (hperm.mem_iff.mpr hs)
  have hbusiest := busiest_of_sources_perm config stats identities layout hdistinct hperm
  have hlast : (coreDevices config stats layout).getLast?
      = some (gatewayDevice stats.traffic config.settings layout) := List.getLast?_concat
  refine ⟨_, _, _, _, device?_id h.nodup (d := clientDevice s _ p) ?_,
    device?_id h'.nodup (d := clientDevice s _ p') ?_, ⟨rfl, trivial⟩, h.leadingTo_client hj,
    h'.leadingTo_client hj', h.endpoints_client hlast hj, h'.endpoints_client hlast hj', rfl, rfl, ?_⟩
  · rw [h.devices]
    exact List.mem_append_right _ (List.mem_of_getElem? hj)
  · rw [h'.devices]
    exact List.mem_append_right _ (List.mem_of_getElem? hj')
  · have hthroughput : (branchLink (firstOfEach (·.address) config.balancers).length j').throughput
        (build config { stats with sources } identities layout).devices
        = (branchLink (firstOfEach (·.address) config.balancers).length j).throughput
        (build config stats identities layout).devices := by
      rw [Link.throughput, Link.throughput, h.getElem?_branch, h'.getElem?_branch, hj, hj']
      rfl
    simp only [weighed, hthroughput, hbusiest]

/-- Another order of the live counters of load balancers is the same topology. -/
theorem build_of_balancers_perm {α : Type} [Scalar α] (config : Configuration) (stats : Statistics)
    (identities : IdentityMap) (layout : Layout α)
    (hdistinct : (stats.balancers.map (·.address)).Nodup) {balancers : List BalancerStats}
    (hperm : balancers.Perm stats.balancers) :
    build config { stats with balancers } identities layout
      = build config stats identities layout := by
  have hdevice : (balancerDevice { stats with balancers } : BalancerConfig → Nat → Point α → Device α)
      = balancerDevice stats := by
    funext lb i p
    simp only [balancerDevice, find?_of_perm _ hdistinct hperm]
  simp only [build, hdevice]

/-- The order in which a report lists its sources decides nothing but the places of their clients: where
the sources are distinct, every client and its connection from the gateway are shown alike in every
order, and the other devices, the other connections and the summary are the same. The order of the live
counters of load balancers, where their addresses are distinct, decides nothing. -/
theorem alike_of_perm (config : Configuration) (stats : Statistics) (identities : IdentityMap)
    (layout : Layout Float) :
    ((stats.sources.map (·.sourceIp)).Nodup →
      ∀ sources : List SourceStats, sources.Perm stats.sources →
        let t := build config stats identities layout
        let t' := build config { stats with sources } identities layout
        (∀ s ∈ stats.sources,
          AlikeClient t t' (gatewayDevice stats.traffic config.settings layout) s.sourceIp) ∧
        t'.devices.filter (fun d => d.layer ≠ .client)
          = t.devices.filter (fun d => d.layer ≠ .client) ∧
        t'.leadingTo (fun d => d.layer ≠ .client) = t.leadingTo (fun d => d.layer ≠ .client) ∧
        t'.summary = t.summary) ∧
    ((stats.balancers.map (·.address)).Nodup →
      ∀ balancers : List BalancerStats, balancers.Perm stats.balancers →
        build config { stats with balancers } identities layout
          = build config stats identities layout) := by
  refine ⟨fun hdistinct sources hperm => ?_, fun hdistinct balancers hperm =>
    build_of_balancers_perm config stats identities layout hdistinct hperm⟩
  intro t t'
  have h := forked_build config stats identities layout
  have h' := forked_build config { stats with sources } identities layout
  have hbusiest := busiest_of_sources_perm config stats identities layout hdistinct hperm
  refine ⟨fun s hs => alike_of_sources_perm config stats identities layout hdistinct hperm hs,
    ?_, ?_, ?_⟩
  · rw [h.filter_devices, h'.filter_devices]
    rfl
  · rw [h.leadingTo_core, h'.leadingTo_core, hbusiest]
    rfl
  · have hdistinct' : (sources.map (·.sourceIp)).Nodup := (hperm.map _).nodup_iff.mpr hdistinct
    have hclients : (distinctBy (·.sourceIp) [] sources).length
        = (distinctBy (·.sourceIp) [] stats.sources).length := by
      rw [distinctBy_nil, distinctBy_nil, firstOfEach_of_nodup _ hdistinct,
        firstOfEach_of_nodup _ hdistinct', hperm.length_eq]
    simp only [t, t', build, hclients]

/-- Two sources, the second of them busier, behind two load balancers. -/
def twoSources : Statistics :=
  { balancers := [{ address := "a", bytesInPerSecond := 125 }, { address := "b" }]
    sources := [{ sourceIp := "10.0.0.5", bytesInPerSecond := 1250 },
      { sourceIp := "10.0.0.6", bytesInPerSecond := 500000 }] }

theorem alike_of_perm_swapped :
    let config : Configuration := { balancers := [{ address := "b" }, { address := "a" }] }
    let layout : Layout Float := { width := 1200.0, height := 700.0 }
    let t := build config twoSources [] layout
    let t' := build config { twoSources with sources := twoSources.sources.reverse } [] layout
    (twoSources.sources.map (·.sourceIp)).Nodup ∧ (twoSources.balancers.map (·.address)).Nodup ∧
      AlikeClient t t' (gatewayDevice {} {} layout) "10.0.0.5" ∧
      build config { twoSources with balancers := twoSources.balancers.reverse } [] layout = t := by
  intro config layout t t'
  have hsources : (twoSources.sources.map (·.sourceIp)).Nodup := by decide
  have hbalancers : (twoSources.balancers.map (·.address)).Nodup := by decide
  obtain ⟨hclients, hcounters⟩ := alike_of_perm config twoSources [] layout
  have hfirst := (hclients hsources _ (List.reverse_perm _)).1 _ (List.mem_cons_self ..)
  exact ⟨hsources, hbalancers, hfirst, hcounters hbalancers _ (List.reverse_perm _)⟩

end TrafficMap.Topology
