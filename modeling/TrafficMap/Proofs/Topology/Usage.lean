import Mathlib
import TrafficMap.Proofs.Topology.Loads
import TrafficMap.Scene.Render

/-!
# Busier connections look busier

A report counts the bytes of every device (`Topology.counted`), but a connection is weighed by what the
labels of its target show. In exact arithmetic nothing is lost on the way that could turn the order of two
connections around: labels read back in the order of the counts, ratios keep it, and so does everything
that is drawn from them (`Connection.Busier`). `busier_of_counted` is the result for every report and
layout, with the ranges in which the drawing stays (`Connection.InRange`).
-/

namespace TrafficMap

open Exact

/-! ## What usage is seen by -/

namespace Connection

/-- A connection that is at least as busy as another one in everything that usage is seen by. -/
structure Busier (a b : Connection Exact) : Prop where
  ratio : b.load.ratio ≤ a.load.ratio
  count : (FlowProfile.ofLoad b.load).count ≤ (FlowProfile.ofLoad a.load).count
  baseSpeed : (FlowProfile.ofLoad b.load).baseSpeed ≤ (FlowProfile.ofLoad a.load).baseSpeed
  size : (FlowProfile.ofLoad b.load).size ≤ (FlowProfile.ofLoad a.load).size
  opacity : (FlowProfile.ofLoad b.load).opacity ≤ (FlowProfile.ofLoad a.load).opacity
  strokeWidth : (Scene.connectionStyle b).width ≤ (Scene.connectionStyle a).width
  strokeOpacity : (Scene.connectionStyle b).color.alpha ≤ (Scene.connectionStyle a).color.alpha

/-- The ranges in which a connection is drawn. -/
structure InRange (c : Connection Exact) : Prop where
  two_le_count : 2 ≤ (FlowProfile.ofLoad c.load).count
  count_le_six : (FlowProfile.ofLoad c.load).count ≤ 6
  two_le_strokeWidth : 2.0 ≤ (Scene.connectionStyle c).width
  strokeWidth_le_eight : (Scene.connectionStyle c).width ≤ 8.0
  le_strokeOpacity : 0.6 ≤ (Scene.connectionStyle c).color.alpha
  strokeOpacity_le_one : (Scene.connectionStyle c).color.alpha ≤ 1.0

/-- An enabled connection that uses a part of the busiest throughput. -/
structure Uses (busiest r : ℝ) (c : Connection Exact) : Prop where
  enabled : c.enabled = true
  busiest_eq : c.load.busiest = number busiest
  ratio_eq : c.load.ratio = number r
  nonneg : 0 ≤ r
  le_one : r ≤ 1

namespace Uses

variable {busiest r r' : ℝ} {a b c : Connection Exact}

theorem ofLoad_eq (h : c.Uses busiest r) : FlowProfile.ofLoad c.load = FlowProfile.ofRatio (number r) := by
  rw [FlowProfile.ofLoad, h.ratio_eq]

theorem ratio_clamp (h : c.Uses busiest r) : Scalar.clamp c.load.ratio 0.0 1.0 = number r := by
  rw [h.ratio_eq, zero_eq, one_eq, clamp_number, max_eq_left h.nonneg, min_eq_left h.le_one]

/-- The busiest throughput has a part in the stroke width by its order of magnitude, which is the same for
all connections. -/
theorem exists_strokeWidth (busiest : ℝ) :
    ∃ magnitude : ℝ, 0 ≤ magnitude ∧ magnitude ≤ 1 ∧ ∀ {c : Connection Exact} {r : ℝ}, c.Uses busiest r →
      (Scene.connectionStyle c).width = number (2 + 6 * magnitude * (0.5 + 0.5 * r)) := by
  refine ⟨min (max (Real.logb 10 (max busiest 0 + 1) / 6) 0) 1, le_min (le_max_right _ _) zero_le_one,
    min_le_right _ _, fun {c r} h => ?_⟩
  have hpositive : 0 < max busiest 0 + 1 := by positivity
  have hlog : Scalar.log10 (number (max busiest 0 + 1))
      = number (Real.logb 10 (max busiest 0 + 1)) :=
    (if_neg (not_lt.mpr hpositive.le)).trans (if_neg hpositive.ne')
  have hsix : (6.0 : Exact) = number 6 := by
    rw [ofScientific_eq]
    norm_num
  rw [Scene.connectionStyle, if_pos h.enabled]
  dsimp only
  rw [h.ratio_clamp, h.busiest_eq, Scene.minThickness, Scene.thicknessRange, hsix, two_eq, zero_eq,
    one_eq, max_number, number_add, hlog, number_div _ (by norm_num), clamp_number]
  simp only [ofScientific_eq, number_mul, number_add]

theorem strokeOpacity_eq (h : c.Uses busiest r) :
    (Scene.connectionStyle c).color.alpha = number (0.6 + 0.4 * r) := by
  have hlow : (0 : ℝ) ≤ 0.6 + 0.4 * r := by linarith [h.nonneg]
  have hhigh : 0.6 + 0.4 * r ≤ 1 := by linarith [h.le_one]
  have hvalue : (0.6 + 0.4 * number r : Exact) = number (0.6 + 0.4 * r) := by
    simp only [ofScientific_eq, number_mul, number_add]
  rw [Scene.connectionStyle, if_pos h.enabled]
  dsimp only
  rw [h.ratio_clamp, hvalue, Color.withAlpha, if_pos (isFinite_number _), zero_eq, one_eq, clamp_number,
    max_eq_left hlow, min_eq_left hhigh]

/-- Of two connections with one busiest throughput, the one that uses more of it is the busier one. -/
theorem busier (ha : a.Uses busiest r) (hb : b.Uses busiest r') (h : r' ≤ r) : a.Busier b := by
  have hprofile := FlowProfile.ofRatio_number ha.nonneg ha.le_one
  have hprofile' := FlowProfile.ofRatio_number hb.nonneg hb.le_one
  obtain ⟨magnitude, hmagnitude, -, hwidth⟩ := exists_strokeWidth busiest
  constructor
  · rw [ha.ratio_eq, hb.ratio_eq]
    exact h
  · rw [ha.ofLoad_eq, hb.ofLoad_eq, hprofile, hprofile']
    exact Nat.floor_mono (by linarith)
  · rw [ha.ofLoad_eq, hb.ofLoad_eq, hprofile, hprofile', number_le]
    linarith
  · rw [ha.ofLoad_eq, hb.ofLoad_eq, hprofile, hprofile', number_le]
    linarith
  · rw [ha.ofLoad_eq, hb.ofLoad_eq, hprofile, hprofile', number_le]
    linarith
  · rw [hwidth ha, hwidth hb, number_le]
    gcongr
  · rw [ha.strokeOpacity_eq, hb.strokeOpacity_eq, number_le]
    linarith

/-- Whatever a connection uses of the busiest throughput, its drawing stays in the ranges. -/
theorem inRange (h : c.Uses busiest r) : c.InRange := by
  have hprofile := FlowProfile.ofRatio_number h.nonneg h.le_one
  have hlow := h.nonneg
  have hhigh := h.le_one
  obtain ⟨magnitude, hmagnitude, hmagnitude', hwidth⟩ := exists_strokeWidth busiest
  have hpart : 0 ≤ magnitude * (0.5 + 0.5 * r) := mul_nonneg hmagnitude (by positivity)
  have hpart' : magnitude * (0.5 + 0.5 * r) ≤ 1 :=
    mul_le_one₀ hmagnitude' (by positivity) (by linarith)
  constructor
  · rw [h.ofLoad_eq, hprofile]
    exact Nat.le_floor (by push_cast; linarith)
  · rw [h.ofLoad_eq, hprofile]
    exact Nat.le_of_lt_succ ((Nat.floor_lt (by positivity)).mpr (by push_cast; linarith))
  · rw [hwidth h, two_eq, number_le]
    linarith
  · rw [hwidth h, ofScientific_eq, number_le]
    linarith
  · rw [h.strokeOpacity_eq, ofScientific_eq, number_le]
    linarith
  · rw [h.strokeOpacity_eq, one_eq, number_le]
    linarith

end Uses

end Connection

/-! ## What a report counts -/

namespace Topology

/-- The bytes per second that a report counts for a device. -/
structure Counted where
  /-- The key of the device. -/
  id : String
  received : UInt64
  sent : UInt64

/-- What the labels of a device show of its counts, in Kbps in both directions together. -/
noncomputable def Counted.kbps (x : Counted) : ℝ :=
  Label.shownKbps (Label.bitsOf x.received) + Label.shownKbps (Label.bitsOf x.sent)

theorem Counted.kbps_mono {x y : Counted} (hreceived : y.received ≤ x.received)
    (hsent : y.sent ≤ x.sent) : y.kbps ≤ x.kbps :=
  add_le_add (Label.shownKbps_mono (Label.bitsOf_mono hreceived))
    (Label.shownKbps_mono (Label.bitsOf_mono hsent))

/-- What a report counts for the whole appliance, which its uplink and its gateway show. -/
def countedTotal (id : String) (traffic : TrafficTotals) : Counted :=
  { id, received := traffic.bytesInPerSecond, sent := traffic.bytesOutPerSecond }

/-- What a report counts for a load balancer: nothing if it does not list its address. -/
def countedBalancer (stats : Statistics) (lb : BalancerConfig) : Counted :=
  let live := stats.balancers.find? fun s => s.address = lb.address
  { id := balancerId lb.address
    received := (live.map (·.bytesInPerSecond)).getD 0
    sent := (live.map (·.bytesOutPerSecond)).getD 0 }

/-- What a report counts for a client. -/
def countedClient (source : SourceStats) : Counted :=
  { id := clientId source.sourceIp, received := source.bytesInPerSecond
    sent := source.bytesOutPerSecond }

/-- What a report counts for the devices that it shows, in their order. -/
def counted (config : Configuration) (stats : Statistics) : List Counted :=
  countedTotal ispId stats.traffic ::
    (firstOfEach (·.address) config.balancers).map (countedBalancer stats) ++
    countedTotal gatewayId stats.traffic ::
      (firstOfEach (·.sourceIp) stats.sources).map countedClient

variable (config : Configuration) (stats : Statistics) (identities : IdentityMap)

/-- Every device is labelled with what the report counts for it. -/
theorem map_labels_build {α : Type} [Scalar α] (layout : Layout α) :
    (build config stats identities layout).devices.map (fun d => (d.id, d.download, d.upload))
      = (counted config stats).map fun x =>
          (x.id, Label.rate α x.received, Label.rate α x.sent) := by
  rw [devices_build, counted, List.map_append, List.map_append, List.map_cons, List.map_cons,
    List.map_cons, List.map_cons, balancerDevices, clientDevices, map_mapIdx, map_mapIdx,
    List.map_map, List.map_map, ← mapIdx_eq_map, ← mapIdx_eq_map]
  rfl

section

variable (layout : Layout Exact)

/-- The throughput of a device is what its labels show. -/
theorem throughput_of_counted {i : Nat} {d : Device Exact}
    (hd : (build config stats identities layout).devices[i]? = some d) :
    ∃ x, (counted config stats)[i]? = some x ∧ d.throughput = number x.kbps := by
  have hlabels := congrArg (fun labels => labels[i]?)
    (map_labels_build config stats identities layout)
  simp only [List.getElem?_map, hd, Option.map_some] at hlabels
  obtain ⟨x, hx, heq⟩ := Option.map_eq_some_iff.mp hlabels.symm
  obtain ⟨-, hdownload, hupload⟩ : x.id = d.id ∧ Label.rate Exact x.received = d.download ∧
      Label.rate Exact x.sent = d.upload := by simpa using heq
  refine ⟨x, hx, ?_⟩
  rw [Device.throughput, ← hdownload, ← hupload, Label.kbps_rate, Label.kbps_rate, number_add]
  rfl

/-- All connections are compared with one busiest throughput, each by what is counted for its target. -/
theorem uses_of_counted :
    ∃ busiest : ℝ, ∀ c ∈ (build config stats identities layout).connections, c.enabled = true →
      ∃ x, (counted config stats)[c.target]? = some x ∧ c.Uses busiest (x.kbps / max busiest 1) := by
  let t := build config stats identities layout
  obtain ⟨ls, hls⟩ : ∃ ls, t.connections = weighLinks t.devices ls := ⟨_, rfl⟩
  obtain ⟨busiest, -, -, hparts⟩ := exists_partOf t.devices ls
  refine ⟨busiest, fun c hc henabled => ?_⟩
  have hlink : c ∈ weighLinks t.devices ls := hls ▸ hc
  obtain ⟨a, b, hends, -⟩ := next_layer_of_mem config stats identities layout hc
  obtain ⟨-, htarget⟩ := endpoints_eq_some_iff.mp hends
  obtain ⟨x, hx, hkbps⟩ := throughput_of_counted config stats identities layout htarget
  obtain ⟨r, hcurrent, hbusiest, hratio, hlow, hhigh⟩ := hparts c hlink
  obtain rfl : r = x.kbps := by
    rw [current_of_mem_weighLinks t.devices hlink htarget, hkbps] at hcurrent
    injection hcurrent with hcurrent
    exact hcurrent.symm
  obtain ⟨hnonneg, hle⟩ := div_busiest_bounds hlow hhigh
  exact ⟨x, hx, henabled, hbusiest, hratio, hnonneg, hle⟩

end

/-- Every device is labelled with what a report counts for it. Every enabled connection is drawn in the
ranges, and of two enabled connections the one to whose target at least as much is counted in both
directions is at least as busy in everything that usage is seen by. -/
theorem busier_of_counted (config : Configuration) (stats : Statistics) (identities : IdentityMap)
    (layout : Layout Exact) :
    let t := build config stats identities layout
    t.devices.map (fun d => (d.id, d.download, d.upload))
        = (counted config stats).map (fun x =>
            (x.id, Label.rate Exact x.received, Label.rate Exact x.sent)) ∧
      (∀ c ∈ t.connections, c.enabled = true → c.InRange) ∧
      ∀ a ∈ t.connections, ∀ b ∈ t.connections, a.enabled = true → b.enabled = true →
        ∀ x y, (counted config stats)[a.target]? = some x → (counted config stats)[b.target]? = some y →
          y.received ≤ x.received → y.sent ≤ x.sent → a.Busier b := by
  intro t
  obtain ⟨busiest, huses⟩ := uses_of_counted config stats identities layout
  refine ⟨map_labels_build config stats identities layout, fun c hc henabled => ?_, ?_⟩
  · obtain ⟨x, -, hc⟩ := huses c hc henabled
    exact hc.inRange
  · intro a ha b hb henabled henabled' x y hx hy hreceived hsent
    obtain ⟨x', hx', ha⟩ := huses a ha henabled
    obtain ⟨y', hy', hb⟩ := huses b hb henabled'
    obtain rfl := Option.some.inj (hx.symm.trans hx')
    obtain rfl := Option.some.inj (hy.symm.trans hy')
    have hkbps := Counted.kbps_mono hreceived hsent
    have hbusiest : 0 < max busiest 1 := one_pos.trans_le (le_max_right busiest 1)
    exact ha.busier hb (by gcongr)

/-- Two clients on either side of the border between two units: `1000.0 Kbps` is shown for the first and
`1.0 Mbps` for the second. -/
theorem busier_of_counted_border :
    let stats : Statistics :=
      { sources := [{ sourceIp := "10.0.0.7", bytesInPerSecond := 124999 },
          { sourceIp := "10.0.0.8", bytesInPerSecond := 125000 }] }
    let t := build {} stats [] (Layout.ofSize 800.0 600.0 : Layout Exact)
    ∃ a ∈ t.connections, ∃ b ∈ t.connections, a.enabled = true ∧ b.enabled = true ∧
      (counted {} stats)[a.target]? = some ⟨"client:10.0.0.8", 125000, 0⟩ ∧
      (counted {} stats)[b.target]? = some ⟨"client:10.0.0.7", 124999, 0⟩ ∧
      (124999 : UInt64) ≤ 125000 ∧ (0 : UInt64) ≤ 0 ∧ a.Busier b := by
  intro stats t
  have hlinks : t.connections = weighLinks t.devices [⟨1, 2, true⟩, ⟨1, 3, true⟩] := rfl
  have hcounted : counted {} stats = [⟨"isp", 0, 0⟩, ⟨"gateway", 0, 0⟩,
      ⟨"client:10.0.0.7", 124999, 0⟩, ⟨"client:10.0.0.8", 125000, 0⟩] := rfl
  obtain ⟨b, hb, henabled', hb'⟩ : ∃ b ∈ t.connections, b.enabled = true ∧ b.target = 2 := by
    rw [hlinks]
    exact ⟨_, List.mem_cons_self, rfl, rfl⟩
  obtain ⟨a, ha, henabled, ha'⟩ : ∃ a ∈ t.connections, a.enabled = true ∧ a.target = 3 := by
    rw [hlinks]
    exact ⟨_, List.mem_cons_of_mem _ List.mem_cons_self, rfl, rfl⟩
  have hx : (counted {} stats)[a.target]? = some ⟨"client:10.0.0.8", 125000, 0⟩ := by
    rw [hcounted, ha']
    rfl
  have hy : (counted {} stats)[b.target]? = some ⟨"client:10.0.0.7", 124999, 0⟩ := by
    rw [hcounted, hb']
    rfl
  obtain ⟨-, -, hbusier⟩ := busier_of_counted {} stats [] (Layout.ofSize 800.0 600.0 : Layout Exact)
  exact ⟨a, ha, b, hb, henabled, henabled', hx, hy, by decide, by decide,
    hbusier a ha b hb henabled henabled' _ _ hx hy (by decide) (by decide)⟩

end Topology

end TrafficMap
