import Mathlib
import TrafficMap.Proofs.Particle.Profile
import TrafficMap.Proofs.Topology.Layers
import TrafficMap.Proofs.Traffic.RoundTrip

/-!
# Loads of connections

All connections of a topology are compared with the busiest one among them. Labels read as numbers whatever
they hold, so in exact arithmetic every load is a part of the busiest one (`LinkLoad.PartOf`), for any devices
and links (`exists_partOf`). `loads_of_build` says what that means for the topology of a report.
-/

namespace TrafficMap

open Exact

/-! ## Parts of the busiest load -/

/-- A load that is compared with the busiest one, which counts as at least one Kbps. -/
structure LinkLoad.PartOf (busiest current : ℝ) (load : LinkLoad Exact) : Prop where
  current_eq : load.current = number current
  busiest_eq : load.busiest = number busiest
  ratio_eq : load.ratio = number (current / max busiest 1)
  nonneg : 0 ≤ current
  le_busiest : current ≤ busiest

section

variable {busiest current : ℝ} (hlow : 0 ≤ current) (hhigh : current ≤ busiest)

include hlow hhigh

theorem div_busiest_bounds : 0 ≤ current / max busiest 1 ∧ current / max busiest 1 ≤ 1 := by
  have hbusiest : 0 ≤ max busiest 1 := zero_le_one.trans (le_max_right busiest 1)
  exact ⟨div_nonneg hlow hbusiest, div_le_one_of_le₀ (hhigh.trans (le_max_left busiest 1)) hbusiest⟩

/-- The ratio of a part is the quotient, which is in its range already. -/
theorem usageRatio_of_le :
    usageRatio (number current) (number busiest) = number (current / max busiest 1) := by
  obtain ⟨hratio, hratio'⟩ := div_busiest_bounds hlow hhigh
  rw [usageRatio_number, max_eq_left hratio, min_eq_left hratio']

end

/-! ## Weighing -/

/-- What a device moves is a number, whatever its labels hold. -/
theorem Device.exists_throughput (d : Device Exact) : ∃ r, d.throughput = number r ∧ 0 ≤ r := by
  obtain ⟨x, hx, hx'⟩ := Label.exists_kbps d.download
  obtain ⟨y, hy, hy'⟩ := Label.exists_kbps d.upload
  exact ⟨x + y, by rw [Device.throughput, hx, hy, number_add], add_nonneg hx' hy'⟩

section

variable (devices : List (Device Exact))

theorem Link.exists_throughput (link : Link) : ∃ r, link.throughput devices = number r ∧ 0 ≤ r := by
  unfold Link.throughput
  split
  · exact Device.exists_throughput _
  · exact ⟨0, zero_eq, le_rfl⟩

/-- The load of a connection is that of the device that it leads to. -/
theorem current_of_mem_weighLinks {links : List Link} {c : Connection Exact}
    (hc : c ∈ weighLinks devices links) {d : Device Exact} (hd : devices[c.target]? = some d) :
    c.load.current = d.throughput := by
  obtain ⟨link, -, rfl⟩ := List.mem_map.mp hc
  dsimp only at hd ⊢
  rw [Link.throughput, hd]

/-- Weighing compares all connections with the busiest one, which is one of them if there are any. -/
theorem exists_partOf (links : List Link) :
    ∃ busiest : ℝ,
      ((weighLinks devices links).map (·.load.current)).foldl Scalar.max 0.0 = number busiest ∧
      (weighLinks devices links ≠ [] →
        ∃ c ∈ weighLinks devices links, c.load.current = number busiest) ∧
      ∀ c ∈ weighLinks devices links, ∃ r, c.load.PartOf busiest r := by
  have hcurrent : (weighLinks devices links).map (·.load.current)
      = links.map (Link.throughput devices) := by
    simp [weighLinks]
  have hnumber (link : Link) : ∃ r, link.throughput devices = number r ∧ 0 ≤ r :=
    Link.exists_throughput devices link
  obtain ⟨busiest, hbusiest, hmem, hle⟩ :
      ∃ m, (links.map (Link.throughput devices)).foldl Scalar.max 0.0 = number m ∧
        number m ∈ number 0 :: links.map (Link.throughput devices) ∧
        ∀ r, number r ∈ number 0 :: links.map (Link.throughput devices) → r ≤ m := by
    refine exists_foldl_max fun x hx => ?_
    obtain ⟨link, -, rfl⟩ := List.mem_map.mp hx
    obtain ⟨r, hr, -⟩ := hnumber link
    exact ⟨r, hr⟩
  have hparts : ∀ c ∈ weighLinks devices links, ∃ r, c.load.PartOf busiest r := by
    intro c hc
    obtain ⟨link, hlink, rfl⟩ := List.mem_map.mp hc
    obtain ⟨r, hr, hr'⟩ := hnumber link
    have hrle : r ≤ busiest := hle r (List.mem_cons_of_mem _ (List.mem_map.mpr ⟨link, hlink, hr⟩))
    refine ⟨r, hr, hbusiest, ?_, hr', hrle⟩
    dsimp only
    rw [hr, hbusiest, usageRatio_of_le hr' hrle]
  refine ⟨busiest, hcurrent ▸ hbusiest, fun hne => ?_, hparts⟩
  rcases List.mem_cons.mp hmem with hzero | hmem
  · -- without traffic every connection is as busy as the busiest one
    obtain rfl : busiest = 0 := by injection hzero
    obtain ⟨c, hc⟩ := List.exists_mem_of_ne_nil _ hne
    obtain ⟨r, hr⟩ := hparts c hc
    exact ⟨c, hc, by rw [hr.current_eq, le_antisymm hr.le_busiest hr.nonneg]⟩
  · rw [← hcurrent] at hmem
    exact List.mem_map.mp hmem

end

namespace Topology

/-- All connections of a topology carry one busiest throughput: the largest of their own, which is one of
them, or zero if there are none. A connection is as busy as the labels of its target say in both directions
together, and its ratio lies between 0 and 1. From one Kbps on, the ratio is the quotient by the busiest
throughput, and 1 for the busiest connections only; below, it is the throughput itself. -/
theorem loads_of_build (config : Configuration) (stats : Statistics) (identities : IdentityMap)
    (layout : Layout Exact) :
    let t := build config stats identities layout
    ∃ busiest : ℝ,
      (t.connections.map (·.load.current)).foldl Scalar.max 0.0 = number busiest ∧
      (t.connections = [] → busiest = 0) ∧
      (t.connections ≠ [] → ∃ c ∈ t.connections, c.load.current = number busiest) ∧
      ∀ c ∈ t.connections, ∃ (d : Device Exact) (current ratio : ℝ),
        t.devices[c.target]? = some d ∧
        c.load.current = Label.kbps d.download + Label.kbps d.upload ∧
        c.load.current = number current ∧ c.load.busiest = number busiest ∧
        c.load.ratio = number ratio ∧
        0 ≤ current ∧ current ≤ busiest ∧ 0 ≤ ratio ∧ ratio ≤ 1 ∧
        (1 ≤ busiest → ratio = current / busiest ∧ (ratio = 1 ↔ current = busiest)) ∧
        (busiest < 1 → ratio = current) := by
  intro t
  obtain ⟨ls, hls⟩ : ∃ ls, t.connections = weighLinks t.devices ls := ⟨_, rfl⟩
  obtain ⟨busiest, hbusiest, hattained, hparts⟩ := exists_partOf t.devices ls
  rw [← hls] at hbusiest hattained hparts
  refine ⟨busiest, hbusiest, fun hnil => ?_, hattained, fun c hc => ?_⟩
  · rw [hnil, List.map_nil, List.foldl_nil, zero_eq] at hbusiest
    injection hbusiest with hzero
    exact hzero.symm
  · obtain ⟨a, d, hends, -⟩ := next_layer_of_mem config stats identities layout hc
    obtain ⟨-, htarget⟩ := endpoints_eq_some_iff.mp hends
    have hthroughput : c.load.current = d.throughput :=
      current_of_mem_weighLinks t.devices (hls ▸ hc) htarget
    obtain ⟨current, hcurrent, hmax, hratio, hlow, hhigh⟩ := hparts c hc
    obtain ⟨hratio_low, hratio_high⟩ := div_busiest_bounds hlow hhigh
    refine ⟨d, current, current / max busiest 1, htarget, hthroughput, hcurrent, hmax, hratio, hlow, hhigh,
      hratio_low, hratio_high, fun hlarge => ?_, fun hsmall => ?_⟩
    · rw [max_eq_left hlarge]
      exact ⟨rfl, div_eq_one_iff_eq (one_pos.trans_le hlarge).ne'⟩
    · rw [max_eq_right hsmall.le, div_one]

end Topology

end TrafficMap
