import Mathlib
import TrafficMap.Geometry.Path
import TrafficMap.Proofs.Number.Exact

/-!
# Points near a route

`Path.locate` walks along the segments of a route and falls back to its ends where it runs out of them.
In exact arithmetic it always ends on the route, with a direction that is no longer than one
(`Path.located`): the walk keeps a remaining length that is not negative, so it stops at a fraction of a
segment, and both ends are on the route. So a point moved sideways stays as near to the route as it was
moved (`Path.exists_near`).
-/

namespace TrafficMap

open Exact

namespace Point

/-- Whether a point lies on a segment. -/
def OnSegment {α : Type} [Scalar α] (q : Point α) (segment : Point α × Point α) : Prop :=
  ∃ t, 0.0 ≤ t ∧ t ≤ 1.0 ∧ q = segment.1.lerp segment.2 t

/-- Whether a point lies on a line from corner to corner. -/
def OnLine {α : Type} [Scalar α] (q : Point α) (corners : List (Point α)) : Prop :=
  ∃ segment ∈ corners.zip corners.tail, q.OnSegment segment

/-- A point in the plane of numbers. -/
def Proper (p : Point Exact) : Prop :=
  ∃ x y : ℝ, p = ⟨number x, number y⟩

/-- The distance of two proper points is a number. -/
theorem exists_distance {p q : Point Exact} (hp : p.Proper) (hq : q.Proper) :
    ∃ d, p.distance q = number d ∧ 0 ≤ d := by
  obtain ⟨x, y, rfl⟩ := hp
  obtain ⟨x', y', rfl⟩ := hq
  refine ⟨_, ?_, Real.sqrt_nonneg ((x' - x) ^ 2 + (y' - y) ^ 2)⟩
  simp only [distance, number_sub, hypot_number]

/-- A point between two others, in coordinates. -/
theorem lerp_number (x y x' y' t : ℝ) :
    lerp ⟨number x, number y⟩ ⟨number x', number y'⟩ (number t)
      = ⟨number (x + (x' - x) * t), number (y + (y' - y) * t)⟩ := by
  simp only [lerp, number_sub, number_mul, number_add]

/-- A segment begins on itself. -/
theorem Proper.onSegment_left {a b : Point Exact} (ha : a.Proper) (hb : b.Proper) :
    a.OnSegment (a, b) := by
  obtain ⟨x, y, rfl⟩ := ha
  obtain ⟨x', y', rfl⟩ := hb
  refine ⟨number 0, ?_, ?_, ?_⟩
  · rw [zero_eq, number_le]
  · rw [one_eq, number_le]
    exact zero_le_one
  · rw [lerp_number, mul_zero, add_zero, mul_zero, add_zero]

/-- A segment ends on itself. -/
theorem Proper.onSegment_right {a b : Point Exact} (ha : a.Proper) (hb : b.Proper) :
    b.OnSegment (a, b) := by
  obtain ⟨x, y, rfl⟩ := ha
  obtain ⟨x', y', rfl⟩ := hb
  refine ⟨number 1, ?_, ?_, ?_⟩
  · rw [zero_eq, number_le]
    exact zero_le_one
  · rw [one_eq, number_le]
  · rw [lerp_number, mul_one, add_sub_cancel, mul_one, add_sub_cancel]

/-- A point on a segment between proper points is proper. -/
theorem OnSegment.proper {q : Point Exact} {segment : Point Exact × Point Exact}
    (h : q.OnSegment segment) (ha : segment.1.Proper) (hb : segment.2.Proper) : q.Proper := by
  obtain ⟨t, hlow, hhigh, rfl⟩ := h
  obtain ⟨x, y, ha⟩ := ha
  obtain ⟨x', y', hb⟩ := hb
  rw [zero_eq] at hlow
  rw [one_eq] at hhigh
  obtain ⟨t, rfl, -, -⟩ := exists_number hlow hhigh
  rw [ha, hb, lerp_number]
  exact ⟨_, _, rfl⟩

end Point

namespace Path

/-! ## Walking along segments -/

/-- A direction no longer than one. -/
def Direction.Short (d : Direction Exact) : Prop :=
  ∃ u v : ℝ, d = (number u, number v) ∧ u ^ 2 + v ^ 2 ≤ 1

theorem short_zero : Direction.Short (0.0, 0.0) := by
  refine ⟨0, 0, ?_, by norm_num⟩
  rw [zero_eq]

/-- A segment long enough has a direction of length one. -/
theorem short_direction {a b : Point Exact} (ha : a.Proper) (hb : b.Proper) :
    (direction a b).Short := by
  obtain ⟨x, y, rfl⟩ := ha
  obtain ⟨x', y', rfl⟩ := hb
  unfold direction
  dsimp only
  split_ifs with hlen
  · rw [Point.distance] at hlen ⊢
    dsimp only at hlen ⊢
    rw [number_sub, number_sub, hypot_number] at hlen ⊢
    rw [epsilon_eq] at hlen
    have hpos : 0 < √((x' - x) ^ 2 + (y' - y) ^ 2) :=
      lt_trans (by positivity : (0 : ℝ) < 1 / 2 ^ 52) hlen
    rw [number_div _ hpos.ne', number_div _ hpos.ne']
    refine ⟨_, _, rfl, ?_⟩
    have hsquare : √((x' - x) ^ 2 + (y' - y) ^ 2) ^ 2 = (x' - x) ^ 2 + (y' - y) ^ 2 :=
      Real.sq_sqrt (by positivity)
    have hsum : 0 < (x' - x) ^ 2 + (y' - y) ^ 2 := Real.sqrt_pos.mp hpos
    rw [div_pow, div_pow, ← add_div, hsquare, div_self hsum.ne']
  · exact short_zero

/-- Wherever a walk over a length that is not negative stops, it stops on a segment. -/
theorem of_walk {segments : List (Point Exact × Point Exact)}
    (hproper : ∀ s ∈ segments, s.1.Proper ∧ s.2.Proper) {remaining : ℝ} (hremaining : 0 ≤ remaining)
    {found : Point Exact × Direction Exact} (h : walk (number remaining) segments = some found) :
    (∃ s ∈ segments, found.1.OnSegment s) ∧ found.2.Short := by
  induction segments generalizing remaining with
  | nil => cases h
  | cons s rest ih =>
    obtain ⟨a, b⟩ := s
    obtain ⟨ha, hb⟩ := hproper (a, b) List.mem_cons_self
    have hrest := fun s hs => hproper s (List.mem_cons_of_mem (a, b) hs)
    obtain ⟨d, hd, -⟩ := Point.exists_distance ha hb
    have later {r : ℝ} (hr : 0 ≤ r) (hfound : walk (number r) rest = some found) :
        (∃ s ∈ (a, b) :: rest, found.1.OnSegment s) ∧ found.2.Short := by
      obtain ⟨⟨s, hs, hon⟩, hshort⟩ := ih hrest hr hfound
      exact ⟨⟨s, List.mem_cons_of_mem (a, b) hs, hon⟩, hshort⟩
    -- the segment is passed over, or the walk stops on it, or it goes on with what is left
    simp only [walk, hd, epsilon_eq, number_le] at h
    split_ifs at h with hlen hend
    · exact later hremaining h
    · have hpos : 0 < d := lt_trans (by positivity) (not_le.mp hlen)
      obtain rfl := Option.some.inj h
      refine ⟨⟨(a, b), List.mem_cons_self, number (remaining / d), ?_, ?_, ?_⟩,
        short_direction ha hb⟩
      · rw [zero_eq, number_le]
        exact div_nonneg hremaining hpos.le
      · rw [one_eq, number_le]
        exact (div_le_one hpos).mpr hend
      · rw [number_div _ hpos.ne']
    · rw [number_sub] at h
      exact later (sub_nonneg.mpr (not_le.mp hend).le) h

/-! ## A place on a route -/

variable {path : Path Exact}

/-- The segments of a path lie between proper points if all of its points are proper. -/
theorem proper_of_mem_segments (h : ∀ p ∈ path.points, p.Proper) {s : Point Exact × Point Exact}
    (hs : s ∈ path.segments) : s.1.Proper ∧ s.2.Proper :=
  ⟨h _ (List.of_mem_zip hs).1, h _ (List.mem_of_mem_tail (List.of_mem_zip hs).2)⟩

/-- The length of a path is a number. -/
theorem exists_length (h : ∀ p ∈ path.points, p.Proper) : ∃ l, path.length = number l ∧ 0 ≤ l := by
  apply exists_sum
  intro x hx
  obtain ⟨s, hs, rfl⟩ := List.mem_map.mp hx
  obtain ⟨ha, hb⟩ := proper_of_mem_segments h hs
  exact Point.exists_distance ha hb

/-- A path begins on its line. -/
theorem source_onLine (h : ∀ p ∈ path.points, p.Proper) : path.source.OnLine path.points := by
  have hsource : ∃ b, (path.source, b) ∈ path.segments := by
    cases path with
    | straight a b => exact ⟨b, List.mem_cons_self⟩
    | elbow a b c d => exact ⟨b, List.mem_cons_self⟩
  obtain ⟨b, hb⟩ := hsource
  obtain ⟨hproper, hproper'⟩ := proper_of_mem_segments h hb
  exact ⟨_, hb, hproper.onSegment_left hproper'⟩

theorem lastSegment_mem (path : Path Exact) : path.lastSegment ∈ path.segments := by
  cases path with
  | straight a b => exact List.mem_cons_self
  | elbow a b c d => exact List.mem_cons_of_mem _ (List.mem_cons_of_mem _ List.mem_cons_self)

/-- A path ends on its line. -/
theorem target_onLine (h : ∀ p ∈ path.points, p.Proper) : path.target.OnLine path.points := by
  have htarget : path.target = path.lastSegment.2 := by
    cases path <;> rfl
  obtain ⟨hproper, hproper'⟩ := proper_of_mem_segments h path.lastSegment_mem
  rw [htarget]
  exact ⟨_, path.lastSegment_mem, hproper.onSegment_right hproper'⟩

/-- Every parameter is a place on the route, with a direction no longer than one. -/
theorem located (h : ∀ p ∈ path.points, p.Proper) (t : ℝ) :
    (path.locate (number t)).1.OnLine path.points ∧ (path.locate (number t)).2.Short := by
  obtain ⟨total, htotal, hnonneg⟩ := exists_length h
  have hremaining : 0 ≤ min (max t 0) 1 * total :=
    mul_nonneg (le_min (le_max_right t 0) zero_le_one) hnonneg
  unfold locate
  dsimp only
  rw [htotal, zero_eq, one_eq, clamp_number, number_mul]
  split_ifs
  · rw [← zero_eq]
    exact ⟨source_onLine h, short_zero⟩
  · cases hwalk : walk (number (min (max t 0) 1 * total)) path.segments with
    | some found => exact of_walk (fun s hs => proper_of_mem_segments h hs) hremaining hwalk
    | none =>
      -- segments that were passed over count in the length, so the walk can run out of them
      obtain ⟨ha, hb⟩ := proper_of_mem_segments h path.lastSegment_mem
      exact ⟨target_onLine h, short_direction ha hb⟩

/-- A point that is moved sideways off a route stays as near to it. -/
theorem exists_near (h : ∀ p ∈ path.points, p.Proper) (t : ℝ) {lateral bound : ℝ}
    (hlateral : |lateral| ≤ bound) :
    ∃ q, q.OnLine path.points ∧
      (path.pointAtOffset (number t) (number lateral)).distance q ≤ number bound := by
  obtain ⟨⟨s, hs, hon⟩, u, v, hdirection, hshort⟩ := located h t
  obtain ⟨ha, hb⟩ := proper_of_mem_segments h hs
  obtain ⟨x, y, hq⟩ := hon.proper ha hb
  refine ⟨_, ⟨s, hs, hon⟩, ?_⟩
  have hpoint : path.pointAtOffset (number t) (number lateral)
      = ⟨number (x - v * lateral), number (y + u * lateral)⟩ := by
    unfold pointAtOffset
    rw [← Prod.eta (path.locate (number t)), hq, hdirection]
    simp only [number_sub, number_mul, number_add]
  have hsquare : (x - (x - v * lateral)) ^ 2 + (y - (y + u * lateral)) ^ 2
      = (u ^ 2 + v ^ 2) * lateral ^ 2 := by
    ring
  have hle : (u ^ 2 + v ^ 2) * lateral ^ 2 ≤ bound ^ 2 :=
    calc (u ^ 2 + v ^ 2) * lateral ^ 2 ≤ 1 * lateral ^ 2 :=
          mul_le_mul_of_nonneg_right hshort (sq_nonneg lateral)
      _ = |lateral| ^ 2 := by rw [one_mul, sq_abs]
      _ ≤ bound ^ 2 := pow_le_pow_left₀ (abs_nonneg lateral) hlateral 2
  rw [hpoint, hq, Point.distance, number_sub, number_sub, hypot_number, number_le, hsquare]
  exact (Real.sqrt_le_left ((abs_nonneg lateral).trans hlateral)).mpr hle

/-- The corners of a route between two points of the plane lie in the plane. -/
theorem proper_route {a b : Point Exact} (ha : a.Proper) (hb : b.Proper) :
    ∀ p ∈ (route a b).points, p.Proper := by
  have hmiddle : ∃ m, a.x + elbowFraction * (b.x - a.x) = number m := by
    obtain ⟨x, y, rfl⟩ := ha
    obtain ⟨x', y', rfl⟩ := hb
    refine ⟨x + 0.6 * (x' - x), ?_⟩
    simp only [elbowFraction, ofScientific_eq, number_sub, number_mul, number_add]
  intro p hp
  unfold route at hp
  dsimp only at hp
  split_ifs at hp
  · simp only [points, List.mem_cons, List.not_mem_nil, or_false] at hp
    rcases hp with rfl | rfl
    · exact ha
    · exact hb
  · obtain ⟨m, hm⟩ := hmiddle
    rw [hm] at hp
    simp only [points, List.mem_cons, List.not_mem_nil, or_false] at hp
    obtain ⟨x, y, rfl⟩ := ha
    obtain ⟨x', y', rfl⟩ := hb
    rcases hp with rfl | rfl | rfl | rfl
    · exact ⟨x, y, rfl⟩
    · exact ⟨m, y, rfl⟩
    · exact ⟨m, y', rfl⟩
    · exact ⟨x', y', rfl⟩

end Path

end TrafficMap
