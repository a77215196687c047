import Mathlib
import TrafficMap.Geometry.Path
import TrafficMap.Proofs.Number.Exact

/-!
# Arc length along a route

`Path.pointAt` finds a point of a route by a walk over its segments. Where the point should be can be said
without a walk, of any line through corners in the plane: `Plane.AtArc corners s p` says that `p` lies on one of
the segments and that the segments before this one, and the way to `p` on it, are `s` long together. There is at
most one such point (`AtArc.unique`), and two of them are no farther apart than along the line
(`AtArc.dist_le`).

In exact arithmetic the walk finds this point (`Path.exists_walk`), provided that a segment that it passes over
has no length at all. So a parameter that grows evenly moves a point along the route at an even speed, across
all corners and whichever way the route runs (`Path.pointAt_of_route`).
-/

namespace TrafficMap

open Exact

/-- The plane of the picture. -/
abbrev Plane := EuclideanSpace ℝ (Fin 2)

/-! ## Points of the plane -/

namespace Point

/-- A point of the plane as it is computed with. -/
def ofPlane (p : Plane) : Point Exact :=
  ⟨number (p 0), number (p 1)⟩

theorem ofPlane_injective : Function.Injective ofPlane := by
  intro p q h
  unfold ofPlane at h
  injection h with hx hy
  injection hx with hx
  injection hy with hy
  apply PiLp.ext
  rw [Fin.forall_fin_two]
  exact ⟨hx, hy⟩

theorem distance_ofPlane (p q : Plane) : (ofPlane p).distance (ofPlane q) = number (dist p q) := by
  have hdist : dist p q = √((q 0 - p 0) ^ 2 + (q 1 - p 1) ^ 2) := by
    rw [EuclideanSpace.dist_eq, Fin.sum_univ_two, Real.dist_eq, Real.dist_eq, sq_abs, sq_abs,
      sub_sq_comm (p 0), sub_sq_comm (p 1)]
  rw [distance, ofPlane, ofPlane, number_sub, number_sub, hypot_number, hdist]

theorem lerp_ofPlane (p q : Plane) (t : ℝ) :
    (ofPlane p).lerp (ofPlane q) (number t) = ofPlane (AffineMap.lineMap p q t) := by
  have hcoordinate (i : Fin 2) : AffineMap.lineMap p q t i = p i + (q i - p i) * t := by
    simp [AffineMap.lineMap_apply, mul_comm, add_comm]
  simp only [lerp, ofPlane, number_sub, number_mul, number_add, hcoordinate]

end Point

/-! ## Lines through corners -/

namespace Plane

/-- The length of the line through corners. -/
noncomputable def arcLength (corners : List Plane) : ℝ :=
  ((corners.zip corners.tail).map fun s => dist s.1 s.2).sum

/-- A point at a distance along the line through corners, measured from the first corner. -/
inductive AtArc : List Plane → ℝ → Plane → Prop where
  /-- The point lies on the first segment. -/
  | here {a b p : Plane} {rest : List Plane} :
    p ∈ segment ℝ a b → AtArc (a :: b :: rest) (dist a p) p
  /-- The point comes after the first segment. -/
  | later {a b p : Plane} {rest : List Plane} {s : ℝ} :
    AtArc (b :: rest) s p → AtArc (a :: b :: rest) (dist a b + s) p

theorem arcLength_cons_cons (a b : Plane) (rest : List Plane) :
    arcLength (a :: b :: rest) = dist a b + arcLength (b :: rest) :=
  rfl

theorem arcLength_nonneg (corners : List Plane) : 0 ≤ arcLength corners := by
  unfold arcLength
  apply List.sum_nonneg
  intro d hd
  obtain ⟨s, -, rfl⟩ := List.mem_map.mp hd
  exact dist_nonneg

/-- The first corner is where the line begins. -/
theorem atArc_zero (a b : Plane) (rest : List Plane) : AtArc (a :: b :: rest) 0 a := by
  have hfirst : AtArc (a :: b :: rest) (dist a a) a := .here (left_mem_segment ℝ a b)
  rwa [dist_self] at hfirst

/-- The last corner is where the line ends. -/
theorem atArc_arcLength {a b c : Plane} {rest : List Plane} (hlast : (b :: rest).getLast? = some c) :
    AtArc (a :: b :: rest) (arcLength (a :: b :: rest)) c := by
  induction rest generalizing a b with
  | nil =>
    obtain rfl := Option.some.inj hlast
    have hlength : arcLength [a, b] = dist a b := add_zero (dist a b)
    rw [hlength]
    exact .here (right_mem_segment ℝ a b)
  | cons d rest ih =>
    rw [List.getLast?_cons_cons] at hlast
    rw [arcLength_cons_cons]
    exact .later (ih hlast)

/-- Two points of a segment are as far apart as their distances from its start. -/
theorem dist_of_mem_segment {a b p q : Plane} (hp : p ∈ segment ℝ a b) (hq : q ∈ segment ℝ a b) :
    dist p q = |dist a p - dist a q| := by
  rw [segment_eq_image_lineMap] at hp hq
  obtain ⟨t, ⟨ht, -⟩, rfl⟩ := hp
  obtain ⟨u, ⟨hu, -⟩, rfl⟩ := hq
  rw [dist_lineMap_lineMap, dist_left_lineMap, dist_left_lineMap, Real.norm_of_nonneg ht,
    Real.norm_of_nonneg hu, ← sub_mul, abs_mul, abs_of_nonneg dist_nonneg, Real.dist_eq]

namespace AtArc

variable {corners : List Plane} {s t : ℝ} {p q : Plane}

/-- The straight way from the first corner is no longer than the line. -/
theorem dist_head_le (h : AtArc corners s p) : ∀ a ∈ corners.head?, dist a p ≤ s := by
  induction h with
  | here _ =>
    intro c hc
    obtain rfl := Option.some.inj hc
    exact le_rfl
  | @later a b p rest s _ ih =>
    intro c hc
    obtain rfl := Option.some.inj hc
    have hrest : dist b p ≤ s := ih b rfl
    calc dist a p ≤ dist a b + dist b p := dist_triangle a b p
      _ ≤ dist a b + s := by linarith

/-- Two points of a line are no farther apart than along the line. -/
theorem dist_le (hp : AtArc corners s p) (hq : AtArc corners t q) : dist p q ≤ |s - t| := by
  -- if just one of them lies on the first segment, the way between them leads past its end
  induction hp generalizing t q with
  | @here a b p rest hp =>
    cases hq with
    | here hq => exact (dist_of_mem_segment hp hq).le
    | @later _ _ _ _ t hq =>
      have hsplit : dist a p + dist p b = dist a b := dist_add_dist_of_mem_segment hp
      have hrest : dist b q ≤ t := hq.dist_head_le b rfl
      calc dist p q ≤ dist p b + dist b q := dist_triangle p b q
        _ ≤ dist a b + t - dist a p := by linarith
        _ ≤ |dist a b + t - dist a p| := le_abs_self _
        _ = |dist a p - (dist a b + t)| := abs_sub_comm _ _
  | @later a b p rest s hp ih =>
    cases hq with
    | here hq =>
      have hsplit : dist a q + dist q b = dist a b := dist_add_dist_of_mem_segment hq
      have hrest : dist b p ≤ s := hp.dist_head_le b rfl
      calc dist p q = dist q p := dist_comm p q
        _ ≤ dist q b + dist b p := dist_triangle q b p
        _ ≤ dist a b + s - dist a q := by linarith
        _ ≤ |dist a b + s - dist a q| := le_abs_self _
    | later hq =>
      rw [add_sub_add_left_eq_sub]
      exact ih hq

/-- No line has two points at one distance. -/
theorem unique (hp : AtArc corners s p) (hq : AtArc corners s q) : p = q := by
  have hle := hp.dist_le hq
  rw [sub_self, abs_zero] at hle
  exact dist_le_zero.mp hle

end AtArc

/-! ## Segments without a length -/

/-- Two points that are the same, or farther apart than a segment that is passed over is long. -/
def Resolved (p q : Plane) : Prop :=
  dist p q = 0 ∨ Scalar.epsilon < number (dist p q)

theorem resolved_iff {p q : Plane} : Resolved p q ↔ dist p q = 0 ∨ 1 / 2 ^ 52 < dist p q := by
  rw [Resolved, epsilon_eq, number_lt]

/-- One coordinate in which two points are clearly apart is enough. -/
theorem resolved_of_coordinates {p q : Plane} (h : ∀ i, q i = p i ∨ 4e-10 ≤ |q i - p i|) :
    Resolved p q := by
  rw [resolved_iff]
  by_cases hsame : p = q
  · left
    rw [hsame, dist_self]
  · have hdiffer : ∃ i, q i ≠ p i := by
      by_contra hall
      push Not at hall
      exact hsame (PiLp.ext fun i => (hall i).symm)
    obtain ⟨i, hi⟩ := hdiffer
    right
    calc (1 / 2 ^ 52 : ℝ) < 4e-10 := by norm_num
      _ ≤ |q i - p i| := (h i).resolve_left hi
      _ ≤ dist q p := dist_eq_norm q p ▸ PiLp.norm_apply_le (q - p) i
      _ = dist p q := dist_comm q p

/-- A line is as long as a segment that counts, unless it has no length. -/
theorem arcLength_of_resolved {corners : List Plane} (h : corners.IsChain Resolved) :
    arcLength corners = 0 ∨ 1 / 2 ^ 52 < arcLength corners := by
  induction h with
  | nil => exact .inl rfl
  | singleton a => exact .inl rfl
  | @cons_cons a b rest hfirst _ ih =>
    rw [arcLength_cons_cons]
    rcases resolved_iff.mp hfirst with hzero | hlong
    · rwa [hzero, zero_add]
    · right
      have hrest := arcLength_nonneg (b :: rest)
      linarith

end Plane

namespace Path

open Plane

/-! ## Walking along a route -/

/-- A walk that is no longer than the line stops, and where it stops is at its length. -/
theorem exists_walk {a : Plane} {rest : List Plane} (hresolved : (a :: rest).IsChain Resolved) {r : ℝ}
    (hr : 0 ≤ r) (hle : r ≤ arcLength (a :: rest)) (hpos : 0 < arcLength (a :: rest)) :
    ∃ p direction, AtArc (a :: rest) r p ∧
      walk (number r) (((a :: rest).zip rest).map fun s => (.ofPlane s.1, .ofPlane s.2))
        = some (.ofPlane p, direction) := by
  induction rest generalizing a r with
  | nil => exact absurd hpos (lt_irrefl 0)
  | cons b rest ih =>
    obtain ⟨hfirst, hrest⟩ := List.isChain_cons_cons.mp hresolved
    rw [arcLength_cons_cons] at hle hpos
    simp only [List.zip_cons_cons, List.map_cons, walk, Point.distance_ofPlane, epsilon_eq, number_le,
      number_sub]
    -- the segment is passed over, or the walk stops on it, or it goes on with what is left
    by_cases hskip : dist a b ≤ 1 / 2 ^ 52
    · have hzero : dist a b = 0 := (resolved_iff.mp hfirst).resolve_right (not_lt.mpr hskip)
      rw [hzero, zero_add] at hle hpos
      obtain ⟨p, direction, hp, hwalk⟩ := ih hrest hr hle hpos
      have hlater : AtArc (a :: b :: rest) (dist a b + r) p := .later hp
      rw [hzero, zero_add] at hlater
      exact ⟨p, direction, hlater, by rw [if_pos hskip, hwalk]⟩
    · have hlength : 0 < dist a b := lt_trans (by positivity) (not_le.mp hskip)
      rw [if_neg hskip]
      by_cases hend : r ≤ dist a b
      · have hfraction : 0 ≤ r / dist a b := div_nonneg hr hlength.le
        have hon : AffineMap.lineMap a b (r / dist a b) ∈ segment ℝ a b := by
          rw [segment_eq_image_lineMap]
          exact ⟨_, ⟨hfraction, (div_le_one hlength).mpr hend⟩, rfl⟩
        have hdist : dist a (AffineMap.lineMap a b (r / dist a b)) = r := by
          rw [dist_left_lineMap, Real.norm_of_nonneg hfraction, div_mul_cancel₀ _ hlength.ne']
        have hhere : AtArc (a :: b :: rest) _ _ := .here hon
        rw [hdist] at hhere
        rw [if_pos hend, number_div _ hlength.ne', Point.lerp_ofPlane]
        exact ⟨_, _, hhere, rfl⟩
      · -- something is left, so the segments after this one have a length
        have hleft : 0 < r - dist a b := sub_pos.mpr (not_le.mp hend)
        have hroom : r - dist a b ≤ arcLength (b :: rest) := by linarith
        obtain ⟨p, direction, hp, hwalk⟩ := ih hrest hleft.le hroom (hleft.trans_le hroom)
        have hlater : AtArc (a :: b :: rest) (dist a b + (r - dist a b)) p := .later hp
        rw [add_sub_cancel] at hlater
        exact ⟨p, direction, hlater, by rw [if_neg hend, hwalk]⟩

section

variable {path : Path Exact} {corners : List Plane}

theorem segments_of_points (hpoints : path.points = corners.map .ofPlane) :
    path.segments = (corners.zip corners.tail).map fun s => (.ofPlane s.1, .ofPlane s.2) := by
  rw [segments, hpoints, ← List.map_tail, List.zip_map]
  rfl

theorem length_of_points (hpoints : path.points = corners.map .ofPlane) :
    path.length = number (arcLength corners) := by
  have hdistances : path.segments.map (fun s => s.1.distance s.2)
      = ((corners.zip corners.tail).map fun s => dist s.1 s.2).map number := by
    rw [segments_of_points hpoints, List.map_map, List.map_map]
    exact List.map_congr_left fun s _ => Point.distance_ofPlane s.1 s.2
  rw [length, hdistances, sum_number]
  rfl

end

/-- The point at a parameter is at this fraction of the length. -/
theorem exists_pointAt {path : Path Exact} {a b : Plane} {rest : List Plane}
    (hpoints : path.points = (a :: b :: rest).map .ofPlane)
    (hresolved : (a :: b :: rest).IsChain Resolved) {t : Exact} {u : ℝ}
    (ht : Scalar.clamp t 0.0 1.0 = number u) (hlow : 0 ≤ u) (hhigh : u ≤ 1) :
    ∃ p, path.pointAt t = .ofPlane p ∧
      AtArc (a :: b :: rest) (u * arcLength (a :: b :: rest)) p := by
  have hnonneg := arcLength_nonneg (a :: b :: rest)
  rw [pointAt, locate, length_of_points hpoints, ht, number_mul, epsilon_eq,
    segments_of_points hpoints, List.tail_cons]
  simp only [number_le]
  rcases arcLength_of_resolved hresolved with hzero | hlong
  · -- a route without a length stays at its source
    have hsource : path.source = .ofPlane a := by
      cases path <;> exact (List.cons.inj hpoints).1
    rw [hzero, mul_zero, if_pos (by positivity)]
    exact ⟨a, hsource, atArc_zero a b rest⟩
  · have hpos : 0 < arcLength (a :: b :: rest) := lt_trans (by positivity) hlong
    obtain ⟨p, direction, hp, hwalk⟩ := exists_walk hresolved (mul_nonneg hlow hnonneg)
      (mul_le_of_le_one_left hnonneg hhigh) hpos
    rw [if_neg (not_le.mpr hlong), hwalk]
    exact ⟨p, rfl, hp⟩

/-! ## The corners of a route -/

/-- Between points that are clearly apart in every coordinate in which they differ, no segment of a route is
passed over that has a length. -/
theorem exists_corners {a b : Plane} (h : ∀ i, b i = a i ∨ 1e-9 ≤ |b i - a i|) :
    ∃ c rest, (route (.ofPlane a) (.ofPlane b)).points = (a :: c :: rest).map .ofPlane ∧
      (a :: c :: rest).IsChain Resolved ∧ (c :: rest).getLast? = some b := by
  unfold route
  simp only [Point.ofPlane, straightThreshold, elbowFraction, ofScientific_eq, number_sub, number_mul,
    number_add, abs_number, number_lt]
  split_ifs with hlevel
  · refine ⟨b, [], rfl, ?_, rfl⟩
    rw [List.isChain_pair]
    apply resolved_of_coordinates
    intro i
    refine (h i).imp_right ?_
    intro hi
    linarith
  · -- the horizontal segments are three and two fifths of the way
    have hpart (u : ℝ) (hu : 0.4 ≤ u) : u * (b 0 - a 0) = 0 ∨ 4e-10 ≤ |u * (b 0 - a 0)| := by
      rcases h 0 with hsame | hapart
      · left
        rw [hsame, sub_self, mul_zero]
      · right
        rw [abs_mul, abs_of_pos (by linarith)]
        nlinarith
    refine ⟨!₂[a 0 + 0.6 * (b 0 - a 0), a 1], [!₂[a 0 + 0.6 * (b 0 - a 0), b 1], b], rfl, ?_, rfl⟩
    refine .cons_cons (resolved_of_coordinates ?_) (.cons_cons (resolved_of_coordinates ?_)
      (.cons_cons (resolved_of_coordinates ?_) (.singleton b))) <;> rw [Fin.forall_fin_two]
    · have hfirst := hpart 0.6 (by norm_num)
      have hdiff : 0.6 * (b 0 - a 0) = a 0 + 0.6 * (b 0 - a 0) - a 0 := by ring
      rw [hdiff, sub_eq_zero] at hfirst
      exact ⟨hfirst, .inl rfl⟩
    · refine ⟨.inl rfl, .inr ?_⟩
      show 4e-10 ≤ |b 1 - a 1|
      linarith
    · have hlast := hpart 0.4 (by norm_num)
      have hdiff : 0.4 * (b 0 - a 0) = b 0 - (a 0 + 0.6 * (b 0 - a 0)) := by ring
      rw [hdiff, sub_eq_zero] at hlast
      exact ⟨hlast, .inl rfl⟩

/-- Parameters that are moved into the unit interval do not get farther apart. -/
theorem abs_clamp_sub_clamp_le (s t : ℝ) :
    |min (max s 0) 1 - min (max t 0) 1| ≤ |s - t| :=
  calc |min (max s 0) 1 - min (max t 0) 1| ≤ |max s 0 - max t 0| := by
        simpa using abs_min_sub_min_le_max (max s 0) 1 (max t 0) 1
    _ ≤ |s - t| := abs_max_sub_max_le_abs s t 0

/-- Between two points whose coordinates are the same or at least 10⁻⁹ apart, the point at a parameter is the one
that the route reaches when this fraction of its length is covered; a parameter below zero counts as zero and one
above one as one, infinite ones included. So the route begins at its source and ends at its target, and a change
of the parameter moves the point by no more than that fraction of the length. -/
theorem pointAt_of_route {a b : Plane} (h : ∀ i, b i = a i ∨ 1e-9 ≤ |b i - a i|) :
    let path := route (.ofPlane a) (.ofPlane b)
    ∃ corners : List Plane, path.points = corners.map .ofPlane ∧
      path.length = number (arcLength corners) ∧
      (∀ t : ℝ, ∃ p, path.pointAt (number t) = .ofPlane p ∧
        ∀ q, AtArc corners (min (max t 0) 1 * arcLength corners) q ↔ q = p) ∧
      path.pointAt (number 0) = .ofPlane a ∧
      path.pointAt (number 1) = .ofPlane b ∧
      path.pointAt (infinite true) = .ofPlane a ∧
      path.pointAt (infinite false) = .ofPlane b ∧
      ∀ s t : ℝ, (path.pointAt (number s)).distance (path.pointAt (number t))
        ≤ number (|s - t| * arcLength corners) := by
  intro path
  obtain ⟨c, rest, hpoints, hresolved, hlast⟩ := exists_corners h
  have hfound (t : ℝ) : ∃ p, path.pointAt (number t) = .ofPlane p ∧
      AtArc (a :: c :: rest) (min (max t 0) 1 * arcLength (a :: c :: rest)) p := by
    refine exists_pointAt hpoints hresolved ?_ (le_min (le_max_right t 0) zero_le_one) (min_le_right _ _)
    rw [zero_eq, one_eq, clamp_number]
  have hsource {t : Exact} (ht : Scalar.clamp t 0.0 1.0 = number 0) : path.pointAt t = .ofPlane a := by
    obtain ⟨p, hp, harc⟩ := exists_pointAt hpoints hresolved ht le_rfl zero_le_one
    rw [zero_mul] at harc
    rw [hp, harc.unique (atArc_zero a c rest)]
  have htarget {t : Exact} (ht : Scalar.clamp t 0.0 1.0 = number 1) : path.pointAt t = .ofPlane b := by
    obtain ⟨p, hp, harc⟩ := exists_pointAt hpoints hresolved ht zero_le_one le_rfl
    rw [one_mul] at harc
    rw [hp, harc.unique (atArc_arcLength hlast)]
  refine ⟨a :: c :: rest, hpoints, length_of_points hpoints, ?_, hsource ?_, htarget ?_, hsource ?_,
    htarget ?_, ?_⟩
  · intro t
    obtain ⟨p, hp, harc⟩ := hfound t
    refine ⟨p, hp, fun q => ⟨fun hq => hq.unique harc, ?_⟩⟩
    rintro rfl
    exact harc
  · rw [zero_eq, one_eq, clamp_number, max_self, min_eq_left zero_le_one]
  · rw [zero_eq, one_eq, clamp_number, max_eq_left zero_le_one, min_self]
  · rw [zero_eq, one_eq, clamp_infinite _ zero_le_one]
    rfl
  · rw [zero_eq, one_eq, clamp_infinite _ zero_le_one]
    rfl
  · intro s t
    obtain ⟨p, hp, hparc⟩ := hfound s
    obtain ⟨q, hq, hqarc⟩ := hfound t
    rw [hp, hq, Point.distance_ofPlane, number_le]
    calc dist p q ≤ |min (max s 0) 1 * arcLength (a :: c :: rest)
            - min (max t 0) 1 * arcLength (a :: c :: rest)| := hparc.dist_le hqarc
      _ = |min (max s 0) 1 - min (max t 0) 1| * arcLength (a :: c :: rest) := by
          rw [← sub_mul, abs_mul, abs_of_nonneg (arcLength_nonneg _)]
      _ ≤ |s - t| * arcLength (a :: c :: rest) :=
          mul_le_mul_of_nonneg_right (abs_clamp_sub_clamp_le s t) (arcLength_nonneg _)

/-- A route to the left and up. Half-way it has covered a third of its vertical segment. -/
theorem pointAt_of_route_back :
    (∀ i, (!₂[0, 0] : Plane) i = (!₂[500, 300] : Plane) i ∨
      1e-9 ≤ |(!₂[0, 0] : Plane) i - (!₂[500, 300] : Plane) i|) ∧
      (route (.ofPlane !₂[500, 300]) (.ofPlane !₂[0, 0])).pointAt (number (1 / 2))
        = .ofPlane !₂[200, 200] ∧
      (route (.ofPlane !₂[500, 300]) (.ofPlane !₂[0, 0])).pointAt (infinite false)
        = .ofPlane !₂[0, 0] := by
  have hapart : ∀ i, (!₂[0, 0] : Plane) i = (!₂[500, 300] : Plane) i ∨
      1e-9 ≤ |(!₂[0, 0] : Plane) i - (!₂[500, 300] : Plane) i| := by
    rw [Fin.forall_fin_two]
    norm_num
  obtain ⟨corners, hpoints, -, hfound, -, -, -, hend, -⟩ := pointAt_of_route hapart
  obtain ⟨p, hp, hunique⟩ := hfound (1 / 2)
  refine ⟨hapart, ?_, hend⟩
  have hcorners : corners = [!₂[500, 300], !₂[200, 300], !₂[200, 0], !₂[0, 0]] := by
    have hroute : (route (.ofPlane !₂[500, 300]) (.ofPlane !₂[0, 0])).points
        = [!₂[500, 300], !₂[200, 300], !₂[200, 0], !₂[0, 0]].map Point.ofPlane := by
      simp only [route, Point.ofPlane, straightThreshold, elbowFraction, ofScientific_eq, number_sub, number_mul,
        number_add, abs_number, number_lt]
      norm_num [points, Point.ofPlane]
    exact (List.map_injective_iff.mpr Point.ofPlane_injective (hroute.symm.trans hpoints)).symm
  have hdist (x y x' y' : ℝ) : dist (!₂[x, y] : Plane) !₂[x', y'] = √((x - x') ^ 2 + (y - y') ^ 2) := by
    rw [EuclideanSpace.dist_eq, Fin.sum_univ_two, Real.dist_eq, Real.dist_eq, sq_abs, sq_abs]
    rfl
  have hlength : arcLength corners = 800 := by
    rw [hcorners, arcLength_cons_cons, arcLength_cons_cons, arcLength_cons_cons, hdist, hdist, hdist]
    norm_num [arcLength]
  have hon : (!₂[200, 200] : Plane) ∈ segment ℝ !₂[200, 300] !₂[200, 0] := by
    rw [segment_eq_image_lineMap]
    refine ⟨1 / 3, by norm_num, PiLp.ext ?_⟩
    rw [Fin.forall_fin_two]
    norm_num [AffineMap.lineMap_apply]
  have hhalf : min (max (1 / 2) 0) 1 * arcLength corners
      = dist (!₂[500, 300] : Plane) !₂[200, 300] + dist (!₂[200, 300] : Plane) !₂[200, 200] := by
    rw [hlength, hdist, hdist]
    norm_num
  have harc : AtArc corners (min (max (1 / 2) 0) 1 * arcLength corners) !₂[200, 200] := by
    rw [hhalf, hcorners]
    exact .later (.here hon)
  rw [hp, (hunique _).mp harc]

end Path

end TrafficMap
