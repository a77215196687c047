import Mathlib
import TrafficMap.Proofs.Identity.Addresses

/-!
# Made-up names of neighbours

A name that is made up tells the kind and the last two digits of the seed (`nameOfSeed_inj`). Octets of one kind are
less than a hundred apart (`octets_of_kind`), so within a network whose addresses differ in the last octet only no
name is given twice (`names_of_neighbours`).
-/

namespace TrafficMap.Identity

/-! ## What a name tells -/

theorem digitChar_inj : ∀ m < 10, ∀ n < 10, Nat.digitChar m = Nat.digitChar n → m = n := by
  decide

/-- Numbers below a hundred are known by their two digits. -/
theorem twoDigits_inj {m n : Nat} (hm : m < 100) (hn : n < 100) (h : twoDigits m = twoDigits n) : m = n := by
  have hdigits := String.ofList_injective h
  obtain ⟨htens, hlast⟩ := List.cons.inj hdigits
  have htens' := digitChar_inj _ (Nat.mod_lt _ (by decide)) _ (Nat.mod_lt _ (by decide)) htens
  have hones := digitChar_inj _ (Nat.mod_lt _ (by decide)) _ (Nat.mod_lt _ (by decide)) (List.cons.inj hlast).1
  omega

/-- No two kinds share a base name. -/
theorem kind_of_mem_namesOf {kind kind' : ClientKind} {name : String} (h : name ∈ namesOf kind)
    (h' : name ∈ namesOf kind') : kind = kind' := by
  have hall (k : ClientKind) : k ∈ ClientKind.all := by cases k <;> decide
  have htable : ∀ k ∈ ClientKind.all, ∀ k' ∈ ClientKind.all, ∀ n ∈ namesOf k, n ∈ namesOf k' → k = k' := by
    decide +kernel
  exact htable kind (hall kind) kind' (hall kind') name h h'

/-- A name begins with one of the names of its kind and ends with a space and two digits. -/
theorem exists_base (kind : ClientKind) (s : Nat) :
    ∃ base ∈ namesOf kind, (nameOfSeed kind s).toList = base.toList ++ ' ' :: (twoDigits (s % 100)).toList := by
  have hpositive : 0 < (namesOf kind).length := by cases kind <;> decide
  have hplace : s % (namesOf kind).length < (namesOf kind).length := Nat.mod_lt s hpositive
  refine ⟨_, List.getElem_mem hplace, ?_⟩
  rw [nameOfSeed, List.getD_eq_getElem _ _ hplace, String.toList_append, String.toList_append, List.append_assoc]
  rfl

/-- A made-up name tells the kind and the last two digits of the seed. -/
theorem nameOfSeed_inj {kind kind' : ClientKind} {s s' : Nat} (h : nameOfSeed kind s = nameOfSeed kind' s') :
    kind = kind' ∧ s % 100 = s' % 100 := by
  obtain ⟨base, hbase, hname⟩ := exists_base kind s
  obtain ⟨base', hbase', hname'⟩ := exists_base kind' s'
  have htext : base.toList ++ ' ' :: (twoDigits (s % 100)).toList
      = base'.toList ++ ' ' :: (twoDigits (s' % 100)).toList := by
    rw [← hname, ← hname', h]
  -- what follows the name of the kind is equally long in both
  obtain ⟨hfront, hback⟩ := List.append_inj' htext (by simp [twoDigits])
  obtain rfl := String.toList_injective hfront
  have hdigits := String.toList_injective (List.cons.inj hback).2
  exact ⟨kind_of_mem_namesOf hbase hbase', twoDigits_inj (Nat.mod_lt _ (by decide)) (Nat.mod_lt _ (by decide)) hdigits⟩

/-! ## Octets of one kind -/

/-- Octets of one kind are less than a hundred apart. -/
theorem octets_of_kind {d d' : Nat} (hd : d ≤ 255) (hd' : d' ≤ 255) (h : kindOfOctet d = kindOfOctet d') :
    d < d' + 100 := by
  unfold kindOfOctet at h
  split_ifs at h <;> omega

/-! ## Networks -/

section

variable {ip ip' : String} {a b c d a' b' d' : Nat}

/-- The identity of an address is made up from its last two octets. -/
theorem fallback_eq (h : IsAddress ip a b c d) :
    fallback ip = ⟨nameOfSeed (kindOfOctet d) (c * 256 + d), kindOfOctet d, .fallback⟩ := by
  have hlast := h.last_le
  have hoctet : (c * 256 + d) % 256 = d := by omega
  rw [fallback, h.seed_eq, hoctet]

/-- Addresses of one network with the same made-up name end in the same octet. -/
theorem last_eq_of_name (h : IsAddress ip a b c d) (h' : IsAddress ip' a' b' c d')
    (hname : (fallback ip).name = (fallback ip').name) : d = d' := by
  rw [fallback_eq h, fallback_eq h'] at hname
  obtain ⟨hkind, hdigits⟩ := nameOfSeed_inj hname
  have hlow := octets_of_kind h.last_le h'.last_le hkind
  have hhigh := octets_of_kind h'.last_le h.last_le hkind.symm
  -- the octets are less than a hundred apart and end alike
  omega

end

/-- The identity that is made up from an IPv4 address, in whatever way it is written, depends on its last two octets
only. Two addresses with the same third octet have the same name only if they have the same fourth one: the names of
the 256 addresses of such a network are all different. -/
theorem names_of_neighbours :
    (∀ ip ip' a b a' b' c d, IsAddress ip a b c d → IsAddress ip' a' b' c d → fallback ip = fallback ip') ∧
    (∀ ip ip' a b a' b' c d d', IsAddress ip a b c d → IsAddress ip' a' b' c d' → d ≠ d' →
      (fallback ip).name ≠ (fallback ip').name) ∧
    ∀ a b c, a ≤ 255 → b ≤ 255 → c ≤ 255 →
      Set.InjOn (fun d => (fallback (dotted a b c d)).name) (Set.Iic 255) := by
  refine ⟨?_, ?_, ?_⟩
  · intro ip ip' a b a' b' c d h h'
    rw [fallback_eq h, fallback_eq h']
  · intro ip ip' a b a' b' c d d' h h' hne hname
    exact hne (last_eq_of_name h h' hname)
  · intro a b c ha hb hc d hd d' hd' hname
    exact last_eq_of_name (isAddress_dotted ha hb hc hd) (isAddress_dotted ha hb hc hd') hname

/-- Three addresses with a third octet of one. The first two are the same client in two networks; the third ends in
the same two digits and is of another kind. -/
theorem names_of_neighbours_hundred :
    IsAddress " 192.168.1.5" 192 168 1 5 ∧ IsAddress "10.9.1.5\n" 10 9 1 5 ∧ IsAddress "10.9.1.105" 10 9 1 105 ∧
      fallback " 192.168.1.5" = fallback "10.9.1.5\n" ∧
      (fallback "10.9.1.5\n").name ≠ (fallback "10.9.1.105").name ∧
      (fallback (dotted 10 9 1 5)).name ≠ (fallback (dotted 10 9 1 105)).name := by
  have hpadded : IsAddress " 192.168.1.5" 192 168 1 5 := by decide +kernel
  have hfifth : IsAddress "10.9.1.5\n" 10 9 1 5 := by decide +kernel
  have hhundred : IsAddress "10.9.1.105" 10 9 1 105 := by decide +kernel
  obtain ⟨hsame, hdiffer, hnetwork⟩ := names_of_neighbours
  refine ⟨hpadded, hfifth, hhundred, hsame _ _ _ _ _ _ _ _ hpadded hfifth,
    hdiffer _ _ _ _ _ _ _ _ _ hfifth hhundred (by decide), fun hname => ?_⟩
  have hlast := hnetwork 10 9 1 (by decide) (by decide) (by decide) (Set.mem_Iic.mpr (by decide))
    (Set.mem_Iic.mpr (by decide)) hname
  exact absurd hlast (by decide)

end TrafficMap.Identity
