import HarnessTraining.Library.PyJson.Tidy
import Mathlib.Data.List.Sort

/-!
# Values up to the order of their keys

Two dictionaries are equal when they have the same keys with equal values, in whatever order.  A value
written with `sort_keys=True` is a canonical one of its class.

* `Native` — a value of JSON: its numbers are finite, and no object has a key twice;
* `Same` — equality, as `dict` and `list` have it;
* `sortKeys_eq_of_same`, `same_sortKeys` — sorting is canonical.
-/

set_option autoImplicit false

open Python

namespace PyJson

/-! ## Values of JSON -/

mutual

/-- The numbers are finite, and no object has a key twice. -/
def Native : PyJson → Prop
  | .const _ => False
  | .arr items => NativeItems items
  | .obj members => (members.map Prod.fst).Nodup ∧ NativeMembers members
  | _ => True

def NativeItems : List PyJson → Prop
  | [] => True
  | item :: items => Native item ∧ NativeItems items

def NativeMembers : List (Text × PyJson) → Prop
  | [] => True
  | (_, value) :: members => Native value ∧ NativeMembers members

end

theorem nativeMembers_iff {members : List (Text × PyJson)} :
    NativeMembers members ↔ ∀ member ∈ members, Native member.2 := by
  induction members with
  | nil => exact iff_of_true trivial (by simp)
  | cons member members ih => rw [NativeMembers, ih, List.forall_mem_cons]

section Members

variable {α : Type} {key : Text} {value : α}

theorem get?_eq_some_iff {members : List (Text × α)} (h : (members.map Prod.fst).Nodup) :
    get? key members = some value ↔ (key, value) ∈ members := by
  refine ⟨mem_of_get?, fun hmem ↦ ?_⟩
  induction members with
  | nil => cases hmem
  | cons member members ih =>
    rw [List.map_cons, List.nodup_cons] at h
    rw [get?, List.lookup_cons]
    rcases List.mem_cons.mp hmem with rfl | hmem
    · rw [beq_self_eq_true]
    · have hne : key ≠ member.1 := by
        rintro rfl
        exact h.1 (List.mem_map.mpr ⟨_, hmem, rfl⟩)
      rw [beq_eq_false_iff_ne.mpr hne]
      exact ih h.2 hmem

/-- Two members of a dictionary with one key are one. -/
theorem member_eq_of_key {members : List (Text × α)} (h : (members.map Prod.fst).Nodup)
    {member member' : Text × α} (hmember : member ∈ members) (hmember' : member' ∈ members)
    (hkey : member.1 = member'.1) : member = member' :=
  List.inj_on_of_nodup_map h hmember hmember' hkey

end Members

/-! ## Equality -/

mutual

/-- Equality of values, up to the order of the keys; an `int` and a `float` are never equal here, and
no NaN is equal to itself. -/
def Same : PyJson → PyJson → Prop
  | .arr items, .arr items' => SameItems items items'
  | .obj members, .obj members' => members.length = members'.length ∧ SameMembers members members'
  | .null, .null => True
  | .bool b, .bool b' => b = b'
  | .int z, .int z' => z = z'
  | .float q, .float q' => q = q'
  | .const c, .const c' => c = c' ∧ c ≠ .nan
  | .str text, .str text' => text = text'
  | _, _ => False

def SameItems : List PyJson → List PyJson → Prop
  | [], [] => True
  | item :: items, item' :: items' => Same item item' ∧ SameItems items items'
  | _, _ => False

/-- Every member has its equal in the other dictionary. -/
def SameMembers : List (Text × PyJson) → List (Text × PyJson) → Prop
  | [], _ => True
  | (key, value) :: members, members' =>
    (∃ value', get? key members' = some value' ∧ Same value value') ∧ SameMembers members members'

end

theorem sameMembers_iff {members members' : List (Text × PyJson)} : SameMembers members members' ↔
    ∀ member ∈ members, ∃ value', get? member.1 members' = some value' ∧ Same member.2 value' := by
  induction members with
  | nil => exact iff_of_true trivial (by simp)
  | cons member members ih => rw [SameMembers, ih, List.forall_mem_cons]

/-! ## Sorted keys -/

theorem toNat_injective : Function.Injective CodePoint.toNat
  | .scalar c, .scalar c', h => congrArg _ (Char.toNat_inj.mp h)
  | .surrogate n, .surrogate n', h => by
    rw [CodePoint.toNat, CodePoint.toNat] at h
    exact congrArg _ (Fin.ext (by omega))
  | .scalar c, .surrogate n, h | .surrogate n, .scalar c, h => by
    rw [CodePoint.toNat, CodePoint.toNat] at h
    have hc := Json.char_range c
    have hn := n.isLt
    omega

/-- The order of `sort_keys=True`. -/
abbrev keyLe (member member' : Text × PyJson) : Bool :=
  decide (member.1.map CodePoint.toNat ≤ member'.1.map CodePoint.toNat)

theorem pairwise_sorted (members : List (Text × PyJson)) :
    (members.mergeSort keyLe).Pairwise fun member member' ↦ keyLe member member' = true := by
  refine List.pairwise_mergeSort (fun a b c hab hbc ↦ ?_) (fun a b ↦ ?_) members
  · rw [decide_eq_true_eq] at hab hbc ⊢
    exact le_trans hab hbc
  · rw [Bool.or_eq_true, decide_eq_true_eq, decide_eq_true_eq]
    exact le_total _ _

/-- Dictionaries with the same members are sorted alike. -/
theorem mergeSort_eq_of_perm {members members' : List (Text × PyJson)} (hperm : members.Perm members')
    (h : (members.map Prod.fst).Nodup) : members.mergeSort keyLe = members'.mergeSort keyLe := by
  refine List.Perm.eq_of_pairwise (fun a b ha hb hab hba ↦ ?_) (pairwise_sorted members)
    (pairwise_sorted members') ?_
  · rw [decide_eq_true_eq] at hab hba
    have hb := hperm.mem_iff.mpr (List.mem_mergeSort.mp hb)
    exact member_eq_of_key h (List.mem_mergeSort.mp ha) hb
      (toNat_injective.list_map (le_antisymm hab hba))
  · exact (List.mergeSort_perm _ _).trans (hperm.trans (List.mergeSort_perm _ _).symm)

theorem sortKeys_obj (members : List (Text × PyJson)) : sortKeys (.obj members) =
    .obj ((members.map fun member ↦ (member.1, sortKeys member.2)).mergeSort keyLe) := by
  rw [sortKeys, sortKeysOfMembers_eq_map]

theorem map_fst_sorted (members : List (Text × PyJson)) :
    ((members.map fun member ↦ (member.1, sortKeys member.2)).map Prod.fst) = members.map Prod.fst := by
  rw [List.map_map]
  rfl

/-- The same order, by a sort that reduces. -/
theorem sortKeys_obj_insertionSort {members : List (Text × PyJson)} (h : (members.map Prod.fst).Nodup) :
    sortKeys (.obj members) =
    .obj ((members.map fun member ↦ (member.1, sortKeys member.2)).insertionSort
      fun member member' ↦ keyLe member member' = true) := by
  have htrans : IsTrans (Text × PyJson) fun member member' ↦ keyLe member member' = true :=
    ⟨fun a b c hab hbc ↦ decide_eq_true (le_trans (of_decide_eq_true hab) (of_decide_eq_true hbc))⟩
  have htotal : Std.Total fun member member' : Text × PyJson ↦ keyLe member member' = true :=
    ⟨fun a b ↦ (le_total _ _).imp decide_eq_true decide_eq_true⟩
  rw [sortKeys_obj]
  refine congrArg PyJson.obj ?_
  rw [mergeSort_eq_of_perm (List.perm_insertionSort (fun member member' ↦ keyLe member member' = true)
    _).symm (by rwa [map_fst_sorted])]
  exact List.mergeSort_of_pairwise (List.pairwise_insertionSort _ _)

/-- Sorting the keys changes no lookup, up to the keys in the values. -/
theorem get?_sorted {members : List (Text × PyJson)} (h : (members.map Prod.fst).Nodup) (key : Text) :
    get? key ((members.map fun member ↦ (member.1, sortKeys member.2)).mergeSort keyLe) =
      (get? key members).map sortKeys := by
  have hsorted : (((members.map fun member ↦ (member.1, sortKeys member.2)).mergeSort keyLe).map
      Prod.fst).Nodup := by
    refine ((List.mergeSort_perm _ _).map _).nodup_iff.mpr ?_
    rwa [map_fst_sorted]
  refine Option.ext fun value ↦ ?_
  rw [get?_eq_some_iff hsorted, List.mem_mergeSort, List.mem_map, Option.map_eq_some_iff]
  constructor
  · rintro ⟨member, hmember, heq⟩
    obtain ⟨rfl, rfl⟩ := Prod.mk.inj heq
    exact ⟨member.2, (get?_eq_some_iff h).mpr hmember, rfl⟩
  · rintro ⟨value, hvalue, rfl⟩
    exact ⟨(key, value), (get?_eq_some_iff h).mp hvalue, rfl⟩

theorem getItem_sortKeys {members : List (Text × PyJson)} {value : PyJson} {key : String}
    (h : (members.map Prod.fst).Nodup) (hvalue : get? (ofString key) members = some value) :
    getItem key (sortKeys (.obj members)) = .ok (sortKeys value) := by
  rw [sortKeys_obj, getItem, get?_sorted h, hvalue]
  rfl

mutual

/-- **Equal values are written alike**, once their keys are sorted. -/
theorem sortKeys_eq_of_same : ∀ {value value' : PyJson}, Native value → Native value' → Same value value' →
    sortKeys value = sortKeys value'
  | .arr items, .arr items', h, h', hsame =>
    congrArg PyJson.arr (@sortKeysOfItems_eq_of_same items items' h h' hsame)
  | .obj members, .obj members', h, h', hsame => by
    have hsubset := sortKeysOfMembers_subset h.2 h'.2 hsame.2
    rw [sortKeysOfMembers_eq_map, sortKeysOfMembers_eq_map] at hsubset
    have hnodup : ((members.map fun member ↦ (member.1, sortKeys member.2)).map Prod.fst).Nodup := by
      rw [map_fst_sorted]
      exact h.1
    have hperm := (List.subperm_of_subset hnodup.of_map hsubset).perm_of_length_le
      (by rw [List.length_map, List.length_map, hsame.1])
    rw [sortKeys_obj, sortKeys_obj, mergeSort_eq_of_perm hperm hnodup]
  | .null, .null, _, _, _ => rfl
  | .const _, .const _, h, _, _ => h.elim
  | .bool _, .bool _, _, _, h | .int _, .int _, _, _, h | .float _, .float _, _, _, h
  | .str _, .str _, _, _, h => by rw [h]

theorem sortKeysOfItems_eq_of_same : ∀ {items items' : List PyJson}, NativeItems items →
    NativeItems items' → SameItems items items' → sortKeysOfItems items = sortKeysOfItems items'
  | [], [], _, _, _ => rfl
  | _ :: _, _ :: _, h, h', hsame => by
    rw [sortKeysOfItems, sortKeysOfItems, sortKeys_eq_of_same h.1 h'.1 hsame.1,
      sortKeysOfItems_eq_of_same h.2 h'.2 hsame.2]

theorem sortKeysOfMembers_subset : ∀ {members members' : List (Text × PyJson)}, NativeMembers members →
    NativeMembers members' → SameMembers members members' →
    sortKeysOfMembers members ⊆ sortKeysOfMembers members'
  | [], _, _, _, _ => List.nil_subset _
  | (key, value) :: members, members', h, h', hsame => by
    obtain ⟨⟨value', hget, hvalue⟩, hrest⟩ := hsame
    have hmem := mem_of_get? hget
    rw [sortKeysOfMembers, List.cons_subset]
    refine ⟨?_, sortKeysOfMembers_subset h.2 h' hrest⟩
    rw [sortKeys_eq_of_same h.1 (nativeMembers_iff.mp h' _ hmem) hvalue, sortKeysOfMembers_eq_map]
    exact List.mem_map.mpr ⟨(key, value'), hmem, rfl⟩

end

mutual

/-- Sorting the keys leaves an equal value. -/
theorem same_sortKeys : ∀ {value : PyJson}, Native value → Same value (sortKeys value)
  | .arr _, h => sameItems_sortKeys h
  | .obj members, h => by
    rw [sortKeys_obj]
    refine ⟨by rw [List.length_mergeSort, List.length_map], sameMembers_iff.mpr fun member hmember ↦ ?_⟩
    rw [get?_sorted h.1, (get?_eq_some_iff h.1).mpr hmember]
    exact ⟨_, rfl, same_sortKeys_member h.2 member hmember⟩
  | .null, _ => trivial
  | .const _, h => h.elim
  | .bool _, _ | .int _, _ | .float _, _ | .str _, _ => rfl

theorem sameItems_sortKeys : ∀ {items : List PyJson}, NativeItems items →
    SameItems items (sortKeysOfItems items)
  | [], _ => trivial
  | _ :: _, h => ⟨same_sortKeys h.1, sameItems_sortKeys h.2⟩

theorem same_sortKeys_member : ∀ {members : List (Text × PyJson)}, NativeMembers members →
    ∀ member ∈ members, Same member.2 (sortKeys member.2)
  | [], _, _, hmember => by cases hmember
  | (_, _) :: _, h, member, hmember => by
    rcases List.mem_cons.mp hmember with rfl | hmember
    · exact same_sortKeys h.1
    · exact same_sortKeys_member h.2 member hmember

end

mutual

theorem Within.sortKeys {T : Text → Prop} : ∀ {value : PyJson}, Within T value → Within T (sortKeys value)
  | .arr _, h => WithinItems.sortKeys h
  | .obj members, h => by
    have hmembers := WithinMembers.sortKeys h.2
    rw [sortKeysOfMembers_eq_map, withinMembers_iff] at hmembers
    rw [sortKeys_obj]
    refine ⟨((List.mergeSort_perm _ _).map _).nodup_iff.mpr ?_, withinMembers_iff.mpr fun member hmember ↦
      hmembers member (List.mem_mergeSort.mp hmember)⟩
    rw [map_fst_sorted]
    exact h.1
  | .null, h | .bool _, h | .int _, h | .float _, h | .const _, h | .str _, h => h

theorem WithinItems.sortKeys {T : Text → Prop} : ∀ {items : List PyJson}, WithinItems T items →
    WithinItems T (sortKeysOfItems items)
  | [], _ => trivial
  | _ :: _, h => ⟨h.1.sortKeys, WithinItems.sortKeys h.2⟩

theorem WithinMembers.sortKeys {T : Text → Prop} : ∀ {members : List (Text × PyJson)},
    WithinMembers T members → WithinMembers T (sortKeysOfMembers members)
  | [], _ => trivial
  | (_, _) :: _, h => ⟨⟨h.1.1, h.1.2.sortKeys⟩, WithinMembers.sortKeys h.2⟩

end

end PyJson
