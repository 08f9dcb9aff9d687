import Mathlib.Order.Lattice
import Mathlib.Data.List.Basic
import Mathlib.Data.Prod.Basic
import Mathlib.Data.List.Nodup

/-! Finite maps with the operations of `std::map`: entries are kept in strictly
increasing key order, `insert` leaves an entry already present unchanged, and
iteration visits the entries in order. The order is a field, so every map has
at most one entry for a key. -/

set_option autoImplicit false

namespace CarrotRpc.Library

structure OrderedMap (Key Value : Type) [LinearOrder Key] where
  entries : List (Key × Value)
  sorted : entries.Pairwise fun left right => left.1 < right.1

namespace OrderedMap

variable {Key Value : Type} [LinearOrder Key]

/-- Place an entry in front of the first entry with a larger key; an entry with
the same key is kept. -/
def place (key : Key) (value : Value) : List (Key × Value) → List (Key × Value)
  | [] => [(key, value)]
  | entry :: rest =>
      if key < entry.1 then (key, value) :: entry :: rest
      else if key = entry.1 then entry :: rest
      else entry :: place key value rest

theorem mem_place {key : Key} {value : Value} {entries : List (Key × Value)}
    {entry : Key × Value} (member : entry ∈ place key value entries) :
    entry = (key, value) ∨ entry ∈ entries := by
  induction entries with
  | nil => simpa [place] using member
  | cons head rest ih =>
      simp only [place] at member
      split at member
      · simpa using member
      · split at member
        · exact .inr member
        · rcases List.mem_cons.mp member with rfl | member
          · exact .inr List.mem_cons_self
          · exact (ih member).imp_right (List.mem_cons_of_mem _)

theorem mem_place_of_mem {key : Key} {value : Value} {entries : List (Key × Value)}
    {entry : Key × Value} (member : entry ∈ entries) : entry ∈ place key value entries := by
  induction entries with
  | nil => cases member
  | cons head rest ih =>
      simp only [place]
      split
      · exact List.mem_cons_of_mem _ member
      · split
        · exact member
        · rcases List.mem_cons.mp member with rfl | member
          · exact List.mem_cons_self
          · exact List.mem_cons_of_mem _ (ih member)

theorem mem_place_self {key : Key} {value : Value} {entries : List (Key × Value)}
    (fresh : ∀ entry ∈ entries, entry.1 ≠ key) : (key, value) ∈ place key value entries := by
  induction entries with
  | nil => simp [place]
  | cons head rest ih =>
      simp only [place]
      split
      · exact List.mem_cons_self
      · split
        · next same => exact absurd same.symm (fresh head List.mem_cons_self)
        · exact List.mem_cons_of_mem _ (ih fun entry member =>
            fresh entry (List.mem_cons_of_mem _ member))

theorem place_sorted {key : Key} {value : Value} {entries : List (Key × Value)}
    (sorted : entries.Pairwise fun left right => left.1 < right.1) :
    (place key value entries).Pairwise fun left right => left.1 < right.1 := by
  induction entries with
  | nil => simp [place]
  | cons head rest ih =>
      obtain ⟨below, sortedRest⟩ := List.pairwise_cons.mp sorted
      simp only [place]
      split
      · next smaller =>
          refine List.pairwise_cons.mpr ⟨fun entry member => ?_, sorted⟩
          rcases List.mem_cons.mp member with rfl | member
          · exact smaller
          · exact smaller.trans (below _ member)
      · split
        · exact sorted
        · next notSmaller different =>
            refine List.pairwise_cons.mpr ⟨fun entry member => ?_, ih sortedRest⟩
            rcases mem_place member with rfl | member
            · exact lt_of_le_of_ne (not_lt.mp notSmaller) (Ne.symm different)
            · exact below _ member

def empty : OrderedMap Key Value := ⟨[], .nil⟩

/-- `map::find`, with `none` for `end()`. -/
def find? (map : OrderedMap Key Value) (key : Key) : Option Value :=
  (map.entries.find? fun entry => entry.1 = key).map (·.2)

/-- `map::insert`: an entry already present for the key stays. -/
def insert (map : OrderedMap Key Value) (key : Key) (value : Value) : OrderedMap Key Value :=
  ⟨place key value map.entries, place_sorted map.sorted⟩

/-- `map::erase` by key. -/
def erase (map : OrderedMap Key Value) (key : Key) : OrderedMap Key Value :=
  ⟨map.entries.filter fun entry => entry.1 ≠ key, map.sorted.filter _⟩

@[simp] theorem entries_empty : (empty : OrderedMap Key Value).entries = [] := rfl

theorem value_unique {map : OrderedMap Key Value} {key : Key} {left right : Value}
    (first : (key, left) ∈ map.entries) (second : (key, right) ∈ map.entries) :
    left = right := by
  have keys : (map.entries.map (·.1)).Nodup :=
    List.pairwise_map.mpr (map.sorted.imp fun smaller => ne_of_lt smaller)
  exact congrArg Prod.snd (List.inj_on_of_nodup_map keys first second rfl)

theorem find?_eq_some_iff {map : OrderedMap Key Value} {key : Key} {value : Value} :
    map.find? key = some value ↔ (key, value) ∈ map.entries := by
  constructor
  · intro found
    obtain ⟨entry, selected, rfl⟩ := Option.map_eq_some_iff.mp found
    have same : entry.1 = key := by simpa using List.find?_some selected
    exact same ▸ List.mem_of_find?_eq_some selected
  · intro member
    cases selected : map.entries.find? fun entry => entry.1 = key with
    | none => simpa using List.find?_eq_none.mp selected _ member
    | some entry =>
        have same : entry.1 = key := by simpa using List.find?_some selected
        have present : (key, entry.2) ∈ map.entries :=
          same ▸ List.mem_of_find?_eq_some selected
        simp [find?, selected, value_unique present member]

theorem find?_eq_none_iff {map : OrderedMap Key Value} {key : Key} :
    map.find? key = none ↔ ∀ value, (key, value) ∉ map.entries := by
  constructor
  · intro missing value member
    rw [find?_eq_some_iff.mpr member] at missing
    cases missing
  · intro absent
    cases found : map.find? key with
    | none => rfl
    | some value => exact absurd (find?_eq_some_iff.mp found) (absent value)

/-- The entries after an insertion under a key that is not in use. -/
theorem mem_insert_iff {map : OrderedMap Key Value} {key : Key} {value : Value}
    (fresh : map.find? key = none) {entry : Key × Value} :
    entry ∈ (map.insert key value).entries ↔ entry = (key, value) ∨ entry ∈ map.entries := by
  constructor
  · exact mem_place
  · rintro (rfl | member)
    · exact mem_place_self fun entry member same =>
        find?_eq_none_iff.mp fresh entry.2 (same ▸ member)
    · exact mem_place_of_mem member

theorem mem_of_mem_insert {map : OrderedMap Key Value} {key : Key} {value : Value}
    {entry : Key × Value} (member : entry ∈ (map.insert key value).entries) :
    entry = (key, value) ∨ entry ∈ map.entries :=
  mem_place member

theorem mem_insert_of_mem {map : OrderedMap Key Value} {key : Key} {value : Value}
    {entry : Key × Value} (member : entry ∈ map.entries) :
    entry ∈ (map.insert key value).entries :=
  mem_place_of_mem member

/-- A lookup after an insertion under a key that is not in use. -/
theorem find?_insert {map : OrderedMap Key Value} {key : Key} {value : Value}
    (fresh : map.find? key = none) (other : Key) :
    (map.insert key value).find? other = if other = key then some value else map.find? other := by
  by_cases same : other = key
  · rw [if_pos same, same]
    exact find?_eq_some_iff.mpr ((mem_insert_iff fresh).mpr (.inl rfl))
  · rw [if_neg same]
    cases found : map.find? other with
    | some present =>
        have member := find?_eq_some_iff.mp found
        exact find?_eq_some_iff.mpr ((mem_insert_iff fresh).mpr (.inr member))
    | none =>
        apply find?_eq_none_iff.mpr
        intro present member
        rcases (mem_insert_iff fresh).mp member with inserted | member
        · exact same (congrArg Prod.fst inserted)
        · exact find?_eq_none_iff.mp found present member

theorem find?_insert_of_ne {map : OrderedMap Key Value} {key other : Key} {value : Value}
    (different : other ≠ key) : (map.insert key value).find? other = map.find? other := by
  apply Option.ext
  intro present
  rw [find?_eq_some_iff, find?_eq_some_iff]
  constructor
  · intro member
    rcases mem_of_mem_insert member with inserted | old
    · exact absurd (congrArg Prod.fst inserted) different
    · exact old
  · exact mem_insert_of_mem

@[simp] theorem mem_erase_iff {map : OrderedMap Key Value} {key : Key} {entry : Key × Value} :
    entry ∈ (map.erase key).entries ↔ entry ∈ map.entries ∧ entry.1 ≠ key := by
  simp [erase]

theorem find?_erase (map : OrderedMap Key Value) (key other : Key) :
    (map.erase key).find? other = if other = key then none else map.find? other := by
  split
  · next same =>
      apply find?_eq_none_iff.mpr
      intro value member
      exact (mem_erase_iff.mp member).2 same
  · next different =>
      apply Option.ext
      intro value
      rw [find?_eq_some_iff, find?_eq_some_iff, mem_erase_iff]
      exact ⟨And.left, fun member => ⟨member, different⟩⟩

/-- `map::erase` of a key that is not in use changes nothing. -/
theorem erase_of_find?_eq_none {map : OrderedMap Key Value} {key : Key}
    (missing : map.find? key = none) : map.erase key = map := by
  have kept : map.entries.filter (fun entry => entry.1 ≠ key) = map.entries := by
    apply List.filter_eq_self.mpr
    intro entry member
    apply decide_eq_true
    intro same
    exact find?_eq_none_iff.mp missing entry.2 (same ▸ member)
  cases map
  simp only [erase, mk.injEq]
  exact kept

end OrderedMap

end CarrotRpc.Library
