import Mathlib.Data.String.Basic
import MapSidebar.Json.Basic

/-!
# Entries in the order of their keys

Sorting the entries of an object keeps what stands at each key, leaves entries alone that are in
order already, and can be exchanged with picking entries by their keys.
-/
namespace MapSidebar.Json

/-- The entries stand in the order of their keys, and no key is repeated. -/
abbrev InOrder (entries : List (String × Json)) : Prop := entries.Pairwise fun a b => a.1 < b.1

variable {key : String} {value : Json} {entries more : List (String × Json)}

theorem mem_insertEntry {entry : String × Json} (member : entry ∈ insertEntry key value entries) :
    entry = (key, value) ∨ entry ∈ entries := by
  induction entries with
  | nil => exact Or.inl (List.mem_singleton.mp member)
  | cons first entries ih =>
    unfold insertEntry at member
    split at member
    · exact List.mem_cons.mp member
    split at member
    · rcases List.mem_cons.mp member with same | later
      · exact Or.inl same
      · exact Or.inr (List.mem_cons_of_mem _ later)
    · rcases List.mem_cons.mp member with same | later
      · exact Or.inr (same ▸ List.mem_cons_self)
      · exact (ih later).imp_right (List.mem_cons_of_mem _)

theorem inOrder_insertEntry (sorted : InOrder entries) : InOrder (insertEntry key value entries) := by
  induction entries with
  | nil => exact List.pairwise_singleton _ _
  | cons first entries ih =>
    obtain ⟨least, later⟩ := List.pairwise_cons.mp sorted
    unfold insertEntry
    split
    next before =>
      refine List.pairwise_cons.mpr ⟨fun entry member => ?_, sorted⟩
      rcases List.mem_cons.mp member with rfl | member
      · exact before
      · exact before.trans (least entry member)
    next not_before =>
    split
    next same => exact List.pairwise_cons.mpr ⟨fun entry member => same ▸ least entry member, later⟩
    next different =>
      have after : first.1 < key := lt_of_le_of_ne (not_lt.mp not_before) (Ne.symm different)
      refine List.pairwise_cons.mpr ⟨fun entry member => ?_, ih later⟩
      rcases mem_insertEntry member with rfl | member
      · exact after
      · exact least entry member

/-- An entry with a greater key than all others goes to the end. -/
theorem insertEntry_last (greatest : ∀ entry ∈ entries, entry.1 < key) :
    insertEntry key value entries = entries ++ [(key, value)] := by
  induction entries with
  | nil => rfl
  | cons first entries ih =>
    have before := greatest first List.mem_cons_self
    rw [insertEntry, if_neg before.not_gt, if_neg before.ne',
      ih fun entry member => greatest entry (List.mem_cons_of_mem _ member), List.cons_append]

/-- An entry with a smaller key than all others goes to the front. -/
theorem insertEntry_first (least : ∀ entry ∈ entries, key < entry.1) :
    insertEntry key value entries = (key, value) :: entries := by
  cases entries with
  | nil => rfl
  | cons first entries => rw [insertEntry, if_pos (least first List.mem_cons_self)]

theorem lookup_entry (name : String) (entry : String × Json) (entries : List (String × Json)) :
    (entry :: entries).lookup name = if name = entry.1 then some entry.2 else entries.lookup name := by
  obtain ⟨key, value⟩ := entry
  by_cases same : name = key
  · subst same
    rw [List.lookup_cons_self, if_pos rfl]
  · rw [List.lookup_cons, beq_eq_false_iff_ne.mpr same, if_neg same]

theorem lookup_insertEntry (name : String) : (insertEntry key value entries).lookup name =
    if name = key then some value else entries.lookup name := by
  induction entries with
  | nil => exact lookup_entry name (key, value) []
  | cons first entries ih =>
    unfold insertEntry
    split
    · exact lookup_entry name (key, value) _
    split
    next equal =>
      rw [lookup_entry, lookup_entry, equal]
      split <;> rfl
    next different =>
      rw [lookup_entry, lookup_entry, ih]
      by_cases same : name = first.1
      · rw [if_pos same, if_neg fun equal => different (equal.symm.trans same), if_pos same]
      · rw [if_neg same, if_neg same]

/-- Picking entries by their keys: one that is not picked need not be put in. -/
theorem filter_insertEntry (pick : String → Bool) (sorted : InOrder entries) :
    (insertEntry key value entries).filter (fun entry => pick entry.1) =
      if pick key then insertEntry key value (entries.filter fun entry => pick entry.1)
      else entries.filter fun entry => pick entry.1 := by
  induction entries with
  | nil => by_cases picked : pick key = true <;> simp [insertEntry, picked]
  | cons first entries ih =>
    obtain ⟨least, later⟩ := List.pairwise_cons.mp sorted
    by_cases before : key < first.1
    · have front : ∀ entry ∈ (first :: entries).filter (fun entry => pick entry.1), key < entry.1 := by
        intro entry member
        rcases List.mem_cons.mp (List.mem_filter.mp member).1 with rfl | member
        · exact before
        · exact before.trans (least entry member)
      rw [insertEntry_first front, insertEntry, if_pos before, List.filter_cons]
    by_cases same : key = first.1
    · subst same
      have front : ∀ entry ∈ entries.filter (fun entry => pick entry.1), first.1 < entry.1 :=
        fun entry member => least entry (List.mem_filter.mp member).1
      rw [insertEntry, if_neg before, if_pos rfl, List.filter_cons, List.filter_cons]
      by_cases picked : pick first.1 = true
      · simp [picked, insertEntry]
      · simp [picked]
    · rw [insertEntry, if_neg before, if_neg same, List.filter_cons, List.filter_cons, ih later]
      by_cases picked : pick first.1 = true
      · by_cases own : pick key = true
        · simp [picked, own, insertEntry, before, same]
        · simp [picked, own]
      · simp [picked]

/-! ## Sorting -/

/-- Entries put one after the other into others that are in order. -/
def mergeEntries (sorted entries : List (String × Json)) : List (String × Json) :=
  entries.foldl (fun sorted entry => insertEntry entry.1 entry.2 sorted) sorted

/-- Entries that are in order and come after all others go to the end as they are. -/
theorem mergeEntries_append (entries more : List (String × Json)) (sorted : InOrder (entries ++ more)) :
    mergeEntries entries more = entries ++ more := by
  induction more generalizing entries with
  | nil => exact (List.append_nil entries).symm
  | cons entry more ih =>
    have greatest : ∀ other ∈ entries, other.1 < entry.1 := fun other member =>
      (List.pairwise_append.mp sorted).2.2 other member entry List.mem_cons_self
    have step : entries ++ [entry] ++ more = entries ++ entry :: more := by simp
    rw [← step] at sorted ⊢
    rw [← ih _ sorted, ← insertEntry_last greatest]
    rfl

/-- Entries that are in order are left alone. -/
theorem sortEntries_of_inOrder (sorted : InOrder entries) : sortEntries entries = entries :=
  mergeEntries_append [] entries sorted

theorem lookup_mergeEntries (name : String) (entries more : List (String × Json)) :
    (mergeEntries entries more).lookup name =
      (more.reverse.lookup name).or (entries.lookup name) := by
  induction more generalizing entries with
  | nil => rfl
  | cons entry more ih =>
    have step : mergeEntries entries (entry :: more) =
        mergeEntries (insertEntry entry.1 entry.2 entries) more := rfl
    rw [step, ih, lookup_insertEntry, List.reverse_cons, List.lookup_append, Option.or_assoc]
    rw [lookup_entry]
    split <;> rfl

/-- At each key stands the last entry that had it. -/
theorem lookup_sortEntries (name : String) :
    (sortEntries entries).lookup name = entries.reverse.lookup name :=
  (lookup_mergeEntries name [] entries).trans Option.or_none

theorem filter_mergeEntries (pick : String → Bool) (sorted : InOrder entries) :
    (mergeEntries entries more).filter (fun entry => pick entry.1) =
      mergeEntries (entries.filter fun entry => pick entry.1)
        (more.filter fun entry => pick entry.1) := by
  induction more generalizing entries with
  | nil => rfl
  | cons entry more ih =>
    have step : mergeEntries entries (entry :: more) =
        mergeEntries (insertEntry entry.1 entry.2 entries) more := rfl
    rw [step, ih (inOrder_insertEntry sorted), filter_insertEntry pick sorted, List.filter_cons]
    by_cases picked : pick entry.1 = true
    · rw [if_pos picked, if_pos picked]
      rfl
    · rw [if_neg picked, if_neg picked]

/-- Picking entries by their keys can be done before they are sorted. -/
theorem filter_sortEntries (pick : String → Bool) :
    (sortEntries entries).filter (fun entry => pick entry.1) =
      sortEntries (entries.filter fun entry => pick entry.1) :=
  filter_mergeEntries pick List.Pairwise.nil

end MapSidebar.Json
