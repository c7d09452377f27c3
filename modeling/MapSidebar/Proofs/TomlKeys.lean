import MapSidebar.Toml.Document
import Mathlib.Data.List.Nodup

/-!
# The keys of a document

No key of a document has two entries: whatever a line adds to the tables under construction either
takes the place of what its first key stood for, or comes as a new key at the end.
-/
namespace MapSidebar.Toml

/-- No key has two entries. -/
def DistinctKeys {α : Type} (entries : List (String × α)) : Prop := (entries.map Prod.fst).Nodup

theorem nodup_snoc {keys : List String} {key : String} (once : keys.Nodup) (absent : key ∉ keys) :
    (keys ++ [key]).Nodup := by
  rw [← List.concat_eq_append]
  exact once.concat absent

namespace Outline

variable {key : String} {path : List String} {entries added : List (String × Outline)}

theorem map_fst_put (key : String) (outline : Outline) (entries : List (String × Outline)) :
    (put key outline entries).map Prod.fst =
      if key ∈ entries.map Prod.fst then entries.map Prod.fst
      else entries.map Prod.fst ++ [key] := by
  induction entries with
  | nil => rfl
  | cons entry entries ih =>
    by_cases own : entry.1 = key
    · simp [put, own]
    · simp only [put, own, if_false, List.map_cons, ih, List.mem_cons, Ne.symm own, false_or]
      split <;> rfl

theorem distinct_put (distinct : DistinctKeys entries) (key : String) (outline : Outline) :
    DistinctKeys (put key outline entries) := by
  unfold DistinctKeys
  rw [map_fst_put]
  split
  next => exact distinct
  next absent => exact nodup_snoc distinct absent

/-- Keys stay distinct if a change at the end of the path keeps them so. -/
theorem distinct_within {fresh origin : TableOrigin}
    {change : TableOrigin → List (String × Outline) → Option (List (String × Outline))}
    (kept : ∀ origin inner after, DistinctKeys inner → change origin inner = some after →
      DistinctKeys after) (distinct : DistinctKeys entries)
    (changed : within fresh change path origin entries = some added) : DistinctKeys added := by
  cases path with
  | nil => exact kept origin entries added distinct changed
  | cons key path =>
    have placed : ∃ outline, added = put key outline entries := by
      unfold within at changed
      grind [Option.map_eq_some_iff]
    obtain ⟨outline, rfl⟩ := placed
    exact distinct_put distinct key outline

theorem distinct_addValue {v : Toml} (distinct : DistinctKeys entries)
    (changed : addValue path key v entries = some added) : DistinctKeys added := by
  refine distinct_within (fun origin inner after unique placed => ?_) distinct changed
  split at placed
  · cases placed
    exact distinct_put unique key _
  · cases placed

theorem distinct_openTable (distinct : DistinctKeys entries)
    (changed : openTable path key entries = some added) : DistinctKeys added := by
  refine distinct_within (fun origin inner after unique placed => ?_) distinct changed
  split at placed
  · cases placed
    exact distinct_put unique key _
  · cases placed
    have apart : key ∉ (inner.filter fun entry => entry.1 ≠ key).map Prod.fst := by simp
    have rest : DistinctKeys (inner.filter fun entry => entry.1 ≠ key) :=
      List.Nodup.sublist (List.filter_sublist.map Prod.fst) unique
    unfold DistinctKeys
    rw [List.map_append]
    exact nodup_snoc rest apart
  · cases placed

theorem distinct_openSeries (distinct : DistinctKeys entries)
    (changed : openSeries path key entries = some added) : DistinctKeys added := by
  refine distinct_within (fun origin inner after unique placed => ?_) distinct changed
  split at placed
  · cases placed
    exact distinct_put unique key _
  · cases placed
    exact distinct_put unique key _
  · cases placed

theorem map_fst_completeEntries (entries : List (String × Outline)) :
    (completeEntries entries).map Prod.fst = entries.map Prod.fst := by
  induction entries with
  | nil => rfl
  | cons entry entries ih => rw [completeEntries, List.map_cons, List.map_cons, ih]

end Outline

theorem map_fst_entriesWithMoments {entries found : List (String × Toml)}
    (read : entriesWithMoments? entries = some found) :
    found.map Prod.fst = entries.map Prod.fst := by
  induction entries generalizing found with
  | nil =>
    cases read
    rfl
  | cons entry entries ih =>
    unfold entriesWithMoments? at read
    split at read
    next value rest of_value of_rest =>
      cases read
      rw [List.map_cons, List.map_cons, ih of_rest]
    next => cases read

/-! ## Documents -/

namespace Document

variable {d after : Document} {input rest : List Char}

theorem distinct_addEntry {path : List String} {key : String} {v : Toml}
    (distinct : DistinctKeys d.entries) (added : d.addEntry path key v = some after) :
    DistinctKeys after.entries := by
  obtain ⟨entries, changed, rfl⟩ := Option.map_eq_some_iff.mp added
  refine Outline.distinct_within (fun origin inner more unique placed => ?_) distinct changed
  exact Outline.distinct_addValue unique placed

theorem distinct_readHeader (distinct : DistinctKeys d.entries)
    (read : d.readHeader input = some (after, rest)) : DistinctKeys after.entries := by
  obtain ⟨⟨⟨path, key⟩, left⟩, -, read⟩ := Option.bind_eq_some_iff.mp read
  dsimp only at read
  split at read
  next =>
    obtain ⟨left, -, read⟩ := Option.bind_eq_some_iff.mp read
    obtain ⟨entries, opened, read⟩ := Option.bind_eq_some_iff.mp read
    cases read
    exact Outline.distinct_openTable distinct opened
  next => cases read

theorem distinct_readSeriesHeader (distinct : DistinctKeys d.entries)
    (read : d.readSeriesHeader input = some (after, rest)) : DistinctKeys after.entries := by
  obtain ⟨⟨⟨path, key⟩, left⟩, -, read⟩ := Option.bind_eq_some_iff.mp read
  dsimp only at read
  split at read
  next =>
    obtain ⟨left, -, read⟩ := Option.bind_eq_some_iff.mp read
    obtain ⟨entries, opened, read⟩ := Option.bind_eq_some_iff.mp read
    cases read
    exact Outline.distinct_openSeries distinct opened
  next => cases read

theorem distinct_readEntry (distinct : DistinctKeys d.entries)
    (read : d.readEntry input = some (after, rest)) : DistinctKeys after.entries := by
  simp only [readEntry, bind, Option.bind_eq_some_iff, Option.some.injEq, Prod.mk.injEq] at read
  obtain ⟨⟨⟨path, key⟩, left⟩, -, ⟨value, left⟩, -, left, -, next, added, rfl, -⟩ := read
  exact distinct_addEntry distinct added

theorem distinct_readLine (distinct : DistinctKeys d.entries)
    (read : d.readLine input = some (after, rest)) : DistinctKeys after.entries := by
  unfold readLine at read
  split at read
  next => exact distinct_readSeriesHeader distinct read
  next => exact distinct_readHeader distinct read
  next =>
    split at read
    next =>
      cases read
      exact distinct
    next => exact distinct_readEntry distinct read

theorem distinct_readLines {fuel : Nat} (distinct : DistinctKeys d.entries)
    (read : readLines fuel d input = some after) : DistinctKeys after.entries := by
  induction fuel generalizing d input with
  | zero =>
    cases input with
    | nil =>
      cases read
      exact distinct
    | cons c input => cases read
  | succ fuel ih =>
    cases input with
    | nil =>
      cases read
      exact distinct
    | cons c input =>
      simp only [readLines] at read
      split at read
      next changed more line => exact ih (distinct_readLine distinct line) read
      next => cases read

end Document

theorem distinct_parse {text : String} {entries : List (String × Toml)}
    (read : parse? text = some entries) : DistinctKeys entries := by
  obtain ⟨d, lines, found⟩ := Option.bind_eq_some_iff.mp read
  have none_twice : DistinctKeys ({} : Document).entries := List.nodup_nil
  have distinct := Document.distinct_readLines none_twice lines
  unfold DistinctKeys
  rw [map_fst_entriesWithMoments found, Outline.map_fst_completeEntries]
  exact distinct

end MapSidebar.Toml
