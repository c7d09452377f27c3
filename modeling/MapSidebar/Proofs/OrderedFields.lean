import MapSidebar.Proofs.OneSubmission
import MapSidebar.Proofs.Precedence

/-!
# The fields of a form as a map

Setting a field that is there changes its value in its place; a new one is added at the end. So
whatever happens to a form, its fields are those that have been set, each once, in the order in which
they were set for the first time and with the values that they were given last. A look-up by name
finds that value, and a request carries it.
-/
namespace MapSidebar

namespace FormFields

variable {fields : FormFields} {calls : List (String × String)} {name other value kept : String}

/-! ## Setting one field -/

theorem names_set (fields : FormFields) (name value : String) :
    (fields.set name value).map Prod.fst =
      if name ∈ fields.map Prod.fst then fields.map Prod.fst
      else fields.map Prod.fst ++ [name] := by
  induction fields with
  | nil => rfl
  | cons field rest ih =>
    by_cases own : field.1 = name
    · simp [set, own]
    · simp only [set, own, if_false, List.map_cons, ih, List.mem_cons, Ne.symm own, false_or]
      split <;> rfl

theorem get?_set (fields : FormFields) (name value other : String) :
    (fields.set name value).get? other =
      if other = name then some value else fields.get? other := by
  unfold get?
  induction fields with
  | nil =>
    by_cases same : other = name
    · simp [set, same]
    · simp [set, same, List.lookup_cons, beq_false_of_ne same]
  | cons field rest ih =>
    obtain ⟨key, old⟩ := field
    by_cases own : key = name
    · subst own
      by_cases same : other = key
      · simp [set, same]
      · simp [set, same, List.lookup_cons, beq_false_of_ne same]
    · simp only [set, own, if_false, List.lookup_cons, ih]
      by_cases same : other = key
      · simp [same, own]
      · simp [beq_false_of_ne same]

/-- All other fields stay where they are. -/
theorem getElem?_set_of_ne (different : other ≠ name) (i : Nat) :
    (fields.set name value)[i]? = some (other, kept) ↔ fields[i]? = some (other, kept) := by
  induction fields generalizing i with
  | nil => cases i <;> simp [set, different.symm]
  | cons field rest ih =>
    obtain ⟨key, old⟩ := field
    by_cases own : key = name
    · subst own
      cases i <;> simp [set, different.symm]
    · cases i with
      | zero => simp [set, own]
      | succ i => simpa [set, own] using ih i

/-- Two fields can be set in either order exactly if they need not both be added. -/
theorem set_comm_iff (different : name ≠ other) (value kept : String) :
    (fields.set name value).set other kept = (fields.set other kept).set name value ↔
      name ∈ fields.map Prod.fst ∨ other ∈ fields.map Prod.fst := by
  induction fields with
  | nil => simp [set, different, different.symm]
  | cons field rest ih =>
    obtain ⟨key, old⟩ := field
    by_cases own : key = name
    · subst own
      simp [set, different]
    · by_cases same : key = other
      · subst same
        simp [set, own]
      · simp [set, own, same, ih, Ne.symm own, Ne.symm same]

/-! ## Setting one field after another -/

/-- Sets fields, one call after another. -/
def setAll (fields : FormFields) (calls : List (String × String)) : FormFields :=
  calls.foldl (fun fields call => fields.set call.1 call.2) fields

/-- The last of the calls that set a field gave it this value. -/
def LastSet (calls : List (String × String)) (name value : String) : Prop :=
  ∃ earlier later, calls = earlier ++ (name, value) :: later ∧ ∀ call ∈ later, call.1 ≠ name

theorem setAll_concat (fields : FormFields) (calls : List (String × String))
    (call : String × String) :
    fields.setAll (calls ++ [call]) = (fields.setAll calls).set call.1 call.2 :=
  List.foldl_concat ..

theorem lastSet_iff_lookup : LastSet calls name value ↔ calls.reverse.lookup name = some value := by
  rw [List.lookup_eq_some_iff]
  constructor
  · rintro ⟨earlier, later, rfl, none_later⟩
    refine ⟨later.reverse, earlier.reverse, by simp, fun call member => ?_⟩
    exact bne_iff_ne.mpr (none_later call (List.mem_reverse.mp member)).symm
  · rintro ⟨later, earlier, split, none_later⟩
    refine ⟨earlier.reverse, later.reverse, ?_, fun call member => ?_⟩
    · rw [← List.reverse_reverse calls, split]
      simp
    · exact (bne_iff_ne.mp (none_later call (List.mem_reverse.mp member))).symm

theorem names_setAll (calls : List (String × String)) :
    (setAll [] calls).map Prod.fst = (calls.map Prod.fst).eraseDups := by
  induction calls using List.reverseRecOn with
  | nil => rfl
  | append_singleton calls call ih =>
    rw [setAll_concat, names_set, ih, List.map_append, List.eraseDups_append]
    by_cases again : call.1 ∈ calls.map Prod.fst
    · rw [if_pos (List.mem_eraseDups.mpr again)]
      simp [List.removeAll, again]
    · rw [if_neg (fun listed => again (List.mem_eraseDups.mp listed))]
      simp [List.removeAll, again, List.eraseDups_cons]

example : setAll [] [("q", "a"), ("page", "1"), ("q", "b")] = [("q", "b"), ("page", "1")] := by
  decide

theorem nodup_setAll (calls : List (String × String)) : ((setAll [] calls).map Prod.fst).Nodup := by
  induction calls using List.reverseRecOn with
  | nil => exact List.nodup_nil
  | append_singleton calls call ih =>
    rw [setAll_concat, names_set]
    split
    next => exact ih
    next absent => exact Toml.nodup_snoc ih absent

theorem get?_setAll (calls : List (String × String)) (name : String) :
    (setAll [] calls).get? name = calls.reverse.lookup name := by
  induction calls using List.reverseRecOn with
  | nil => rfl
  | append_singleton calls call ih =>
    rw [setAll_concat, get?_set, ih, List.reverse_concat, List.lookup_cons]
    by_cases own : name = call.1
    · simp [own]
    · simp [own, beq_false_of_ne own]

end FormFields

namespace FormDesk

open FormFields (setAll LastSet)

/-- The field that a happening sets, and its value. -/
def fieldSet? : Happening → Option (String × String)
  | .action (.setField name value) => some (name, value)
  | _ => none

/-- The fields that are set in the course of a history, with their values. -/
def fieldsSet (history : List Happening) : List (String × String) := history.filterMap fieldSet?

variable {d t : FormDesk} {n : Nat}

/-- Submissions only read the form. -/
theorem Turned.form (turned : d.Turned n t) : t.form = d.form := by cases turned <;> rfl

/-- Nothing but setting a field touches the fields. -/
theorem happen_fields (d : FormDesk) (h : Happening) :
    (d.happen h).form.fields = d.form.fields.setAll (fieldSet? h).toList := by
  cases h with
  | turn n => exact congrArg Form.fields (turn_cases d n).form
  | action a =>
    cases a with
    | setField name value => rfl
    | configure handler =>
      simp only [happen, perform, configure]
      split <;> rfl
    | submit => rfl
    | abort n =>
      simp only [happen, perform, abort]
      split <;> rfl
    | answer request a => rfl
    | step =>
      rcases step_cases d with idle | ⟨n, turned⟩
      · exact congrArg (·.form.fields) idle
      · exact congrArg Form.fields ((congrArg FormDesk.form turned).trans (turn_cases d n).form)

theorem run_fields (d : FormDesk) (history : List Happening) :
    (d.run history).form.fields = d.form.fields.setAll (fieldsSet history) := by
  induction history generalizing d with
  | nil => rfl
  | cons h history ih =>
    have rest : (d.run (h :: history)).form.fields =
        (d.happen h).form.fields.setAll (fieldsSet history) := ih _
    rw [rest, happen_fields]
    cases set : fieldSet? h with
    | none => simp [fieldsSet, set, setAll]
    | some call => simp [fieldsSet, set, setAll]

/-- What holds of a form on a desk when `calls` have set its fields. -/
structure FieldsInOrder (d : FormDesk) (calls : List (String × String)) : Prop where
  /-- No two fields have the same name. -/
  once : (d.form.fields.map Prod.fst).Nodup
  /-- The fields stand in the order of the first calls that set them. -/
  order : d.form.fields.map Prod.fst = (calls.map Prod.fst).eraseDups
  /-- Each has the value of the last call that set it. -/
  values : ∀ name value, (name, value) ∈ d.form.fields ↔ LastSet calls name value
  /-- A look-up gives that value. -/
  found : ∀ name value, d.form.fields.get? name = some value ↔ LastSet calls name value
  /-- It gives nothing exactly if the field has never been set. -/
  missing : ∀ name, d.form.fields.get? name = none ↔ ∀ call ∈ calls, call.1 ≠ name
  /-- A request carries the same fields in the same order, less the empty ones if they are left
  out. -/
  sent : ∀ handler, (Submission.requestOf d.form handler).fields.Sublist d.form.fields ∧
    ∀ name value, (name, value) ∈ (Submission.requestOf d.form handler).fields ↔
      LastSet calls name value ∧ (handler.omitEmpty = true → value ≠ "")
  /-- Setting a field leaves the values and the places of all others as they are. -/
  apart : ∀ name value other, other ≠ name →
    (d.setField name value).form.fields.get? other = d.form.fields.get? other ∧
    ∀ (i : Nat) (kept : String), (d.setField name value).form.fields[i]? =
      some (other, kept) ↔ d.form.fields[i]? = some (other, kept)
  /-- Different fields can be set in either order exactly if one of them is there. -/
  commute : ∀ name value other kept, name ≠ other →
    ((d.setField name value).setField other kept = (d.setField other kept).setField name value ↔
      name ∈ d.form.fields.map Prod.fst ∨ other ∈ d.form.fields.map Prod.fst)

/-- The fields of a form are those that have been set, as often and whenever that was, in the order
of their first and with the values of their last setting. -/
theorem fields_in_order (method : Method) (action : String) (messages : List FormMessage)
    (history : List Happening) :
    ((opened { method, action } messages).run history).FieldsInOrder (fieldsSet history) := by
  have fields := run_fields (opened { method, action } messages) history
  generalize (opened { method, action } messages).run history = d at fields ⊢
  generalize fieldsSet history = calls at fields ⊢
  replace fields : d.form.fields = setAll [] calls := fields
  have once : Toml.DistinctKeys d.form.fields := fields ▸ FormFields.nodup_setAll calls
  have found : ∀ name, d.form.fields.get? name = calls.reverse.lookup name :=
    fun name => fields ▸ FormFields.get?_setAll calls name
  have values : ∀ name value, (name, value) ∈ d.form.fields ↔ LastSet calls name value := by
    intro name value
    rw [FormFields.lastSet_iff_lookup, ← found]
    exact once.lookup_eq_some.symm
  refine ⟨once, fields ▸ FormFields.names_setAll calls, values, ?_, ?_, ?_, ?_, ?_⟩
  · intro name value
    rw [found, FormFields.lastSet_iff_lookup]
  · intro name
    rw [found, List.lookup_eq_none_iff]
    simp only [List.mem_reverse, bne_iff_ne, ne_comm (a := name)]
  · intro handler
    refine ⟨List.filter_sublist, fun name value => ?_⟩
    simp only [Submission.requestOf, Submission.sentFields, List.mem_filter, values]
    cases handler.omitEmpty <;> simp
  · intro name value other different
    refine ⟨?_, fun i kept => FormFields.getElem?_set_of_ne different i⟩
    exact (FormFields.get?_set ..).trans (if_neg different)
  · intro name value other kept different
    rw [← FormFields.set_comm_iff different value kept]
    simp [setField]

end FormDesk

end MapSidebar
