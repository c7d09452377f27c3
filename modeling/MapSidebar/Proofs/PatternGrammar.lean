import MapSidebar.Proofs.Pairs
import Mathlib.Data.List.Forall2

/-!
# The grammar of patterns

A pattern is a path whose segments are literals and captures. A capture is a colon, a name, a
constraint in parentheses, which may be left out, and a mark if it is optional. The reading of patterns
accepts what is written like this, if no name is given twice and nothing that a path must have comes
after something optional; and it gives the segments that are written there.
-/
namespace MapSidebar

structure IsCaptureName (name : List Char) : Prop where
  filled : name ≠ []
  chars : ∀ c ∈ name, c.isAlpha = true ∨ c.isDigit = true ∨ c = '_'

/-- A constraint is written so, with its parentheses. -/
inductive Constraint.Spelled : Constraint → List Char → Prop
  | any : Spelled .any []
  | digits : Spelled .digits ['(', '\\', 'd', '+', ')']
  | oneOf {options : List String} {body : List Char} (filled : body ≠ [])
    (opens : '(' ∉ body) (closes : ')' ∉ body) (no_digits : body ≠ ['\\', 'd', '+'])
    (some_option : options ≠ []) (whole : ∀ option ∈ options, '|' ∉ option.toList)
    (joined : ['|'].intercalate (options.map String.toList) = body) :
    Spelled (.oneOf options) ('(' :: (body ++ [')']))

inductive Segment.Spelled : Segment → String → Prop
  | literal {part : String} (plain : part.toList.head? ≠ some ':') : Spelled (.literal part) part
  | capture {name part : String} {constraint : Constraint} {optional : Bool} {written : List Char}
    (named : IsCaptureName name.toList) (constrained : constraint.Spelled written)
    (text : part.toList =
      ':' :: (name.toList ++ written ++ if optional then ['?'] else [])) :
    Spelled (.capture name constraint optional) part

/-- No name is given twice, and nothing that a path must have comes after something optional. -/
structure Orderly (segments : List Segment) : Prop where
  distinct : (captureNames segments).Nodup
  optional_last : segments.Pairwise fun earlier later =>
    earlier.isOptional = true → later.isOptional = true

/-- The text is a pattern of these segments. -/
structure IsTemplate (text : String) (segments : List Segment) : Prop where
  absolute : text.toList.head? = some '/'
  parts : List.Forall₂ Segment.Spelled segments (Text.segments text)
  orderly : Orderly segments

/-! ## Cutting -/

namespace Text

variable {α : Type} [DecidableEq α] {sep c : α} {text body before after : List α}

theorem dropLast?_eq_some : dropLast? c text = some body ↔ text = body ++ [c] := by
  unfold dropLast?
  constructor
  · intro dropped
    split at dropped
    next last =>
      cases dropped
      exact (List.dropLast_append_getLast? c last).symm
    next other => cases dropped
  · rintro rfl
    rw [if_pos List.getLast?_concat, List.dropLast_concat]

theorem cutFirst_eq_some_iff :
    cutFirst sep text = some (before, after) ↔ text = before ++ sep :: after ∧ sep ∉ before := by
  constructor
  · exact cutFirst_eq_some sep text before after
  · rintro ⟨rfl, absent⟩
    exact cutFirst_append absent after

/-- The pieces of a text, joined again, are the text. -/
theorem intercalate_splitAt (sep : α) (text : List α) : [sep].intercalate (splitAt sep text) = text := by
  induction text with
  | nil => rfl
  | cons c rest ih =>
    have some_piece := splitAt_ne_nil sep rest
    cases cut : splitAt sep rest with
    | nil => exact absurd cut some_piece
    | cons piece pieces =>
      rw [cut] at ih
      by_cases same : c = sep
      · simp only [splitAt, same, if_true, cut]
        rw [intercalate_cons_cons, ih, List.nil_append]
      · simp only [splitAt, same, if_false, cut]
        cases pieces with
        | nil => simpa [List.intercalate] using ih
        | cons next pieces =>
          rw [intercalate_cons_cons] at ih ⊢
          rw [List.cons_append, ih]

/-- The pieces of a text are the only ones without separators that can be joined to it. -/
theorem splitAt_eq_iff {pieces : List (List α)} : splitAt sep text = pieces ↔
    pieces ≠ [] ∧ (∀ piece ∈ pieces, sep ∉ piece) ∧ [sep].intercalate pieces = text := by
  constructor
  · rintro rfl
    exact ⟨splitAt_ne_nil sep text, fun piece => not_mem_of_mem_splitAt sep text piece,
      intercalate_splitAt sep text⟩
  · rintro ⟨some_piece, whole, rfl⟩
    exact splitAt_intercalate some_piece whole

end Text

/-! ## Captures -/

namespace Segment

theorem isNameChar_iff {c : Char} :
    isNameChar c = true ↔ c.isAlpha = true ∨ c.isDigit = true ∨ c = '_' := by
  simp only [isNameChar, Char.isAlphanum, Bool.or_eq_true, decide_eq_true_eq, or_assoc]

/-- A name holds no sign of the grammar. -/
theorem ne_of_isCaptureName {name : List Char} (named : IsCaptureName name) {c : Char}
    (other : isNameChar c = false) : c ∉ name := by
  intro member
  rw [isNameChar_iff.mpr (named.chars c member)] at other
  cases other

theorem options_iff {body : List Char} {options : List String} :
    (Text.splitAt '|' body).map String.ofList = options ↔
      options ≠ [] ∧ (∀ option ∈ options, '|' ∉ option.toList) ∧
        ['|'].intercalate (options.map String.toList) = body := by
  have texts : (Text.splitAt '|' body).map String.ofList = options ↔
      Text.splitAt '|' body = options.map String.toList := by
    constructor
    · rintro rfl
      simp [Function.comp_def]
    · intro pieces
      simp [pieces, Function.comp_def]
  rw [texts, Text.splitAt_eq_iff]
  simp

/-- What is read after an opening parenthesis. -/
theorem constraint?_eq_some {text : List Char} {constraint : Constraint} :
    constraint? text = some constraint ↔ constraint.Spelled ('(' :: text) := by
  unfold constraint?
  constructor
  · intro read
    split at read
    next => cases read
    next body closed =>
      rw [Text.dropLast?_eq_some] at closed
      subst closed
      split at read
      next is_digits =>
        cases read
        subst is_digits
        exact .digits
      next no_digits =>
        split at read
        next => cases read
        next clean =>
          simp only [Bool.or_eq_true, List.isEmpty_iff, List.contains_iff_mem, not_or] at clean
          obtain ⟨⟨filled, opens⟩, closes⟩ := clean
          cases read
          obtain ⟨some_option, whole, joined⟩ := options_iff.mp rfl
          exact .oneOf filled opens closes no_digits some_option whole joined
  · intro spelled
    cases spelled with
    | digits => decide
    | @oneOf options body filled opens closes no_digits some_option whole joined =>
      have closed : Text.dropLast? ')' (body ++ [')']) = some body := Text.dropLast?_eq_some.mpr rfl
      have clean : ¬ (body.isEmpty || body.contains '(' || body.contains ')') = true := by
        simp [filled, opens, closes]
      simp only [closed, if_neg no_digits, if_neg clean,
        options_iff.mpr ⟨some_option, whole, joined⟩]

/-- A capture without its mark is cut where its constraint begins. -/
theorem nameAndConstraint?_eq_some {head name : List Char} {constraint : Constraint} :
    nameAndConstraint? head = some (name, constraint) ↔
      '(' ∉ name ∧ ∃ written, constraint.Spelled written ∧ head = name ++ written := by
  unfold nameAndConstraint?
  constructor
  · intro read
    split at read
    next no_cut =>
      cases read
      exact ⟨(Text.cutFirst_eq_none '(' head).mp no_cut, [], .any, (List.append_nil head).symm⟩
    next before rest cut =>
      obtain ⟨found, spelled, pair⟩ := Option.map_eq_some_iff.mp read
      cases pair
      obtain ⟨joined, absent⟩ := Text.cutFirst_eq_some_iff.mp cut
      exact ⟨absent, _, constraint?_eq_some.mp spelled, joined⟩
  · rintro ⟨absent, written, spelled, rfl⟩
    have begins : written = [] ∧ constraint = .any ∨ ∃ rest, written = '(' :: rest := by
      cases spelled with
      | any => exact .inl ⟨rfl, rfl⟩
      | digits => exact .inr ⟨_, rfl⟩
      | oneOf => exact .inr ⟨_, rfl⟩
    rcases begins with ⟨rfl, rfl⟩ | ⟨rest, rfl⟩
    · rw [List.append_nil, (Text.cutFirst_eq_none '(' name).mpr absent]
    · rw [Text.cutFirst_append absent]
      dsimp only
      rw [constraint?_eq_some.mpr spelled, Option.map_some]

/-- A capture that is not optional does not end with a mark. -/
theorem dropLast?_mark {name written : List Char} {constraint : Constraint}
    (named : IsCaptureName name) (spelled : constraint.Spelled written) :
    Text.dropLast? '?' (name ++ written) = none := by
  have closed : written = [] ∨ ∃ inner, written = inner ++ [')'] := by
    cases spelled with
    | any => exact .inl rfl
    | digits => exact .inr ⟨['(', '\\', 'd', '+'], rfl⟩
    | @oneOf _ body => exact .inr ⟨'(' :: body, rfl⟩
  rw [Option.eq_none_iff_forall_ne_some]
  intro text dropped
  have at_end := congrArg List.getLast? (Text.dropLast?_eq_some.mp dropped)
  rw [List.getLast?_concat] at at_end
  rcases closed with rfl | ⟨inner, rfl⟩
  · rw [List.append_nil] at at_end
    exact ne_of_isCaptureName named (by decide) (List.mem_of_getLast? at_end)
  · rw [← List.append_assoc, List.getLast?_concat] at at_end
    cases at_end

/-- What is read once the mark has been taken off. -/
theorem reading_eq_ok (pattern part : String) (head : List Char) (optional : Bool)
    {segment : Segment} {reading : Except RouteError Segment}
    (refused : nameAndConstraint? head = none → reading = .error (.invalidSegment pattern part))
    (taken : ∀ name constraint, nameAndConstraint? head = some (name, constraint) →
      reading = if name.isEmpty then .error (.emptyCapture pattern)
        else if name.all isNameChar then .ok (.capture (String.ofList name) constraint optional)
        else .error (.invalidSegment pattern part)) :
    reading = .ok segment ↔
      ∃ name constraint written, segment = .capture name constraint optional ∧
        IsCaptureName name.toList ∧ constraint.Spelled written ∧ head = name.toList ++ written := by
  constructor
  · intro read
    cases cut : nameAndConstraint? head with
    | none =>
      rw [refused cut] at read
      cases read
    | some both =>
      obtain ⟨name, constraint⟩ := both
      rw [taken name constraint cut] at read
      split at read
      next => cases read
      next filled =>
        split at read
        next chars =>
          cases read
          obtain ⟨-, written, spelled, joined⟩ := nameAndConstraint?_eq_some.mp cut
          refine ⟨String.ofList name, constraint, written, rfl, ⟨?_, ?_⟩, spelled, ?_⟩
          · simpa using filled
          · intro c member
            rw [String.toList_ofList] at member
            exact isNameChar_iff.mp (List.all_eq_true.mp chars c member)
          · rw [String.toList_ofList, joined]
        next => cases read
  · rintro ⟨name, constraint, written, rfl, named, spelled, joined⟩
    have cut : nameAndConstraint? head = some (name.toList, constraint) :=
      nameAndConstraint?_eq_some.mpr
        ⟨ne_of_isCaptureName named (by decide), written, spelled, joined⟩
    have filled : ¬ name.toList.isEmpty = true := by simpa using named.filled
    have chars : name.toList.all isNameChar = true :=
      List.all_eq_true.mpr fun c member => isNameChar_iff.mpr (named.chars c member)
    rw [taken name.toList constraint cut, if_neg filled, if_pos chars, String.ofList_toList]

/-- What is read after a colon. -/
theorem parseCapture_eq_ok {pattern part : String} {text : List Char} {segment : Segment} :
    parseCapture pattern part text = .ok segment ↔
      ∃ name constraint optional written, segment = .capture name constraint optional ∧
        IsCaptureName name.toList ∧ constraint.Spelled written ∧
        text = name.toList ++ written ++ if optional then ['?'] else [] := by
  unfold parseCapture
  cases marked : Text.dropLast? '?' text with
  | some head =>
    refine (reading_eq_ok pattern part head true (fun cut => by simp only [cut])
      (fun name constraint cut => by simp only [cut])).trans ?_
    have ends := Text.dropLast?_eq_some.mp marked
    constructor
    · rintro ⟨name, constraint, written, same, named, spelled, joined⟩
      exact ⟨name, constraint, true, written, same, named, spelled, by rw [ends, joined, if_pos rfl]⟩
    · rintro ⟨name, constraint, optional, written, same, named, spelled, joined⟩
      cases optional with
      | true =>
        refine ⟨name, constraint, written, same, named, spelled, ?_⟩
        exact (List.append_inj_left' (ends.symm.trans joined) rfl)
      | false =>
        simp only [Bool.false_eq_true, if_false, List.append_nil] at joined
        rw [joined, dropLast?_mark named spelled] at marked
        cases marked
  | none =>
    refine (reading_eq_ok pattern part text false (fun cut => by simp only [cut])
      (fun name constraint cut => by simp only [cut])).trans ?_
    constructor
    · rintro ⟨name, constraint, written, same, named, spelled, joined⟩
      exact ⟨name, constraint, false, written, same, named, spelled, by simpa using joined⟩
    · rintro ⟨name, constraint, optional, written, same, named, spelled, joined⟩
      cases optional with
      | true =>
        rw [Text.dropLast?_eq_some.mpr joined] at marked
        cases marked
      | false => exact ⟨name, constraint, written, same, named, spelled, by simpa using joined⟩

/-- The parts of a pattern are read as they are written. -/
theorem parse_eq_ok {pattern part : String} {segment : Segment} :
    parse pattern part = .ok segment ↔ segment.Spelled part := by
  unfold parse
  split
  next rest begins =>
    rw [parseCapture_eq_ok]
    constructor
    · rintro ⟨name, constraint, optional, written, rfl, named, spelled, joined⟩
      exact .capture named spelled (by rw [begins, joined])
    · intro spelled
      cases spelled with
      | literal plain => exact absurd (by rw [begins]; rfl) plain
      | capture named constrained text =>
        exact ⟨_, _, _, _, rfl, named, constrained, (List.cons.inj (begins.symm.trans text)).2⟩
  next other =>
    have plain : part.toList.head? ≠ some ':' := by
      intro begins
      obtain ⟨rest, text⟩ := List.head?_eq_some_iff.mp begins
      exact other rest text
    constructor
    · intro read
      cases read
      exact .literal plain
    · intro spelled
      cases spelled with
      | literal => rfl
      | capture named constrained text => exact absurd text (other _)

end Segment

/-! ## Patterns -/

namespace Pattern

variable {pattern : String} {before segments : List Segment} {segment : Segment}

theorem orderly_concat : Orderly (before ++ [segment]) ↔ Orderly before ∧
    (∀ name, segment.name? = some name → name ∉ captureNames before) ∧
    (segment.isOptional = false → ∀ earlier ∈ before, earlier.isOptional = false) := by
  constructor
  · rintro ⟨distinct, optional_last⟩
    rw [captureNames_append, List.nodup_append] at distinct
    rw [List.pairwise_append] at optional_last
    refine ⟨⟨distinct.1, optional_last.1⟩, ?_, ?_⟩
    · intro name named member
      exact distinct.2.2 name member name (by simp [captureNames, named]) rfl
    · intro required earlier member
      have kept := optional_last.2.2 earlier member segment (List.mem_singleton_self segment)
      rw [required] at kept
      simpa using kept
  · rintro ⟨⟨distinct, optional_last⟩, new, required⟩
    refine ⟨?_, ?_⟩
    · rw [captureNames_append, List.nodup_append]
      refine ⟨distinct, ?_, ?_⟩
      · cases segment <;> simp
      · intro name member other last same
        subst same
        refine new name ?_ member
        simpa [captureNames] using last
    · rw [List.pairwise_append]
      refine ⟨optional_last, List.pairwise_singleton _ _, ?_⟩
      intro earlier member later last optional
      rw [List.mem_singleton.mp last]
      cases may_end : segment.isOptional with
      | true => rfl
      | false =>
        rw [required may_end earlier member] at optional
        cases optional

theorem orderly_of_append {more : List Segment} (orderly : Orderly (before ++ more)) :
    Orderly before := by
  have part : before.Sublist (before ++ more) := List.sublist_append_left before more
  exact ⟨orderly.distinct.sublist (part.filterMap _), orderly.optional_last.sublist part⟩

/-- A segment may follow others exactly if they are in order with it. -/
theorem extend_eq_ok (orderly : Orderly before) :
    extend pattern before segment = .ok () ↔ Orderly (before ++ [segment]) := by
  have all_required : ¬ before.any Segment.isOptional = true ↔
      ∀ earlier ∈ before, earlier.isOptional = false := by
    simp only [List.any_eq_true, not_exists, not_and, Bool.not_eq_true]
  rw [orderly_concat]
  cases segment with
  | literal text =>
    unfold extend
    dsimp only
    split
    next optional =>
      refine ⟨fun refused => (by cases refused), ?_⟩
      rintro ⟨-, -, required⟩
      exact absurd optional (all_required.mpr (required rfl))
    next required =>
      refine ⟨fun _ => ⟨orderly, ?_, fun _ => all_required.mp required⟩, fun _ => rfl⟩
      intro name named
      cases named
  | capture name constraint optional =>
    have used : before.any (fun earlier => earlier.name? = some name) = true ↔
        name ∈ captureNames before := by
      simp only [List.any_eq_true, decide_eq_true_eq, captureNames, List.mem_filterMap]
    unfold extend
    dsimp only
    split
    next twice =>
      refine ⟨fun refused => (by cases refused), ?_⟩
      rintro ⟨-, new, -⟩
      exact absurd (used.mp twice) (new name rfl)
    next new =>
      have distinct : ∀ other, (Segment.capture name constraint optional).name? = some other →
          other ∉ captureNames before := by
        intro other named
        cases named
        exact fun member => new (used.mpr member)
      split
      next late =>
        rw [Bool.and_eq_true, Bool.not_eq_true'] at late
        refine ⟨fun refused => (by cases refused), ?_⟩
        rintro ⟨-, -, required⟩
        exact absurd late.2 (all_required.mpr (required late.1))
      next in_time =>
        rw [Bool.and_eq_true, Bool.not_eq_true', not_and] at in_time
        exact ⟨fun _ => ⟨orderly, distinct, fun required => all_required.mp (in_time required)⟩,
          fun _ => rfl⟩

/-- Parts are read one after the other. -/
theorem parseParts_eq_ok {parts : List String} (orderly : Orderly before) :
    parseParts pattern before parts = .ok segments ↔
      ∃ more, segments = before ++ more ∧ List.Forall₂ Segment.Spelled more parts ∧
        Orderly segments := by
  induction parts generalizing before with
  | nil =>
    simp only [parseParts, Except.ok.injEq, List.forall₂_nil_right_iff]
    constructor
    · rintro rfl
      exact ⟨[], (List.append_nil before).symm, rfl, orderly⟩
    · rintro ⟨_, rfl, rfl, -⟩
      exact (List.append_nil before).symm
  | cons part parts ih =>
    rw [parseParts]
    constructor
    · intro read
      cases first : Segment.parse pattern part with
      | error e => simp [first, bind, Except.bind] at read
      | ok segment =>
        cases joined : extend pattern before segment with
        | error e => simp [first, joined, bind, Except.bind] at read
        | ok _ =>
          simp only [first, joined, bind, Except.bind] at read
          obtain ⟨more, rfl, spelled, whole⟩ := (ih ((extend_eq_ok orderly).mp joined)).mp read
          exact ⟨segment :: more, (List.append_cons before segment more).symm,
            .cons (Segment.parse_eq_ok.mp first) spelled, whole⟩
    · rintro ⟨_, rfl, spelled, whole⟩
      cases spelled with
      | @cons segment _ more _ first spelled =>
        have joined := List.append_cons before segment more
        have extended : Orderly (before ++ [segment]) := orderly_of_append (joined ▸ whole)
        simp only [Segment.parse_eq_ok.mpr first, (extend_eq_ok orderly).mpr extended, bind,
          Except.bind]
        exact (ih extended).mpr ⟨more, joined, spelled, whole⟩

/-- What can be read as a pattern is what the grammar allows, and what is read is what is written. -/
theorem reading_keeps_to_the_grammar (text : String) (p : Pattern) :
    parse text = .ok p ↔ p.text = text ∧ IsTemplate text p.segments := by
  have nothing_yet : Orderly [] := ⟨List.nodup_nil, List.Pairwise.nil⟩
  unfold parse
  split
  next rest absolute =>
    have begins : text.toList.head? = some '/' := by rw [absolute]; rfl
    constructor
    · intro read
      cases parts : parseParts text [] (Text.segments text) with
      | error e => simp [parts, Except.map] at read
      | ok segments =>
        simp only [parts, Except.map, Except.ok.injEq] at read
        subst read
        obtain ⟨_, rfl, spelled, orderly⟩ := (parseParts_eq_ok nothing_yet).mp parts
        exact ⟨rfl, begins, spelled, orderly⟩
    · rintro ⟨rfl, template⟩
      have parts : parseParts p.text [] (Text.segments p.text) = .ok p.segments :=
        (parseParts_eq_ok nothing_yet).mpr ⟨p.segments, rfl, template.parts, template.orderly⟩
      rw [parts]
      rfl
  next other =>
    constructor
    · intro read
      cases read
    · rintro ⟨-, template⟩
      obtain ⟨rest, absolute⟩ := List.head?_eq_some_iff.mp template.absolute
      exact absurd absolute (other rest)

example : ["/:a??", "/:a(b))", "/:(x)", "/:a(b)c", "/:a?/b"].all
    (fun text => (parse text).toOption.isNone) := by decide +kernel

end Pattern

end MapSidebar
