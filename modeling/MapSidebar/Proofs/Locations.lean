import MapSidebar.Proofs.Pairs
import MapSidebar.Route.Location

/-!
# Locations as text

A location is written as its path, its query after a `?` and its fragment after a `#`. Reading what
has been written gives the location again. For a text that is cut as it stands this is what cutting
means; a URL with a host has been brought to a form in which no part holds the mark of a later one,
and its path cannot be mistaken for another URL with a host.
-/
namespace MapSidebar

namespace Location

variable {l : Location}

/-- A part after its mark, if there is one. -/
def marked (mark : Char) (part : Option (List Char)) : List Char :=
  match part with
  | some part => mark :: part
  | none => []

/-- The characters of a location: the path, `?` and the query, `#` and the fragment. -/
def chars (l : Location) : List Char :=
  l.path.toList ++ marked '?' (l.query.map String.toList)
    ++ marked '#' (l.fragment.map String.toList)

def text (l : Location) : String := String.ofList l.chars

/-- No part holds the mark of a later one. -/
structure Clean (l : Location) : Prop where
  path_query : '?' ∉ l.path.toList
  path_fragment : '#' ∉ l.path.toList
  query : ∀ query, l.query = some query → '#' ∉ query.toList

/-! ## Cutting -/

/-- A cut takes away the mark and nothing else. -/
theorem cut_whole (sep : Char) (text : List Char) :
    (cut sep text).1 ++ marked sep (cut sep text).2 = text := by
  unfold cut
  cases found : Text.cutFirst sep text with
  | none => exact List.append_nil text
  | some pair => exact (Text.cutFirst_eq_some sep text pair.1 pair.2 found).1.symm

theorem not_mem_cut (sep : Char) (text : List Char) : sep ∉ (cut sep text).1 := by
  unfold cut
  cases found : Text.cutFirst sep text with
  | none => exact (Text.cutFirst_eq_none sep text).mp found
  | some pair => exact (Text.cutFirst_eq_some sep text pair.1 pair.2 found).2

/-- What has been put together at a mark is cut there again. -/
theorem cut_append {sep : Char} {before : List Char} (absent : sep ∉ before)
    (part : Option (List Char)) : cut sep (before ++ marked sep part) = (before, part) := by
  unfold cut
  cases part with
  | none => rw [marked, List.append_nil, (Text.cutFirst_eq_none sep before).mpr absent]
  | some part => rw [marked, Text.cutFirst_append absent]

theorem map_toList_ofList (part : Option (List Char)) :
    (part.map String.ofList).map String.toList = part := by
  cases part <;> simp

theorem map_ofList_toList (part : Option String) :
    (part.map String.toList).map String.ofList = part := by
  cases part <;> simp

/-- A text that is cut as it stands is written back as it was. -/
theorem chars_ofText (text : List Char) : (ofText text).chars = text := by
  simp only [chars, ofText, map_toList_ofList, String.toList_ofList]
  rw [cut_whole, cut_whole]

theorem clean_ofText (text : List Char) : (ofText text).Clean := by
  have whole := cut_whole '?' (cut '#' text).1
  have absent := not_mem_cut '#' text
  rw [← whole, List.mem_append, not_or] at absent
  refine ⟨?_, ?_, ?_⟩
  · simpa [ofText] using not_mem_cut '?' (cut '#' text).1
  · simpa [ofText] using absent.1
  · intro query given
    simp only [ofText, Option.map_eq_some_iff] at given
    obtain ⟨part, found, rfl⟩ := given
    have inside := absent.2
    rw [found, marked, List.mem_cons, not_or] at inside
    rw [String.toList_ofList]
    exact inside.2

/-- Where no part holds the mark of a later one, cutting finds the parts again. -/
theorem ofText_chars (clean : l.Clean) : ofText l.chars = l := by
  have absent : '#' ∉ l.path.toList ++ marked '?' (l.query.map String.toList) := by
    rw [List.mem_append, not_or]
    refine ⟨clean.path_fragment, ?_⟩
    cases given : l.query with
    | none => exact List.not_mem_nil
    | some query =>
      have inside := clean.query query given
      simp [marked, inside]
  simp only [ofText, chars, cut_append absent, cut_append clean.path_query, map_ofList_toList,
    String.ofList_toList]

/-! ## Texts that are no URL with a host -/

/-- A first character that is not passed over stays the first one. -/
theorem clean_cons {c : Char} (kept : Url.isOuter c = false) (rest : List Char) :
    ∃ more, Url.clean (c :: rest) = c :: more := by
  have shown : (c = '\t' || c = '\n' || c = '\r') = false := by
    cases blank : (c = '\t' || c = '\n' || c = '\r' : Bool) with
    | false => rfl
    | true =>
      simp only [Bool.or_eq_true, decide_eq_true_eq] at blank
      rcases blank with (rfl | rfl) | rfl <;> exact absurd kept (by decide)
  have trimmed : ∃ more, ((c :: rest).reverse.dropWhile Url.isOuter).reverse = c :: more := by
    rw [List.reverse_cons, List.dropWhile_append]
    split
    · exact ⟨[], by simp [kept]⟩
    · exact ⟨_, by rw [List.reverse_append]; rfl⟩
  obtain ⟨more, trimmed⟩ := trimmed
  rw [Url.clean, List.dropWhile_cons_of_neg (by simp [kept]), trimmed]
  exact ⟨_, List.filter_cons_of_pos (by simp [shown])⟩

/-- A scheme begins with a letter, so a text that begins with a mark has none. -/
theorem absolute?_of_mark {text : String} {c : Char} {rest : List Char}
    (begins : text.toList = c :: rest) (mark : c = '/' ∨ c = '?' ∨ c = '#') :
    absolute? text = none := by
  have facts : Url.isOuter c = false ∧ c.isAlpha = false ∧ c ≠ ':' := by
    rcases mark with rfl | rfl | rfl <;> decide
  obtain ⟨more, cleaned⟩ := clean_cons facts.1 rest
  have no_scheme : Url.cutScheme? (c :: more) = none := by
    rw [Url.cutScheme?, Text.cutFirst, if_neg facts.2.2]
    cases Text.cutFirst ':' more with
    | none => rfl
    | some pair => simp [facts.2.1]
  simp only [absolute?, Url.parse, Url.read, begins, cleaned, no_scheme]

end Location

/-! ## URLs in normal form -/

/-- The byte of a character that is written as it stands is the number of the character. -/
theorem toNat_ofNat_byte_char (b : UInt8) : (Char.ofNat b.toNat).toNat = b.toNat := by
  have bound := b.toNat_lt
  rw [Char.ofNat, dif_pos (Or.inl (by omega))]
  rfl

/-- Neither mark is part of what a byte is written with. -/
theorem Query.percentByte_clean (b : UInt8) : '?' ∉ percentByte b ∧ '#' ∉ percentByte b := by
  have bound := b.toNat_lt
  have digits : ∀ n < 16, hexDigit n ≠ '?' ∧ hexDigit n ≠ '#' := by decide
  have high := digits (b.toNat / 16) (by omega)
  have low := digits (b.toNat % 16) (by omega)
  simp [percentByte, high.1.symm, high.2.symm, low.1.symm, low.2.symm]

/-- A mark whose byte is written with a percent sign does not occur any more. -/
theorem Host.not_mem_percentEncode {encoded : UInt8 → Bool} {mark : Char}
    (hidden : encoded (UInt8.ofNat mark.toNat) = true) (other : ∀ b, mark ∉ Query.percentByte b)
    (text : List Char) : mark ∉ percentEncode encoded text := by
  intro member
  obtain ⟨b, -, member⟩ := List.mem_flatMap.mp member
  split at member
  · exact other b member
  next shown =>
    have same := toNat_ofNat_byte_char b
    rw [← List.mem_singleton.mp member] at same
    rw [same, UInt8.ofNat_toNat] at hidden
    exact shown hidden

namespace Url

variable {u : Url} {kind : SchemeKind}

/-- The segments of a path hold neither mark. -/
def Unmarked (segment : List Char) : Prop := '?' ∉ segment ∧ '#' ∉ segment

/-- A path and a query as they stand in a URL with a host. -/
structure Tidy (u : Url) : Prop where
  rooted : u.path = [] ∨ ∃ rest, u.path = '/' :: rest
  path : Unmarked u.path
  query : ∀ query, u.query = some query → '#' ∉ query

theorem unmarked_rawSegments (special : Bool) (text : List Char) :
    ∀ segment ∈ rawSegments special text, Unmarked segment := by
  intro segment member
  obtain ⟨piece, -, rfl⟩ := List.mem_map.mp member
  exact ⟨Host.not_mem_percentEncode (by decide) (fun b => (Query.percentByte_clean b).1) piece,
    Host.not_mem_percentEncode (by decide) (fun b => (Query.percentByte_clean b).2) piece⟩

theorem mem_above {segments : List (List Char)} {segment : List Char}
    (member : segment ∈ above segments) : segment ∈ segments := by
  unfold above at member
  split at member
  · exact member
  · exact List.dropLast_subset _ member

/-- A walk leads to segments that it began with or was given, but for the blank one at its end and
the letter of a drive. -/
theorem unmarked_walk (file : Bool) {done rest : List (List Char)}
    (before : ∀ segment ∈ done, Unmarked segment) (given : ∀ segment ∈ rest, Unmarked segment) :
    ∀ segment ∈ walk file done rest, Unmarked segment := by
  induction rest generalizing done with
  | nil => exact before
  | cons next rest ih =>
    have later : ∀ segment ∈ rest, Unmarked segment := fun segment member =>
      given segment (List.mem_cons_of_mem next member)
    have first := given next List.mem_cons_self
    have blank : Unmarked [] := ⟨List.not_mem_nil, List.not_mem_nil⟩
    have extend : ∀ {start : List (List Char)} {added : List Char},
        (∀ segment ∈ start, Unmarked segment) → Unmarked added →
        ∀ segment ∈ start ++ [added], Unmarked segment := by
      intro start added old new segment member
      rcases List.mem_append.mp member with inside | last
      · exact old segment inside
      · exact List.mem_singleton.mp last ▸ new
    have up : ∀ segment ∈ above done, Unmarked segment := fun segment member =>
      before segment (mem_above member)
    unfold walk
    split
    · refine ih ?_ later
      split
      · exact extend up blank
      · exact up
    split
    · refine ih ?_ later
      split
      · exact extend before blank
      · exact before
    · refine ih (extend before ?_) later
      split
      next c =>
        split
        · simpa [Unmarked] using first
        · exact first
      · exact first

theorem unmarked_joinSegments {segments : List (List Char)}
    (clean : ∀ segment ∈ segments, Unmarked segment) : Unmarked (joinSegments segments) := by
  constructor
  · intro member
    obtain ⟨segment, inside, member⟩ := List.mem_flatMap.mp member
    exact (clean segment inside).1 (by simpa using member)
  · intro member
    obtain ⟨segment, inside, member⟩ := List.mem_flatMap.mp member
    exact (clean segment inside).2 (by simpa using member)

theorem joinSegments_rooted (segments : List (List Char)) :
    joinSegments segments = [] ∨ ∃ rest, joinSegments segments = '/' :: rest := by
  cases segments with
  | nil => exact .inl rfl
  | cons segment segments => exact .inr ⟨_, rfl⟩

/-- A path from the root begins with a slash and holds neither mark. -/
theorem walkPath_tidy (kind : SchemeKind) (text : List Char) :
    (walkPath kind [] text = [] ∨ ∃ rest, walkPath kind [] text = '/' :: rest) ∧
      Unmarked (walkPath kind [] text) := by
  have clean : Unmarked (joinSegments (walkText kind [] text)) :=
    unmarked_joinSegments (unmarked_walk _ (by simp) (unmarked_rawSegments _ text))
  unfold walkPath
  split
  · refine ⟨.inr ⟨_, rfl⟩, ?_, ?_⟩
    · simpa using fun member => clean.1 ((List.dropWhile_sublist _).subset member)
    · simpa using fun member => clean.2 ((List.dropWhile_sublist _).subset member)
  · exact ⟨joinSegments_rooted _, clean⟩

theorem cutQuery_clean (special : Bool) (text : List Char) :
    ∀ query, (cutQuery special text).2.1 = some query → '#' ∉ query := by
  intro query found
  have hidden : inQuery special (UInt8.ofNat '#'.toNat) = true := by cases special <;> decide
  unfold cutQuery at found
  dsimp only at found
  split at found
  · cases found
    exact Host.not_mem_percentEncode hidden (fun b => (Query.percentByte_clean b).2) _
  · cases found

theorem afterSlashes_tidy {scheme input : List Char} (read : afterSlashes scheme input = .ok u) :
    u.Tidy := by
  unfold afterSlashes at read
  simp only [bind, Except.bind] at read
  split at read
  · cases read
  next authority _ =>
    have path := walkPath_tidy (SchemeKind.ofScheme scheme)
    rw [← Except.ok.inj read]
    refine ⟨?_, ?_, cutQuery_clean _ _⟩
    · dsimp only
      split
      · split
        · exact .inr ⟨[], rfl⟩
        · exact .inl rfl
      · exact (path _).1
    · dsimp only
      split
      · split
        · exact ⟨by decide, by decide⟩
        · exact ⟨by decide, by decide⟩
      · exact (path _).2

theorem readFile_tidy {input : List Char} (read : readFile none input = .ok u) : u.Tidy := by
  have rooted : ∀ (host : Host) (rest : List Char), Tidy
      { scheme := "file".toList, authority := some { host }
        path := walkPath .file [] (dropSlash (cutQuery true rest).1)
        query := (cutQuery true rest).2.1, fragment := (cutQuery true rest).2.2 } := by
    intro host rest
    have path := walkPath_tidy .file (dropSlash (cutQuery true rest).1)
    exact { rooted := path.1, path := path.2, query := cutQuery_clean true rest }
  unfold readFile readFile.rooted readFile.relative at read
  dsimp only at read
  split at read
  · split at read
    · split at read
      · exact Except.ok.inj read ▸ rooted _ _
      · simp only [bind, Except.bind] at read
        split at read
        · cases read
        · exact Except.ok.inj read ▸ rooted _ _
    · split at read
      · exact Except.ok.inj read ▸ rooted _ _
      · exact Except.ok.inj read ▸ rooted _ _
  · split at read
    · exact Except.ok.inj read ▸ rooted _ _
    · exact Except.ok.inj read ▸ rooted _ _
  · exact Except.ok.inj read ▸ rooted _ _

theorem readPlain_hasHost (scheme rest : List Char) : (readPlain scheme rest).hasHost = false := by
  unfold readPlain
  dsimp only
  split <;> rfl

/-- A URL with a host is tidy. -/
theorem parse_tidy {text : String} (read : parse text = .ok u) (host : u.hasHost = true) :
    u.Tidy := by
  unfold parse Url.read at read
  dsimp only at read
  split at read
  next scheme rest _ =>
    unfold readScheme at read
    split at read
    · exact readFile_tidy read
    · exact afterSlashes_tidy read
    · split at read
      · exact afterSlashes_tidy read
      · rw [← Except.ok.inj read, readPlain_hasHost] at host
        cases host
  · cases read

end Url

namespace Location

/-! ## All of it -/

/-- The parts of a URL with a host are cut again as they are. -/
theorem clean_ofUrl {u : Url} (tidy : u.Tidy) : (ofUrl u).Clean := by
  refine ⟨?_, ?_, ?_⟩
  · simpa [ofUrl] using tidy.path.1
  · simpa [ofUrl] using tidy.path.2
  · intro query given
    simp only [ofUrl, Option.map_eq_some_iff] at given
    obtain ⟨part, found, rfl⟩ := given
    rw [String.toList_ofList]
    exact tidy.query part found

/-- What is written of a URL with a host names no host itself. -/
theorem absolute?_ofUrl {u : Url} (tidy : u.Tidy) : absolute? (ofUrl u).text = none := by
  have whole : (ofUrl u).text.toList = u.path ++ (marked '?' u.query ++ marked '#' u.fragment) := by
    simp only [text, chars, ofUrl, map_toList_ofList, String.toList_ofList, List.append_assoc]
  rcases tidy.rooted with empty | ⟨rest, path⟩
  · rw [empty, List.nil_append] at whole
    cases query : u.query with
    | some part =>
      rw [query] at whole
      exact absolute?_of_mark whole (.inr (.inl rfl))
    | none =>
      cases fragment : u.fragment with
      | some part =>
        rw [query, fragment] at whole
        exact absolute?_of_mark whole (.inr (.inr rfl))
      | none =>
        rw [query, fragment] at whole
        rw [String.toList_eq_nil_iff.mp whole]
        rfl
  · rw [path] at whole
    exact absolute?_of_mark whole (.inl rfl)

theorem parse_of_none {text : String} (none_there : absolute? text = none) :
    parse text = ofText text.toList := by
  rw [parse, none_there]

/-- What it means that the reading of a URL is stable. -/
structure ReadStably (url : String) : Prop where
  /-- What is written of a location is read as that location. -/
  again : parse (parse url).text = parse url
  /-- A text that is no URL with a host is written as it was, -/
  verbatim : absolute? url = none → (parse url).text = url
  /-- and is cut at its first marks. -/
  cut : absolute? url = none → '?' ∉ (parse url).path.toList ∧ '#' ∉ (parse url).path.toList ∧
    ∀ query, (parse url).query = some query → '#' ∉ query.toList
  /-- A text that begins with a slash is no URL with a host. -/
  rooted : ∀ rest, url.toList = '/' :: rest → absolute? url = none

theorem text_of_none {url : String} (none_there : absolute? url = none) :
    (parse url).text = url := by
  rw [parse_of_none none_there, text, chars_ofText, String.ofList_toList]

theorem tidy_of_absolute? {url : String} {u : Url} (found : absolute? url = some u) : u.Tidy := by
  unfold absolute? at found
  split at found
  next u' parsed =>
    split at found
    next host =>
      cases found
      exact Url.parse_tidy parsed host
    · cases found
  · cases found

/-- Every URL is read stably. -/
theorem reading_is_stable (url : String) : ReadStably url where
  again := by
    cases found : absolute? url with
    | none => rw [text_of_none found]
    | some u =>
      have read : parse url = ofUrl u := by rw [parse, found]
      have tidy := tidy_of_absolute? found
      rw [read, parse_of_none (absolute?_ofUrl tidy), text, String.toList_ofList,
        ofText_chars (clean_ofUrl tidy)]
  verbatim := text_of_none
  cut none_there := by
    have clean := clean_ofText url.toList
    rw [← parse_of_none none_there] at clean
    exact ⟨clean.path_query, clean.path_fragment, clean.query⟩
  rooted _ begins := absolute?_of_mark begins (.inl rfl)

/-- A text that begins with two slashes, and a URL with a host and an empty query. -/
theorem reading_is_stable_emptyQuery : absolute? "//note?a#b?c" = none ∧
    (parse "//note?a#b?c").text = "//note?a#b?c" ∧
    parse (parse "http://h/a b?#x#y").text = ⟨"/a%20b", some "", some "x#y"⟩ :=
  ⟨rfl, (reading_is_stable "//note?a#b?c").verbatim rfl,
    (reading_is_stable "http://h/a b?#x#y").again.trans (by decide +kernel)⟩

end Location

end MapSidebar
