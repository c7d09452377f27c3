import MapSidebar.Proofs.Locations

/-!
# Joined URLs

The parts of a URL can be told apart where they are written one after the other: the path holds neither
`?` nor `#`, and the query no `#`. That holds of every URL that is read, alone or relative to another one
of which it holds.
-/
namespace MapSidebar

/-- The pieces of a text hold what the text holds. -/
theorem Text.mem_of_mem_splitAt {α : Type} [DecidableEq α] {sep c : α} {text piece : List α}
    (member : piece ∈ splitAt sep text) (inside : c ∈ piece) : c ∈ text := by
  induction text generalizing piece with
  | nil => simp_all [splitAt]
  | cons d rest ih =>
    unfold splitAt at member
    split at member
    · rcases List.mem_cons.mp member with rfl | member
      · cases inside
      · exact List.mem_cons_of_mem d (ih member inside)
    · split at member
      next => exact absurd ‹_› (splitAt_ne_nil sep rest)
      next first pieces cut =>
        rcases List.mem_cons.mp member with rfl | member
        · rcases List.mem_cons.mp inside with rfl | inside
          · exact List.mem_cons_self
          · exact List.mem_cons_of_mem d (ih (cut ▸ List.mem_cons_self) inside)
        · exact List.mem_cons_of_mem d (ih (cut ▸ List.mem_cons_of_mem first member) inside)

/-- A mark that a text does not hold does not come in with percent signs either. -/
theorem Host.not_mem_percentEncode_of_not_mem {encoded : UInt8 → Bool} {mark : Char}
    {text : List Char} (ascii : mark.toNat ≤ 127) (other : ∀ b, mark ∉ Query.percentByte b)
    (absent : mark ∉ text) : mark ∉ percentEncode encoded text := by
  intro member
  obtain ⟨b, byte, member⟩ := List.mem_flatMap.mp member
  split at member
  · exact other b member
  · have same := toNat_ofNat_byte_char b
    rw [← List.mem_singleton.mp member] at same
    obtain ⟨c, inside, byte⟩ := List.mem_flatMap.mp byte
    rw [Utf8.utf8EncodeChar_eq] at byte
    rcases Utf8.mem_codeBytes byte with number | beyond
    · exact absent (Char.toNat_inj.mp (same.trans number) ▸ inside)
    · omega

namespace Url

variable {u b : Url} {base : Option Url} {path : List Char}

/-- Written one after the other, the parts of a URL can be told apart. -/
structure Separable (u : Url) : Prop where
  path : Unmarked u.path
  query : ∀ query, u.query = some query → '#' ∉ query

theorem Tidy.separable (tidy : u.Tidy) : u.Separable := ⟨tidy.path, tidy.query⟩

/-! ## Paths -/

theorem unmarked_segmentsOf (clean : Unmarked path) :
    ∀ segment ∈ segmentsOf path, Unmarked segment := by
  intro segment member
  unfold segmentsOf at member
  split at member
  next rest =>
    refine ⟨fun inside => clean.1 ?_, fun inside => clean.2 ?_⟩
    · exact List.mem_cons_of_mem '/' (Text.mem_of_mem_splitAt member inside)
    · exact List.mem_cons_of_mem '/' (Text.mem_of_mem_splitAt member inside)
  next => cases member
  next => exact List.mem_singleton.mp member ▸ clean

theorem unmarked_walkPath (kind : SchemeKind) {start : List (List Char)}
    (clean : ∀ segment ∈ start, Unmarked segment) (text : List Char) :
    Unmarked (walkPath kind start text) := by
  have walked : Unmarked (joinSegments (walkText kind start text)) :=
    unmarked_joinSegments (unmarked_walk _ clean (unmarked_rawSegments _ text))
  unfold walkPath
  split
  · constructor
    · simpa using fun member => walked.1 ((List.dropWhile_sublist _).subset member)
    · simpa using fun member => walked.2 ((List.dropWhile_sublist _).subset member)
  · exact walked

/-- What stands before a query and a fragment holds neither mark. -/
theorem unmarked_before_query (special : Bool) (text : List Char) :
    Unmarked (cutQuery special text).1 := by
  have fragment : '#' ∉ (cutFragment text).1 := by
    unfold cutFragment
    split
    next found => exact (Text.cutFirst_eq_some '#' text _ _ found).2
    next absent => exact (Text.cutFirst_eq_none '#' text).mp absent
  unfold cutQuery
  dsimp only
  split
  next before _ found =>
    obtain ⟨whole, absent⟩ := Text.cutFirst_eq_some '?' _ _ _ found
    exact ⟨absent, fun member => fragment (whole ▸ List.mem_append_left _ member)⟩
  next absent => exact ⟨(Text.cutFirst_eq_none '?' _).mp absent, fragment⟩

/-! ## Kinds of URLs -/

theorem readPlain_separable (scheme rest : List Char) : (readPlain scheme rest).Separable := by
  have query := cutQuery_clean false rest
  have before := unmarked_before_query false rest
  unfold readPlain
  dsimp only
  split
  · exact ⟨unmarked_walkPath .unknown (by simp) _, query⟩
  · exact ⟨⟨Host.not_mem_percentEncode_of_not_mem (by decide)
        (fun b => (Query.percentByte_clean b).1) before.1,
      Host.not_mem_percentEncode_of_not_mem (by decide)
        (fun b => (Query.percentByte_clean b).2) before.2⟩, query⟩

/-- What a file is made of when its path goes on from given segments. -/
abbrev Absolute := Host → List (List Char) → List Char → Url

/-- Segments without marks make a URL whose parts can be told apart. -/
def Absolute.Keeps (absolute : Absolute) : Prop :=
  ∀ host start rest, (∀ segment ∈ start, Unmarked segment) → (absolute host start rest).Separable

theorem rooted_separable {absolute : Absolute} (keeps : absolute.Keeps)
    (of_base : ∀ b, base = some b → b.Separable) (rest : List Char) :
    (readFile.rooted base absolute rest).Separable := by
  unfold readFile.rooted
  split
  next => exact keeps _ _ _ (by simp)
  next b =>
    have segments := unmarked_segmentsOf (of_base b rfl).path
    split
    · exact keeps _ _ _ (by simp)
    split
    next first others cut =>
      have first_clean := segments first (cut ▸ List.mem_cons_self)
      split
      · exact keeps _ _ _ (by simpa using first_clean)
      · exact keeps _ _ _ (by simp)
    next => exact keeps _ _ _ (by simp)

theorem relative_separable {absolute : Absolute} (keeps : absolute.Keeps)
    (of_base : ∀ b, base = some b → b.Separable) (input : List Char) :
    (readFile.relative base absolute input).Separable := by
  unfold readFile.relative
  split
  next => exact keeps _ _ _ (by simp)
  next b =>
    have clean := of_base b rfl
    split
    next => exact ⟨clean.path, clean.query⟩
    next rest => exact ⟨clean.path, cutQuery_clean true ('?' :: rest)⟩
    next => exact ⟨clean.path, clean.query⟩
    next =>
      split
      · exact keeps _ _ _ (by simp)
      · exact keeps _ _ _ fun segment member =>
          unmarked_segmentsOf clean.path segment (mem_above member)

theorem readFile_separable {input : List Char} (of_base : ∀ b, base = some b → b.Separable)
    (read : readFile base input = .ok u) : u.Separable := by
  have keeps : Absolute.Keeps fun host start rest =>
      { scheme := "file".toList, authority := some { host }
        path := walkPath .file start (dropSlash (cutQuery true rest).1)
        query := (cutQuery true rest).2.1, fragment := (cutQuery true rest).2.2 } :=
    fun host start rest clean => ⟨unmarked_walkPath .file clean _, cutQuery_clean true rest⟩
  have rooted := rooted_separable keeps of_base
  have relative := relative_separable keeps of_base
  unfold readFile at read
  dsimp only at read
  split at read
  next c d rest =>
    split at read
    · split at read
      · exact Except.ok.inj read ▸ keeps _ _ _ (by simp)
      · simp only [bind, Except.bind] at read
        split at read
        · cases read
        · exact Except.ok.inj read ▸ keeps _ _ _ (by simp)
    · split at read
      · exact Except.ok.inj read ▸ rooted _
      · exact Except.ok.inj read ▸ relative _
  next c =>
    split at read
    · exact Except.ok.inj read ▸ rooted _
    · exact Except.ok.inj read ▸ relative _
  next => exact Except.ok.inj read ▸ relative _

theorem readRelative_separable {input : List Char} (clean : b.Separable)
    (read : readRelative b input = .ok u) : u.Separable := by
  unfold readRelative at read
  dsimp only at read
  split at read
  next => exact Except.ok.inj read ▸ ⟨clean.path, clean.query⟩
  next => exact Except.ok.inj read ▸ ⟨clean.path, clean.query⟩
  next rest => exact Except.ok.inj read ▸ ⟨clean.path, cutQuery_clean _ ('?' :: rest)⟩
  next c rest _ _ =>
    split at read
    · split at read
      · exact (afterSlashes_tidy read).separable
      · split at read
        · exact (afterSlashes_tidy read).separable
        · exact Except.ok.inj read ▸
            ⟨unmarked_walkPath b.kind (by simp) _, cutQuery_clean _ rest⟩
    · refine Except.ok.inj read ▸ ⟨unmarked_walkPath b.kind ?_ _, cutQuery_clean _ (c :: rest)⟩
      exact fun segment member =>
        unmarked_segmentsOf clean.path segment (List.dropLast_subset _ member)

/-! ## All URLs -/

theorem readScheme_separable {scheme rest : List Char} (of_base : ∀ b, base = some b → b.Separable)
    (read : readScheme base scheme rest = .ok u) : u.Separable := by
  unfold readScheme at read
  split at read
  next =>
    refine readFile_separable (fun b found => of_base b ?_) read
    exact (Option.filter_eq_some_iff.mp found).1
  next =>
    dsimp only at read
    split at read
    next b =>
      split at read
      · exact readRelative_separable (of_base b rfl) read
      · exact (afterSlashes_tidy read).separable
    next => exact (afterSlashes_tidy read).separable
  next =>
    split at read
    · exact (afterSlashes_tidy read).separable
    · exact Except.ok.inj read ▸ readPlain_separable _ _

/-- Reading keeps the parts of URLs apart. -/
theorem read_separable {text : List Char} (of_base : ∀ b, base = some b → b.Separable)
    (read : Url.read base text = .ok u) : u.Separable := by
  unfold Url.read at read
  dsimp only at read
  split at read
  next => exact readScheme_separable of_base read
  next =>
    split at read
    next => cases read
    next b =>
      have clean := of_base b rfl
      split at read
      next => exact Except.ok.inj read ▸ ⟨clean.path, clean.query⟩
      next =>
        split at read
        · cases read
        · split at read
          · exact readFile_separable (fun c same => Option.some.inj same ▸ clean) read
          · exact readRelative_separable clean read

theorem parse_separable {text : String} (read : parse text = .ok u) : u.Separable :=
  read_separable (by simp) (show Url.read none text.toList = .ok u from read)

theorem join_separable {text : String} (clean : b.Separable) (read : b.join text = .ok u) :
    u.Separable :=
  read_separable (fun _ same => Option.some.inj same ▸ clean) read

end Url

end MapSidebar
