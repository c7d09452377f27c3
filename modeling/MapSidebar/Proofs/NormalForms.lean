import MapSidebar.Proofs.Trimming
import MapSidebar.Settings.File

/-!
# Normal forms of settings

A server URL and a path in front of locations are brought to normal form by taking away blanks at their
ends and then slashes, each once. So what stood between blanks and slashes is left: a text with a blank
before the slashes at its end is in no normal form afterwards, and every other text is in one and stays
as it is when this is done again. A path with a blank after the slashes at its front stays as it is, too,
but is in no normal form.
-/
namespace MapSidebar.Settings

open Text

variable {text : List Char} {raw u : String}

/-! ## Loose ends -/

/-- The end of a text is loose if a blank stands before the slashes there. Blanks after these slashes do
not count, and something other than blanks stands before. -/
def LooseEnd (text : List Char) : Prop :=
  ∃ front b slashes back, text = front ++ b :: (slashes ++ back) ∧
    (∃ c ∈ front, isBlank c = false) ∧ isBlank b = true ∧
    slashes ≠ [] ∧ (∀ c ∈ slashes, c = '/') ∧ ∀ c ∈ back, isBlank c = true

/-- The start of a text is loose if its end is when it is read backwards. -/
def LooseStart (text : List Char) : Prop := LooseEnd text.reverse

theorem isSlash_iff {c : Char} : isSlash c = true ↔ c = '/' := decide_eq_true_iff

theorem not_isSlash_iff {c : Char} : isSlash c = false ↔ c ≠ '/' := decide_eq_false_iff_not

theorem isSlash_of_isBlank {b : Char} (blank : isBlank b = true) : isSlash b = false := by
  refine not_isSlash_iff.mpr ?_
  rintro rfl
  exact absurd blank (by decide)

theorem no_slash_left (text : List Char) : (dropEnd isSlash text).getLast? ≠ some '/' := fun ends =>
  not_isSlash_iff.mp (last_dropEnd isSlash text '/' ends) rfl

theorem looseEnd_of_blank {b : Char} (ends : (dropEnd isSlash (trim text)).getLast? = some b)
    (blank : isBlank b = true) : LooseEnd text := by
  obtain ⟨left, back, whole, blanks, stripped⟩ := trim_eq_iff.mp (Eq.refl (trim text))
  obtain ⟨slashes, trimmed, all⟩ := dropEnd_append_rest isSlash (trim text)
  obtain ⟨front, kept⟩ := List.getLast?_eq_some_iff.mp ends
  rw [kept, List.append_assoc, List.singleton_append] at trimmed
  rw [trimmed] at whole stripped
  -- Nothing blank is at the ends of what is trimmed, so there is more on both sides of the blank.
  have more_before : ∃ c ∈ front, isBlank c = false := by
    cases front with
    | nil => simpa [blank] using stripped.first b rfl
    | cons c front => exact ⟨c, List.mem_cons_self, stripped.first c rfl⟩
  have some_slash : slashes ≠ [] := by
    rintro rfl
    simpa [blank] using stripped.last b (by simp)
  obtain ⟨c, inside, shown⟩ := more_before
  exact ⟨left ++ front, b, slashes, back, by simpa using whole,
    ⟨c, List.mem_append_right _ inside, shown⟩, blank, some_slash,
    fun c member => isSlash_iff.mp (all c member),
    fun c member => blanks c (List.mem_append_right _ member)⟩

theorem trim_slashes {front slashes back : List Char} (more : ∃ c ∈ front, isBlank c = false)
    (some_slash : slashes ≠ []) (all : ∀ c ∈ slashes, c = '/')
    (blanks : ∀ c ∈ back, isBlank c = true) (b : Char) :
    trim (front ++ b :: (slashes ++ back)) = front.dropWhile isBlank ++ b :: slashes := by
  refine trim_eq_iff.mpr ⟨front.takeWhile isBlank, back, ?_, ?_, ?_, ?_⟩
  · rw [← List.append_assoc (front.takeWhile isBlank), List.takeWhile_append_dropWhile]
    simp
  · exact fun c member => (List.mem_append.mp member).elim List.mem_takeWhile_imp (blanks c)
  · intro c begins
    have some_left : front.dropWhile isBlank ≠ [] := by
      obtain ⟨d, inside, shown⟩ := more
      intro none_left
      have blank := List.dropWhile_eq_nil_iff.mp none_left d inside
      simp [shown] at blank
    rw [List.head?_append_of_ne_nil _ some_left] at begins
    have outside := List.head?_dropWhile_not isBlank front
    rw [begins] at outside
    simpa using outside
  · intro c ends
    rw [List.getLast?_append_of_ne_nil _ (by simp), List.getLast?_cons_of_ne_nil some_slash] at ends
    rw [all c (List.mem_of_getLast? ends)]
    decide

/-- A blank is left at the end exactly if the end was loose. -/
theorem blank_left_iff : (∃ b, (dropEnd isSlash (trim text)).getLast? = some b ∧ isBlank b = true) ↔
    LooseEnd text := by
  constructor
  · rintro ⟨b, ends, blank⟩
    exact looseEnd_of_blank ends blank
  · rintro ⟨front, b, slashes, back, rfl, more, blank, some_slash, all, blanks⟩
    have kept : dropEnd isSlash (front.dropWhile isBlank ++ b :: slashes) =
        front.dropWhile isBlank ++ [b] := by
      rw [List.append_cons, dropEnd_append fun c member => isSlash_iff.mpr (all c member)]
      refine dropEnd_of_last fun c ends => ?_
      rw [List.getLast?_concat, Option.some_inj] at ends
      exact ends ▸ isSlash_of_isBlank blank
    exact ⟨b, by rw [trim_slashes more some_slash all blanks, kept, List.getLast?_concat], blank⟩

/-- What is left of a text when a path is brought to normal form. -/
def inside (text : List Char) : List Char := dropEnd isSlash ((trim text).dropWhile isSlash)

theorem inside_reverse (text : List Char) : inside text.reverse = (inside text).reverse := by
  rw [inside, trim_reverse, strip_reverse]
  rfl

theorem last_inside_iff : (∀ c, (inside text).getLast? = some c → isBlank c = false) ↔
    ¬ LooseEnd text := by
  rw [← blank_left_iff, inside, getLast?_strip]
  simp

theorem first_inside_iff : (∀ c, (inside text).head? = some c → isBlank c = false) ↔
    ¬ LooseStart text := by
  rw [LooseStart, ← last_inside_iff, inside_reverse, List.getLast?_reverse]

/-! ## Server URLs -/

structure IsNormalUrl (u : String) : Prop where
  blanks : Stripped isBlank u.toList
  slash : u.toList.getLast? ≠ some '/'

theorem normalizeServerUrl_eq_ok : normalizeServerUrl raw = .ok u ↔
    dropEnd isSlash (trim raw.toList) = u.toList ∧ isWeb u.toList = true := by
  simp only [normalizeServerUrl]
  split
  next web =>
    rw [Except.ok.injEq, ← String.toList_inj, String.toList_ofList]
    exact ⟨fun same => ⟨same, same ▸ web⟩, And.left⟩
  next other =>
    constructor
    · exact fun failed => nomatch failed
    · rintro ⟨same, web⟩
      exact absurd (same ▸ web) other

/-- A URL for the web begins with a letter. -/
theorem first_of_isWeb (web : isWeb text = true) : text.head? = some 'h' := by
  rw [isWeb, Bool.or_eq_true, List.isPrefixOf_iff_prefix, List.isPrefixOf_iff_prefix] at web
  obtain ⟨rest, rfl⟩ | ⟨rest, rfl⟩ := web <;> rfl

/-- What stays as it is when ends are taken away had none of them. -/
theorem eq_trim_of_stable (stable : dropEnd isSlash (trim text) = text) : trim text = text := by
  obtain ⟨left, right, whole, -, -⟩ := trim_eq_iff.mp (Eq.refl (trim text))
  obtain ⟨slashes, trimmed, -⟩ := dropEnd_append_rest isSlash (trim text)
  rw [stable] at trimmed
  have lengths := congrArg List.length whole
  have longer := congrArg List.length trimmed
  simp only [List.length_append] at lengths longer
  have nothing : slashes = [] := List.eq_nil_of_length_eq_zero (by omega)
  rw [trimmed, nothing, List.append_nil]

/-- The server URLs that stay as they are, are those in normal form. -/
theorem normalizeServerUrl_self_iff :
    normalizeServerUrl u = .ok u ↔ isWeb u.toList = true ∧ IsNormalUrl u := by
  rw [normalizeServerUrl_eq_ok, and_comm, and_congr_right_iff]
  intro web
  constructor
  · intro stable
    refine ⟨?_, fun ends => ?_⟩
    · rw [← eq_trim_of_stable stable]
      exact stripped_trim _
    · rw [← stable] at ends
      exact no_slash_left _ ends
  · intro normal
    rw [trim_of_stripped normal.blanks]
    refine dropEnd_of_last fun c ends => not_isSlash_iff.mpr ?_
    rintro rfl
    exact normal.slash ends

/-- What becomes of a server URL. -/
structure UrlReached (raw u : String) : Prop where
  web : isWeb u.toList = true
  first : ∀ c, u.toList.head? = some c → isBlank c = false
  last : u.toList.getLast? ≠ some '/'
  /-- Blanks are left at its end if the end was loose. -/
  normal : IsNormalUrl u ↔ ¬ LooseEnd raw.toList
  stable : normalizeServerUrl u = .ok u ↔ ¬ LooseEnd raw.toList

theorem url_reached (accepted : normalizeServerUrl raw = .ok u) : UrlReached raw u := by
  obtain ⟨left_over, web⟩ := normalizeServerUrl_eq_ok.mp accepted
  have first : ∀ c, u.toList.head? = some c → isBlank c = false := by
    intro c begins
    rw [first_of_isWeb web, Option.some_inj] at begins
    exact begins ▸ by decide
  have last : u.toList.getLast? ≠ some '/' := by
    rw [← left_over]
    exact no_slash_left _
  have normal : IsNormalUrl u ↔ ¬ LooseEnd raw.toList := by
    rw [← blank_left_iff, left_over]
    constructor
    · rintro normal ⟨b, ends, blank⟩
      simp [normal.blanks.last b ends] at blank
    · intro none_left
      refine ⟨⟨first, fun c ends => ?_⟩, last⟩
      exact Bool.eq_false_iff.mpr fun blank => none_left ⟨c, ends, blank⟩
  exact ⟨web, first, last, normal,
    normalizeServerUrl_self_iff.trans ((and_iff_right web).trans normal)⟩

/-! ## Paths in front of locations -/

/-- A path that is empty, or a slash and more text, which neither begins nor ends with a character of a
class. -/
def Rooted (edge : Char → Bool) (path : String) : Prop :=
  path = "" ∨ ∃ text, path = String.ofList ('/' :: text) ∧ text ≠ [] ∧ Stripped edge text

def IsNormalPath (path : String) : Prop := Rooted (fun c => isSlash c || isBlank c) path

theorem normalizePrefix_eq (raw : String) : normalizePrefix raw =
    if inside raw.toList = [] then "" else String.ofList ('/' :: inside raw.toList) := by
  simp only [normalizePrefix, List.isEmpty_iff]
  rfl

theorem inside_rooted (text : List Char) :
    inside ('/' :: text) = dropEnd isSlash ((dropEnd isBlank text).dropWhile isSlash) := by
  have shown : ¬ isBlank '/' = true := by decide
  rw [inside, trim, List.dropWhile_cons_of_neg shown, dropEnd_cons_of_neg shown,
    List.dropWhile_cons_of_pos (isSlash_iff.mpr rfl)]

theorem rooted_iff {edge : Char → Bool} (filled : text ≠ []) :
    Rooted edge (String.ofList ('/' :: text)) ↔ Stripped edge text := by
  constructor
  · rintro (none_there | ⟨other, same, -, stripped⟩)
    · exact absurd (congrArg String.toList none_there) (by simp)
    · rw [String.ofList_inj, List.cons_inj_right] at same
      exact same ▸ stripped
  · exact fun stripped => .inr ⟨text, rfl, filled, stripped⟩

theorem stripped_or_iff {p q : Char → Bool} :
    Stripped (fun c => p c || q c) text ↔ Stripped p text ∧ Stripped q text := by
  simp only [stripped_iff, Bool.or_eq_false_iff]
  grind

/-- A path keeps its text exactly if no blank is at its end. -/
theorem stable_iff (filled : text ≠ []) (stripped : Stripped isSlash text) :
    normalizePrefix (String.ofList ('/' :: text)) = String.ofList ('/' :: text) ↔
      ∀ c, text.getLast? = some c → isBlank c = false := by
  have kept_iff : normalizePrefix (String.ofList ('/' :: text)) = String.ofList ('/' :: text) ↔
      inside ('/' :: text) = text := by
    rw [normalizePrefix_eq, String.toList_ofList]
    split
    next nothing =>
      rw [nothing]
      exact iff_of_false (fun same => absurd (congrArg String.toList same) (by simp)) filled.symm
    next => rw [String.ofList_inj, List.cons_inj_right]
  rw [kept_iff, inside_rooted]
  constructor
  · intro kept
    obtain ⟨blanks, whole, -⟩ := dropEnd_append_rest isBlank text
    obtain ⟨left, right, split, -, -⟩ := strip_eq_iff.mp kept
    have shorter := congrArg List.length whole
    have longer := congrArg List.length split
    simp only [List.length_append] at shorter longer
    have nothing : blanks = [] := List.eq_nil_of_length_eq_zero (by omega)
    rw [nothing, List.append_nil] at whole
    rw [whole]
    exact last_dropEnd isBlank text
  · intro last
    rw [dropEnd_of_last last]
    exact strip_of_stripped stripped

structure PathReached (raw path : String) : Prop where
  rooted : Rooted isSlash path
  normal : IsNormalPath path ↔ ¬ LooseStart raw.toList ∧ ¬ LooseEnd raw.toList
  stable : normalizePrefix path = path ↔ ¬ LooseEnd raw.toList

theorem path_reached (raw : String) : PathReached raw (normalizePrefix raw) := by
  rw [normalizePrefix_eq]
  split
  next nothing =>
    have no_start : ¬ LooseStart raw.toList := first_inside_iff.mp (by simp [nothing])
    have no_end : ¬ LooseEnd raw.toList := last_inside_iff.mp (by simp [nothing])
    exact ⟨.inl rfl, iff_of_true (.inl rfl) ⟨no_start, no_end⟩, iff_of_true (by decide) no_end⟩
  next filled =>
    have stripped : Stripped isSlash (inside raw.toList) := stripped_strip isSlash _
    refine ⟨(rooted_iff filled).mpr stripped, ?_, (stable_iff filled stripped).trans last_inside_iff⟩
    rw [IsNormalPath, rooted_iff filled, stripped_or_iff, and_iff_right stripped, stripped_iff,
      first_inside_iff, last_inside_iff]

/-! ## Settings -/

variable {before s t : Settings}

theorem map_eq_ok_iff {ε α β : Type} {f : α → β} {x : Except ε α} {b : β} :
    x.map f = .ok b ↔ ∃ a, x = .ok a ∧ f a = b := by
  cases x <;> simp [Except.map]

theorem normalize_eq_ok : before.normalize = .ok s ↔
    ∃ u, normalizeServerUrl before.serverUrl = .ok u ∧
      { before with serverUrl := u, partialPrefix := normalizePrefix before.partialPrefix } = s :=
  map_eq_ok_iff

theorem withServerUrl_eq_ok : s.withServerUrl (some raw) = .ok t ↔
    ∃ u, normalizeServerUrl raw = .ok u ∧ { s with serverUrl := u } = t :=
  map_eq_ok_iff

theorem normalize_self_iff : s.normalize = .ok s ↔
    normalizeServerUrl s.serverUrl = .ok s.serverUrl ∧
      normalizePrefix s.partialPrefix = s.partialPrefix := by
  obtain ⟨url, path, history, comments, distance⟩ := s
  simp only [normalize_eq_ok, mk.injEq, and_true]
  constructor
  · rintro ⟨u, accepted, rfl, kept⟩
    exact ⟨accepted, kept⟩
  · rintro ⟨accepted, kept⟩
    exact ⟨url, accepted, rfl, kept⟩

theorem withServerUrl_self_iff :
    s.withServerUrl (some s.serverUrl) = .ok s ↔ normalizeServerUrl s.serverUrl = .ok s.serverUrl := by
  obtain ⟨url, path, history, comments, distance⟩ := s
  simp only [withServerUrl_eq_ok, mk.injEq, and_true, exists_eq_right]

theorem loadFile_eq_ok {path : String} {content : Option (List UInt8)}
    {environment : String → Option String} : loadFile path content environment = .ok s ↔
      ∃ entries, fileEntries path content = .ok entries ∧
        (combined entries environment).normalize = .ok s := by
  unfold loadFile load
  cases fileEntries path content <;> simp [bind, Except.bind]

structure Reached (before s : Settings) : Prop where
  url : UrlReached before.serverUrl s.serverUrl
  path : PathReached before.partialPrefix s.partialPrefix
  stable : s.normalize = .ok s ↔
    ¬ LooseEnd before.serverUrl.toList ∧ ¬ LooseEnd before.partialPrefix.toList

structure Replaced (raw : String) (t : Settings) : Prop where
  url : UrlReached raw t.serverUrl
  stable : t.withServerUrl (some t.serverUrl) = .ok t ↔ ¬ LooseEnd raw.toList

theorem reached (settled : before.normalize = .ok s) : Reached before s := by
  obtain ⟨u, accepted, same⟩ := normalize_eq_ok.mp settled
  have url : UrlReached before.serverUrl s.serverUrl := by
    rw [← same]
    exact url_reached accepted
  have path : PathReached before.partialPrefix s.partialPrefix := by
    rw [← same]
    exact path_reached before.partialPrefix
  exact ⟨url, path, normalize_self_iff.trans (and_congr url.stable path.stable)⟩

theorem replaced (settled : s.withServerUrl (some raw) = .ok t) : Replaced raw t := by
  obtain ⟨u, accepted, rfl⟩ := withServerUrl_eq_ok.mp settled
  have url := url_reached accepted
  exact ⟨url, withServerUrl_self_iff.trans url.stable⟩

/-- What is brought to normal form begins and ends without slashes, or as a URL for the web; it is in
normal form exactly if the ends of the text before were not loose, and stays as it is exactly if the
end was not. So it is with the settings that a file and an environment give, and with a server URL that
is given afterwards. -/
theorem normal_unless_loose (raw path : String) (content : Option (List UInt8))
    (environment : String → Option String) :
    (∀ u, normalizeServerUrl raw = .ok u → UrlReached raw u) ∧
    PathReached raw (normalizePrefix raw) ∧
    (∀ s, loadFile path content environment = .ok s → ∃ entries,
      fileEntries path content = .ok entries ∧ Reached (combined entries environment) s) ∧
    ∀ s t : Settings, s.withServerUrl (some raw) = .ok t → Replaced raw t := by
  refine ⟨fun _ => url_reached, path_reached raw, ?_, fun _ _ => replaced⟩
  intro s loaded
  obtain ⟨entries, read, settled⟩ := loadFile_eq_ok.mp loaded
  exact ⟨entries, read, reached settled⟩

/-- Blanks around a URL and slashes at its end go at once. -/
theorem normal_unless_loose_padded :
    normalizeServerUrl "\thttp://a// " = .ok "http://a" ∧
    ¬ LooseEnd "\thttp://a// ".toList ∧ IsNormalUrl "http://a" ∧
    normalizeServerUrl "http://a" = .ok "http://a" := by
  have accepted : normalizeServerUrl "\thttp://a// " = .ok "http://a" :=
    normalizeServerUrl_eq_ok.mpr (by decide)
  have last : (dropEnd isSlash (trim "\thttp://a// ".toList)).getLast? = some 'a' := by decide
  have tight : ¬ LooseEnd "\thttp://a// ".toList := by
    intro loose
    obtain ⟨b, ends, blank⟩ := blank_left_iff.mpr loose
    rw [← Option.some.inj (last.symm.trans ends)] at blank
    exact absurd blank (by decide)
  have url := (normal_unless_loose "\thttp://a// " "" none fun _ => none).1 _ accepted
  exact ⟨accepted, tight, url.normal.mpr tight, url.stable.mpr tight⟩

/-- A blank before the last slash is left, and a second time it is taken away. -/
theorem blank_before_slash_is_left :
    normalizeServerUrl "http://a /" = .ok "http://a " ∧
    normalizeServerUrl "http://a " = .ok "http://a" ∧
    ¬ IsNormalUrl "http://a " ∧
    normalizeServerUrl "http:// /" = .ok "http:// " ∧
    normalizeServerUrl "http:// " = .error (.serverUrl "http:// ") ∧
    normalizePrefix "/a /" = "/a " ∧ normalizePrefix "/a " = "/a" ∧ ¬ IsNormalPath "/a " := by
  have url : ¬ IsNormalUrl "http://a " := fun normal =>
    absurd (normal.blanks.last ' ' (by decide)) (by decide)
  have path : ¬ IsNormalPath (String.ofList ('/' :: ['a', ' '])) := by
    rw [IsNormalPath, rooted_iff (by decide)]
    exact fun stripped => absurd (stripped.last ' ' rfl) (by decide)
  exact ⟨normalizeServerUrl_eq_ok.mpr (by decide), normalizeServerUrl_eq_ok.mpr (by decide), url,
    normalizeServerUrl_eq_ok.mpr (by decide), rfl, by decide, by decide, path⟩

end MapSidebar.Settings
