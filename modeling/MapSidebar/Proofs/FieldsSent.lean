import MapSidebar.Proofs.JoinedUrls
import MapSidebar.Proofs.PassedOn
import MapSidebar.Server.Basic

/-!
# The fields of a request on their way

The fields of a request are found again where it goes to: after the pairs that the query of its URL
holds already, or in its body. Two written queries with a `&` between them are read one after the other,
whatever stands in them, so nothing that was there is lost or changed.
-/
namespace MapSidebar

/-- A text is cut at a separator inside it and on both sides of that. -/
theorem Text.splitAt_append_cons {α : Type} [DecidableEq α] (sep : α) (text rest : List α) :
    splitAt sep (text ++ sep :: rest) = splitAt sep text ++ splitAt sep rest := by
  induction text with
  | nil => simp [splitAt]
  | cons c text ih =>
    obtain ⟨piece, pieces, cut⟩ := List.exists_cons_of_ne_nil (splitAt_ne_nil sep text)
    by_cases same : c = sep
    · simp [splitAt, same, ih]
    · simp [splitAt, same, ih, cut]

namespace Query

/-- Queries with a `&` between them are read one after the other. -/
theorem decodeBytes_append (query more : List UInt8) :
    decodeBytes (query ++ 0x26 :: more) = decodeBytes query ++ decodeBytes more := by
  rw [decodeBytes, Text.splitAt_append_cons, List.filter_append, List.map_append]
  rfl

theorem decode_append (query more : List Char) :
    decode (String.ofList (query ++ '&' :: more)) =
      decode (String.ofList query) ++ decode (String.ofList more) := by
  have bytes : Utf8.bytes (String.ofList (query ++ '&' :: more)) =
      Utf8.bytes (String.ofList query) ++ 0x26 :: Utf8.bytes (String.ofList more) := by
    simp only [Utf8.bytes, String.toList_ofList]
    rw [Utf8.encode_append, Utf8.encode_cons_ascii (by decide)]
    rfl
  rw [decode, bytes, decodeBytes_append]
  rfl

/-- Written pairs do not end a query. -/
theorem mark_not_mem_encodePairs (pairs : List (String × String)) : '#' ∉ encodePairs pairs := by
  intro member
  have mark : IsQueryChar '#' := isQueryChar_of_mem_encode
    (show '#' ∈ (encode pairs).toList by rwa [encode, String.toList_ofList])
  exact mark.2.2.2.1 rfl

end Query

namespace Url

variable {u : Url}

/-- The pairs that the query of a URL holds. -/
def queryPairs (u : Url) : List (String × String) :=
  match u.query with
  | some query => Query.decode (String.ofList query)
  | none => []

/-- The host of a URL and its port. -/
def place (u : Url) : Option (Host × Option Nat) := u.authority.map fun a => (a.host, a.port)

/-- Pairs that are appended change the query alone, and there they come last. -/
theorem appendPairs_eq (u : Url) (pairs : List (String × String)) : ∃ query,
    u.appendPairs pairs = { u with query := some query } ∧
      Query.decode (String.ofList query) = u.queryPairs ++ pairs ∧
      ((∀ old, u.query = some old → '#' ∉ old) → '#' ∉ query) := by
  have written := Query.decode_encode pairs
  have clean := Query.mark_not_mem_encodePairs pairs
  unfold appendPairs queryPairs
  dsimp only
  cases there : u.query with
  | none => exact ⟨_, rfl, written, fun _ => clean⟩
  | some old =>
    cases old with
    | nil => exact ⟨_, rfl, written, fun _ => clean⟩
    | cons c old =>
      refine ⟨_, rfl, ?_, fun absent => ?_⟩
      · exact (Query.decode_append (c :: old) _).trans (congrArg _ written)
      · intro member
        rcases List.mem_append.mp member with before | after
        · exact absent _ rfl before
        · rcases List.mem_cons.mp after with mark | inside
          · exact absurd mark (by decide)
          · exact clean inside

/-- User name and password are all that a URL loses with them. -/
theorem withoutCredentials_eq (u : Url) : ∃ authority,
    u.withoutCredentials = { u with authority } ∧
      (authority.map fun a => (a.host, a.port)) = u.place := by
  unfold withoutCredentials place
  split
  · refine ⟨_, rfl, ?_⟩
    cases u.authority <;> rfl
  · exact ⟨_, rfl, rfl⟩

/-- Whether there is a host is told by the place. -/
theorem hasHost_eq (u : Url) : u.hasHost = u.place.any fun place => !place.1.isEmpty := by
  unfold hasHost place
  cases u.authority <;> rfl

theorem isWeb_withoutCredentials (u : Url) : u.withoutCredentials.isWeb = u.isWeb := by
  obtain ⟨authority, same, place⟩ := withoutCredentials_eq u
  have host : u.withoutCredentials.hasHost = u.hasHost := by
    rw [hasHost_eq, hasHost_eq, ← place, same]
    rfl
  rw [isWeb, host, same]
  rfl

end Url

/-! ## What is sent -/

namespace ServerMessage

/-- The path and the pairs that stand in the target of a message, before its first `?` and after it. -/
def readTarget (m : ServerMessage) : List Char × List (String × String) :=
  let (path, query) := Location.cut '?' m.url.target
  (path, (query.map fun query => Query.decode (String.ofList query)).getD [])

/-- What is sent for a request that leads to a URL. -/
structure Carries (m : ServerMessage) (r : Request) (joined : Url) : Prop where
  method : m.method = r.method
  scheme : m.url.scheme = joined.scheme
  place : m.url.place = joined.place
  /-- The fields of a GET stand in the target. -/
  of_get : r.method = .get →
    m.readTarget = (joined.path, joined.queryPairs ++ r.fields) ∧ m.body = []
  /-- The fields of a POST stand in the body. -/
  of_post : r.method = .post → m.readTarget = (joined.path, joined.queryPairs) ∧
    m.contentType = some Server.formType ∧ Query.decodeBytes m.body = r.fields

theorem readTarget_eq {m : ServerMessage} (clean : m.url.Separable) :
    m.readTarget = (m.url.path, m.url.queryPairs) := by
  have target : m.url.target = m.url.path ++ Location.marked '?' m.url.query := by
    unfold Url.target Location.marked
    cases m.url.query <;> rfl
  rw [readTarget, target, Location.cut_append clean.path.1, Url.queryPairs]
  cases m.url.query <;> rfl

end ServerMessage

namespace Server

variable {s : Server} {r : Request} {joined : Url}

/-- How a request goes out whose URL leads from the server to `joined`. -/
structure FieldsArrive (s : Server) (r : Request) (joined : Url) : Prop where
  /-- The fields of a GET follow the pairs in the query, and nothing else of the URL changes. -/
  in_query : r.method = .get → r.fields ≠ [] → ∃ query,
    s.resolve r = .ok { joined with query := some query } ∧
      Query.decode (String.ofList query) = joined.queryPairs ++ r.fields ∧ '#' ∉ query
  /-- A POST, and a GET without fields, goes to the URL as it is. -/
  as_joined : r.method = .post ∨ r.fields = [] → s.resolve r = .ok joined
  /-- The fields of a POST are its body. -/
  in_body : r.method = .post → Query.decodeBytes (bodyOf r).2 = r.fields
  /-- Something is sent exactly to a URL for the web. -/
  sends : (∃ m, s.message r = .ok m) ↔ joined.isWeb = true
  carries : ∀ m, s.message r = .ok m → m.Carries r joined

/-- The URL that a request goes to, once it is joined. -/
theorem resolve_eq (leads : s.base.join r.url = .ok joined) : s.resolve r =
    if r.method = .get && !r.fields.isEmpty then .ok (joined.appendPairs r.fields)
    else .ok joined := by
  rw [resolve, leads]

theorem resolve_bare (leads : s.base.join r.url = .ok joined)
    (bare : r.method = .post ∨ r.fields = []) : s.resolve r = .ok joined := by
  rw [resolve_eq leads]
  rcases bare with post | empty
  · simp [post]
  · simp [empty]

/-- What is sent to the URL that a request goes to. -/
theorem message_eq_ok {u : Url} (goes : s.resolve r = .ok u) {m : ServerMessage} :
    s.message r = .ok m ↔ u.isWeb = true ∧
      m = ⟨r.method, u.withoutCredentials, u.credentials?, (bodyOf r).1, (bodyOf r).2⟩ := by
  simp only [message, goes, bind, Except.bind, u.isWeb_withoutCredentials]
  cases u.isWeb with
  | false => simp
  | true => simp [eq_comm]

theorem sends_iff {u : Url} (goes : s.resolve r = .ok u) :
    (∃ m, s.message r = .ok m) ↔ u.isWeb = true := by
  constructor
  · rintro ⟨m, sent⟩
    exact ((message_eq_ok goes).mp sent).1
  · exact fun web => ⟨_, (message_eq_ok goes).mpr ⟨web, rfl⟩⟩

theorem decode_body (post : r.method = .post) :
    Query.decodeBytes (bodyOf r).2 = r.fields := by
  rw [bodyOf, post]
  exact Query.decode_encode r.fields

/-- What is sent carries the fields if the URL that it goes to holds those of a GET. -/
theorem carries_of_resolve {query : Option (List Char)}
    (clean : Url.Separable { joined with query }) (goes : s.resolve r = .ok { joined with query })
    (pairs : Url.queryPairs { joined with query } =
      joined.queryPairs ++ if r.method = .get then r.fields else [])
    {m : ServerMessage} (sent : s.message r = .ok m) : m.Carries r joined := by
  obtain ⟨-, rfl⟩ := (message_eq_ok goes).mp sent
  obtain ⟨authority, same, place⟩ := Url.withoutCredentials_eq { joined with query }
  rw [same]
  have read : ServerMessage.readTarget ⟨r.method, { joined with authority, query },
      Url.credentials? { joined with query }, (bodyOf r).1, (bodyOf r).2⟩ =
      (joined.path, joined.queryPairs ++ if r.method = .get then r.fields else []) := by
    rw [ServerMessage.readTarget_eq ⟨clean.path, clean.query⟩, ← pairs]
    rfl
  refine ⟨rfl, rfl, place, fun get => ?_, fun post => ?_⟩
  · rw [read, if_pos get, bodyOf, get]
    exact ⟨rfl, rfl⟩
  · refine ⟨?_, ?_, decode_body post⟩
    · rw [read, post]
      simp
    · rw [bodyOf, post]

theorem arrive_in_query (clean : joined.Separable) (leads : s.base.join r.url = .ok joined)
    (get : r.method = .get) (filled : r.fields ≠ []) : s.FieldsArrive r joined := by
  obtain ⟨query, appended, pairs, absent⟩ := joined.appendPairs_eq r.fields
  have goes : s.resolve r = .ok { joined with query := some query } := by
    rw [resolve_eq leads, if_pos (by simp [get, filled]), appended]
  have still : Url.Separable { joined with query := some query } :=
    ⟨clean.path, fun _ same => Option.some.inj same ▸ absent clean.query⟩
  have sends := sends_iff goes
  refine ⟨fun _ _ => ⟨query, goes, pairs, absent clean.query⟩, fun bare => ?_, decode_body, sends,
    fun m => carries_of_resolve still goes (by rw [if_pos get]; exact pairs)⟩
  rcases bare with post | empty
  · cases get.symm.trans post
  · exact absurd empty filled

theorem arrive_as_joined (clean : joined.Separable) (leads : s.base.join r.url = .ok joined)
    (bare : r.method = .post ∨ r.fields = []) : s.FieldsArrive r joined := by
  have goes := resolve_bare leads bare
  have nothing : (if r.method = .get then r.fields else []) = [] := by
    rcases bare with post | empty
    · simp [post]
    · simp [empty]
  have same : Url.Separable { joined with query := joined.query } := clean
  refine ⟨fun get filled => ?_, fun _ => goes, decode_body, sends_iff goes,
    fun m => carries_of_resolve same goes (by rw [nothing, List.append_nil])⟩
  rcases bare with post | empty
  · cases get.symm.trans post
  · exact absurd empty filled

/-- Whatever a request carries arrives at the URL that it leads to, as it is and in order, after the
pairs of that URL. -/
theorem fields_arrive {base : String} (made : Server.new base = .ok s)
    (leads : s.base.join r.url = .ok joined) : s.FieldsArrive r joined := by
  have clean : joined.Separable := by
    unfold Server.new at made
    split at made
    next parsed =>
      cases made
      exact Url.join_separable (Url.parse_separable parsed) leads
    next => cases made
  by_cases bare : r.method = .post ∨ r.fields = []
  · exact arrive_as_joined clean leads bare
  · obtain ⟨not_post, filled⟩ := not_or.mp bare
    cases method : r.method with
    | post => exact absurd method not_post
    | get => exact arrive_in_query clean leads method filled

/-- A search with a repeated and an empty name, from a server with a user name, at a URL with a query
that ends in `&` and a fragment. -/
theorem fields_arrive_search : ∃ (s : Server) (joined : Url) (query : List Char),
    Server.new "http://me@[::1]:8000/app/" = .ok s ∧
    s.base.join "search?q=a%26b&#top" = .ok joined ∧
    s.resolve ⟨.get, "search?q=a%26b&#top", [("q", "é &="), ("q", ""), ("", "+")]⟩ =
      .ok { joined with query := some query } ∧
    Query.decode (String.ofList query) = [("q", "a&b"), ("q", "é &="), ("q", ""), ("", "+")] := by
  have made : Server.new "http://me@[::1]:8000/app/" = .ok _ := rfl
  obtain ⟨query, goes, pairs, -⟩ := (fields_arrive made
    (r := ⟨.get, "search?q=a%26b&#top", [("q", "é &="), ("q", ""), ("", "+")]⟩) rfl).in_query rfl
    (by simp)
  exact ⟨_, _, query, made, rfl, goes, pairs⟩

end Server

end MapSidebar
