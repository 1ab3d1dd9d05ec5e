import ContentSearch.Proofs.FormDecoding
import ContentSearch.Proofs.JoinedPaths
import ContentSearch.Request

/-!
# Reading addresses back

The encoded pairs of an address have no question mark, so the last question
mark is the one before them, and all that a request asks for can be read off
its address: the collection up to slashes at its ends, the query text and the
options.

A standard reader cuts at the first question mark, after it has cut off what
follows a number sign.  The service and the collection stand in an address as
they are, so such a reader finds the collection and the pairs exactly if
neither of the two marks is in the path of the service or of the collection.
-/

namespace ContentSearch

namespace Url

/-- An address as a standard reader takes it apart. -/
structure Parts where
  path : List Char
  query : Option (List Char)
  fragment : Option (List Char)
  deriving DecidableEq

/-- The fragment follows the first number sign.  The query follows the first
question mark before it. -/
def Parts.read (address : List Char) : Parts :=
  let (resource, fragment) := Text.cutFirst '#' address
  let (path, query) := Text.cutFirst '?' resource
  ⟨path, query, fragment⟩

/-- The text has neither of the marks that end the path of an address. -/
def Unmarked (text : String) : Prop :=
  '?' ∉ text.toList ∧ '#' ∉ text.toList

theorem joinCharacters_pair (first second : List Char) :
    joinCharacters [first, second] =
      if trimSlashes first = [] then trimSlashes second
      else if trimSlashes second = [] then trimSlashes first
      else trimSlashes first ++ '/' :: trimSlashes second := by
  rw [← List.singleton_append, joinCharacters_append,
    joinCharacters_singleton, joinCharacters_singleton]

/-- Behind one service, joined paths differ as soon as the trimmed paths do. -/
theorem joinCharacters_pair_inj (service first second : List Char) :
    joinCharacters [service, first] = joinCharacters [service, second] ↔
      trimSlashes first = trimSlashes second := by
  constructor
  · intro joined
    rw [joinCharacters_pair, joinCharacters_pair] at joined
    by_cases noService : trimSlashes service = []
    · simpa [noService] using joined
    · by_cases firstEmpty : trimSlashes first = [] <;>
        by_cases secondEmpty : trimSlashes second = []
      · rw [firstEmpty, secondEmpty]
      · simp [noService, firstEmpty, secondEmpty] at joined
      · simp [noService, firstEmpty, secondEmpty] at joined
      · simpa [noService, firstEmpty, secondEmpty] using joined
  · intro trimmed
    rw [joinCharacters_pair, joinCharacters_pair, trimmed]

theorem mem_joinCharacters_pair_iff {mark : Char} (noSlash : mark ≠ '/')
    (first second : List Char) :
    mark ∈ joinCharacters [first, second] ↔ mark ∈ first ∨ mark ∈ second := by
  have kept (part : List Char) : mark ∈ trimSlashes part ↔ mark ∈ part :=
    Text.mem_trimWhere_iff (by simpa using noSlash) part
  rw [joinCharacters_pair, ← kept first, ← kept second]
  by_cases firstEmpty : trimSlashes first = []
  · simp [firstEmpty]
  · by_cases secondEmpty : trimSlashes second = []
    · simp [firstEmpty, secondEmpty]
    · simp [firstEmpty, secondEmpty, noSlash]

end Url

namespace Request

open Url

theorem toList_resource (request : Request) (settings : Settings) :
    (request.resource settings).toList =
      '/' :: joinCharacters
        [settings.serviceToken.toList, request.path.toList] := by
  simp [resource, join]

theorem exists_url_toList_eq (request : Request) (settings : Settings)
    (given : request.path ≠ "") :
    ∃ url, request.url settings = .ok url ∧
      url.toList = (request.resource settings).toList ++
        '?' :: encodePairs request.pairs := by
  refine ⟨_, if_neg (by simpa using given), ?_⟩
  simp

theorem pairs_eq (request : Request) :
    request.pairs =
      ("query", request.query) :: request.options.elim [] Options.pairs := by
  unfold pairs
  cases request.options <;> rfl

theorem exists_url_cut_and_decoded (settings : Settings) (request : Request)
    (given : request.path ≠ "") :
    ∃ url encoded, request.url settings = .ok url ∧
      Text.cutLast? '?' url.toList =
        some (("/" ++ join [settings.serviceToken, request.path]).toList,
          encoded) ∧
      decodePairs? encoded =
        some (("query", request.query) ::
          request.options.elim [] Options.pairs) := by
  obtain ⟨url, isUrl, characters⟩ := request.exists_url_toList_eq settings given
  refine ⟨url, encodePairs request.pairs, isUrl, ?_, ?_⟩
  · rw [characters]
    exact Text.cutLast?_append (not_mem_encodePairs (by decide) _) _
  · rw [decodePairs?_encodePairs, request.pairs_eq]

theorem url_eq_of_parts_eq {settings : Settings} {first second : Request}
    (firstGiven : first.path ≠ "") (secondGiven : second.path ≠ "")
    (samePath : trimSlashes first.path.toList =
      trimSlashes second.path.toList)
    (samePairs : first.pairs = second.pairs) :
    first.url settings = second.url settings := by
  have sameResource : first.resource settings = second.resource settings := by
    rw [← String.toList_inj, toList_resource, toList_resource,
      (joinCharacters_pair_inj _ _ _).mpr samePath]
  unfold url
  simp [firstGiven, secondGiven, sameResource, samePairs]

/-- The last question mark of an address stands between the joined path and
the encoded pairs, and decoding gives the query text and the options back.  So
the requests with one address ask for the same: their paths differ in slashes
at the ends at most, and their query texts and options are sent alike. -/
theorem url_determines_path_and_pairs :
    (∀ (settings : Settings) (request : Request), request.path ≠ "" →
      ∃ url encoded, request.url settings = .ok url ∧
        Text.cutLast? '?' url.toList =
          some (("/" ++ join [settings.serviceToken, request.path]).toList,
            encoded) ∧
        decodePairs? encoded =
          some (("query", request.query) ::
            request.options.elim [] Options.pairs)) ∧
    ∀ (settings : Settings) (first second : Request),
      first.path ≠ "" → second.path ≠ "" →
        (first.url settings = second.url settings ↔
          trimSlashes first.path.toList = trimSlashes second.path.toList ∧
            first.query = second.query ∧
            first.options.elim [] Options.pairs =
              second.options.elim [] Options.pairs) := by
  refine ⟨exists_url_cut_and_decoded, ?_⟩
  intro settings first second firstGiven secondGiven
  constructor
  · intro sameUrl
    obtain ⟨url, encoded, isUrl, cut, decoded⟩ :=
      exists_url_cut_and_decoded settings first firstGiven
    obtain ⟨otherUrl, otherEncoded, isOtherUrl, otherCut, otherDecoded⟩ :=
      exists_url_cut_and_decoded settings second secondGiven
    obtain rfl : url = otherUrl := by
      rw [isUrl, isOtherUrl] at sameUrl
      exact Except.ok.inj sameUrl
    have sameCut := Option.some.inj (cut.symm.trans otherCut)
    obtain ⟨samePath, rfl⟩ := Prod.mk.inj sameCut
    have samePairs := Option.some.inj (decoded.symm.trans otherDecoded)
    have sameJoined : joinCharacters
          [settings.serviceToken.toList, first.path.toList] =
        joinCharacters [settings.serviceToken.toList, second.path.toList] := by
      simpa [join] using samePath
    simp only [List.cons.injEq, Prod.mk.injEq, true_and] at samePairs
    exact ⟨(joinCharacters_pair_inj _ _ _).mp sameJoined, samePairs⟩
  · rintro ⟨samePath, sameQuery, sameOptions⟩
    apply url_eq_of_parts_eq firstGiven secondGiven samePath
    rw [pairs_eq, pairs_eq, sameQuery, sameOptions]

/-- A path with a question mark and with slashes at its ends, and a query text
with signs of the encoding. -/
theorem url_determines_path_with_question_mark :
    ∃ first second : Request, ∃ url encoded,
      first = ⟨"/Root/Wer?/", "Größe:'1+1=2 & 3'",
        some { Options.empty with top := some 5 }⟩ ∧
      second = { first with path := "Root/Wer?" } ∧
      first.url .standard = .ok url ∧
      Text.cutLast? '?' url.toList =
        some ("/odata.svc/Root/Wer?".toList, encoded) ∧
      decodePairs? encoded =
        some [("query", "Größe:'1+1=2 & 3'"), ("$top", "5")] ∧
      first.url .standard = second.url .standard := by
  obtain ⟨readBack, sameUrl⟩ := url_determines_path_and_pairs
  obtain ⟨url, encoded, isUrl, cut, decoded⟩ := readBack .standard
    ⟨"/Root/Wer?/", "Größe:'1+1=2 & 3'",
      some { Options.empty with top := some 5 }⟩ (by decide)
  refine ⟨_, _, url, encoded, rfl, rfl, isUrl, cut, decoded, ?_⟩
  exact (sameUrl _ _ _ (by decide) (by decide)).mpr ⟨by decide, rfl, rfl⟩

theorem mark_not_mem_resource_iff {mark : Char} (noSlash : mark ≠ '/')
    (request : Request) (settings : Settings) :
    mark ∉ (request.resource settings).toList ↔
      mark ∉ settings.serviceToken.toList ∧ mark ∉ request.path.toList := by
  rw [toList_resource, List.mem_cons, mem_joinCharacters_pair_iff noSlash]
  simp [noSlash]

/-- What a standard reader takes for the path of an address ends before the
first question mark or number sign. -/
theorem path_read_append (resource encoded : List Char) :
    (Parts.read (resource ++ '?' :: encoded)).path =
      resource.takeWhile fun character =>
        character != '?' && character != '#' := by
  change ((resource ++ '?' :: encoded).takeWhile (· != '#')).takeWhile
    (· != '?') = _
  rw [List.takeWhile_takeWhile]
  induction resource with
  | nil => rfl
  | cons character rest inductionHypothesis =>
      rw [List.cons_append, List.takeWhile_cons, List.takeWhile_cons,
        inductionHypothesis]
      simp

theorem read_append_eq_iff {resource encoded : List Char}
    (unmarked : '#' ∉ encoded) :
    Parts.read (resource ++ '?' :: encoded) =
        ⟨resource, some encoded, none⟩ ↔
      '?' ∉ resource ∧ '#' ∉ resource := by
  constructor
  · intro read
    have path : (Text.cutFirst '?'
        (Text.cutFirst '#' (resource ++ '?' :: encoded)).1).1 = resource :=
      congrArg Parts.path read
    constructor
    · rw [← path]
      exact Text.not_mem_cutFirst _ _
    · intro member
      have before : resource ⊆
          (Text.cutFirst '#' (resource ++ '?' :: encoded)).1 := by
        conv_lhs => rw [← path]
        exact List.takeWhile_subset _
      exact Text.not_mem_cutFirst _ _ (before member)
  · rintro ⟨noQuestion, noNumber⟩
    have whole : '#' ∉ resource ++ '?' :: encoded := by
      simp [noNumber, unmarked]
    rw [Parts.read, Text.cutFirst_of_not_mem whole]
    simp only []
    rw [Text.cutFirst_append noQuestion]

/-- A standard reader of an address finds the joined path and all the pairs
exactly if the paths of the service and of the collection have neither a
question mark nor a number sign.  Then the first question mark is the one
before the pairs.  Otherwise the reader takes the path for shorter than it
is. -/
theorem read_url_eq_iff_unmarked (settings : Settings) (request : Request)
    (given : request.path ≠ "") :
    ∃ url, request.url settings = .ok url ∧
      (Text.cutFirst '?' url.toList =
            ((request.resource settings).toList,
              some (encodePairs request.pairs)) ∧
          '#' ∉ (request.resource settings).toList ↔
        Unmarked settings.serviceToken ∧ Unmarked request.path) ∧
      (Parts.read url.toList =
          ⟨(request.resource settings).toList,
            some (encodePairs request.pairs), none⟩ ↔
        Unmarked settings.serviceToken ∧ Unmarked request.path) ∧
      (Parts.read url.toList).path =
        (request.resource settings).toList.takeWhile (fun character =>
          character != '?' && character != '#') ∧
      decodePairs? (encodePairs request.pairs) = some request.pairs := by
  obtain ⟨url, isUrl, characters⟩ := request.exists_url_toList_eq settings given
  have noQuestion := mark_not_mem_resource_iff (by decide : '?' ≠ '/')
    request settings
  have noNumber := mark_not_mem_resource_iff (by decide : '#' ≠ '/')
    request settings
  have unmarked : Unmarked settings.serviceToken ∧ Unmarked request.path ↔
      '?' ∉ (request.resource settings).toList ∧
        '#' ∉ (request.resource settings).toList := by
    rw [noQuestion, noNumber]
    exact and_and_and_comm
  have encodedUnmarked : '#' ∉ encodePairs request.pairs :=
    not_mem_encodePairs (by decide) _
  refine ⟨url, isUrl, ?_, ?_, ?_, decodePairs?_encodePairs _⟩
  · rw [unmarked, characters]
    apply and_congr_left
    intro _
    exact Text.cutFirst_append_eq_iff _ _ _
  · rw [unmarked, characters]
    exact read_append_eq_iff encodedUnmarked
  · rw [characters]
    exact path_read_append _ _

/-- Signs of the encoding in the path stand as they are and the marks in the
query text are encoded, so that neither misleads a reader. -/
theorem read_url_of_path_with_ampersand :
    ∃ url, (⟨"/Root/Lists('A=B & C')/", "what? #1", none⟩ : Request).url
        .standard = .ok url ∧
      Parts.read url.toList =
        ⟨"/odata.svc/Root/Lists('A=B & C')".toList,
          some "query=what%3F+%231".toList, none⟩ := by
  obtain ⟨url, isUrl, -, read, -⟩ := read_url_eq_iff_unmarked .standard
    ⟨"/Root/Lists('A=B & C')/", "what? #1", none⟩ (by decide)
  exact ⟨url, isUrl, read.mpr (by unfold Unmarked; decide)⟩

/-- A question mark in the path of a collection ends the path for a standard
reader, and the query text is not read as such. -/
theorem read_url_of_path_with_question_mark_ne :
    ¬ ∀ (settings : Settings) (request : Request), request.path ≠ "" →
      ∃ url, request.url settings = .ok url ∧
        Parts.read url.toList =
          ⟨(request.resource settings).toList,
            some (encodePairs request.pairs), none⟩ := by
  intro readWhole
  obtain ⟨url, isUrl, read⟩ :=
    readWhole .standard ⟨"/Root/What?", "TypeIs:Task", none⟩ (by decide)
  obtain rfl : url = "/odata.svc/Root/What??query=TypeIs%3ATask" := by
    have computed : (⟨"/Root/What?", "TypeIs:Task", none⟩ : Request).url
        .standard = .ok "/odata.svc/Root/What??query=TypeIs%3ATask" := by
      decide
    exact (Except.ok.inj (computed.symm.trans isUrl)).symm
  exact absurd read (by decide)

end Request

end ContentSearch
