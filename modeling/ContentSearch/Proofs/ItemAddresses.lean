import ContentSearch.Proofs.KeyedPaths

/-!
# Addresses of items

A path without a slash and the lone slash have no address.  Of every other path
the last name becomes the key, unless the path already passes for one with a
key and is left as it is.

The key is empty exactly if the path ends with a slash.  Every address passes
for a path with a key, so it is its own address as long as it has a slash; the
address of a path whose only slash is neither at its start nor in a key has
lost that slash.
-/

namespace ContentSearch

namespace Url

theorem cutLastSlash?_eq_cutLast? (path : List Char) :
    cutLastSlash? path = Text.cutLast? '/' path := by
  unfold cutLastSlash? Text.cutLast? Text.cutFirst
  cases path.reverse.dropWhile (· != '/') <;> rfl

theorem toList_append_slash (parent name : String) :
    (parent ++ "/" ++ name).toList = parent.toList ++ '/' :: name.toList := by
  simp

theorem exists_parent_and_name {path : String} (slash : '/' ∈ path.toList) :
    ∃ parent name : String,
      path = parent ++ "/" ++ name ∧ '/' ∉ name.toList := by
  obtain ⟨parent, name, characters, noSlash⟩ := Text.exists_cut_of_mem slash
  refine ⟨String.ofList parent, String.ofList name, ?_, by simpa using noSlash⟩
  rw [← String.toList_inj, characters]
  simp

theorem cutLastSlash?_append {name : String} (noSlash : '/' ∉ name.toList)
    (parent : String) :
    cutLastSlash? (parent ++ "/" ++ name).toList =
      some (parent.toList, name.toList) := by
  rw [cutLastSlash?_eq_cutLast?, toList_append_slash,
    Text.cutLast?_append noSlash]

theorem utf8ByteSize_le_one_iff (parent name : String) :
    (parent ++ "/" ++ name).utf8ByteSize ≤ 1 ↔ parent ++ "/" ++ name = "/" := by
  constructor
  · intro short
    have slash : "/".utf8ByteSize = 1 := rfl
    rw [String.utf8ByteSize_append, String.utf8ByteSize_append, slash] at short
    have noParent : parent = "" :=
      String.utf8ByteSize_eq_zero_iff.mp (by omega)
    have noName : name = "" :=
      String.utf8ByteSize_eq_zero_iff.mp (by omega)
    rw [noParent, noName]
    rfl
  · intro root
    rw [root]
    decide

theorem ofItemPath_of_not_mem {path : String} (noSlash : '/' ∉ path.toList) :
    ofItemPath path = .error (.invalidPath path) := by
  unfold ofItemPath
  rw [cutLastSlash?_eq_cutLast?, Text.cutLast?_of_not_mem noSlash]
  exact ite_self _

/-- A path is refused, left as it is, or its last name becomes the key. -/
theorem ofItemPath_cases (path : String) :
    ('/' ∉ path.toList ∨ path = "/") ∧
        ofItemPath path = .error (.invalidPath path) ∨
      '/' ∈ path.toList ∧ hasKey path = true ∧ ofItemPath path = .ok path ∨
      hasKey path = false ∧ path ≠ "/" ∧ ∃ parent name : String,
        path = parent ++ "/" ++ name ∧ '/' ∉ name.toList ∧
          ofItemPath path =
            .ok (String.ofList (withKey parent.toList name.toList)) := by
  by_cases slash : '/' ∈ path.toList
  · by_cases root : path = "/"
    · subst root
      exact .inl ⟨.inr rfl, rfl⟩
    · obtain ⟨parent, name, rfl, noSlash⟩ := exists_parent_and_name slash
      have long : ¬ (parent ++ "/" ++ name).utf8ByteSize ≤ 1 := by
        rwa [utf8ByteSize_le_one_iff]
      have answer : ofItemPath (parent ++ "/" ++ name) =
          if hasKey (parent ++ "/" ++ name) then
            .ok (parent ++ "/" ++ name)
          else
            .ok (String.ofList (withKey parent.toList name.toList)) := by
        rw [ofItemPath, if_neg long, cutLastSlash?_append noSlash]
      cases keyed : hasKey (parent ++ "/" ++ name) with
      | true => exact .inr (.inl ⟨slash, rfl, by simp [answer, keyed]⟩)
      | false =>
          exact .inr (.inr ⟨rfl, root, parent, name, rfl, noSlash,
            by simp [answer, keyed]⟩)
  · exact .inl ⟨.inl slash, ofItemPath_of_not_mem slash⟩

theorem ofItemPath_of_hasKey {path : String} (slash : '/' ∈ path.toList)
    (keyed : hasKey path = true) : ofItemPath path = .ok path := by
  rcases ofItemPath_cases path with
    ⟨noSlash | rfl, -⟩ | ⟨-, -, unchanged⟩ | ⟨unkeyed, -⟩
  · exact absurd slash noSlash
  · exact absurd keyed (by decide)
  · exact unchanged
  · simp [keyed] at unkeyed

theorem hasKey_ofList_withKey (parent name : List Char) :
    hasKey (String.ofList (withKey parent name)) = true := by
  rw [hasKey_eq_true_iff, String.toList_ofList, withKey]
  constructor
  · exact ⟨_, name ++ keyClosing, by rw [← List.append_assoc]⟩
  · exact List.suffix_append _ _

/-- Every address passes for a path with a key. -/
theorem hasKey_of_ofItemPath_eq_ok {path url : String}
    (accepted : ofItemPath path = .ok url) : hasKey url = true := by
  rcases ofItemPath_cases path with
    ⟨-, refused⟩ | ⟨-, keyed, unchanged⟩ | ⟨-, -, parent, name, -, -, made⟩
  · rw [refused] at accepted
    contradiction
  · obtain rfl : path = url := Except.ok.inj (unchanged.symm.trans accepted)
    exact keyed
  · rw [← Except.ok.inj (made.symm.trans accepted)]
    exact hasKey_ofList_withKey _ _

theorem ofItemPath_eq_self_iff (path : String) :
    ofItemPath path = .ok path ↔
      '/' ∈ path.toList ∧ hasKey path = true := by
  constructor
  · intro unchanged
    refine ⟨?_, hasKey_of_ofItemPath_eq_ok unchanged⟩
    by_contra noSlash
    rw [ofItemPath_of_not_mem noSlash] at unchanged
    contradiction
  · rintro ⟨slash, keyed⟩
    exact ofItemPath_of_hasKey slash keyed

theorem slash_mem_withKey_iff {name : List Char} (noSlash : '/' ∉ name)
    (parent : List Char) :
    '/' ∈ withKey parent name ↔ parent = [] ∨ '/' ∈ parent := by
  cases parent <;> simp [withKey, keyOpening, keyClosing, noSlash]

theorem count_eq_one_and_head?_ne_iff {name : List Char}
    (noSlash : '/' ∉ name) (parent : List Char) :
    (parent ++ '/' :: name).count '/' = 1 ∧
        (parent ++ '/' :: name).head? ≠ some '/' ↔
      ¬ (parent = [] ∨ '/' ∈ parent) := by
  have count : (parent ++ '/' :: name).count '/' = parent.count '/' + 1 := by
    simp [List.count_eq_zero.mpr noSlash]
  rw [count]
  cases parent with
  | nil => simp
  | cons first rest =>
      have start : '/' ∉ first :: rest → first ≠ '/' := by
        rintro absent rfl
        simp at absent
      simp only [List.count_eq_zero, Nat.add_eq_right, List.cons_append,
        List.head?_cons, ne_eq, Option.some.injEq, reduceCtorEq, false_or]
      exact and_iff_left_of_imp start

/-- An address is its own address exactly if it has a slash, and is refused
otherwise.  It has no slash exactly if the path that it was made of does not
pass for one with a key and has a single slash, which is not at its start. -/
theorem ofItemPath_address_eq_self_iff_slash (path url : String)
    (accepted : ofItemPath path = .ok url) :
    (ofItemPath url = .ok url ↔ '/' ∈ url.toList) ∧
      ('/' ∉ url.toList → ofItemPath url = .error (.invalidPath url)) ∧
      ('/' ∉ url.toList ↔
        hasKey path = false ∧ path.toList.count '/' = 1 ∧
          path.toList.head? ≠ some '/') := by
  have keyed : hasKey url = true := hasKey_of_ofItemPath_eq_ok accepted
  refine ⟨?_, ofItemPath_of_not_mem, ?_⟩
  · rw [ofItemPath_eq_self_iff]
    exact and_iff_left keyed
  · rcases ofItemPath_cases path with
      ⟨-, refused⟩ | ⟨slash, pathKeyed, unchanged⟩ |
        ⟨unkeyed, -, parent, name, rfl, noSlash, made⟩
    · rw [refused] at accepted
      contradiction
    · obtain rfl : path = url := Except.ok.inj (unchanged.symm.trans accepted)
      simp [slash, pathKeyed]
    · rw [← Except.ok.inj (made.symm.trans accepted), String.toList_ofList,
        slash_mem_withKey_iff noSlash, toList_append_slash,
        count_eq_one_and_head?_ne_iff noSlash]
      exact (and_iff_right unkeyed).symm

/-- A path that does not start with a slash has an address with a slash if its
parent has one. -/
theorem ofItemPath_address_of_relative_path :
    ofItemPath "Root/Räume('Alt')/Größe" = .ok "Root/Räume('Alt')('Größe')" ∧
      ofItemPath "Root/Räume('Alt')('Größe')" =
        .ok "Root/Räume('Alt')('Größe')" := by
  have accepted : ofItemPath "Root/Räume('Alt')/Größe" =
      .ok "Root/Räume('Alt')('Größe')" := by
    decide
  obtain ⟨unchanged, -⟩ := ofItemPath_address_eq_self_iff_slash _ _ accepted
  exact ⟨accepted, unchanged.mpr (by decide)⟩

/-- The address of a path with a single slash between two names is refused. -/
theorem ofItemPath_address_without_slash_ne :
    ¬ ∀ path url : String, ofItemPath path = .ok url →
      ofItemPath url = .ok url := by
  intro unchanged
  exact absurd (unchanged "Root/Sites" "Root('Sites')" (by decide)) (by decide)

theorem ofList_withKey (parent name : String) :
    String.ofList (withKey parent.toList name.toList) =
      (if parent = "" then "/" else parent) ++ "('" ++ name ++ "')" := by
  rw [← String.toList_inj, String.toList_ofList, withKey]
  by_cases root : parent = "" <;> simp [root, keyOpening, keyClosing]

theorem getLast?_eq_slash_iff {name : List Char} (noSlash : '/' ∉ name)
    (parent : List Char) :
    (parent ++ '/' :: name).getLast? = some '/' ↔ name = [] := by
  cases name using List.reverseRecOn with
  | nil => simp
  | append_singleton earlier last =>
      have other : last ≠ '/' := by
        rintro rfl
        simp at noSlash
      have ends : (parent ++ '/' :: (earlier ++ [last])).getLast? =
          some last := by
        rw [← List.cons_append, ← List.append_assoc, List.getLast?_concat]
      simp [ends, other]

/-- A path is refused exactly if it has no slash or is the lone slash, and the
fault names it.  Otherwise the key of its address is the last name, behind the
rest of the path or behind a slash, unless it passes for a path with a key.
The last name is empty exactly if the path ends with a slash. -/
theorem ofItemPath_key_is_last_name (path : String) :
    (ofItemPath path = .error (.invalidPath path) ↔
        '/' ∉ path.toList ∨ path = "/") ∧
      (∀ fault, ofItemPath path = .error fault → fault = .invalidPath path) ∧
      ('/' ∈ path.toList → path ≠ "/" → hasKey path = false →
        ∃ parent name : String,
          path = parent ++ "/" ++ name ∧ '/' ∉ name.toList ∧
            ofItemPath path =
              .ok ((if parent = "" then "/" else parent) ++
                "('" ++ name ++ "')") ∧
            (name = "" ↔ path.toList.getLast? = some '/')) := by
  rcases ofItemPath_cases path with
    ⟨noAddress, refused⟩ | ⟨slash, keyed, unchanged⟩ |
      ⟨unkeyed, notRoot, parent, name, rfl, noSlash, made⟩
  · rw [refused]
    refine ⟨iff_of_true rfl noAddress, ?_, ?_⟩
    · rintro fault ⟨⟩
      rfl
    · intro slash notRoot
      rcases noAddress with noSlash | root
      · exact absurd slash noSlash
      · exact absurd root notRoot
  · have notRoot : path ≠ "/" := by
      rintro rfl
      exact absurd keyed (by decide)
    rw [unchanged]
    simp [slash, keyed, notRoot]
  · have empty : name = "" ↔
        (parent ++ "/" ++ name).toList.getLast? = some '/' := by
      rw [toList_append_slash, getLast?_eq_slash_iff noSlash,
        String.toList_eq_nil_iff]
    rw [ofList_withKey] at made
    refine ⟨?_, ?_, ?_⟩
    · rw [made]
      simp [notRoot]
    · rw [made]
      exact nofun
    · intro _ _ _
      exact ⟨parent, name, rfl, noSlash, made, empty⟩

/-- A root-level path with a blank and letters of several bytes. -/
theorem ofItemPath_key_of_root_level_path :
    ∃ parent name : String,
      "/Größe 2" = parent ++ "/" ++ name ∧ '/' ∉ name.toList ∧
        ofItemPath "/Größe 2" =
          .ok ((if parent = "" then "/" else parent) ++
            "('" ++ name ++ "')") ∧
        name ≠ "" := by
  obtain ⟨-, -, lastName⟩ := ofItemPath_key_is_last_name "/Größe 2"
  obtain ⟨parent, name, isPath, noSlash, made, empty⟩ :=
    lastName (by decide) (by decide) (by decide)
  refine ⟨parent, name, isPath, noSlash, made, ?_⟩
  rw [ne_eq, empty]
  decide

/-- The key made of a path that ends with a slash is empty. -/
theorem ofItemPath_key_of_trailing_slash_empty :
    ¬ ∀ path : String, '/' ∈ path.toList → path ≠ "/" → hasKey path = false →
      ∃ parent name : String, name ≠ "" ∧
        path = parent ++ "/" ++ name ∧ '/' ∉ name.toList ∧
          ofItemPath path =
            .ok ((if parent = "" then "/" else parent) ++
              "('" ++ name ++ "')") := by
  intro keyGiven
  obtain ⟨parent, name, nonempty, isPath, noSlash, -⟩ :=
    keyGiven "/Root/Sites/" (by decide) (by decide) (by decide)
  have ends : "/Root/Sites/".toList.getLast? = some '/' := by decide
  rw [isPath, toList_append_slash, getLast?_eq_slash_iff noSlash,
    String.toList_eq_nil_iff] at ends
  exact nonempty ends

/-- A path passes for one with a key exactly if it ends with a key or its last
name closes a key that it has not opened; it never does both.  The paths with
a slash that pass are the ones that are left as they are. -/
theorem hasKey_iff_endsWithKey_or_closesUnopenedKey (path : String) :
    (hasKey path = true ↔ EndsWithKey path ∨ ClosesUnopenedKey path) ∧
      ¬ (EndsWithKey path ∧ ClosesUnopenedKey path) ∧
      (ofItemPath path = .ok path ↔
        '/' ∈ path.toList ∧
          (EndsWithKey path ∨ ClosesUnopenedKey path)) := by
  have passes : hasKey path = true ↔
      EndsWithKey path ∨ ClosesUnopenedKey path := by
    rw [closesUnopenedKey_iff]
    constructor
    · intro keyed
      by_cases atEnd : EndsWithKey path
      · exact .inl atEnd
      · exact .inr ⟨keyed, atEnd⟩
    · rintro (atEnd | ⟨keyed, -⟩)
      · exact hasKey_of_endsWithKey atEnd
      · exact keyed
  refine ⟨passes, ?_, ?_⟩
  · rintro ⟨atEnd, unopened⟩
    exact ((closesUnopenedKey_iff path).mp unopened).2 atEnd
  · rw [ofItemPath_eq_self_iff, passes]

/-- A path whose last name merely ends like a key passes behind a name with a
key. -/
theorem hasKey_of_key_before_last_name_ne :
    ¬ ∀ path : String, hasKey path = true ↔ EndsWithKey path := by
  intro onlyKeys
  have passes : hasKey "/Root('Sites')/Plan (see 'draft')" = true := by decide
  have closed : ClosedAfter "/Root('Sites')/Plan (see 'draft')"
      "/Root('Sites')/".toList "Plan (see 'draft".toList := by
    refine ⟨by decide, by decide, ?_⟩
    intro character ends
    have isLast : "/Root('Sites')/".toList.getLast? = some '/' := by decide
    rw [isLast, Option.mem_some] at ends
    exact ends.symm
  rw [onlyKeys, closed.endsWithKey_iff, ← occursIn_eq_true_iff] at passes
  exact absurd passes (by decide)

end Url

end ContentSearch
