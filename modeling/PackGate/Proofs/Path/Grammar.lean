import PackGate.Error
import PackGate.Proofs.Path.Segments

/-! Which request paths name a repository, as a grammar of texts, and that exactly these resolve. -/

namespace PackGate

/-! ## The grammar -/

/--
A path with the name of a repository picked out.

The name fills a segment together with the marker behind it.
-/
structure Marks (path front name back : String) : Prop where
  /-- The name, its marker and what stands around them make up the path. -/
  whole : path = front ++ name ++ ".git" ++ back
  /-- There is a name. -/
  named : name ≠ ""
  /-- There is no separator in the name. -/
  plain : '/' ∉ name.toList
  /-- The segment starts with the path or behind a separator. -/
  opens : front = "" ∨ front.toList.getLast? = some '/'
  /-- The segment ends with the path or before a separator. -/
  closes : back = "" ∨ back.toList.head? = some '/'

/-- No segment of a text is a name with the marker behind it. -/
def Unmarked (text : String) : Prop :=
  ∀ front name back, ¬Marks text front name back

/-! ## Repository segments -/

namespace Identifier

/-- A repository segment is a name with the marker behind it. -/
theorem isRepository_iff {segment : List Char} :
    isRepository segment = true ↔ ∃ name, name ≠ [] ∧ segment = name ++ marker := by
  rw [isRepository, Bool.and_eq_true, List.isSuffixOf_iff_suffix, decide_eq_true_iff]
  constructor
  · rintro ⟨⟨name, rfl⟩, longer⟩
    refine ⟨name, ?_, rfl⟩
    rintro rfl
    simp at longer
  · rintro ⟨name, named, rfl⟩
    have length := List.length_pos_iff.mpr named
    exact ⟨List.suffix_append name marker, by rw [List.length_append]; omega⟩

/-- The first repository segment is the one that follows a text without any. -/
theorem find_isRepository {letters segment : List Char} :
    (segments letters).find? isRepository = some segment ↔
      isRepository segment = true ∧ ∃ front back, Picks letters front segment back ∧
        ∀ piece ∈ segments front, isRepository piece = false := by
  rw [List.find?_eq_some_iff_append]
  refine and_congr_right fun _ => ?_
  constructor
  · rintro ⟨before, after, met, none⟩
    obtain ⟨front, back, picks, early⟩ := exists_picks met
    refine ⟨front, back, picks, fun piece member => ?_⟩
    -- What stands in front has the segments met before, and the empty one.
    rw [early, List.mem_append, List.mem_singleton] at member
    rcases member with member | rfl
    · simpa using none piece member
    · rfl
  · rintro ⟨front, back, picks, none⟩
    obtain ⟨before, after, met, early⟩ := picks.segments
    refine ⟨before, after, met, fun piece member => ?_⟩
    simpa using none piece (by simp [early, member])

end Identifier

open Identifier

/-- A marked path is one of which a repository segment is picked out. -/
theorem marks_iff {path front name back : String} :
    Marks path front name back ↔
      name.toList ≠ [] ∧
        Picks path.toList front.toList (name.toList ++ marker) back.toList := by
  constructor
  -- There is no separator in the marker, so it may stand in the segment.
  · rintro ⟨rfl, named, plain, opens, closes⟩
    exact ⟨by simpa using named, by simp [marker], by simpa [marker] using plain,
      opens.imp_left (by simp), closes.imp_left (by simp)⟩
  · rintro ⟨named, whole, plain, opens, closes⟩
    refine ⟨?_, by simpa using named, fun member => plain (List.mem_append_left _ member),
      opens.imp_left (by simp), closes.imp_left (by simp)⟩
    apply String.toList_inj.mp
    simpa [marker] using whole

/-- A text is unmarked if none of its segments is a repository's. -/
theorem unmarked_iff {text : String} :
    Unmarked text ↔ ∀ piece ∈ segments text.toList, isRepository piece = false := by
  constructor
  · intro unmarked piece member
    -- A repository segment would be a marked name where it stands.
    rw [Bool.eq_false_iff]
    intro repository
    obtain ⟨name, named, rfl⟩ := isRepository_iff.mp repository
    obtain ⟨front, back, picks⟩ := mem_segments.mp member
    refine unmarked (String.ofList front) (String.ofList name) (String.ofList back) ?_
    rw [marks_iff]
    simpa using ⟨named, picks⟩
  · intro none front name back marks
    -- A marked name with its marker would be a repository segment.
    obtain ⟨named, picks⟩ := marks_iff.mp marks
    have repository := isRepository_iff.mpr ⟨name.toList, named, rfl⟩
    rw [none _ (mem_segments.mpr ⟨_, _, picks⟩)] at repository
    cases repository

instance (text : String) : Decidable (Unmarked text) :=
  decidable_of_iff _ unmarked_iff.symm

/-! ## Resolving -/

/-- A path resolves to the first name in it that is marked. -/
theorem resolve_eq_ok {path : String} {id : Identifier} :
    resolve (some path) = .ok id ↔ ∃ front name back, Marks path front name back ∧
      Unmarked front ∧ id.text = name ++ ".git" := by
  have found : resolve (some path) = .ok id ↔
      -- Resolving is the search for a repository segment, told in texts.
      (segments path.toList).find? isRepository = some id.text.toList := by
    rw [resolve, Option.bind_some, ofPath?]
    cases (segments path.toList).find? isRepository with
    | none => simp
    | some segment =>
      simp only [Option.map_some, Except.ok.injEq, Option.some.injEq]
      constructor
      · rintro rfl
        simp
      · rintro rfl
        simp
  rw [found, find_isRepository]
  constructor
  · rintro ⟨repository, front, back, picks, none⟩
    obtain ⟨name, named, same⟩ := isRepository_iff.mp repository
    refine ⟨String.ofList front, String.ofList name, String.ofList back, ?_, ?_, ?_⟩
    · rw [marks_iff]
      simpa [← same] using ⟨named, picks⟩
    · rw [unmarked_iff]
      simpa using none
    · apply String.toList_inj.mp
      simpa [marker] using same
  · rintro ⟨front, name, back, marks, unmarked, same⟩
    obtain ⟨named, picks⟩ := marks_iff.mp marks
    have letters : id.text.toList = name.toList ++ marker := by simp [same, marker]
    rw [letters]
    exact ⟨isRepository_iff.mpr ⟨_, named, rfl⟩, _, _, picks, unmarked_iff.mp unmarked⟩

/-- A path that does not resolve is an unmarked one. -/
theorem unmarked_of_unresolved {path : String} (fails : ∀ id, resolve (some path) ≠ .ok id) :
    Unmarked path := by
  rw [unmarked_iff]
  intro piece member
  rw [Bool.eq_false_iff]
  intro repository
  -- The search ends at this segment at the latest.
  obtain ⟨segment, found⟩ := Option.isSome_iff_exists.mp
    (List.find?_isSome.mpr ⟨piece, member, repository⟩)
  exact fails ⟨String.ofList segment⟩ (by simp [resolve, ofPath?, found])

/-- What does not resolve is reported as it was given. -/
theorem resolve_eq_error {path? : Option String} {error : FactoryError} :
    resolve path? = .error error ↔
      error = .invalidIdentifier (path?.getD "") ∧ ∀ id, resolve path? ≠ .ok id := by
  unfold resolve
  cases path?.bind ofPath? with
  | none => simp [eq_comm]
  | some id => simp

/-- A name with its marker resolves to itself, whatever stands around it. -/
theorem resolve_around {front back : String} {path : String} {id : Identifier}
    (resolved : resolve (some path) = .ok id)
    (opens : front = "" ∨ front.toList.getLast? = some '/') (unmarked : Unmarked front)
    (closes : back = "" ∨ back.toList.head? = some '/') :
    resolve (some (front ++ id.text ++ back)) = .ok id := by
  obtain ⟨before, name, after, marks, _, same⟩ := resolve_eq_ok.mp resolved
  refine resolve_eq_ok.mpr ⟨front, name, back, ?_, unmarked, same⟩
  exact ⟨by simp [same, String.append_assoc], marks.named, marks.plain, opens, closes⟩

/--
Exactly the paths of the grammar resolve, each of them to its first marked name.

Every other path is reported as it was given, and so is a missing one, as empty.
An identifier resolves to itself, alone or with other segments around it.
-/
theorem resolve_iff_marked :
    (∀ (path : String) (id : Identifier), resolve (some path) = .ok id ↔
      ∃ front name back, Marks path front name back ∧ Unmarked front ∧
        id.text = name ++ ".git") ∧
    (∀ (path? : Option String) (error : FactoryError), resolve path? = .error error ↔
      error = .invalidIdentifier (path?.getD "") ∧
        ∀ path front name back, path? = some path → Unmarked front →
          ¬Marks path front name back) ∧
    ∀ (path : String) (id : Identifier), resolve (some path) = .ok id →
      Identifier.parse id.text = .ok id ∧ ∀ front back : String,
        (front = "" ∨ front.toList.getLast? = some '/') → Unmarked front →
          (back = "" ∨ back.toList.head? = some '/') →
            resolve (some (front ++ id.text ++ back)) = .ok id := by
  refine ⟨fun path id => resolve_eq_ok, fun path? error => ?_, fun path id resolved => ⟨?_, ?_⟩⟩
  · rw [resolve_eq_error]
    refine and_congr_right fun _ => ?_
    constructor
    · rintro fails path front name back rfl unmarked marks
      exact fails ⟨name ++ ".git"⟩ (resolve_eq_ok.mpr ⟨front, name, back, marks, unmarked, rfl⟩)
    · intro none id resolved
      -- A missing path resolves to nothing, so there is a path to be marked.
      cases path? with
      | none => cases resolved
      | some path =>
        obtain ⟨front, name, back, marks, unmarked, _⟩ := resolve_eq_ok.mp resolved
        exact none path front name back rfl unmarked marks
  · have alone := resolve_around resolved (.inl rfl) (unmarked_iff.mpr (by decide)) (.inl rfl)
    simpa [Identifier.parse] using alone
  · intro front back opens unmarked closes
    exact resolve_around resolved opens unmarked closes

/-- A bare marker and a marker inside a segment name nothing; the first marked name counts. -/
theorem resolve_iff_marked_nested :
    resolve (some "/org/.git/wídgets.git/old.git/info/refs") = .ok ⟨"wídgets.git"⟩ ∧
      resolve (some "/.git/wídgets.gitx//") = .error (.invalidIdentifier "/.git/wídgets.gitx//") ∧
      resolve none = .error (.invalidIdentifier "") ∧
      Identifier.parse "wídgets.git" = .ok ⟨"wídgets.git"⟩ ∧
      resolve (some ("mirror//" ++ "wídgets.git" ++ "/")) = .ok ⟨"wídgets.git"⟩ := by
  have nested : resolve (some "/org/.git/wídgets.git/old.git/info/refs") = .ok ⟨"wídgets.git"⟩ :=
    (resolve_iff_marked.1 _ _).mpr ⟨"/org/.git/", "wídgets", "/old.git/info/refs",
      ⟨by decide, by decide, by decide, .inr (by decide), .inr (by decide)⟩, by decide, by decide⟩
  refine ⟨nested, ?_, ?_, ?_, ?_⟩
  · refine (resolve_iff_marked.2.1 _ _).mpr ⟨rfl, ?_⟩
    rintro path front name back ⟨⟩ _ marks
    have unmarked : Unmarked "/.git/wídgets.gitx//" := by decide
    exact unmarked front name back marks
  · exact (resolve_iff_marked.2.1 _ _).mpr ⟨rfl, by simp⟩
  · exact (resolve_iff_marked.2.2 _ _ nested).1
  · exact (resolve_iff_marked.2.2 _ _ nested).2 "mirror//" "/" (.inr (by decide)) (by decide)
      (.inr (by decide))

end PackGate
