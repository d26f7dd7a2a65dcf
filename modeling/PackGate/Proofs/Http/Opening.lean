import Mathlib.Data.List.TakeWhile
import PackGate.Proofs.Http.Routing

/-! Cutting a request path and resolving it pick the same segment, which is the one opened. -/

namespace PackGate.Http

open Identifier ServicePath

/-- A path is cut behind the segment that it resolves to, and only separators are dropped. -/
structure CutBehind (path front rest : String) (id : Identifier) : Prop where
  /-- Front, separators and rest make up the path; only a path that ends there has none. -/
  whole : ∃ slashes, path = front ++ slashes ++ rest ∧ (∀ letter ∈ slashes.toList, letter = '/') ∧
    (slashes = "" → rest = "")
  /-- All separators behind the segment are dropped. -/
  bare : rest.toList.head? ≠ some '/'
  /-- The front ends with the segment. -/
  ends : front = id.text ∨ ∃ before, front = before ++ "/" ++ id.text
  /-- The front alone is cut at its end. -/
  again : ServicePath.split front = .ok (some (front, ""))
  /-- The front alone resolves to the segment. -/
  resolves : resolve (some front) = .ok id

/-- What comes before a segment ends in a separator, or there is nothing. -/
theorem exists_before {front : String} (opens : front = "" ∨ front.toList.getLast? = some '/') :
    front = "" ∨ ∃ before, front = before ++ "/" := by
  rcases opens with empty | last
  · exact .inl empty
  · obtain ⟨start, letters⟩ := List.getLast?_eq_some_iff.mp last
    refine .inr ⟨String.ofList start, ?_⟩
    apply String.toList_inj.mp
    simpa using letters

/-- Separators that are dropped in front of a rest leave one that does not start with any. -/
theorem drop_separators (back : String) (closes : back = "" ∨ back.toList.head? = some '/') :
    ∃ slashes rest, back = slashes ++ rest ∧
      rest = String.ofList (back.toList.dropWhile (· == '/')) ∧
      (∀ letter ∈ slashes.toList, letter = '/') ∧ (slashes = "" → rest = "") ∧
        rest.toList.head? ≠ some '/' := by
  refine ⟨String.ofList (back.toList.takeWhile (· == '/')), _, ?_, rfl, ?_, ?_, ?_⟩
  · apply String.toList_inj.mp
    simp [List.takeWhile_append_dropWhile]
  · intro letter member
    rw [String.toList_ofList] at member
    simpa using List.mem_takeWhile_imp member
  · intro none
    -- The rest would start with a separator if there were one, so there is no rest.
    rcases closes with rfl | first
    · rfl
    · obtain ⟨tail, letters⟩ := List.head?_eq_some_iff.mp first
      rw [letters] at none
      simp at none
  · rw [String.toList_ofList]
    intro first
    have kept := List.head?_dropWhile_not (· == '/') back.toList
    rw [first] at kept
    simp at kept

/-- A path that is cut and resolves is cut behind the segment that it resolves to. -/
theorem cutBehind_of_split {path front rest : String} {id : Identifier}
    (cut : ServicePath.split path = .ok (some (front, rest)))
    (resolved : resolve (some path) = .ok id) : CutBehind path front rest id := by
  -- Both scans are told by the one name that is marked first in the path.
  obtain ⟨before, name, back, marks, unmarked, same⟩ := resolve_eq_ok.mp resolved
  obtain ⟨slashes, tail, split, dropped, plain, ending, bare⟩ := drop_separators back marks.closes
  rw [split_marked marks unmarked, ← dropped] at cut
  cases cut
  -- The front by itself is marked in the same way, with nothing behind the marker.
  have alone : Marks (before ++ name ++ ".git") before name "" :=
    ⟨by simp, marks.named, marks.plain, marks.opens, .inl rfl⟩
  refine ⟨⟨slashes, ?_, plain, ending⟩, bare, ?_, ?_, ?_⟩
  · rw [marks.whole, split, ← String.append_assoc]
  · rcases exists_before marks.opens with rfl | ⟨start, rfl⟩
    · exact .inl (by simp [same])
    · exact .inr ⟨start, by rw [same, String.append_assoc]⟩
  · rw [split_marked alone unmarked]
    rfl
  · exact resolve_eq_ok.mpr ⟨before, name, "", alone, unmarked, same⟩

/--
A path can be cut if and only if it resolves, and it is cut behind the segment that it resolves to.

So whoever cut a path opens the repository which the rest is relative to, and always names one.
-/
theorem opens_where_cut :
    (∀ path : String, (∃ cut, ServicePath.split path = .ok cut) ∧
      ((∃ front rest, ServicePath.split path = .ok (some (front, rest))) ↔
        ∃ id, resolve (some path) = .ok id)) ∧
    ∀ (path front rest : String), ServicePath.split path = .ok (some (front, rest)) →
      ∃ id, resolve (some path) = .ok id ∧ CutBehind path front rest id ∧
        ∀ (app : App) (files : FileSystem),
          app.openRepository files path = app.openRepository files front ∧
          ∃ times, 0 < times ∧ times ≤ 2 ∧ (app.openRepository files path).2.factory.asked =
            app.factory.asked ++ Array.replicate times id := by
  constructor
  · intro path
    -- A path is either cut and resolved, or neither; the scan by offsets never misses a boundary.
    rcases split_cases path with ⟨front, rest, id, cut, resolved⟩ | ⟨whole, fails⟩
    · exact ⟨⟨_, cut⟩, iff_of_true ⟨front, rest, cut⟩ ⟨id, resolved⟩⟩
    · refine ⟨⟨none, whole⟩, iff_of_false ?_ ?_⟩
      · rintro ⟨front, rest, cut⟩
        rw [whole] at cut
        cases cut
      · rintro ⟨id, resolved⟩
        rw [fails] at resolved
        cases resolved
  · intro path front rest cut
    have leads : LeadsTo path rest := ⟨front, cut⟩
    obtain ⟨id, resolved⟩ := leads.resolves
    have behind := cutBehind_of_split cut resolved
    refine ⟨id, resolved, behind, fun app files => ⟨?_, ?_⟩⟩
    · -- Opening reads no more of a path than the identifier it resolves to.
      unfold App.openRepository
      rw [resolved, behind.resolves]
    · exact App.Opening.openRepository_asks app files resolved

/-- A segment with letters of two bytes among doubled separators is where both scans stop. -/
theorem opens_where_cut_doubled :
    ServicePath.split "//mirror/.git/wídgets.git///info//refs" =
        .ok (some ("//mirror/.git/wídgets.git", "info//refs")) ∧
      resolve (some "//mirror/.git/wídgets.git") = .ok ⟨"wídgets.git"⟩ ∧
      ServicePath.split "//mirror/.git/wídgets.git" =
        .ok (some ("//mirror/.git/wídgets.git", "")) := by
  have cut : ServicePath.split "//mirror/.git/wídgets.git///info//refs" =
      .ok (some ("//mirror/.git/wídgets.git", "info//refs")) := by decide +kernel
  obtain ⟨id, resolved, behind, _⟩ := opens_where_cut.2 _ _ _ cut
  have name : resolve (some "//mirror/.git/wídgets.git///info//refs") = .ok ⟨"wídgets.git"⟩ := by
    decide +kernel
  rw [name] at resolved
  cases resolved
  exact ⟨cut, behind.resolves, behind.again⟩

end PackGate.Http
