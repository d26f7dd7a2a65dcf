import PackGate.Proofs.Http.Routing

/-! Which content reaches git: all that is not encoded, and what slips through the test for it. -/

namespace PackGate.Http

/-- Encoded content that is taken for plain, since only the first line is looked at. -/
inductive Slips (request : Request) : Prop where
  /-- The first line cannot be read. -/
  | unreadable {first : Bytes} {others : List Bytes}
      (lines : request.values "content-encoding" = first :: others)
      (hidden : ∃ byte ∈ first, ¬Readable byte)
  /-- The first line says that there is no encoding, and a later one says something else. -/
  | later {first : Bytes} {others : List Bytes}
      (lines : request.values "content-encoding" = first :: others)
      (plain : List.Forall₂ Spells first "identity".toList)
      (named : ∃ value ∈ others, ¬List.Forall₂ Spells value "identity".toList)

/-- A byte that spells a letter of the word can be read. -/
theorem Spells.readable {byte : UInt8} {letter : Char} (spells : Spells byte letter)
    (member : letter ∈ "identity".toList) : Readable byte := by
  -- The letters of both cases lie between the bounds.
  have bounds : "identity".toList.all (fun letter =>
      (0x20 ≤ letter.toNat ∧ letter.toNat < 0x7f) ∧
        0x20 ≤ letter.toUpper.toNat ∧ letter.toUpper.toNat < 0x7f) = true := by decide +kernel
  obtain ⟨lower, upper⟩ := of_decide_eq_true (List.all_eq_true.mp bounds letter member)
  refine .inl ?_
  rw [UInt8.le_iff_toNat_le, UInt8.lt_iff_toNat_lt]
  rcases spells with same | same
  · rw [same]
    exact lower
  · rw [same]
    exact upper

/-- A line that spells the word can be read. -/
theorem readable_of_spells {value : Bytes} (plain : List.Forall₂ Spells value "identity".toList) :
    ∀ byte ∈ value, Readable byte := by
  -- Each byte spells the letter at its own position.
  intro byte member
  obtain ⟨position, inside, rfl⟩ := List.getElem_of_mem member
  have bound : position < "identity".toList.length := plain.length_eq ▸ inside
  exact (plain.get inside bound).readable (List.getElem_mem bound)

/-- What is marked is encoded. -/
theorem Marked.encoded {request : Request} (marked : Marked request) : Encoded request := by
  obtain ⟨value, others, lines, _, named⟩ := marked
  exact ⟨value, by rw [lines]; exact List.mem_cons_self, named⟩

/-- What slips through is encoded content whose first line does not show it. -/
theorem slips_iff {request : Request} : Slips request ↔ Encoded request ∧ ¬Marked request := by
  constructor
  · -- A line that cannot be read spells nothing, and one in front hides those behind it.
    rintro (⟨lines, hidden⟩ | ⟨lines, plain, named⟩)
    · obtain ⟨byte, member, unread⟩ := hidden
      refine ⟨⟨_, by rw [lines]; exact List.mem_cons_self, fun spelt => ?_⟩, ?_⟩
      · exact unread (readable_of_spells spelt byte member)
      · rintro ⟨value, others, again, readable, _⟩
        rw [lines] at again
        cases again
        exact unread (readable byte member)
    · obtain ⟨value, member, other⟩ := named
      refine ⟨⟨value, by rw [lines]; exact List.mem_cons_of_mem _ member, other⟩, ?_⟩
      rintro ⟨first, others, again, _, marks⟩
      rw [lines] at again
      cases again
      exact marks plain
  · rintro ⟨⟨value, member, other⟩, unmarked⟩
    cases lines : request.values "content-encoding" with
    | nil => simp [lines] at member
    | cons first others =>
      -- The first line is no mark: either it cannot be read, or it says that there is none.
      by_cases readable : ∀ byte ∈ first, Readable byte
      · have plain : List.Forall₂ Spells first "identity".toList := by
          by_contra named
          exact unmarked ⟨first, others, lines, readable, named⟩
        refine .later lines plain ⟨value, ?_, other⟩
        rw [lines] at member
        rcases List.mem_cons.mp member with rfl | behind
        · exact absurd plain other
        · exact behind
      · push Not at readable
        exact .unreadable lines readable

/-- The objections to a request for objects as far as the first line goes. -/
def ObjectsToMarked (config : Config) (path : String) (request : Request) : Objection → Prop
  | .encoded => Marked request
  | objection => ObjectsToPost config path request objection

/-- Apart from the encoding the objections are those to any request for objects. -/
theorem objectsToMarked_iff {config : Config} {path : String} {request : Request}
    (objection : Objection) (apart : objection ≠ .encoded) :
    ObjectsToMarked config path request objection ↔
      ObjectsToPost config path request objection := by
  cases objection with
  | encoded => exact absurd rfl apart
  | _ => exact Iff.rfl

/-- The encoding is the last of the objections, so it takes precedence over none. -/
theorem Objection.Foremost.widen {one other : Objection → Prop} {objection : Objection}
    (foremost : objection.Foremost one)
    (same : ∀ objection ≠ .encoded, (one objection ↔ other objection))
    (wider : one .encoded → other .encoded) : objection.Foremost other := by
  obtain ⟨applies, before, after, cut, none⟩ := foremost
  -- The objection itself still applies, and none of those before it is the widened one.
  refine ⟨?_, before, after, cut, fun earlier member => ?_⟩
  · by_cases coded : objection = .encoded
    · rw [coded] at applies ⊢
      exact wider applies
    · exact (same objection coded).mp applies
  · refine (same earlier ?_).not.mp (none earlier member)
    rintro rfl
    -- No objection comes behind this one in the order.
    have behind : [.encoded, objection].Sublist order := by
      rw [cut]
      exact (List.singleton_sublist.mpr member).append (List.singleton_sublist.mpr (by simp))
    revert behind
    cases objection <;> decide

/--
Content reaches git unless it is encoded, or if it slips through although it is.

Any other request for objects is turned down by the weightiest objection, before the factory is
asked and before git is started.
-/
theorem content_reaches_git_iff (host : Host) (app : App) (path : String) (request : Request) :
    (Slips request ↔ Encoded request ∧ ¬Marked request) ∧
      Treated host app path (.objects request.body)
        (LeadsTo path "git-upload-pack" ∧ app.config.uploadPack = true ∧
          (Encoded request → Slips request))
        (ObjectsToPost app.config path request)
        (Exchange.send host app path request) (postObjects host app path request) := by
  refine ⟨slips_iff, ?_⟩
  -- The condition is that the first line is no mark, which is what the request's own test sees.
  have unmarked : (Encoded request → Slips request) ↔ ¬Marked request := by
    rw [slips_iff]
    exact ⟨fun slips marked => (slips marked.encoded).2 marked, fun bare coded => ⟨coded, bare⟩⟩
  rw [unmarked]
  have follows : (decidePost app.config path request).Follows
      (ObjectsToMarked app.config path request) :=
    decidePost_follows_of app.config path isEncoded_iff_marked.symm objectsToMarked_iff
  have treated : Treated host app path (.objects request.body)
      (LeadsTo path "git-upload-pack" ∧ app.config.uploadPack = true ∧ ¬Marked request)
      (ObjectsToMarked app.config path request)
      (Exchange.send host app path request) (postObjects host app path request) :=
    follow_treated host app path (.objects request.body) follows
      (free_post_iff_of objectsToMarked_iff) fun met => met.1.resolves
  -- What is turned down for its first line is encoded, and no objection weighs less.
  refine ⟨treated.asks, fun unmet => ?_, treated.served, treated.alone⟩
  obtain ⟨response, after, answered, undisturbed, objection, foremost, status⟩ :=
    treated.refused unmet
  exact ⟨response, after, answered, undisturbed, objection,
    foremost.widen objectsToMarked_iff Marked.encoded, status⟩

/-! ## Compressed content that slips through -/

/-- A request for objects with compressed content and the given lines about its encoding. -/
def Request.carrying (lines : List Bytes) : Request where
  method := "POST"
  uri := { path := "/widgets.git/git-upload-pack" }
  headers := lines.map fun line => ("content-encoding", line)
  body := [0x1f, 0x8b]

/-- The lines are all that the request says of its encoding. -/
theorem Request.values_carrying (lines : List Bytes) :
    (Request.carrying lines).values "content-encoding" = lines := by
  simp [Request.values, carrying, List.filter_map, Function.comp_def]

/-- The name of a coding that compresses. -/
def gzip : Bytes :=
  [0x67, 0x7a, 0x69, 0x70]

/-- The word that says that there is no encoding. -/
def identity : Bytes :=
  [0x69, 0x64, 0x65, 0x6e, 0x74, 0x69, 0x74, 0x79]

/-- A coding that cannot be read and one in the second line slip through, one in the first not. -/
theorem content_reaches_git_iff_compressed :
    ∃ start : App, App.create "config.yaml" { reposPath := "/srv" } = .ok start ∧
      let host : Host := { files := .fresh, git := fun _ => .error .notFound }
      let busy := start.run (App.underway ⟨"widgets.git"⟩)
      let send lines := Exchange.send host busy "widgets.git/git-upload-pack" (.carrying lines)
      let reaches lines := ∃ response after,
        (send lines).run host joined = .answered response after ∧
          after.launches = [Git.uploading "/srv/widgets.git" [0x1f, 0x8b]]
      reaches [gzip ++ [0xff]] ∧ reaches [identity, gzip] ∧
        ∃ response after, send [gzip, identity] = .answered response after ∧
          Undisturbed busy after := by
  obtain ⟨start, created⟩ :
      ∃ start : App, App.create "config.yaml" { reposPath := "/srv" } = .ok start := ⟨_, rfl⟩
  refine ⟨start, created, ?_⟩
  intro host busy send reaches
  have enabled : busy.config.uploadPack = true := by
    obtain ⟨_, same⟩ := App.run_underway created ⟨"widgets.git"⟩
    rw [show busy = _ from same]
    cases created
    rfl
  have leads : LeadsTo "widgets.git/git-upload-pack" "git-upload-pack" :=
    rest?_eq_some.mp (by decide +kernel)
  have name : resolve (some "widgets.git/git-upload-pack") = .ok ⟨"widgets.git"⟩ := by
    decide +kernel
  have plain : List.Forall₂ Spells identity "identity".toList := by simp [identity, Spells]
  have named : ¬List.Forall₂ Spells gzip "identity".toList := by simp [gzip, Spells]
  have treated lines :=
    (content_reaches_git_iff host busy "widgets.git/git-upload-pack" (.carrying lines)).2
  have slipped {lines : List Bytes} (slips : Slips (.carrying lines)) : reaches lines :=
    (treated lines).joined created rfl name ⟨leads, enabled, fun _ => slips⟩
  refine ⟨slipped (.unreadable (Request.values_carrying _) ?_),
    slipped (.later (Request.values_carrying _) plain ?_), ?_⟩
  · exact ⟨0xff, by simp, by simp [Readable]⟩
  · exact ⟨gzip, List.mem_singleton_self _, named⟩
  · -- The first line can be read, and it names a coding.
    have marked : Marked (.carrying [gzip, identity]) :=
      ⟨gzip, [identity], Request.values_carrying _, by simp [gzip, Readable], named⟩
    obtain ⟨response, after, answered, undisturbed, _⟩ := (treated [gzip, identity]).refused
      fun met => (slips_iff.mp (met.2.2 marked.encoded)).2 marked
    exact ⟨response, after, answered [], undisturbed⟩

end PackGate.Http
