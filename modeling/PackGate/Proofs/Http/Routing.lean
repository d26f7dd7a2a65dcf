import Mathlib.Data.List.Forall2
import PackGate.Proofs.Http.Exchange
import PackGate.Proofs.Path.Service

/-! Which requests lead to a repository and to git, and how all others are turned down. -/

namespace PackGate.Http

/-! ## Objections -/

/-- Why a request for something in a repository is turned down. -/
inductive Objection where
  /-- The path names no repository. -/
  | noRepository
  /-- The path leads nowhere in a repository. -/
  | wrongPlace
  /-- The request would write. -/
  | push
  /-- The service asked for is none. -/
  | otherService
  /-- Reading is switched off. -/
  | disabled
  /-- The content is encoded. -/
  | encoded
deriving DecidableEq, Repr

namespace Objection

/-- The objections, the weightiest first. -/
def order : List Objection :=
  [.noRepository, .wrongPlace, .push, .otherService, .disabled, .encoded]

/-- The status that a request is turned down with. -/
def status : Objection → Nat
  | .noRepository | .wrongPlace => 404
  | .push | .disabled => 403
  | .otherService => 400
  | .encoded => 415

/-- The weightiest of the objections that apply. -/
def Foremost (applies : Objection → Prop) (objection : Objection) : Prop :=
  applies objection ∧ ∃ before after, order = before ++ objection :: after ∧
    ∀ other ∈ before, ¬applies other

end Objection

/-- What a path leads to behind its repository. -/
def LeadsTo (path rest : String) : Prop :=
  ∃ front, ServicePath.split path = .ok (some (front, rest))

/-- A byte is a letter, whether in lower or in upper case. -/
def Spells (byte : UInt8) (letter : Char) : Prop :=
  byte.toNat = letter.toNat ∨ byte.toNat = letter.toUpper.toNat

/-- Content is encoded unless all that is said of its encoding is that there is none. -/
def Encoded (request : Request) : Prop :=
  ∃ value ∈ request.values "content-encoding", ¬List.Forall₂ Spells value "identity".toList

/-- The objections to a request for objects. -/
def ObjectsToPost (config : Config) (path : String) (request : Request) : Objection → Prop
  | .noRepository => ServicePath.split path = .ok none
  | .wrongPlace => ∃ rest, LeadsTo path rest ∧ rest ≠ "git-upload-pack" ∧ rest ≠ "git-receive-pack"
  | .push => LeadsTo path "git-receive-pack"
  | .otherService => False
  | .disabled => config.uploadPack = false
  | .encoded => Encoded request

/-! ## Decisions -/

/-- The status that a decision turns a request down with, if it does. -/
def Decision.refusal? : Decision → Option Nat
  | .serve => none
  | .refuse response => some response.status
  | .rejectPush => some 403
  | .noRepository => some 404

/-- What follows the repository in a path is what the path leads to. -/
theorem rest?_eq_some {path rest : String} : rest? path = some rest ↔ LeadsTo path rest := by
  -- The front is dropped, and a cut that fails leads nowhere either.
  unfold rest? LeadsTo
  cases ServicePath.split path with
  | error fault => simp
  | ok cut =>
    cases cut with
    | none => simp
    | some parts => simp [Prod.ext_iff]

/-- A path behind whose repository nothing is found names none. -/
theorem split_of_rest?_none {path : String} (nothing : rest? path = none) :
    ServicePath.split path = .ok none := by
  -- A cut never fails, so either there is a rest or the path is whole.
  rcases ServicePath.split_cases path with ⟨front, rest, _, cut, _⟩ | ⟨whole, _⟩
  · rw [rest?_eq_some.mpr ⟨front, cut⟩] at nothing
    cases nothing
  · exact whole

namespace LeadsTo

variable {path rest : String}

/-- A path leads to one place. -/
theorem unique (leads : LeadsTo path rest) {other : String} (also : LeadsTo path other) :
    rest = other := by
  -- What follows the repository is computed from the path, so there is one.
  rw [← rest?_eq_some] at leads also
  rw [leads] at also
  exact Option.some.inj also

/-- A path that leads somewhere names a repository. -/
theorem cut (leads : LeadsTo path rest) : ServicePath.split path ≠ .ok none := by
  obtain ⟨front, cut⟩ := leads
  rw [cut]
  simp

/-- A path that leads somewhere resolves. -/
theorem resolves (leads : LeadsTo path rest) : ∃ id, resolve (some path) = .ok id := by
  -- Both scans look for the same segment.
  rcases ServicePath.split_cases path with ⟨_, _, id, _, resolved⟩ | ⟨whole, _⟩
  · exact ⟨id, resolved⟩
  · exact absurd whole leads.cut

end LeadsTo

/-- A decision that follows objections: the weightiest turns a request down. -/
inductive Decision.Follows (applies : Objection → Prop) (decision : Decision) : Prop where
  /-- There is no objection. -/
  | served (serves : decision = .serve) (free : ∀ objection, ¬applies objection)
  /-- There is an objection, and the weightiest one is answered. -/
  | refused (objection : Objection) (foremost : objection.Foremost applies)
      (refuses : decision.refusal? = some objection.status)

/-- A byte that can be read as a character of a header field. -/
def Readable (byte : UInt8) : Prop :=
  0x20 ≤ byte ∧ byte < 0x7f ∨ byte = 0x09

/-- A readable byte is a byte of ASCII. -/
theorem Readable.ascii {byte : UInt8} (readable : Readable byte) : byte < 0x80 := by
  -- The tabulator aside, what can be read lies below the last code of ASCII.
  rcases readable with ⟨_, below⟩ | rfl
  · exact UInt8.lt_trans below (by decide)
  · decide

/-- Bytes of ASCII are read one by one. -/
theorem decodeLossy_ascii {bytes : Bytes} (ascii : ∀ byte ∈ bytes, byte < 0x80) :
    Text.Utf8.decodeLossy bytes = bytes.map fun byte => Char.ofNat byte.toNat := by
  induction bytes with
  | nil => simp [Text.Utf8.decodeLossy]
  | cons first rest ih =>
    obtain ⟨small, others⟩ := List.forall_mem_cons.mp ascii
    -- A byte of ASCII is a character by itself.
    have head : Text.Utf8.head first rest = .char (Char.ofNat first.toNat) 1 := by
      simp [Text.Utf8.head, Text.Utf8.lead?, small, Text.Utf8.readTails]
    rw [Text.Utf8.decodeLossy, head]
    simp [ih others]

/-- Whether a byte of ASCII is a letter of a word shows in lower case. -/
theorem toLower_eq_iff {byte : UInt8} (ascii : byte < 0x80) {letter : Char}
    (member : letter ∈ "identity".toList) :
    (Char.ofNat byte.toNat).toLower = letter ↔ Spells byte letter := by
  -- There are 128 bytes of ASCII, and a letter is spelt by two of them.
  have all : (List.range 128).all (fun number => "identity".toList.all fun letter =>
      decide ((Char.ofNat number).toLower = letter) ==
        decide (number = letter.toNat ∨ number = letter.toUpper.toNat)) = true := by decide +kernel
  have small : byte.toNat ∈ List.range 128 :=
    List.mem_range.mpr (UInt8.lt_iff_toNat_lt.mp ascii)
  have same := List.all_eq_true.mp (List.all_eq_true.mp all _ small) _ member
  exact decide_eq_decide.mp (beq_iff_eq.mp same)

/-- Mapping a list to another relates them item by item. -/
theorem map_eq_iff_forall₂ {α β : Type} {form : α → β} {related : α → β → Prop} {items : List α}
    {images : List β}
    (agree : ∀ item ∈ items, ∀ image ∈ images, form item = image ↔ related item image) :
    items.map form = images ↔ List.Forall₂ related items images := by
  -- The induction is on the items; the images have to be as many on either side.
  induction items generalizing images with
  | nil => simp [eq_comm]
  | cons item rest ih =>
    cases images with
    | nil => simp
    | cons image others =>
      have here := agree item List.mem_cons_self image List.mem_cons_self
      have there := ih fun item member image also =>
        agree item (List.mem_cons_of_mem _ member) image (List.mem_cons_of_mem _ also)
      simp [here, there]

/-- A line of ASCII is a word in lower case if it spells this word, letter by letter. -/
theorem toLower_decode_eq_iff {value : Bytes} (ascii : ∀ byte ∈ value, byte < 0x80) :
    (Text.Utf8.decodeStringLossy value).toLower = "identity" ↔
      List.Forall₂ Spells value "identity".toList := by
  -- Texts are compared as lists of characters, where lower case is taken one by one.
  have lower (text : String) : text.toLower.toList = text.toList.map Char.toLower :=
    String.toList_map
  rw [← String.toList_inj, lower, Text.Utf8.decodeStringLossy, String.toList_ofList,
    decodeLossy_ascii ascii, List.map_map]
  exact map_eq_iff_forall₂ fun byte member letter also => toLower_eq_iff (ascii byte member) also

/-- The first line that tells of an encoding can be read, and names one. -/
def Marked (request : Request) : Prop :=
  ∃ value others, request.values "content-encoding" = value :: others ∧
    (∀ byte ∈ value, Readable byte) ∧ ¬List.Forall₂ Spells value "identity".toList

/-- The request's own test looks at the first line alone, and passes over what cannot be read. -/
theorem isEncoded_iff_marked {request : Request} : isEncoded request = true ↔ Marked request := by
  unfold isEncoded Marked
  cases lines : request.values "content-encoding" with
  | nil => simp
  | cons value others =>
    have shown : (value.all fun byte =>
        decide (0x20 ≤ byte) && decide (byte < 0x7f) || byte == 0x09) = true ↔
          ∀ byte ∈ value, Readable byte := by
      simp [Readable]
    by_cases readable : ∀ byte ∈ value, Readable byte
    · -- Bytes that can be read are bytes of ASCII, where letters are told apart one by one.
      have word := toLower_decode_eq_iff fun byte member => (readable byte member).ascii
      rw [← shown] at readable
      simp [readable, word, ← shown]
    · -- A first line that cannot be read counts as none.
      rw [← shown] at readable
      simp [readable, ← shown]

/-- A request for objects is decided on by the weightiest objection, whatever counts as encoded. -/
theorem decidePost_follows_of (config : Config) (path : String) {request : Request}
    {applies : Objection → Prop} (encoded : applies .encoded ↔ isEncoded request = true)
    (others : ∀ objection ≠ .encoded,
      (applies objection ↔ ObjectsToPost config path request objection)) :
    (decidePost config path request).Follows applies := by
  unfold decidePost
  cases found : rest? path with
  | none =>
    -- No objection is weightier than that there is no repository.
    have unnamed : applies .noRepository :=
      (others .noRepository (by simp)).mpr (split_of_rest?_none found)
    exact .refused .noRepository ⟨unnamed, [], _, rfl, by simp⟩ rfl
  | some rest =>
    -- The tests come in another order than the objections, since a push has a place of its own.
    have leads := rest?_eq_some.mp found
    have known : ¬applies .noRepository := (others .noRepository (by simp)).not.mpr leads.cut
    have serves : ¬applies .otherService := (others .otherService (by simp)).not.mpr id
    dsimp only
    split
    · -- A path that leads to writing does not lead anywhere else.
      rename_i push
      have placed : ¬applies .wrongPlace := by
        rw [others .wrongPlace (by simp)]
        rintro ⟨other, elsewhere, _, apart⟩
        exact apart (by rw [← leads.unique elsewhere]; exact push)
      have pushes : LeadsTo path receivePack := push ▸ leads
      exact .refused .push ⟨(others .push (by simp)).mpr pushes, [.noRepository, .wrongPlace],
        _, rfl, by simp [known, placed]⟩ rfl
    rename_i write
    have reads : ¬applies .push :=
      (others .push (by simp)).not.mpr fun push => write (leads.unique push)
    split
    · rename_i place
      have misplaced : applies .wrongPlace :=
        (others .wrongPlace (by simp)).mpr ⟨rest, leads, place, write⟩
      exact .refused .wrongPlace ⟨misplaced, [.noRepository], _, rfl, by simp [known]⟩ rfl
    rename_i place
    have placed : ¬applies .wrongPlace := by
      rw [others .wrongPlace (by simp)]
      rintro ⟨other, elsewhere, apart, _⟩
      exact place (by rw [leads.unique elsewhere]; exact apart)
    have disabled := others .disabled (by simp)
    split
    · rename_i closed
      exact .refused .disabled ⟨disabled.mpr (by simpa [ObjectsToPost] using closed),
        [.noRepository, .wrongPlace, .push, .otherService], _, rfl,
        by simp [known, placed, reads, serves]⟩ rfl
    rename_i opened
    have enabled : ¬applies .disabled := disabled.not.mpr (by simpa [ObjectsToPost] using opened)
    split
    · rename_i coded
      exact .refused .encoded ⟨encoded.mpr coded,
        [.noRepository, .wrongPlace, .push, .otherService, .disabled], _, rfl,
        by simp [known, placed, reads, serves, enabled]⟩ rfl
    · -- Again all tests have been passed, the one for the encoding last.
      rename_i bare
      refine .served rfl fun objection => ?_
      cases objection with
      | noRepository => exact known
      | wrongPlace => exact placed
      | push => exact reads
      | otherService => exact serves
      | disabled => exact enabled
      | encoded => exact encoded.not.mpr bare

/-- A request that is turned down leaves all but the log as it is. -/
theorem Decision.turnDown?_refused (app : App) (path : String) {decision : Decision}
    {status : Nat} (refuses : decision.refusal? = some status) :
    ∃ response after, decision.turnDown? app path = some (response, after) ∧
      response.status = status ∧ Undisturbed app after := by
  -- A push is logged and a path without a repository fails; nothing else is even logged.
  cases decision with
  | serve => cases refuses
  | refuse response =>
    exact ⟨response, app, rfl, Option.some.inj refuses, app.factory.journal, rfl⟩
  | rejectPush => exact ⟨readOnly, _, rfl, Option.some.inj refuses, _, rfl⟩
  | noRepository =>
    have undisturbed := fail_undisturbed app (.factory (.invalidIdentifier path))
    exact ⟨_, _, rfl, Option.some.inj refuses, undisturbed⟩

/--
What becomes of a request that may be served on one condition.

Either it is served, or the weightiest objection turns it down and nothing else happens.
What happens meanwhile is arbitrary, and answering the request in one go is a case of it.
-/
structure Treated (host : Host) (app : App) (path : String) (errand : Errand) (condition : Prop)
    (applies : Objection → Prop) (exchange : Exchange) (reply : Option Response × App) :
    Prop where
  /-- The factory is asked if and only if the condition is met. -/
  asks : exchange.app.factory.asked ≠ app.factory.asked ↔ condition
  /-- Otherwise the weightiest objection is answered at once, and nothing changes but the log. -/
  refused : ¬condition → ∃ response after,
    (∀ during, exchange.run host during = .answered response after) ∧ Undisturbed app after ∧
      ∃ objection : Objection, objection.Foremost applies ∧ response.status = objection.status
  /-- If so, it is asked for the repository of the path, and git runs where that one lies. -/
  served : condition → ∃ id, resolve (some path) = .ok id ∧ ∀ during,
    let opening := App.Opening.begin (app.count (·.countRequest errand.label)) path
    Opens host app errand id during (opening.run during) (exchange.run host during)
  /-- The reply in one go is that of a run in which nobody else asks for anything. -/
  alone : ∃ during, App.Quiet during ∧ (exchange.run host during).app = reply.2 ∧
    ∀ response, exchange.run host during = .answered response reply.2 ↔ reply.1 = some response

/-- A request is treated by the objections that its decision follows. -/
theorem follow_treated (host : Host) (app : App) (path : String) (errand : Errand)
    {decision : Decision} {condition : Prop} {applies : Objection → Prop}
    (follows : decision.Follows applies) (free : (∀ objection, ¬applies objection) ↔ condition)
    (resolves : condition → ∃ id, resolve (some path) = .ok id) :
    Treated host app path errand condition applies
      (Exchange.begin host app path errand decision) (follow host app path errand decision) := by
  have alone := follow_runs host app path errand decision
  cases follows with
  | served serves none =>
    -- Without an objection the condition is met, and the request is served.
    subst serves
    have met := free.mp none
    obtain ⟨id, resolved⟩ := resolves met
    -- Somebody has asked, so there is one caller more than before.
    have more : (Exchange.begin host app path errand .serve).app.factory.asked =
        app.factory.asked.push id := by
      simp only [Exchange.begin, Decision.turnDown?, App.Opening.begin, resolved,
        App.Opening.ask, Exchange.settle, Exchange.app]
      simp [App.step, App.drive, App.count, Factory.step, Factory.count, Factory.asked]
    refine ⟨iff_of_true ?_ met, fun unmet => absurd met unmet, fun _ => ⟨id, resolved,
      Exchange.settle_opens host app errand resolved⟩, alone⟩
    rw [more]
    intro same
    -- No array is one longer than itself.
    simpa using congrArg Array.size same
  | refused objection foremost refuses =>
    -- An objection that applies tells that the condition is not met.
    have unmet : ¬condition := fun met => free.mpr met objection foremost.1
    obtain ⟨response, after, turned, status, undisturbed⟩ :=
      Decision.turnDown?_refused app path refuses
    have begun : Exchange.begin host app path errand decision = .answered response after := by
      rw [Exchange.begin, turned]
    -- The log says nothing about who has asked for what.
    have same : after.factory.asked = app.factory.asked := by
      obtain ⟨journal, rest⟩ := undisturbed
      rw [rest]
      rfl
    refine ⟨?_, fun _ => ⟨response, after, ?_, undisturbed, objection, foremost, status⟩,
      fun met => absurd met unmet, alone⟩
    · rw [begun]
      exact iff_of_false (fun more => more same) unmet
    · rw [begun]
      exact Exchange.run_answered host response after

/-- A request for objects is free of objections if it asks for what is served, not encoded. -/
theorem free_post_iff_of {config : Config} {path : String} {request : Request}
    {applies : Objection → Prop}
    (others : ∀ objection ≠ .encoded,
      (applies objection ↔ ObjectsToPost config path request objection)) :
    (∀ objection, ¬applies objection) ↔
      LeadsTo path "git-upload-pack" ∧ config.uploadPack = true ∧ ¬applies .encoded := by
  constructor
  · intro free
    have enabled : config.uploadPack = true := by
      simpa [others, ObjectsToPost] using free .disabled
    -- The path can only be cut, and then nothing but the service is left to lead to.
    refine ⟨?_, enabled, free .encoded⟩
    rcases ServicePath.split_cases path with ⟨front, rest, _, cut, _⟩ | ⟨whole, _⟩
    · have place : rest = "git-upload-pack" := Decidable.not_not.mp fun apart =>
        free .wrongPlace <| (others .wrongPlace (by simp)).mpr ⟨rest, ⟨front, cut⟩, apart,
          fun push => free .push ((others .push (by simp)).mpr ⟨front, push ▸ cut⟩)⟩
      exact ⟨front, by rw [cut, place]⟩
    · exact absurd ((others .noRepository (by simp)).mpr whole) (free .noRepository)
  · rintro ⟨leads, enabled, plain⟩ objection
    -- What counts as encoded is a parameter, so this objection is taken by itself.
    by_cases coded : objection = .encoded
    · rw [coded]
      exact plain
    rw [others objection coded]
    cases objection with
    | noRepository => exact leads.cut
    | wrongPlace =>
      rintro ⟨rest, elsewhere, apart, _⟩
      exact apart (leads.unique elsewhere).symm
    | push =>
      intro pushes
      exact absurd (leads.unique pushes) (by decide)
    | otherService => exact id
    | disabled => simp [ObjectsToPost, enabled]
    | encoded => exact absurd rfl coded

/-- A request joins the build that another lookup drives, and both are served with it. -/
def joined : List App.Interference :=
  [.event (.advance 1), .event (.finish 0 .ready), .event (.advance 0), .event (.advance 1)]

section Joined

variable {start busy : App} {path : String}
  (created : App.create "config.yaml" { reposPath := "/srv" } = .ok start)
  (builds : busy = start.run (App.underway ⟨"widgets.git"⟩))
  (resolved : resolve (some path) = .ok ⟨"widgets.git"⟩)

include created builds resolved

open App.Evaluation Factory.Evaluation in
/-- An opening that joins asks once, and is served with the first build. -/
theorem run_joined (label : String) :
    let opening := (App.Opening.begin (busy.count (·.countRequest label)) path).run joined
    opening.lookups = [1] ∧
      opening.app.factory.callers[1]? = some ⟨⟨"widgets.git"⟩, .served 0⟩ ∧
      opening.app.launches = [] ∧ opening.app.repositoryPath 0 = "/srv/widgets.git" := by
  have place : FilePath.join "/srv" "widgets.git" = "/srv/widgets.git" := by decide +kernel
  -- Start, first build and both lookups are known in full, so the run is computed.
  cases created
  simp [builds, joined, App.underway, App.Opening.run, App.Opening.begin, resolved,
    App.Opening.ask, App.Opening.step, App.disturb, App.Opening.resume, App.count,
    App.repositoryPath, Shelf.repository, Shelf.path, place]

/-- A request that is to be served makes git read what the first build has opened. -/
theorem Treated.joined {host : Host} {errand : Errand} {condition : Prop}
    {applies : Objection → Prop} {exchange : Exchange} {reply : Option Response × App}
    (treated : Treated host busy path errand condition applies exchange reply)
    (met : condition) :
    ∃ response after, exchange.run host joined = .answered response after ∧
      after.launches = [errand.process "/srv/widgets.git"] := by
  obtain ⟨_, _, opens⟩ := treated.served met
  obtain ⟨lookups, served, launches, place⟩ := run_joined created builds resolved errand.label
  -- The latest lookup is the only one, and it has been served.
  obtain ⟨caller, stage, latest, here, outcome⟩ := (opens Http.joined).outcome
  generalize exchange.run host Http.joined = last at outcome ⊢
  generalize (App.Opening.begin _ path).run Http.joined = opening at *
  rw [lookups] at latest
  obtain rfl : 1 = caller := Option.some.inj latest
  rw [served] at here
  cases here
  cases outcome with
  | waits going => cases going
  | served launched =>
    obtain ⟨journal, rfl⟩ := launched
    refine ⟨_, _, rfl, ?_⟩
    show opening.app.launches ++ [errand.process (opening.app.repositoryPath 0)] = _
    rw [launches, place, List.nil_append]

end Joined

end PackGate.Http
