import PackGate.App.Sequential
import PackGate.Http.Route
import PackGate.Metrics.Exposition
import PackGate.PktLine
import PackGate.ServicePath

/-! The server's answers to HTTP requests. -/

namespace PackGate.Http

/-- The service that sends objects to a reader. -/
def uploadPack : String :=
  "git-upload-pack"

/-- The service that takes objects from a writer; it is never served. -/
def receivePack : String :=
  "git-receive-pack"

/-- The greatest length of a request's content in bytes. -/
def longestBody : Nat :=
  2097152

/-! ## Decisions -/

/-- What a request for something in a repository comes to before any repository is opened. -/
inductive Decision where
  /-- The service is to be asked for the repository that the path names. -/
  | serve
  /-- The request is turned down. -/
  | refuse (response : Response)
  /-- The request is turned down because it would write. -/
  | rejectPush
  /-- The path names no repository. -/
  | noRepository
deriving DecidableEq, Repr

/-- The answer to a path that leads nowhere in a repository. -/
def notFound : Response :=
  .text 404 "Not Found"

/-- The answer where reading is switched off. -/
def disabled : Response :=
  .text 403 "git-upload-pack is disabled on this server"

/-- The answer to a request that would write. -/
def readOnly : Response :=
  .text 403 "Push (git-receive-pack) is not supported; this server is read-only."

/-- The answer to a request for a service that is none. -/
def unsupported (service : String) : Response :=
  .text 400 s!"Unsupported service: {Text.Quoted.encode service} (dumb HTTP is not served)"

/-- The answer to encoded content. -/
def encoded : Response :=
  .text 415 "Compressed request bodies are not supported"

/-- What follows the repository in a path; a path cannot be cut inside a character. -/
def rest? (path : String) : Option String :=
  match ServicePath.split path with
  | .ok (some (_, rest)) => some rest
  | .ok none | .error _ => none

/-- Decides on a request to list the refs of a repository. -/
def decideGet (config : Config) (path : String) (service : Option String) : Decision :=
  match rest? path with
  | none => .noRepository
  | some rest =>
    let service := service.getD ""
    if rest ≠ "info/refs" then .refuse notFound
    else if service = receivePack then .rejectPush
    else if service ≠ uploadPack then .refuse (unsupported service)
    else if !config.uploadPack then .refuse disabled
    else .serve

/-- Whether content is encoded, by the first header field that says so in plain characters. -/
def isEncoded (request : Request) : Bool :=
  match request.values "content-encoding" with
  | [] => false
  | value :: _ =>
    let plain := value.all fun byte => (0x20 ≤ byte && byte < 0x7f) || byte == 0x09
    plain && (Text.Utf8.decodeStringLossy value).toLower != "identity"

/-- Decides on a request for objects of a repository. -/
def decidePost (config : Config) (path : String) (request : Request) : Decision :=
  match rest? path with
  | none => .noRepository
  | some rest =>
    if rest = receivePack then .rejectPush
    else if rest ≠ uploadPack then .refuse notFound
    else if !config.uploadPack then .refuse disabled
    else if isEncoded request then .refuse encoded
    else .serve

/-! ## Errands -/

/-- The answer to a request that failed, which the log records. -/
def fail (app : App) (failure : Failure) : Response × App :=
  (failure.response, failure.notices.foldl App.note app)

/-- How a request is turned down, unless it is to be served. -/
def Decision.turnDown? (app : App) (path : String) : Decision → Option (Response × App)
  | .serve => none
  | .refuse response => some (response, app)
  | .rejectPush => some (readOnly, app.note (.warn "rejected git-receive-pack (push)"))
  | .noRepository => some (fail app (.factory (.invalidIdentifier path)))

/-- The answer with the refs of a repository. -/
def refsAnswer (refs : Bytes) : Response :=
  let content := match PktLine.advertisement (Text.Utf8.encode uploadPack) refs with
    | .ok content => content
    | .error _ => []
  { status := 200
    headers := [("content-type", "application/x-git-upload-pack-advertisement"),
      ("cache-control", "no-cache")]
    body := .fixed content }

/-- The answer with objects of a repository. -/
def objectsAnswer (objects : Bytes) : Response where
  status := 200
  headers := [("content-type", "application/x-git-upload-pack-result"),
    ("cache-control", "no-cache")]
  body := .streamed objects

/-- What git is to do for a request. -/
inductive Errand where
  /-- To list the refs of a repository. -/
  | refs
  /-- To send objects of a repository, as the content asks for them. -/
  | objects (content : Bytes)
deriving DecidableEq, Repr

namespace Errand

/-- The service that the request is counted for. -/
def label : Errand → String
  | .refs => "info-refs"
  | .objects _ => uploadPack

/-- What the log says before git is started. -/
def notices : Errand → List Notice
  | .refs => []
  | .objects _ => [.info "serving upload-pack"]

/-- The process that does it in a place. -/
def process (place : String) : Errand → Git.Launch
  | .refs => Git.advertising place
  | .objects content => Git.uploading place content

/-- What the process comes to. -/
def result (program : Git.Program) (place : String) : Errand → Except Report Bytes
  | .refs => Git.advertise program place
  | .objects content => Git.upload program place content

/-- The answer with what the process has written. -/
def answer : Errand → Bytes → Response
  | .refs => refsAnswer
  | .objects _ => objectsAnswer

/-- Starts git where the repository of a build lies; a process that yields nothing is a failure. -/
def run (errand : Errand) (host : Host) (app : App) (build : Nat) : Response × App :=
  let place := app.repositoryPath build
  let noted := errand.notices.foldl App.note app
  let started := { noted with launches := noted.launches ++ [errand.process place] }
  match errand.result host.git place with
  | .error report => fail started (.internal report)
  | .ok bytes => (errand.answer bytes, started)

/-- Answers a request whose repository could be opened or could not. -/
def conclude (errand : Errand) (host : Host) (app : App) : Except FactoryError Nat → Response × App
  | .error error => fail app (.factory error)
  | .ok build => errand.run host app build

end Errand

/-! ## Answers -/

/-- Turns a request down, or opens the repository and runs the errand, as far as that goes. -/
-- There is no answer where the repository has to wait for a build that somebody else drives.
def follow (host : Host) (app : App) (path : String) (errand : Errand) (decision : Decision) :
    Option Response × App :=
  match decision.turnDown? app path with
  | some (response, next) => (some response, next)
  | none =>
    match (app.count (·.countRequest errand.label)).openRepository host.files path with
    | (none, next) => (none, next)
    | (some answer, next) =>
      let (response, last) := errand.conclude host next answer
      (some response, last)

/-- Answers a request to list the refs of a repository. -/
def getRefs (host : Host) (app : App) (path : String) (service : Option String) :
    Option Response × App :=
  follow host app path .refs (decideGet app.config path service)

/-- Answers a request for objects of a repository. -/
def postObjects (host : Host) (app : App) (path : String) (request : Request) :
    Option Response × App :=
  follow host app path (.objects request.body) (decidePost app.config path request)

/-- Answers a request to reload the settings. -/
def reload (host : Host) (app : App) : Response × App :=
  match app.reload host.files with
  | (.error error, same) => fail same (.internal error.report)
  | (.ok notified, next) =>
    let members := [("epoch", toString next.context.epoch), ("notified", toString notified)]
    (.json 200 (Text.JsonText.object members), next)

/-- The answer with the server's counters. -/
def metricsAnswer (app : App) : Response where
  status := 200
  headers := [("content-type", "application/openmetrics-text; version=1.0.0; charset=utf-8")]
  body := .fixed (Text.Utf8.encode (Exposition.render app.factory.metrics))

/-- Answers a request for something in a repository. -/
def visit (host : Host) (app : App) (request : Request) (written : String) :
    Option Response × App :=
  match Place.decoded? written with
  | none => (some .brokenPath, app)
  | some path =>
    if request.method = "POST" then
      if longestBody < request.body.length then (some .tooLong, app)
      else postObjects host app path request
    else match Query.service? request.uri.query with
      | none => (some .brokenQuery, app)
      | some service => getRefs host app path service

/-- Answers a request whose method its place knows. -/
def answer (host : Host) (app : App) (request : Request) : Place → Option Response × App
  | .health => (some (app.health host.files).response, app)
  | .metrics => (some (metricsAnswer app), app)
  | .reload => (reload host app).map some id
  | .repository written => visit host app request written
  | .nowhere => (some .nothing, app)

/-- An answer as it is sent; a request for the head alone has it without its content. -/
def Response.sentTo (request : Request) (response : Response) : Response :=
  let measured := response.withLength
  if request.method = "HEAD" then measured.withoutBody else measured

/-- Answers a request, unless it has to wait for a build that somebody else drives. -/
def respond (host : Host) (app : App) (request : Request) : Option Response × App :=
  let place := Place.ofPath request.uri.path
  if place = .nowhere then (some .nothing, app)
  else if !place.methods.contains request.method then
    (some (Response.wrongMethod place.methods).withLength, app)
  else
    let (response, next) := answer host app request place
    (response.map (·.sentTo request), next)

end PackGate.Http
