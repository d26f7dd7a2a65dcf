import PackGate.App.Opening
import PackGate.Http.Handler

/-! Requests whose repository is opened while other things happen to the server. -/

namespace PackGate.Http

/-- How far the answer to a request for something in a repository has come. -/
inductive Exchange where
  /-- The repository is being opened, and then git has something to do. -/
  | waiting (errand : Errand) (opening : App.Opening)
  /-- The request has been answered. -/
  | answered (response : Response) (app : App)
  /-- The request has been given up together with the lookup that it waits for. -/
  | dropped (app : App)

namespace Exchange

/-- The server as the exchange has left it. -/
def app : Exchange → App
  | .waiting _ opening => opening.app
  | .answered _ app | .dropped app => app

/-- Goes on as far as the opening of the repository has come. -/
def settle (host : Host) (errand : Errand) (opening : App.Opening) : Exchange :=
  match opening.stage with
  | .looking _ _ | .trading _ => .waiting errand opening
  | .dropped => .dropped opening.app
  | .done answer =>
    let (response, app) := errand.conclude host opening.app answer
    .answered response app

/-- Begins to answer a request: it is turned down, or its repository is asked for. -/
def begin (host : Host) (app : App) (path : String) (errand : Errand) (decision : Decision) :
    Exchange :=
  match decision.turnDown? app path with
  | some (response, next) => .answered response next
  | none => settle host errand (.begin (app.count (·.countRequest errand.label)) path)

/-- Begins to answer a request to list the refs of a repository. -/
def list (host : Host) (app : App) (path : String) (service : Option String) : Exchange :=
  begin host app path .refs (decideGet app.config path service)

/-- Begins to answer a request for objects of a repository. -/
def send (host : Host) (app : App) (path : String) (request : Request) : Exchange :=
  begin host app path (.objects request.body) (decidePost app.config path request)

/-- What becomes of an exchange with an interference; nothing interferes with one that is over. -/
def step (host : Host) (exchange : Exchange) (interference : App.Interference) : Exchange :=
  match exchange with
  | .waiting errand opening => settle host errand (opening.step interference)
  | .answered _ _ | .dropped _ => exchange

/-- What becomes of an exchange with one interference after the other. -/
def run (host : Host) (exchange : Exchange) (during : List App.Interference) : Exchange :=
  during.foldl (step host) exchange

end Exchange

end PackGate.Http
