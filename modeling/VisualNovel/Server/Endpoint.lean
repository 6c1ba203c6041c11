import VisualNovel.Json.Basic
import VisualNovel.Server.Address
/-!
What can be asked of the server, and under which methods and paths.
-/

namespace VisualNovel

/-- What can be done with the playthrough of a story. -/
inductive PlayAction where
  | begin
  | watch
  | name
  | advance
  | choice
  | input
  | showFeedback
  | feedback
  | save
  | load
  | restart
  deriving DecidableEq

/-- What is answered from what the backend holds. -/
inductive LocalEndpoint where
  | health
  | settings
  | changeSettings
  | stories
  | story (slug : String)
  | uploadStory (slug : String)
  | deleteStory (slug : String)
  | play (slug : String) (action : PlayAction)
  deriving DecidableEq

/-- What can be asked for; all but the first need a network. -/
inductive Endpoint where
  | here (endpoint : LocalEndpoint)
  | checkConnection
  | respond (slug : String)
  | recommend (slug : String)
  deriving DecidableEq

/-- Why there is nothing to ask. -/
inductive NoEndpoint where
  | unknownPath
  | wrongMethod
  /-- an answer without a body -/
  | nobody
  /-- an address that is none -/
  | noAddress
  deriving DecidableEq

namespace Endpoint

/-- What there is under the path of a playthrough, by method. -/
def underPlay (slug : String) : List String → List (String × Endpoint)
  | [] => [("POST", .here (.play slug .begin)), ("GET", .here (.play slug .watch))]
  | ["name"] => [("POST", .here (.play slug .name))]
  | ["advance"] => [("POST", .here (.play slug .advance))]
  | ["choice"] => [("POST", .here (.play slug .choice))]
  | ["input"] => [("POST", .here (.play slug .input))]
  | ["respond"] => [("POST", .respond slug)]
  | ["feedback"] =>
    [("POST", .here (.play slug .showFeedback)), ("GET", .here (.play slug .feedback))]
  | ["feedback", "recommendations"] => [("POST", .recommend slug)]
  | ["save"] => [("POST", .here (.play slug .save))]
  | ["load"] => [("POST", .here (.play slug .load))]
  | ["restart"] => [("POST", .here (.play slug .restart))]
  | _ => []

/-- What there is under a path, by method. -/
def under : List String → List (String × Endpoint)
  | ["api", "health"] => [("GET", .here .health)]
  | ["api", "check-connection"] => [("POST", .checkConnection)]
  | ["api", "settings"] => [("GET", .here .settings), ("PATCH", .here .changeSettings)]
  | ["api", "stories"] => [("GET", .here .stories)]
  | ["api", "stories", slug] =>
    if slug = "" then []
    else [("GET", .here (.story slug)), ("PUT", .here (.uploadStory slug)),
      ("DELETE", .here (.deleteStory slug))]
  | "api" :: "stories" :: slug :: "play" :: rest => if slug = "" then [] else underPlay slug rest
  | _ => []

/-- What is under a path.  A line end behind the last name of a path does not count, unless it is
part of a slug. -/
def offered (names : List String) : List (String × Endpoint) :=
  match under names, names.reverse with
  | [], last :: before =>
    match last.toList.reverse with
    | '\n' :: rest => under (String.ofList rest.reverse :: before).reverse
    | _ => []
  | offered, _ => offered

/-- Names without the empty ones at their end. -/
def dropEmptyEnd (names : List String) : List String :=
  (names.reverse.dropWhile (· = "")).reverse

/-- What is asked for by a method and an address.  Where a slash at the end is too much, there is
only a hint without a body, and no answer to the method for heads alone has one. -/
def find (method address : String) : Except NoEndpoint Endpoint :=
  match Address.names? address with
  | none => .error .noAddress
  | some names =>
    let method := method.map Char.toUpper
    if method = "HEAD" then .error .nobody
    else
      match offered names with
      | [] =>
        if (offered (dropEmptyEnd names)).isEmpty then .error .unknownPath else .error .nobody
      | offered => (offered.lookup method).elim (.error .wrongMethod) .ok

end Endpoint

end VisualNovel
