/-
  WHAT A CLIENT ASKS.

  A request has a method and parameters.  It is read in two steps.  The parameters are an object or
  are left out, and what an object says about the request itself, under `_meta`, is an object or is
  left out: anything else cannot be read at all.  After that the parameters must have the shape
  that the method asks for, or the request is not understood, like one whose method is unknown.  A
  ping is always understood, and a list is asked for with whatever parameters can be read.

  A method that belongs to notifications is not a request's, so it is not understood either.  But a
  notification may be of a sort that is not known here, with parameters of its own.  So where they
  cannot be read it is passed over, unless it is one of those that servers send.
-/
import DocIndex.Json.Pattern

namespace DocIndex

/-- What a client can ask a list of. -/
inductive Listing where
  | tools
  | prompts
  | resources
  | resourceTemplates
  deriving Repr, DecidableEq

/-- The lists, by the method that asks for them. -/
def Listing.known : List (String × Listing) := [
  ("tools/list", .tools), ("prompts/list", .prompts), ("resources/list", .resources),
  ("resources/templates/list", .resourceTemplates)]

/-- A call of a tool. -/
structure ToolCall where
  tool : String
  arguments : List (String × Json)
  /-- is it to run as a task, to be asked for later? -/
  asTask : Bool

/-- A request that was understood. -/
inductive ClientRequest where
  | introduce
  | ping
  | list (what : Listing)
  /-- what could stand in the place of an argument -/
  | complete
  | call (c : ToolCall)

/-- Why a request fails. -/
inductive RequestError where
  /-- the message cannot be read, not even whose it is -/
  | unreadable
  /-- the method is unknown, or its parameters do not fit -/
  | notUnderstood (method : String)
  | unknownTool
  /-- the tool does not run as a task -/
  | notAsTask
  /-- there are no tasks -/
  | noTasks
  deriving Repr, DecidableEq

namespace RequestError

def code : RequestError → Int
  | .unreadable => -32700
  | .notUnderstood _ => -32601
  | .unknownTool => -32602
  | .notAsTask => -32602
  | .noTasks => -32603

def message : RequestError → String
  | .unreadable => "Parse error"
  | .notUnderstood method => method
  | .unknownTool => "tool not found"
  | .notAsTask => "Tool does not support task-based invocation"
  | .noTasks => "Task processing not implemented"

def toJson (e : RequestError) : Json :=
  .object [("code", .number (.integer e.code)), ("message", .string e.message)]

end RequestError

namespace ClientRequest

open Json (Pattern)

/-! ## The shapes of parameters -/

/-- What a client can do. -/
def capabilities : Pattern := .record [
  ("experimental", .optional (.mapOf .object)),
  ("extensions", .optional (.mapOf .object)),
  ("roots", .optional (.record [("listChanged", .optional .boolean)])),
  ("sampling", .optional (.record [
    ("tools", .optional .object), ("context", .optional .object)])),
  ("elicitation", .optional (.record [
    ("form", .optional (.record [("schemaValidation", .optional .boolean)])),
    ("url", .optional (.record []))])),
  ("tasks", .optional (.record [
    ("requests", .optional (.record [
      ("sampling", .optional (.record [("createMessage", .optional .object)])),
      ("elicitation", .optional (.record [("create", .optional .object)])),
      ("tools", .optional (.record [("call", .optional .object)]))])),
    ("list", .optional .object),
    ("cancel", .optional .object)]))]

/-- A picture that stands for a program. -/
def icon : Pattern := .record [
  ("src", .string),
  ("mimeType", .optional .string),
  ("sizes", .optional (.listOf .string)),
  ("theme", .optional (.among ["light", "dark"]))]

/-- Which program a client is. -/
def implementation : Pattern := .record [
  ("name", .string),
  ("title", .optional .string),
  ("version", .string),
  ("description", .optional .string),
  ("icons", .optional (.listOf icon)),
  ("websiteUrl", .optional .string)]

/-- A client says what it speaks, what it can do and who it is. -/
def introduction : Pattern := .record [
  ("protocolVersion", .string),
  ("capabilities", capabilities),
  ("clientInfo", implementation)]

/-- The argument to complete, and what it belongs to. -/
def completion : Pattern := .record [
  ("ref", .tagged "type" [
    ("ref/resource", .record [("uri", .string)]),
    ("ref/prompt", .record [("name", .string), ("title", .optional .string)])]),
  ("argument", .record [("name", .string), ("value", .string)]),
  ("context", .optional (.record [("arguments", .optional (.mapOf .string))]))]

/-- A tool by name, its arguments, and how to run it. -/
def toolCall : Pattern := .record [
  ("name", .string),
  ("arguments", .optional .object),
  ("task", .optional .object)]

/-! ## Reading -/

/-- The members of parameters that can be read; none where they are left out. -/
def members? : Json → Option (Option (List (String × Json)))
  | .null => some none
  | .object ms =>
    if Pattern.fits (.record [("_meta", .optional .object)]) (.object ms) then some (some ms)
    else none
  | _ => none

/-- The call with these parameters; no arguments are an empty object. -/
def callOf? (ms : List (String × Json)) : Option ToolCall := do
  guard (toolCall.fits (.object ms))
  let tool ← (ms.lookup "name").bind Json.string?
  return {
    tool := tool
    arguments := match ms.lookup "arguments" with
      | some (.object arguments) => arguments
      | _ => []
    asTask := match ms.lookup "task" with
      | some (.object _) => true
      | _ => false }

/-- The request with these parameters, if they have the shape that the method asks for. -/
def ofMembers? (method : String) (members : Option (List (String × Json))) :
    Option ClientRequest :=
  match method with
  | "initialize" => do
    guard (introduction.fits (.object (← members)))
    return .introduce
  | "completion/complete" => do
    guard (completion.fits (.object (← members)))
    return .complete
  | "tools/call" => do return .call (← callOf? (← members))
  | _ => (Listing.known.lookup method).map .list

/-- The notifications that a server sends. -/
def serverNotifications : List String := [
  "notifications/cancelled", "notifications/message", "notifications/progress",
  "notifications/prompts/list_changed", "notifications/resources/list_changed",
  "notifications/resources/updated", "notifications/tools/list_changed"]

/-- Is what cannot be read passed over without a word, under this method? -/
def isPassedOver (method : String) : Bool :=
  "notifications/".toList.isPrefixOf method.toList && !serverNotifications.contains method

/-- Reads a request. -/
def read (method : String) (params : Json) : Except RequestError ClientRequest :=
  if method = "ping" then .ok .ping
  else match members? params with
    | none => .error .unreadable
    | some members =>
      match ofMembers? method members with
      | some request => .ok request
      | none => .error (.notUnderstood method)

end ClientRequest
end DocIndex
