/-
  THE DIALOGUE with a client.

  A client introduces itself, asks which tools there are, and calls them.  A call that reaches its
  tool always has a result: the answer, or the text of what was wrong marked as an error.  A request
  that is not understood, or names a tool that is not there, fails.  A tool does not run as a task;
  that is looked at before the call, and tasks are not there for any other name either.

  Requests and replies are lines of text.  A reply names the request that it answers, unless that
  request could not be read.  Some of what cannot be read has no reply at all.
-/
import DocIndex.Dialogue.ClientRequest
import DocIndex.Dialogue.Tool
import DocIndex.Json.Reader

namespace DocIndex

namespace Listing

/-- The member of the result that holds the list. -/
def field : Listing → String
  | .tools => "tools"
  | .prompts => "prompts"
  | .resources => "resources"
  | .resourceTemplates => "resourceTemplates"

/-- What is listed.  Only tools are offered, so the other lists are empty. -/
def items : Listing → List Json
  | .tools => Tool.all.map Tool.toJson
  | _ => []

end Listing

namespace Dialogue

/-- How the program introduces itself. -/
def introduction : Json :=
  .object [
    ("capabilities", .object [("tools", .object [])]),
    ("instructions", .string (
      "apidoc-query: faceted search and type linking over generated API documentation. " ++
      "Use search to find types and members, resolve_type to link a type expression, " ++
      "and lookup_type to inspect one type.")),
    ("protocolVersion", .string "2024-11-05"),
    ("serverInfo", .object [("name", .string "rmcp"), ("version", .string "1.8.0")])]

/-- The result of a call. -/
def callResult (outcome : Except String String) : Json :=
  let result (text : String) (isError : Bool) : Json :=
    .object [
      ("content", .list [.object [("text", .string text), ("type", .string "text")]]),
      ("isError", .bool isError)]
  match outcome with
  | .ok text => result text false
  | .error text => result text true

/-- Carries out a call. -/
def call (h : Handbook) (c : ToolCall) : Except RequestError Json :=
  match Tool.ofName? c.tool, c.asTask with
  | some tool, false => .ok (callResult (tool.call h (.object c.arguments)))
  | some _, true => .error .notAsTask
  | none, false => .error .unknownTool
  | none, true => .error .noTasks

/-- The result of a request.  Nothing is known to complete an argument with. -/
def answer (h : Handbook) (method : String) (params : Json) : Except RequestError Json := do
  match ← ClientRequest.read method params with
  | .introduce => return introduction
  | .ping => return .object []
  | .list what => return .object [(what.field, .list what.items)]
  | .complete => return .object [("completion", .object [("values", .list [])])]
  | .call c => call h c

/-- The reply to a request that could not be read. -/
def unreadable : List (String × Json) := [("error", RequestError.unreadable.toJson)]

/-- The reply to the request `id`, if there is one. -/
def reply (h : Handbook) (id : Json) (method : String) (params : Json) :
    Option (List (String × Json)) :=
  match answer h method params with
  | .ok result => some [("id", id), ("result", result)]
  | .error .unreadable => if ClientRequest.isPassedOver method then none else some unreadable
  | .error e => some [("id", id), ("error", e.toJson)]

/-- The reply to a message.  One without an `id` is a notification and has none; one with an `id`
    names its method by a string, or cannot be read. -/
def replyTo (h : Handbook) (message : Json) : Option (List (String × Json)) := do
  let id ← message.get? "id"
  match message.get? "method" with
  | some (.string method) => reply h id method ((message.get? "params").getD .null)
  | _ => return unreadable

/-- The line that answers a line of the client. -/
def respond (h : Handbook) (line : String) : Option String := do
  let members ← match Json.parse line with
    | .ok message => replyTo h message
    | .error _ => some unreadable
  return (Json.object (("jsonrpc", .string "2.0") :: members)).compact

end Dialogue
end DocIndex
