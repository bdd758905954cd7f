/-!
# Request methods

Seven methods have a name of their own; any other token is an extension method, kept so that it
can be refused by name. Case matters: `get` is an extension.
-/
namespace OriginServer

/-- What a request asks to be done with its target. -/
inductive Method where
  /-- Retrieve the resource. -/
  | get
  /-- Submit data to the resource. -/
  | post
  /-- Replace the resource. -/
  | put
  /-- Remove the resource. -/
  | delete
  /-- Like `get`, but the answer carries no body. -/
  | head
  /-- Describe the communication options. -/
  | options
  /-- Change a part of the resource. -/
  | patch
  /-- Any other method, by its token. -/
  | extension (token : String)
  deriving DecidableEq, Repr, Inhabited

namespace Method

/-- The characters of a token: ASCII letters and digits and fifteen marks. -/
def isTokenChar (char : Char) : Bool :=
  char.isAlphanum || "!#$%&\x27*+-.^_\x60|~".toList.contains char

/-- A token is a text of one or more token characters. -/
def isToken (text : String) : Bool := !text.isEmpty && text.toList.all isTokenChar

/-- The text of a method as it stands in a request line. -/
def text : Method → String
  | get => "GET"
  | post => "POST"
  | put => "PUT"
  | delete => "DELETE"
  | head => "HEAD"
  | options => "OPTIONS"
  | patch => "PATCH"
  | extension token => token

/-- The methods with a name of their own. -/
def known : List Method := [get, post, put, delete, head, options, patch]

/-- The method with the given text, if the text is a token. -/
def parse? (token : String) : Option Method :=
  match known.find? (·.text == token) with
  | some method => some method
  | none => if isToken token then some (extension token) else none

end Method

end OriginServer
