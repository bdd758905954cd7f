/-!
# Status codes

The status codes that this server sends, with their numbers and reason phrases.
-/
namespace OriginServer

/-- The outcome that a response announces. -/
inductive Status where
  /-- The request succeeded. -/
  | ok
  /-- The resource has another address. -/
  | movedPermanently
  /-- The request was malformed. -/
  | badRequest
  /-- The path is refused. -/
  | forbidden
  /-- There is no such resource. -/
  | notFound
  /-- The method is refused. -/
  | methodNotAllowed
  /-- The server failed. -/
  | internalServerError
  deriving DecidableEq, Repr, Inhabited

namespace Status

/-- The number of a status. -/
def code : Status → Nat
  | ok => 200
  | movedPermanently => 301
  | badRequest => 400
  | forbidden => 403
  | notFound => 404
  | methodNotAllowed => 405
  | internalServerError => 500

/-- The reason phrase of a status. -/
def reason : Status → String
  | ok => "OK"
  | movedPermanently => "Moved Permanently"
  | badRequest => "Bad Request"
  | forbidden => "Forbidden"
  | notFound => "Not Found"
  | methodNotAllowed => "Method Not Allowed"
  | internalServerError => "Internal Server Error"

/-- All statuses, by number. -/
def all : List Status :=
  [ok, movedPermanently, badRequest, forbidden, notFound, methodNotAllowed, internalServerError]

/-- The status with a number. -/
def ofCode? (number : Nat) : Option Status := all.find? (·.code = number)

/-- The number of a status determines it. -/
@[simp]
theorem ofCode?_code (status : Status) : ofCode? status.code = some status := by
  cases status <;> rfl

end Status

end OriginServer
