import GraphBoard.Error
import GraphBoard.Http.Body
import GraphBoard.Http.Headers

namespace GraphBoard.Http

abbrev Form := List (String × String)

/-- A server is what it answers to each request. Nothing is assumed of the answers. -/
structure Server where
  get : String → Except BoardError Body
  head : String → Except BoardError Headers
  post : String → Form → Except BoardError Unit

end GraphBoard.Http
