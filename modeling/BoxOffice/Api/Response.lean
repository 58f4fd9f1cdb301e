import BoxOffice.Api.Body
import BoxOffice.Api.Error
import BoxOffice.Http.Message

set_option autoImplicit false

namespace BoxOffice

open Http (Response)

def ApiError.response (e : ApiError) : Response := ⟨e.status, .json e.body⟩

namespace Api

def success (message : String) (values : Json) : Response := ⟨200, .json (envelope message values)⟩

def outcomeResponse : Engine.Outcome → Response
  | .done receipt => success receipt.message (Api.receipt receipt)
  | .refused e => (ApiError.booking e).response
  | .beyondCalendar => (ApiError.brokenOff none).response

def overdue : Response := Response.bare 503

end Api

end BoxOffice
